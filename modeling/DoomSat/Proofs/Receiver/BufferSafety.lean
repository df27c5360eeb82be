import DoomSat.Proofs.Receiver.Reassembly

/-!
# `DoomSat.Proofs.Receiver.BufferSafety`: when the reassembly buffer is large enough

`h264_buf` has `H264_BUF_SIZE` bytes. The comment at its `malloc` calls this ample for the
assembly of NAL units, and no write to it is checked. Fragments without an end bit therefore
grow `h264_len` past the buffer.

`BufferSafe` says that no poll on the datagrams leaves the memory. `bufferSafe_iff` states
when it holds, from the fragments in the datagrams alone: every run of fragments that one
buffer collects has to fit (`RunsFit`). `not_bufferSafe_overflowDatagrams` is a sequence of
datagrams of full size that overflows the buffer.
-/

set_option autoImplicit false

namespace DoomSat.Receiver

open Support

variable {δ : Type}

/-- The fragments that the datagrams carry, as `recvfrom` delivers them. -/
def fragments (ds : List Datagram) : List Fragment :=
  ds.filterMap fun d => fragmentOf (recvfrom d)

/-- Fragments that follow one another in one buffer: only the head can have the start bit,
and only the final one can have the end bit. -/
structure FragmentRun (run : List Fragment) : Prop where
  tail : ∀ f ∈ run.tail, f.isStart = false
  dropLast : ∀ f ∈ run.dropLast, f.isEnd = false

/-- The bytes that a fragment adds: a start fragment adds the start code and the header byte
too. -/
def addedBytes (f : Fragment) : Nat := (if f.isStart then 5 else 0) + f.bytes.length

/-- Every run of fragments in the datagrams has at most `H264_BUF_SIZE` bytes. -/
def RunsFit (ds : List Datagram) : Prop :=
  ∀ pre run post, fragments ds = pre ++ run ++ post → FragmentRun run →
    (run.map addedBytes).sum ≤ H264_BUF_SIZE

/-- However the datagrams, or a prefix of them, are spread over polls after `receiver_init`:
no access leaves its memory, and `h264_len` stays in the buffer. -/
def BufferSafe (ff : Ffmpeg δ) (h264Buf : Block UInt8 H264_BUF_SIZE) (decoder : δ)
    (ds : List Datagram) : Prop :=
  ∀ arrivals : List (List Datagram), arrivals.flatten <+: ds →
    ∃ st socket, receiverRun ff arrivals (receiverInit h264Buf decoder, []) = .ok (st, socket) ∧
      st.h264Len ≤ H264_BUF_SIZE

/-! ### Fragments and pieces -/

/-- The pieces of the datagrams are those of their fragments. -/
theorem pieces_map_recvfrom (ds : List Datagram) :
    pieces (ds.map recvfrom) = (fragments ds).map pieceOf := by
  unfold pieces fragments
  rw [List.filterMap_map]
  rfl

/-- A run of fragments is a run of pieces, since the flags are the same. -/
theorem isRun_map_pieceOf {run : List Fragment} :
    Piece.IsRun (run.map pieceOf) ↔ FragmentRun run := by
  constructor
  · rintro ⟨htail, hlast⟩
    rw [← List.map_tail] at htail
    rw [← List.map_dropLast] at hlast
    exact ⟨fun f hf => htail _ (List.mem_map_of_mem hf),
      fun f hf => hlast _ (List.mem_map_of_mem hf)⟩
  · rintro ⟨htail, hlast⟩
    refine ⟨?_, ?_⟩
    · rw [← List.map_tail]
      intro p hp
      obtain ⟨f, hf, rfl⟩ := List.mem_map.mp hp
      exact htail f hf
    · rw [← List.map_dropLast]
      intro p hp
      obtain ⟨f, hf, rfl⟩ := List.mem_map.mp hp
      exact hlast f hf

/-- A piece has as many bytes as its fragment adds: a start fragment brings four bytes of start
code and the header byte. -/
theorem length_content_pieceOf (f : Fragment) : (pieceOf f).content.length = addedBytes f := by
  unfold pieceOf addedBytes
  cases f.isStart with
  | true =>
    simp only [startCode, if_true, List.length_append, List.length_cons, List.length_nil]
    omega
  | false => simp

/-- The same for a list of fragments: the lengths add up. -/
theorem length_contents_map_pieceOf (run : List Fragment) :
    (Piece.contents (run.map pieceOf)).length = (run.map addedBytes).sum := by
  induction run with
  | nil => rfl
  | cons f run ih =>
    rw [List.map_cons, Piece.contents_cons, List.length_append, ih, length_content_pieceOf]
    rfl

/-- The runs fit exactly when the buffers on the way do. `Piece.Fits` follows the reassembly
step by step, and `RunsFit` only looks at blocks of fragments. -/
theorem fits_pieces_iff_runsFit (ds : List Datagram) :
    Piece.Fits H264_BUF_SIZE [] (pieces (ds.map recvfrom)) ↔ RunsFit ds := by
  rw [Piece.fits_nil_iff_runs, pieces_map_recvfrom]
  constructor
  · intro h pre run post hsplit hrun
    rw [← length_contents_map_pieceOf]
    apply h (pre.map pieceOf) (run.map pieceOf) (post.map pieceOf)
    · rw [hsplit, List.map_append, List.map_append]
    · exact isRun_map_pieceOf.mpr hrun
  · -- A block of pieces comes from a block of fragments.
    intro h pre' run' post' hsplit hrun
    obtain ⟨pre_run, post, hfrags, hpre_run, rfl⟩ := List.map_eq_append_iff.mp hsplit
    obtain ⟨pre, run, rfl, rfl, rfl⟩ := List.map_eq_append_iff.mp hpre_run
    rw [length_contents_map_pieceOf]
    exact h pre run post hfrags (isRun_map_pieceOf.mp hrun)

/-! ### Both directions -/

/-- With one datagram before each poll, every datagram is received, empty ones included. This is
the spread that `runsFit_of_bufferSafe` looks at. -/
theorem receiverRun_singletons (ff : Ffmpeg δ) (ds : List Datagram) {st st' : State δ}
    {socket : List Datagram}
    (hrun : receiverRun ff (ds.map fun d => [d]) (st, []) = .ok (st', socket)) :
    receivePackets ff (ds.map recvfrom) st = .ok st' := by
  induction ds generalizing st with
  | nil =>
    cases hrun
    rfl
  | cons d ds ih =>
    rw [List.map_cons, receiverRun, List.nil_append, bind_eq_ok] at hrun
    obtain ⟨⟨got, st₁, socket₁⟩, hpoll, hrest⟩ := hrun
    rw [receiverPoll] at hpoll
    rw [List.map_cons, receivePackets]
    by_cases hempty : (recvfrom d).length ≤ 0
    · -- An empty datagram is taken from the socket and changes nothing.
      rw [if_pos hempty] at hpoll
      cases hpoll
      have hnil : recvfrom d = [] := List.length_eq_zero_iff.mp (Nat.le_zero.mp hempty)
      rw [hnil, receivePacket_nil, ok_bind]
      exact ih hrest
    · rw [if_neg hempty, bind_eq_ok] at hpoll
      obtain ⟨⟨got₂, st₂⟩, hhead, hpoll⟩ := hpoll
      rw [hhead, ok_bind]
      cases hpoll
      exact ih hrest

/-- Every poll on safe datagrams stays in the memory only if their runs fit: one of the spreads
receives all of the datagrams, and each of them fits then. -/
theorem runsFit_of_bufferSafe {ff : Ffmpeg δ} {h264Buf : Block UInt8 H264_BUF_SIZE}
    {decoder : δ} {ds : List Datagram} (h : BufferSafe ff h264Buf decoder ds) :
    RunsFit ds := by
  have hflat : (ds.map fun d => [d]).flatten = ds := by
    rw [← List.flatMap_def]
    exact List.flatMap_singleton' ds
  obtain ⟨st, socket, hrun, -⟩ := h (ds.map fun d => [d])
    ⟨[], by rw [hflat, List.append_nil]⟩
  exact (fits_pieces_iff_runsFit ds).mp
    (fits_of_receivePackets (assembled_receiverInit h264Buf decoder)
      (receiverRun_singletons ff ds hrun))

/-- Datagrams whose runs fit are received in the memory, by every sequence of polls. A sequence
of polls receives a prefix, and the runs of a prefix are runs of the whole. -/
theorem bufferSafe_of_runsFit (ff : Ffmpeg δ) (h264Buf : Block UInt8 H264_BUF_SIZE)
    (decoder : δ) {ds : List Datagram} (h : RunsFit ds) :
    BufferSafe ff h264Buf decoder ds := by
  -- Every prefix of the datagrams is received, and leaves the buffer assembled.
  have hreceived : ∀ seen, seen <+: ds →
      ∃ st, receivePackets ff (seen.map recvfrom) (receiverInit h264Buf decoder) = .ok st ∧
        st.h264Len ≤ H264_BUF_SIZE := by
    rintro seen ⟨rest, rfl⟩
    have hfit := (fits_pieces_iff_runsFit _).mpr h
    rw [List.map_append, pieces_append, Piece.fits_append] at hfit
    have hinit := assembled_receiverInit h264Buf decoder
    obtain ⟨st, hrun, hst, -⟩ := receivePackets_fits ff _ (Or.inl hinit) hfit.1
    have hst := hst (Or.inl hinit)
    refine ⟨st, hrun, ?_⟩
    rw [hst.len]
    exact hst.length_le
  intro arrivals harrivals
  have hspec := receiverRun_spec ff arrivals (receiverInit h264Buf decoder) []
  rw [List.nil_append] at hspec
  cases hrun : receiverRun ff arrivals (receiverInit h264Buf decoder, []) with
  | error e =>
    -- The fault would be one of a prefix of the datagrams.
    rw [hrun] at hspec
    obtain ⟨seen, hseen, hfault⟩ := hspec
    obtain ⟨st, hok, -⟩ := hreceived seen (hseen.trans harrivals)
    rw [hfault] at hok
    cases hok
  | ok r =>
    obtain ⟨st, socket⟩ := r
    rw [hrun] at hspec
    obtain ⟨seen, hsplit, hok⟩ := hspec
    obtain ⟨st', hok', hlen⟩ := hreceived seen
      ((List.prefix_append seen socket).trans (hsplit ▸ harrivals))
    rw [hok] at hok'
    cases hok'
    exact ⟨st, socket, rfl, hlen⟩

/-- The receiver stays in its memory exactly when every run of fragments fits in the
reassembly buffer. -/
theorem bufferSafe_iff (ff : Ffmpeg δ) (h264Buf : Block UInt8 H264_BUF_SIZE) (decoder : δ)
    (ds : List Datagram) :
    BufferSafe ff h264Buf decoder ds ↔ RunsFit ds :=
  ⟨runsFit_of_bufferSafe, bufferSafe_of_runsFit ff h264Buf decoder⟩

/-! ### An overflow -/

/-- A decoder that takes every packet and returns no frame. -/
def idleDecoder : Ffmpeg Unit where
  avNewPacket _ _ := true
  avcodecSendPacket _ _ := (true, ())
  avcodecReceiveFrames _ := ([], ())
  swsGetContext _ _ := true

/-- A datagram of full size with a fragment that has neither the start nor the end bit. -/
def middleDatagram : Datagram :=
  Downlink.packRtpHeader 0 0 0 ++ 28 :: 0 :: List.replicate (UDP_BUF_SIZE - 10) 0

/-- The datagram fills the receive buffer of `receiver_poll`. -/
theorem length_middleDatagram : middleDatagram.length = UDP_BUF_SIZE := by
  rw [middleDatagram, List.length_append, List.length_cons, List.length_cons,
    List.length_replicate, length_packRtpHeader]
  rfl

/-- Its payload is the FU indicator 28, an FU header without bits, and the rest as the fragment. -/
theorem fragmentOf_middleDatagram :
    fragmentOf (recvfrom middleDatagram)
      = some ⟨28, 0, List.replicate (UDP_BUF_SIZE - 10) 0⟩ := by
  have hrecv : recvfrom middleDatagram = middleDatagram :=
    List.take_of_length_le (Nat.le_of_eq length_middleDatagram)
  have hpayload : payloadOf middleDatagram
      = .fuA ⟨28, 0, List.replicate (UDP_BUF_SIZE - 10) 0⟩ := by
    unfold middleDatagram
    rw [payloadOf_pack 0 0 0 (List.cons_ne_nil _ _), branchOf_fuA (by decide)]
  rw [hrecv, fragmentOf, hpayload]

/-- Eight fragments of full size. -/
def overflowDatagrams : List Datagram := List.replicate 8 middleDatagram

/-- Copies of a datagram carry copies of its fragment. -/
theorem fragments_replicate {d : Datagram} {f : Fragment}
    (h : fragmentOf (recvfrom d) = some f) (n : Nat) :
    fragments (List.replicate n d) = List.replicate n f :=
  List.filterMap_replicate_of_some h

/-- Middle fragments are collected in one buffer. -/
theorem fragmentRun_replicate (n : Nat) (bytes : List UInt8) :
    FragmentRun (List.replicate n ⟨28, 0, bytes⟩) := by
  refine ⟨?_, ?_⟩
  · intro f hf
    rw [List.eq_of_mem_replicate (List.mem_of_mem_tail hf)]
    simp [Fragment.isStart]
  · intro f hf
    rw [List.eq_of_mem_replicate ((List.dropLast_sublist _).subset hf)]
    simp [Fragment.isEnd]

/-- Middle fragments add their bytes and nothing else. -/
theorem sum_addedBytes_replicate (n : Nat) (bytes : List UInt8) :
    ((List.replicate n (⟨28, 0, bytes⟩ : Fragment)).map addedBytes).sum = n * bytes.length := by
  have hbytes : addedBytes ⟨28, 0, bytes⟩ = bytes.length := by
    simp [addedBytes, Fragment.isStart]
  rw [List.map_replicate, List.sum_replicate_nat, hbytes]

/-- The eight datagrams have the size of the receive buffer. They overflow `h264_buf`, since 8 *
25334 is more than 200000. -/
theorem not_bufferSafe_overflowDatagrams :
    (∀ d ∈ overflowDatagrams, d.length ≤ UDP_BUF_SIZE) ∧
      ¬ BufferSafe idleDecoder ⟨fun _ => 0⟩ () overflowDatagrams := by
  refine ⟨?_, ?_⟩
  · intro d hd
    rw [List.eq_of_mem_replicate hd, length_middleDatagram]
  · intro h
    have hfrags : fragments overflowDatagrams
        = List.replicate 8 ⟨28, 0, List.replicate (UDP_BUF_SIZE - 10) 0⟩ :=
      fragments_replicate fragmentOf_middleDatagram 8
    have hrun : FragmentRun (fragments overflowDatagrams) := by
      rw [hfrags]
      exact fragmentRun_replicate 8 _
    have hle := runsFit_of_bufferSafe h [] (fragments overflowDatagrams) []
      (by rw [List.append_nil, List.nil_append]) hrun
    -- The eight fragments have more bytes than the buffer.
    rw [hfrags, sum_addedBytes_replicate, List.length_replicate] at hle
    exact absurd hle (by decide)

end DoomSat.Receiver
