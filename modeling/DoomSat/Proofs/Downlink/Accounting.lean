import DoomSat.Proofs.Downlink.Marker

/-!
# `DoomSat.Proofs.Downlink.Accounting`: sequence numbers and byte counts under send failures

The two send paths of `downlinkSendNals` update the counters after a successful `sendto`, and
both leave the function after a failing one. `Packets` reduces a call to `transmit` of a list
of datagrams, so the accounting has to be shown for `transmit` only.

* `Sent` says what a transmission does to the state: a part of the datagrams goes out, and the
  counters follow this part. `transmit_sent` proves it for every network.
* `Numbered` says that datagrams carry consecutive sequence numbers. The packets of a frame
  are numbered from the number in the state (`framePackets_numbered`).
* `CallSpec` is the contract of one call, and `downlinkSendNals_spec` proves it.
* `Accounted` is the invariant of the module state, and `accounting_run` is the result for
  every sequence of calls.
-/

set_option autoImplicit false

namespace DoomSat.Downlink

/-! ### The effect of a transmission -/

/-- The sum of the lengths of the datagrams. -/
def totalLength (packets : List Datagram) : Nat := (packets.map List.length).sum

/-- From `st` to `st'` the datagrams `sent` went out. When `ok` is false, one more call of
`sendto` followed and failed. -/
structure Sent (net : Nat → Bool) (ok : Bool) (st st' : State) (sent : List Datagram) :
    Prop where
  /-- The datagrams are on the wire, behind the earlier ones. -/
  wire : st'.wire = st.wire ++ sent
  seq : st'.rtpSeqNumber = st.rtpSeqNumber + UInt16.ofNat sent.length
  bytes : st'.gBytesSent = st.gBytesSent + UInt64.ofNat (totalLength sent)
  sock : st'.udpSocket = st.udpSocket
  /-- One call of `sendto` for each datagram, and the failing one. -/
  calls : st'.sendCalls = st.sendCalls + sent.length + (if ok then 0 else 1)
  succeeded : ∀ k, k < sent.length → net (st.sendCalls + k) = true
  failed : ok = false → net (st.sendCalls + sent.length) = false

/-- Nothing goes out. -/
theorem sent_nil {net : Nat → Bool} {ok : Bool} {st st' : State} (hwire : st'.wire = st.wire)
    (hseq : st'.rtpSeqNumber = st.rtpSeqNumber) (hbytes : st'.gBytesSent = st.gBytesSent)
    (hsock : st'.udpSocket = st.udpSocket)
    (hcalls : st'.sendCalls = st.sendCalls + (if ok then 0 else 1))
    (hfailed : ok = false → net st.sendCalls = false) : Sent net ok st st' [] := by
  refine ⟨by simp [hwire], by simp [hseq], by simp [hbytes, totalLength], hsock, hcalls, ?_,
    hfailed⟩
  intro k hk
  exact absurd hk (Nat.not_lt_zero k)

/-- One datagram goes out and then the others. The sums are modulo 2^16 and 2^64. -/
theorem Sent.cons {net : Nat → Bool} {ok : Bool} {st st' : State} {p : Datagram}
    {sent : List Datagram} (hnet : net st.sendCalls = true)
    (h : Sent net ok (sendOne st p) st' sent) : Sent net ok st st' (p :: sent) := by
  have hcalls : (sendOne st p).sendCalls = st.sendCalls + 1 := rfl
  constructor
  · rw [h.wire]
    show st.wire ++ [p] ++ sent = _
    rw [List.append_assoc]
    rfl
  · rw [h.seq]
    show st.rtpSeqNumber + 1 + UInt16.ofNat sent.length = _
    rw [List.length_cons, UInt16.ofNat_add, UInt16.add_assoc, UInt16.add_comm 1]
    rfl
  · rw [h.bytes]
    show st.gBytesSent + UInt64.ofNat p.length + UInt64.ofNat (totalLength sent) = _
    rw [UInt64.add_assoc, ← UInt64.ofNat_add]
    rfl
  · exact h.sock
  · rw [h.calls, hcalls, List.length_cons]
    omega
  · intro k hk
    cases k with
    | zero => exact hnet
    | succ k =>
      have := h.succeeded k (Nat.lt_of_succ_lt_succ hk)
      rwa [hcalls, Nat.add_assoc, Nat.add_comm 1 k] at this
  · intro hok
    have := h.failed hok
    rw [List.length_cons]
    rwa [hcalls, Nat.add_assoc, Nat.add_comm 1] at this

/-- A transmission sends its first datagrams up to the first failure. It succeeds exactly when
these are all of them. The induction is on the datagrams, one call of `sendto` for each. -/
theorem transmit_sent (net : Nat → Bool) (ps : List Datagram) (st : State) :
    ∃ m, m ≤ ps.length ∧
      Sent net (transmit net ps st).1 st (transmit net ps st).2 (ps.take m) ∧
      ((transmit net ps st).1 = true ↔ m = ps.length) := by
  induction ps generalizing st with
  | nil =>
    have hsent : Sent net true st st [] := sent_nil rfl rfl rfl rfl rfl fun h => by cases h
    exact ⟨0, Nat.le_refl 0, hsent, iff_of_true rfl rfl⟩
  | cons p ps ih =>
    simp only [transmit]
    split
    · rename_i hnet
      obtain ⟨m, hm, hsent, hall⟩ := ih (sendOne st p)
      exact ⟨m + 1, Nat.succ_le_succ hm, hsent.cons hnet, hall.trans (by simp)⟩
    · -- The first `sendto` fails: nothing goes out.
      rename_i hnet
      have hsent : Sent net false st { st with sendCalls := st.sendCalls + 1 } [] :=
        sent_nil rfl rfl rfl rfl rfl fun _ => Bool.eq_false_iff.mpr hnet
      exact ⟨0, Nat.zero_le _, hsent, by simp⟩

/-! ### The sequence numbers of the packets -/

/-- The sequence number that the receiver reads from a datagram. -/
def seqNumberOf (packet : Datagram) : Option UInt16 := (headerOf packet).map (·.seq)

/-- The datagrams carry consecutive sequence numbers from `seq` on, modulo 65,536. -/
def Numbered (seq : UInt16) (packets : List Datagram) : Prop :=
  ∀ k packet, packets[k]? = some packet → seqNumberOf packet = some (seq + UInt16.ofNat k)

/-- No datagrams are numbered. -/
theorem numbered_nil (seq : UInt16) : Numbered seq [] := by
  intro k packet h
  cases h

/-- The first datagrams of numbered ones are numbered. -/
theorem Numbered.take {seq : UInt16} {packets : List Datagram} (h : Numbered seq packets)
    (m : Nat) : Numbered seq (packets.take m) := by
  intro k packet hk
  rw [List.getElem?_take] at hk
  split at hk
  · exact h k packet hk
  · cases hk

/-- Numbered datagrams followed by datagrams that go on with the next number. -/
theorem Numbered.append {seq : UInt16} {ps qs : List Datagram} (hps : Numbered seq ps)
    (hqs : Numbered (seq + UInt16.ofNat ps.length) qs) : Numbered seq (ps ++ qs) := by
  intro k packet hk
  by_cases hlt : k < ps.length
  · rw [List.getElem?_append_left hlt] at hk
    exact hps k packet hk
  · have hge : ps.length ≤ k := Nat.not_lt.mp hlt
    rw [List.getElem?_append_right hge] at hk
    rw [hqs _ packet hk, UInt16.add_assoc, ← UInt16.ofNat_add, Nat.add_sub_cancel' hge]

/-- A single datagram with the number. -/
theorem numbered_singleton {seq : UInt16} {packet : Datagram}
    (h : seqNumberOf packet = some seq) : Numbered seq [packet] := by
  intro k p hk
  cases k with
  | zero =>
    cases hk
    simpa using h
  | succ k => cases hk

/-- A packed datagram carries the number that the sender wrote. -/
theorem seqNumberOf_pack (seq : UInt16) (timestamp : UInt32) (marker : UInt8)
    (payload : List UInt8) :
    seqNumberOf (packRtpHeader seq timestamp marker ++ payload) = some seq := by
  show (headerOf _).map _ = _
  rw [headerOf_pack]
  rfl

/-- The fragments of a NAL unit are numbered. The recursion is the one of the loop. -/
theorem fragmentPackets_numbered (timestamp : UInt32) (isLastNal : Bool)
    (fuIndicator nalType : UInt8) (payload : List UInt8) (isFirst : Bool) (seq : UInt16) :
    Numbered seq
      (fragmentPackets timestamp isLastNal fuIndicator nalType payload isFirst seq) := by
  rw [fragmentPackets]
  by_cases hpos : payload.length > 0
  · rw [dif_pos hpos]
    have hhead : seqNumberOf
        (headPacket timestamp isLastNal fuIndicator nalType payload isFirst seq)
          = some seq := by
      unfold headPacket fragmentPacket
      rw [List.append_assoc]
      exact seqNumberOf_pack seq timestamp _ _
    have htail := fragmentPackets_numbered timestamp isLastNal fuIndicator nalType
      (payload.drop (fragSize payload.length)) false (seq + 1)
    exact (numbered_singleton hhead).append htail
  · rw [dif_neg hpos]
    exact numbered_nil seq
termination_by payload.length
decreasing_by exact length_drop_fragSize hpos

/-- The datagrams of a NAL unit are numbered. -/
theorem nalPackets_numbered (timestamp : UInt32) (isLastNal : Bool) (nal : Nal)
    (seq : UInt16) : Numbered seq (nalPackets timestamp isLastNal nal seq) := by
  unfold nalPackets
  split
  · exact numbered_nil seq
  · split
    · exact numbered_singleton (seqNumberOf_pack seq timestamp _ _)
    · exact fragmentPackets_numbered _ _ _ _ _ _ _

/-- The datagrams of a frame are numbered across its NAL units. An empty NAL unit takes no
number, and the next one goes on behind the datagrams of the last. -/
theorem framePackets_numbered (timestamp : UInt32) (numNals i : Nat) (nals : List Nal)
    (seq : UInt16) : Numbered seq (framePackets timestamp numNals i nals seq).flatten := by
  induction nals generalizing i seq with
  | nil => exact numbered_nil seq
  | cons nal nals ih => exact (nalPackets_numbered timestamp _ nal seq).append (ih _ _)

/-! ### One call -/

/-- The first check of `downlink_send_nals` holds. -/
def Rejected (st : State) (nals : Option (List Nal)) : Prop :=
  st.udpSocket < 0 ∨ nals = none ∨ nals = some []

/-- The contract of a call of `downlink_send_nals` in the state `st` that puts `sent` on the
wire. -/
structure CallSpec (net : Nat → Bool) (st : State) (nals : Option (List Nal))
    (timestamp : UInt32) (sent : List Datagram) : Prop where
  /-- The wire grows by `sent`. -/
  wire : (downlinkSendNals net st nals timestamp).2.wire = st.wire ++ sent
  /-- The counters follow `sent`. -/
  counters : (downlinkSendNals net st nals timestamp).2.rtpSeqNumber
        = st.rtpSeqNumber + UInt16.ofNat sent.length ∧
      (downlinkSendNals net st nals timestamp).2.gBytesSent
        = st.gBytesSent + UInt64.ofNat (totalLength sent)
  /-- The datagrams of the call continue the numbering. -/
  numbered : Numbered st.rtpSeqNumber sent
  /-- The call returns -1 exactly when it is rejected or one of its `sendto` calls failed. -/
  failed_iff : (downlinkSendNals net st nals timestamp).1 = -1
    ↔ Rejected st nals ∨
      ∃ k, st.sendCalls ≤ k ∧ k < (downlinkSendNals net st nals timestamp).2.sendCalls ∧
        net k = false
  /-- A failing `sendto` is the last one of the call. -/
  failed_last : ∀ k, st.sendCalls ≤ k →
    k < (downlinkSendNals net st nals timestamp).2.sendCalls → net k = false →
      (downlinkSendNals net st nals timestamp).2.sendCalls = k + 1
  /-- Another result is the number of datagrams of the call. -/
  count : (downlinkSendNals net st nals timestamp).1 ≠ -1 →
    (downlinkSendNals net st nals timestamp).1 = sent.length
  /-- The datagrams are the first ones of the frame, and all of them without a failure. -/
  packets : ∀ list, nals = some list →
    sent <+: (framePackets timestamp list.length 0 list st.rtpSeqNumber).flatten ∧
      ((downlinkSendNals net st nals timestamp).1 ≠ -1 →
        sent = (framePackets timestamp list.length 0 list st.rtpSeqNumber).flatten)
  /-- There is at most one datagram for each byte of the NAL units. So the two counters of
  the source fit in an `int` for NAL units of 2,147,483,647 bytes together. -/
  room : ∀ list, nals = some list → sent.length ≤ (list.map List.length).sum

/-- A rejected call returns -1 and leaves the state alone. -/
theorem downlinkSendNals_of_rejected (net : Nat → Bool) {st : State}
    {nals : Option (List Nal)} (timestamp : UInt32) (h : Rejected st nals) :
    downlinkSendNals net st nals timestamp = (-1, st) := by
  cases nals with
  | none => rfl
  | some list =>
    have hreject : st.udpSocket < 0 ∨ list.length ≤ 0 := by
      rcases h with hsock | hnone | hempty
      · exact Or.inl hsock
      · cases hnone
      · cases hempty
        exact Or.inr (Nat.le_refl 0)
    exact if_pos hreject

/-- The two outcomes of a transmission, with the calls of `sendto`: either none failed, or the
last one did. So the failing call is found from the network alone. -/
theorem Sent.failures {net : Nat → Bool} {ok : Bool} {st st' : State} {sent : List Datagram}
    (h : Sent net ok st st' sent) :
    (ok = false ↔ ∃ k, st.sendCalls ≤ k ∧ k < st'.sendCalls ∧ net k = false) ∧
      ∀ k, st.sendCalls ≤ k → k < st'.sendCalls → net k = false →
        st'.sendCalls = k + 1 := by
  have hlast : ∀ k, st.sendCalls ≤ k → k < st'.sendCalls → net k = false →
      ok = false ∧ st'.sendCalls = k + 1 := by
    intro k hge hlt hk
    have hcalls := h.calls
    -- A failing call is not among those of the datagrams that went out.
    have hnot : ¬ k - st.sendCalls < sent.length := by
      intro hin
      have := h.succeeded _ hin
      rw [Nat.add_sub_cancel' hge, hk] at this
      cases this
    cases ok with
    | false => exact ⟨rfl, by simp at hcalls; omega⟩
    | true => exact absurd hlt (by simp at hcalls; omega)
  refine ⟨⟨fun hok => ?_, ?_⟩, fun k hge hlt hk => (hlast k hge hlt hk).2⟩
  · have hcalls := h.calls
    subst hok
    exact ⟨st.sendCalls + sent.length, by omega, by simp at hcalls; omega, h.failed rfl⟩
  · rintro ⟨k, hge, hlt, hk⟩
    exact (hlast k hge hlt hk).1

/-- A rejected call puts nothing on the wire. -/
theorem callSpec_of_rejected (net : Nat → Bool) {st : State} {nals : Option (List Nal)}
    (timestamp : UInt32) (hreject : Rejected st nals) :
    CallSpec net st nals timestamp [] := by
  have hcall := downlinkSendNals_of_rejected net timestamp hreject
  constructor
  · rw [hcall]
    exact (List.append_nil _).symm
  · rw [hcall]
    simp [totalLength]
  · exact numbered_nil _
  · simp [hcall, hreject]
  · rw [hcall]
    intro k hge hlt
    exact absurd hlt (Nat.not_lt.mpr hge)
  · rw [hcall]
    intro h
    exact absurd rfl h
  · rw [hcall]
    exact fun list _ => ⟨List.nil_prefix, fun h => absurd rfl h⟩
  · exact fun list _ => Nat.zero_le _

/-- A call that is not rejected transmits the packets of its frame. The contract is `Sent` for
these packets, read clause by clause. -/
theorem callSpec_of_accepted (net : Nat → Bool) {st : State} {list : List Nal}
    (timestamp : UInt32) (haccept : ¬ Rejected st (some list)) :
    ∃ sent, CallSpec net st (some list) timestamp sent := by
  have hsock : 0 ≤ st.udpSocket := Int.not_lt.mp fun h => haccept (Or.inl h)
  have hne : list ≠ [] := fun h => haccept (Or.inr (Or.inr (congrArg some h)))
  have hcall := downlinkSendNals_eq net st list timestamp hsock hne
  have hnumbered := framePackets_numbered timestamp list.length 0 list st.rtpSeqNumber
  dsimp only at hcall
  generalize hpackets : (framePackets timestamp list.length 0 list st.rtpSeqNumber).flatten
    = packets at hcall hnumbered
  obtain ⟨m, -, hsent, hcomplete⟩ := transmit_sent net packets st
  have hall : (transmit net packets st).1 = true → packets.take m = packets := by
    intro hok
    rw [hcomplete.mp hok, List.take_length]
  obtain ⟨hiff, hlast⟩ := hsent.failures
  -- The result -1 stands for a failed transmission, since the number of datagrams is not
  -- negative.
  have hresult : (downlinkSendNals net st (some list) timestamp).1 = -1
      ↔ (transmit net packets st).1 = false := by
    rw [hcall]
    cases (transmit net packets st).1 with
    | false => simp
    | true =>
      simp only [if_true, Bool.true_eq_false, iff_false]
      omega
  have hok : (downlinkSendNals net st (some list) timestamp).1 ≠ -1 →
      (transmit net packets st).1 = true := by
    intro h
    simpa using (not_congr hresult).mp h
  refine ⟨packets.take m, ?_⟩
  constructor
  · rw [hcall]
    exact hsent.wire
  · rw [hcall]
    exact ⟨hsent.seq, hsent.bytes⟩
  · exact hnumbered.take m
  · rw [hresult, hiff, hcall]
    exact (or_iff_right haccept).symm
  · rw [hcall]
    exact hlast
  · intro h
    rw [hcall, if_pos (hok h), hall (hok h)]
  · intro list' heq
    cases heq
    rw [hpackets]
    exact ⟨List.take_prefix m packets, fun h => hall (hok h)⟩
  · intro list' heq
    cases heq
    have hroom := length_framePackets_le timestamp list.length 0 list st.rtpSeqNumber
    rw [hpackets] at hroom
    exact (List.take_sublist m packets).length_le.trans hroom

/-- Every call meets the contract. -/
theorem downlinkSendNals_spec (net : Nat → Bool) (st : State) (nals : Option (List Nal))
    (timestamp : UInt32) : ∃ sent, CallSpec net st nals timestamp sent := by
  by_cases hreject : Rejected st nals
  · exact ⟨[], callSpec_of_rejected net timestamp hreject⟩
  · cases nals with
    | none => exact absurd (Or.inr (Or.inl rfl)) hreject
    | some list => exact callSpec_of_accepted net timestamp hreject

/-! ### A sequence of calls -/

/-- The arguments of a call: the NAL units, `none` for a null pointer, and the timestamp. -/
abbrev Args := Option (List Nal) × UInt32

/-- The module state after a sequence of calls. -/
def runArgs (net : Nat → Bool) (st : State) (calls : List Args) : State :=
  calls.foldl (fun st args => (downlinkSendNals net st args.1 args.2).2) st

/-- The invariant of the module state: the datagrams on the wire are numbered from 0 on, and
the two counters are theirs. -/
structure Accounted (st : State) : Prop where
  numbered : Numbered 0 st.wire
  seq : st.rtpSeqNumber = UInt16.ofNat st.wire.length
  bytes : st.gBytesSent = UInt64.ofNat (totalLength st.wire)

/-- The bytes of two lists of datagrams add up. -/
theorem totalLength_append (ps qs : List Datagram) :
    totalLength (ps ++ qs) = totalLength ps + totalLength qs := by
  simp [totalLength]

/-- Every call keeps the invariant, also when it fails: the numbers go on behind the datagrams
that went out, and the bytes are theirs. -/
theorem Accounted.call {net : Nat → Bool} {st : State} (h : Accounted st)
    (nals : Option (List Nal)) (timestamp : UInt32) :
    Accounted (downlinkSendNals net st nals timestamp).2 := by
  obtain ⟨sent, hspec⟩ := downlinkSendNals_spec net st nals timestamp
  constructor
  · rw [hspec.wire]
    apply h.numbered.append
    rw [UInt16.zero_add, ← h.seq]
    exact hspec.numbered
  · -- The 16-bit counter and the 64-bit counter are sums modulo their sizes.
    rw [hspec.counters.1, h.seq, hspec.wire, List.length_append, UInt16.ofNat_add]
  · rw [hspec.counters.2, h.bytes, hspec.wire, totalLength_append, UInt64.ofNat_add]

/-- The invariant holds after every sequence of calls. -/
theorem Accounted.runArgs {net : Nat → Bool} {st : State} (h : Accounted st)
    (calls : List Args) : Accounted (runArgs net st calls) := by
  induction calls generalizing st with
  | nil => exact h
  | cons args calls ih => exact ih (h.call args.1 args.2)

/-- The accounting of every sequence of calls after `downlink_init`, for every behaviour of
the network. The `k`-th datagram ever sent carries the sequence number `k` modulo 65,536, the
byte counter is the sum of the lengths of the datagrams sent, and the next call meets its
contract. -/
theorem accounting_run (net : Nat → Bool) (udpSocket : Int) (calls : List Args) :
    let st := runArgs net (downlinkInit udpSocket) calls
    (∀ k packet, st.wire[k]? = some packet → seqNumberOf packet = some (UInt16.ofNat k)) ∧
    st.gBytesSent = UInt64.ofNat (totalLength st.wire) ∧
    ∀ nals timestamp, ∃ sent, CallSpec net st nals timestamp sent := by
  intro st
  have hinit : Accounted (downlinkInit udpSocket) := ⟨numbered_nil 0, rfl, rfl⟩
  have hrun : Accounted st := hinit.runArgs calls
  refine ⟨fun k packet hk => ?_, hrun.bytes, downlinkSendNals_spec net st⟩
  have := hrun.numbered k packet hk
  rwa [UInt16.zero_add] at this

end DoomSat.Downlink
