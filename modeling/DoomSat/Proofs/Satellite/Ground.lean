import DoomSat.Proofs.Satellite.Runs
import DoomSat.Proofs.Video.Transport

/-!
# `DoomSat.Proofs.Satellite.Ground`: from x264 to the decoder of the ground station

The satellite and the ground station together, over a network without loss. `buffersOf` is
what the receiver hands over for one NAL unit (`DoomSat.Proofs.Video.Transport`). It is empty
for a NAL unit that is not cut and has the start code of three bytes.

`decoder_gets_encoded` is the result for every interleaving of the satellite: the decoder
gets the NAL units of the encoded pictures in order, whatever the polls of the receiver
find on the socket.
-/

set_option autoImplicit false

namespace DoomSat.Satellite

open Support
open Downlink (Call Nal runCall runCalls runCall_sent framePackets downlinkInit)
open Encoder
open Receiver (Ffmpeg receivePackets receivePackets_append receiverRun receiverInit recvfrom
  receiverRun_of_receivePackets H264_BUF_SIZE)
open RingBuffer (Event Frame)
open Video (StartCoded buffersOf receivePackets_framePackets ne_nil_of_mem_framePackets)

variable {ξ δ : Type}

/-- The NAL units of x264 have start codes, as `b_annexb = 1` asks for, and the reassembly
buffer of the receiver has room for them. -/
def StartCodes (x264 : X264 ξ) : Prop :=
  ∀ encoder input, ∀ nal ∈ (x264.encoderEncode encoder input).1.nals,
    StartCoded nal ∧ nal.length ≤ 199996

/-- The NAL units of the pictures that x264 got are NAL units of x264. -/
theorem Effect.nals {env : Env ξ} {P : Nal → Prop}
    (hnals : ∀ encoder input, ∀ nal ∈ (env.x264.encoderEncode encoder input).1.nals, P nal)
    {st st' : State ξ} {a : Action} {out : List Event} (h : Effect env st a st' out)
    (hlog : ∀ call ∈ st.ctx.log, ∀ nal ∈ call.encoded.nals, P nal) :
    ∀ call ∈ st'.ctx.log, ∀ nal ∈ call.encoded.nals, P nal := by
  cases h with
  | doom | stop | opened | beginRead | leave | reading | slept | closed | returned =>
    exact hlog
  | failed hpc ctx hsame hcount =>
    show ∀ call ∈ ctx.log, _
    rw [hsame]
    exact hlog
  | read hpc frame hreturn =>
    cases frame with
    | none => exact hlog
    | some frame => exact hlog
  | encoded hpc encoder hopen hfits =>
    intro call hcall
    rcases List.mem_append.mp hcall with hold | hnew
    · exact hlog call hold
    · obtain rfl := List.mem_singleton.mp hnew
      exact hnals encoder _
  | flushed hpc encoder hopen =>
    have hsame : (flushFrame env.x264 encoder st.ctx).2.log = st.ctx.log := by
      unfold flushFrame
      dsimp only
      split <;> rfl
    show ∀ call ∈ (flushFrame env.x264 encoder st.ctx).2.log, _
    rw [hsame]
    exact hlog

/-! ### The wire -/

section
variable {ff : Ffmpeg δ} (hff : ff.Allocates) {net : Nat → Bool} (hnet : ∀ k, net k = true)
include hff hnet

/-- The datagrams of a sequence of calls, received in any state. The induction is over the
calls, for any sender state: a call leaves the socket open, and the receiver goes on from the
state that the call before left. -/
theorem receivePackets_runCalls (tx : Downlink.State) (hsock : 0 ≤ tx.udpSocket)
    {calls : List Call}
    (hnals : ∀ call ∈ calls, ∀ nal ∈ call.nals, StartCoded nal ∧ nal.length ≤ 199996) :
    ∃ sent, (runCalls net tx calls).wire = tx.wire ++ sent ∧ (∀ d ∈ sent, d ≠ []) ∧
      ∀ rx : Receiver.State δ,
        ∃ rx', receivePackets ff (sent.map recvfrom) rx = .ok rx' ∧
          rx'.handed = rx.handed ++ calls.flatMap fun call => call.nals.flatMap buffersOf := by
  induction calls generalizing tx with
  | nil =>
    refine ⟨[], (List.append_nil _).symm, nofun, fun rx => ⟨rx, rfl, ?_⟩⟩
    exact (List.append_nil _).symm
  | cons call calls ih =>
    obtain ⟨hwire, hopen⟩ := runCall_sent hnet tx call hsock
    obtain ⟨sent, hsent, hne, hreceive⟩ := ih (runCall net tx call) (hopen ▸ hsock)
      fun c hc => hnals c (List.mem_cons_of_mem _ hc)
    let packets := (framePackets call.timestamp call.nals.length 0 call.nals
      tx.rtpSeqNumber).flatten
    refine ⟨packets ++ sent, ?_, ?_, ?_⟩
    · show (runCalls net (runCall net tx call) calls).wire = _
      rw [hsent, hwire, List.append_assoc]
    · intro d hd
      rcases List.mem_append.mp hd with hd | hd
      · exact ne_nil_of_mem_framePackets _ _ _ _ _ d hd
      · exact hne d hd
    · -- The receiver gets the packets of this call first, then those of the others.
      intro rx
      obtain ⟨rx₁, hrun₁, hhanded₁⟩ := receivePackets_framePackets hff call.timestamp
        call.nals.length 0 tx.rtpSeqNumber (hnals call List.mem_cons_self) rx
      obtain ⟨rx₂, hrun₂, hhanded₂⟩ := hreceive rx₁
      refine ⟨rx₂, ?_, ?_⟩
      · rw [List.map_append, receivePackets_append, hrun₁, ok_bind]
        exact hrun₂
      · rw [hhanded₂, hhanded₁, List.flatMap_cons, List.append_assoc]

end

/-- The NAL units of the calls are those that `encoder_encode_frame` returned. A frame without
NAL units makes no call, and it would add nothing either. -/
theorem flatMap_callsOf {β : Type} (f : List Nal → List β) (hnil : f [] = [])
    (log : List EncodeCall) :
    ((callsOf log).flatMap fun call => f call.nals)
      = log.flatMap fun call => f call.encoded.output := by
  induction log using List.reverseRecOn with
  | nil => rfl
  | append_singleton log call ih =>
    rw [callsOf_concat, List.flatMap_append, List.flatMap_append, ih]
    congr 1
    unfold sendCalls
    split
    · next hnone =>
      rw [List.flatMap_singleton, hnone, hnil]
      rfl
    · rw [List.flatMap_singleton, List.flatMap_singleton]

/-- The satellite and the ground station over a network without loss, in every interleaving
of the threads of the satellite and for every way in which the datagrams arrive before the
polls of the receiver: the decoder gets, in the order of the pictures, the first 32 NAL units
of each picture. Those of three-byte start codes that are not cut are missing. -/
theorem decoder_gets_encoded {env : Env ξ} (halloc : env.x264.Allocates)
    (hnals : StartCodes env.x264) (hnet : ∀ k, env.net k = true) {ff : Ffmpeg δ}
    (hff : ff.Allocates) (memory : Fin RingBuffer.RING_BUFFER_SIZE → RingBuffer.FrameData)
    (udpSocket : Int) (hsock : 0 ≤ udpSocket) (frame : Frame) (actions : List Action)
    (h264Buf : Block UInt8 H264_BUF_SIZE) (decoder : δ) :
    ∃ st out, runExcept (step env) (State.start memory (downlinkInit udpSocket) frame) actions
        = .ok (st, out) ∧
      ∀ arrivals : List (List Datagram), arrivals.flatten = st.downlink.wire →
        ∃ rx, receiverRun ff arrivals (receiverInit h264Buf decoder, []) = .ok (rx, []) ∧
          rx.handed
            = st.ctx.log.flatMap fun call => (call.encoded.output).flatMap buffersOf := by
  obtain ⟨⟨st, out⟩, hrun, -, hpoll, hpicture, hlog⟩ := run_effects halloc
    (fun st out => PollInv st out ∧ PictureInv env (downlinkInit udpSocket) st out ∧
      ∀ call ∈ st.ctx.log, ∀ nal ∈ call.encoded.nals, StartCoded nal ∧ nal.length ≤ 199996)
    (fun st a st' out out' heffect h =>
      ⟨h.1.step heffect, h.2.1.step heffect h.1, heffect.nals hnals h.2.2⟩)
    (ready_start memory (downlinkInit udpSocket) frame)
    ⟨⟨RingBuffer.runInv_run memory [], fun _ => rfl⟩,
      ⟨⟨[], rfl, .nil⟩, nofun, rfl, rfl, rfl⟩, nofun⟩ actions
  refine ⟨st, out, hrun, fun arrivals hall => ?_⟩
  -- The NAL units of a call are some of those that x264 returned for a frame.
  have hcalls : ∀ call ∈ callsOf st.ctx.log, ∀ nal ∈ call.nals,
      StartCoded nal ∧ nal.length ≤ 199996 := by
    intro call hcall nal hnal
    obtain ⟨-, k, encodeCall, hk, -, htake, -⟩ := mem_callsOf hcall
    rw [htake] at hnal
    exact hlog encodeCall (List.mem_of_getElem? hk) nal (List.mem_of_mem_take hnal)
  obtain ⟨sent, hsent, hne, hreceive⟩ := receivePackets_runCalls hff hnet
    (downlinkInit udpSocket) hsock hcalls
  obtain ⟨rx, hok, hhanded⟩ := hreceive (receiverInit h264Buf decoder)
  -- The wire is empty at the start, so all that arrives was sent by these calls.
  have hwire : arrivals.flatten = sent := by
    rw [hall, hpicture.sends, hsent]
    rfl
  refine ⟨rx, receiverRun_of_receivePackets (hwire ▸ hne) (hwire ▸ hok), ?_⟩
  rw [hhanded, flatMap_callsOf (fun nals => nals.flatMap buffersOf) rfl]
  rfl

/-- Two frames go from DOOM to the decoder, and x264 makes one NAL unit of each. -/
theorem decoder_gets_encoded_twoFrames :
    ∃ st out, runExcept (step quietEnv) quietStart twoFrames = .ok (st, out) ∧
      ∀ arrivals : List (List Datagram), arrivals.flatten = st.downlink.wire →
        ∃ rx, receiverRun Receiver.idleDecoder arrivals
            (receiverInit ⟨fun _ => 0⟩ (), []) = .ok (rx, []) ∧
          rx.handed
            = st.ctx.log.flatMap (fun call => (call.encoded.output).flatMap buffersOf) ∧
          rx.handed = [(.annexB, [0, 0, 0, 1, 0x65, 0x88]),
            (.annexB, [0, 0, 0, 1, 0x65, 0x88])] := by
  have hnals : StartCodes quietEnv.x264 := by
    intro encoder input nal hnal
    obtain rfl := List.mem_singleton.mp hnal
    exact ⟨Or.inl ⟨[0x65, 0x88], rfl⟩, by decide⟩
  obtain ⟨st, out, hrun, hreceive⟩ :=
    @decoder_gets_encoded _ _ quietEnv oneNalEncoder_allocates hnals (fun _ => rfl)
      Receiver.idleDecoder (fun _ _ => rfl) (fun _ _ => ⟨0, 0, 0⟩) 3 (by decide)
      ⟨fun _ => ⟨0, 0, 0⟩, 0⟩ twoFrames ⟨fun _ => 0⟩ ()
  refine ⟨st, out, hrun, fun arrivals hall => ?_⟩
  obtain ⟨rx, hok, hhanded⟩ := hreceive arrivals hall
  refine ⟨rx, hok, hhanded, ?_⟩
  obtain ⟨first, second, hlog, hfirst, hsecond⟩ := log_twoFrames hrun
  rw [hhanded, hlog, List.flatMap_cons, List.flatMap_cons, hfirst, hsecond]
  rfl

end DoomSat.Satellite
