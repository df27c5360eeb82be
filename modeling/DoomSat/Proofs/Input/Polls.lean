import DoomSat.Model.Input
import DoomSat.Support.Machine

/-!
# `DoomSat.Proofs.Input.Polls`: what one call of `input_poll` can do

`PollSpec` names the three cases of a call: it meets a quit event, it samples the keyboard
and waits, or it samples the keyboard and sends. `inputPoll_spec` says that there is no other
case. The proofs about runs use the cases and do not unfold `inputPoll`.

`getTimestampMs_eq` says that `get_timestamp_ms` returns the milliseconds of the clock modulo
2^32.
-/

set_option autoImplicit false

namespace DoomSat.Input

open Support

/-- The cases of a call of `input_poll`. -/
inductive PollSpec (st : State) (p : Poll) : State → List Event → Prop where
  /-- A quit event: the call returns at once. -/
  | quit (hquit : pollEvents p.events = true) : PollSpec st p st [.returned 1]
  /-- The timer runs: the keyboard is only sampled. -/
  | wait (st' : State) (hquit : pollEvents p.events = false)
      (htimer : timerExpired st.gLastSendMs p.now = false) (hseq : st'.gSeq = st.gSeq)
      (hlast : st'.gLastSendMs = st.gLastSendMs) :
      PollSpec st p st' [.sampled (snapshot p.keyboard), .returned 0]
  /-- The timer has run out: the sample is sent. -/
  | send (st' : State) (hquit : pollEvents p.events = false)
      (htimer : timerExpired st.gLastSendMs p.now = true) (hseq : st'.gSeq = st.gSeq + 1)
      (hlast : st'.gLastSendMs = p.now) :
      PollSpec st p st' [.sampled (snapshot p.keyboard),
        .sendto (packInput ⟨snapshot p.keyboard, p.now, st.gSeq⟩) p.sent, .returned 0]

/-- The throttled send when the timer has run out. -/
theorem throttledSend_expired {st : State} {now : UInt32}
    (h : timerExpired st.gLastSendMs now = true) (sent : Int) :
    ∃ st', throttledSend st now sent = (st', [.sendto (packInput (nextPacket st now)) sent]) ∧
      st'.gSeq = st.gSeq + 1 ∧ st'.gLastSendMs = now := by
  unfold throttledSend
  rw [if_pos h]
  by_cases hsent : sent > 0
  · simp only [if_pos hsent]
    exact ⟨_, rfl, rfl, rfl⟩
  · simp only [if_neg hsent]
    exact ⟨_, rfl, rfl, rfl⟩

/-- Every call is one of the three cases. -/
theorem inputPoll_spec (st : State) (p : Poll) :
    PollSpec st p (inputPoll st p).1 (inputPoll st p).2 := by
  unfold inputPoll
  cases hquit : pollEvents p.events with
  | true => exact .quit hquit
  | false =>
    simp only [Bool.false_eq_true, if_false]
    -- The memory of the debug output has no effect on the send.
    obtain ⟨prev, hprev⟩ : ∃ prev, (if snapshot p.keyboard ≠ st.gBitfieldPrev then
        { st with gBitfield := snapshot p.keyboard, gBitfieldPrev := snapshot p.keyboard }
        else { st with gBitfield := snapshot p.keyboard })
          = { st with gBitfield := snapshot p.keyboard, gBitfieldPrev := prev } := by
      split <;> exact ⟨_, rfl⟩
    rw [hprev]
    cases htimer : timerExpired st.gLastSendMs p.now with
    | false =>
      have hwait : throttledSend
          { st with gBitfield := snapshot p.keyboard, gBitfieldPrev := prev } p.now p.sent
            = ({ st with gBitfield := snapshot p.keyboard, gBitfieldPrev := prev }, []) :=
        if_neg (by simp [htimer])
      rw [hwait]
      exact .wait _ hquit htimer rfl rfl
    | true =>
      obtain ⟨st', hsend, hseq, hlast⟩ := @throttledSend_expired
        { st with gBitfield := snapshot p.keyboard, gBitfieldPrev := prev } p.now htimer p.sent
      rw [hsend]
      exact .send st' hquit htimer hseq hlast

/-! ### The clock -/

/-- `get_timestamp_ms` returns the milliseconds of the clock modulo 2^32. -/
theorem getTimestampMs_eq {tvSec tvNsec : Int64} (hsec : 0 ≤ tvSec.toInt)
    (hnsec : 0 ≤ tvNsec.toInt) :
    getTimestampMs tvSec tvNsec
      = UInt32.ofNat (tvSec.toInt.toNat * 1000 + tvNsec.toInt.toNat / 1000000) := by
  -- A clock reading that is not negative is the number in its 64 bits.
  have hbits : ∀ w : Int64, 0 ≤ w.toInt → w.toUInt64.toNat = w.toInt.toNat := by
    intro w hw
    have hint : w.toInt = if 2 * w.toUInt64.toNat < 2 ^ 64 then (w.toUInt64.toNat : Int)
        else (w.toUInt64.toNat : Int) - (2 ^ 64 : Nat) :=
      BitVec.toInt_eq_toNat_cond w.toBitVec
    have hlt := w.toUInt64.toNat_lt
    split at hint <;> omega
  apply UInt32.toNat_inj.mp
  unfold getTimestampMs
  simp only [UInt64.toNat_toUInt32, UInt64.toNat_add, UInt64.toNat_mul, UInt64.toNat_div,
    hbits tvSec hsec, hbits tvNsec hnsec, UInt32.toNat_ofNat']
  simp

/-- The timer between two true times, as the code sees them. -/
theorem timerExpired_ofNat {last t : Nat} (h : last ≤ t) :
    timerExpired (UInt32.ofNat last) (UInt32.ofNat t) = decide (50 ≤ (t - last) % 2 ^ 32) := by
  unfold timerExpired INPUT_SEND_INTERVAL_MS
  rw [← UInt32.ofNat_sub h, decide_eq_decide, ge_iff_le, UInt32.le_iff_toNat_le,
    UInt32.toNat_ofNat']
  rfl

end DoomSat.Input
