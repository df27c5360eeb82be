import DoomSat.Proofs.Input.Polls
import DoomSat.Support.Sampling
import Mathlib.Data.List.DropRight

/-!
# `DoomSat.Proofs.Input.Changes`: key changes between two sends

The header and the module comment of `input.c` say that a packet is sent when the bitfield
changed. The code samples the keyboard in every call, and it sends only when the timer of 50 ms
has run out. A key that goes down and up between two sends is in no packet.

`ChangesSent` is the contract: without repetitions, the bitfields sent are the bitfields
sampled up to the last packet. `windows` cuts the samples at the calls whose timer has run out,
as a function of the calls. `changesSent_iff` states that the contract holds exactly when no
window has more than one change, and the first window none. `not_changesSent_tap` is a key tap
of 10 ms that no packet carries.
-/

set_option autoImplicit false

namespace DoomSat.Input

open Support

/-! ### The contract -/

/-- The bitfield that a call sampled. -/
def Event.sampled? : Event → Option UInt16
  | .sampled bitfield => some bitfield
  | _ => none

/-- The bitfields that the calls sampled, in order. -/
def sampledBitfields (out : List Event) : List UInt16 := out.filterMap Event.sampled?

/-- The bitfield in a packet for which `sendto` succeeded. -/
def Event.transmitted? : Event → Option UInt16
  | .sendto buf sent => if 0 < sent then some (unpackInput buf).bitfield else none
  | _ => none

/-- The bitfields in the packets for which `sendto` succeeded, in order. -/
def sentBitfields (out : List Event) : List UInt16 := out.filterMap Event.transmitted?

/-- A call of `sendto`, whatever it returns. -/
def Event.isSendto : Event → Bool
  | .sendto _ _ => true
  | _ => false

/-- The outputs up to the last packet. -/
def upToLastSend (out : List Event) : List Event := out.rdropWhile fun ev => !ev.isSendto

/-- The contract: without repetitions, the bitfields sent are the ones sampled up to the last
packet. -/
def ChangesSent (out : List Event) : Prop :=
  (sentBitfields out).destutter (· ≠ ·)
    = (sampledBitfields (upToLastSend out)).destutter (· ≠ ·)

/-! ### The windows of a run -/

/-- The samples of the calls, cut behind each call whose timer has run out. `lastSendMs` is the
time of the last packet, and `opened` the samples behind it. Samples behind the last packet are
in no window. -/
def windows (lastSendMs : UInt32) (opened : List UInt16) : List Poll → List (List UInt16)
  | [] => []
  | p :: ps =>
    if pollEvents p.events then windows lastSendMs opened ps
    else if timerExpired lastSendMs p.now then
      (opened ++ [snapshot p.keyboard]) :: windows p.now [] ps
    else windows lastSendMs (opened ++ [snapshot p.keyboard]) ps

/-- The condition on the windows: the first one has no change, and each other one at most one
change, counted from the last sample of the window before. -/
def ChangesFit : List (List UInt16) → Prop
  | (bitfield :: w) :: ws =>
    (∀ bitfield' ∈ w, bitfield' = bitfield) ∧ OneChangeEach bitfield ws
  | _ => True

/-! ### Outputs and windows -/

/-- The sampled bitfields of two parts of a run. -/
theorem sampledBitfields_append (out out' : List Event) :
    sampledBitfields (out ++ out') = sampledBitfields out ++ sampledBitfields out' :=
  List.filterMap_append

/-- The sent bitfields of two parts of a run. -/
theorem sentBitfields_append (out out' : List Event) :
    sentBitfields (out ++ out') = sentBitfields out ++ sentBitfields out' :=
  List.filterMap_append

/-- Behind a packet, the cut takes only what comes later. The induction takes the outputs off at
the end, as the cut does. -/
theorem upToLastSend_append {ev : Event} (h : ev.isSendto = true) (out out' : List Event) :
    upToLastSend (out ++ [ev] ++ out') = out ++ [ev] ++ upToLastSend out' := by
  unfold upToLastSend
  induction out' using List.reverseRecOn with
  | nil =>
    rw [List.append_nil, List.rdropWhile_nil, List.append_nil,
      List.rdropWhile_concat_neg _ _ _ (by simp [h])]
  | append_singleton out' ev' ih =>
    rw [← List.append_assoc, List.rdropWhile_concat, List.rdropWhile_concat]
    split
    · exact ih
    · rw [List.append_assoc]

/-- Without a packet nothing is left. -/
theorem upToLastSend_eq_nil {out : List Event} (h : ∀ ev ∈ out, ev.isSendto = false) :
    upToLastSend out = [] :=
  List.rdropWhile_eq_nil_iff.mpr fun ev hev => by simp [h ev hev]

section Calls

variable {lastSendMs : UInt32} {p : Poll}

/-- A call with a quit event is in no window. -/
theorem windows_of_quit (hquit : pollEvents p.events = true) (opened : List UInt16)
    (ps : List Poll) : windows lastSendMs opened (p :: ps) = windows lastSendMs opened ps :=
  if_pos hquit

/-- A call that waits adds its sample to the open window. -/
theorem windows_of_wait (hquit : pollEvents p.events = false)
    (htimer : timerExpired lastSendMs p.now = false) (opened : List UInt16) (ps : List Poll) :
    windows lastSendMs opened (p :: ps)
      = windows lastSendMs (opened ++ [snapshot p.keyboard]) ps := by
  rw [windows, if_neg (by simp [hquit]), if_neg (by simp [htimer])]

/-- A call that sends closes the window. -/
theorem windows_of_send (hquit : pollEvents p.events = false)
    (htimer : timerExpired lastSendMs p.now = true) (opened : List UInt16) (ps : List Poll) :
    windows lastSendMs opened (p :: ps)
      = (opened ++ [snapshot p.keyboard]) :: windows p.now [] ps := by
  rw [windows, if_neg (by simp [hquit]), if_pos htimer]

/-- The bitfield of the packet of a call. -/
theorem sentBitfields_send (hsent : 0 < p.sent) (seq : UInt16) :
    sentBitfields [.sampled (snapshot p.keyboard),
        .sendto (packInput ⟨snapshot p.keyboard, p.now, seq⟩) p.sent, .returned 0]
      = [snapshot p.keyboard] := by
  simp only [sentBitfields, List.filterMap_cons, List.filterMap_nil, Event.transmitted?,
    if_pos hsent, unpackInput_packInput]

end Calls

/-- Outputs without a packet, followed by outputs without a packet. -/
theorem isSendto_append_eq_false {out out' : List Event}
    (hout : ∀ ev ∈ out, ev.isSendto = false) (hout' : ∀ ev ∈ out', ev.isSendto = false) :
    ∀ ev ∈ out ++ out', ev.isSendto = false := by
  intro ev hev
  rcases List.mem_append.mp hev with hev | hev
  · exact hout ev hev
  · exact hout' ev hev

/-- The outputs of a run behind outputs without a packet. The samples up to the last packet are
the windows, and the bitfields sent are their last samples. The induction is over the calls, and
`before` is the open window. -/
theorem run_windows (st : State) {polls : List Poll} (hsent : ∀ p ∈ polls, 0 < p.sent)
    {before : List Event} (hbefore : ∀ ev ∈ before, ev.isSendto = false) (prev : UInt16) :
    sampledBitfields (upToLastSend (before ++ (run inputPoll st polls).2))
        = (windows st.gLastSendMs (sampledBitfields before) polls).flatten ∧
      sentBitfields (run inputPoll st polls).2
        = lastLevels prev (windows st.gLastSendMs (sampledBitfields before) polls) := by
  induction polls generalizing st before prev with
  | nil =>
    refine ⟨?_, rfl⟩
    show sampledBitfields (upToLastSend (before ++ [])) = _
    rw [List.append_nil, upToLastSend_eq_nil hbefore]
    rfl
  | cons p ps ih =>
    have hps : ∀ p' ∈ ps, 0 < p'.sent := fun p' hp' => hsent p' (List.mem_cons_of_mem p hp')
    obtain ⟨st', out, hrun, hspec⟩ : ∃ st' out,
        (run inputPoll st (p :: ps)).2 = out ++ (run inputPoll st' ps).2 ∧
        PollSpec st p st' out :=
      ⟨_, _, rfl, inputPoll_spec st p⟩
    rw [hrun]
    clear hrun
    cases hspec with
    -- A call with a quit event takes no sample.
    | quit hquit =>
      have hsame : sampledBitfields (before ++ [.returned 1]) = sampledBitfields before := by
        rw [sampledBitfields_append]
        exact List.append_nil _
      have hquiet : ∀ ev ∈ before ++ [.returned 1], ev.isSendto = false :=
        isSendto_append_eq_false hbefore (by simp [Event.isSendto])
      obtain ⟨hsampled, hsents⟩ := ih st hps hquiet prev
      rw [hsame] at hsampled hsents
      rw [windows_of_quit hquit, ← List.append_assoc]
      exact ⟨hsampled, hsents⟩
    -- The sample joins the open window.
    | wait _ hquit htimer hseq hlast =>
      have hopened : sampledBitfields (before ++ [.sampled (snapshot p.keyboard), .returned 0])
          = sampledBitfields before ++ [snapshot p.keyboard] := by
        rw [sampledBitfields_append]
        rfl
      have hquiet : ∀ ev ∈ before ++ [.sampled (snapshot p.keyboard), .returned 0],
          ev.isSendto = false :=
        isSendto_append_eq_false hbefore (by simp [Event.isSendto])
      obtain ⟨hsampled, hsents⟩ := ih st' hps hquiet prev
      rw [hopened, hlast] at hsampled hsents
      rw [windows_of_wait hquit htimer, ← List.append_assoc]
      exact ⟨hsampled, hsents⟩
    | send _ hquit htimer hseq hlast =>
      -- The packet closes the window, and the next one begins empty.
      have hnext := @ih st' hps [.returned 0] (by simp [Event.isSendto]) (snapshot p.keyboard)
      rw [show sampledBitfields [.returned 0] = [] from rfl, hlast] at hnext
      obtain ⟨hsampled, hsents⟩ := hnext
      rw [windows_of_send hquit htimer]
      constructor
      · show sampledBitfields (upToLastSend (before ++ (.sampled (snapshot p.keyboard)
          :: .sendto _ p.sent :: ([.returned 0] ++ (run inputPoll st' ps).2)))) = _
        rw [List.append_cons, List.append_cons _ (Event.sendto _ _), upToLastSend_append rfl,
          sampledBitfields_append, hsampled, sampledBitfields_append, sampledBitfields_append,
          List.flatten_cons]
        exact congrArg (· ++ _) (List.append_nil _)
      · rw [sentBitfields_append, hsents, sentBitfields_send (hsent p List.mem_cons_self),
          lastLevels, List.getLastD_concat]
        rfl

/-- Every window has a sample. -/
theorem ne_nil_of_mem_windows {lastSendMs : UInt32} {opened : List UInt16} {polls : List Poll}
    {w : List UInt16} (h : w ∈ windows lastSendMs opened polls) : w ≠ [] := by
  induction polls generalizing lastSendMs opened with
  | nil => cases h
  | cons p ps ih =>
    rw [windows] at h
    split at h
    · exact ih h
    · split at h
      · rcases List.mem_cons.mp h with rfl | h
        · exact List.concat_ne_nil _ _
        · exact ih h
      · exact ih h

/-! ### When the contract holds -/

/-- For every run of calls in which every `sendto` succeeds, at any clock readings and from any
state: the contract holds exactly when the samples change at most once between two packets, and
not at all before the first packet. A second change between two packets is never sent, against
the comments of `input.h` and `input.c`. -/
theorem changesSent_iff (st : State) (polls : List Poll) (hsent : ∀ p ∈ polls, 0 < p.sent) :
    ChangesSent (run inputPoll st polls).2 ↔ ChangesFit (windows st.gLastSendMs [] polls) := by
  obtain ⟨hsampled, hsents⟩ := @run_windows st polls hsent [] (by simp) 0
  rw [show sampledBitfields [] = [] from rfl] at hsampled hsents
  rw [List.nil_append] at hsampled
  unfold ChangesSent
  rw [hsampled, hsents]
  match hws : windows st.gLastSendMs [] polls with
  | [] => exact iff_of_true rfl trivial
  | [] :: ws =>
    have hmem : [] ∈ windows st.gLastSendMs [] polls := hws ▸ List.mem_cons_self
    exact absurd rfl (ne_nil_of_mem_windows hmem)
  | (bitfield :: w) :: ws => exact destutter_flatten_eq_iff 0 bitfield w ws

/-- A call at this clock reading without a quit event, with these keys down. -/
def pollAt (now : UInt32) (keyboard : Keyboard) : Poll where
  events := []
  keyboard := keyboard
  now := now
  sent := 8

/-- The up key goes down after one packet and up after the next one. -/
def holdPolls : List Poll :=
  [pollAt 100 fun _ => false, pollAt 110 (· = .up), pollAt 150 (· = .up), pollAt 160 (· = .up),
    pollAt 190 fun _ => false, pollAt 200 fun _ => false]

/-- `changesSent_iff` for a key that is held over a packet. -/
theorem changesSent_iff_hold : ChangesSent (run inputPoll (inputInit staticState) holdPolls).2
    ↔ ChangesFit (windows 0 [] holdPolls) :=
  changesSent_iff (inputInit staticState) holdPolls (by decide)

-- No change of these is lost.
example : ChangesSent (run inputPoll (inputInit staticState) holdPolls).2 := by
  unfold ChangesSent
  decide +kernel

/-- The up key is down for 10 ms between two packets. -/
def tapPolls : List Poll :=
  [pollAt 100 fun _ => false, pollAt 110 (· = .up), pollAt 120 fun _ => false,
    pollAt 150 fun _ => false]

/-- The contract fails for `tapPolls`: the clock does not go back, every `sendto` succeeds, and
no packet carries the key. -/
theorem not_changesSent_tap :
    tapPolls.Pairwise (fun p p' => p.now ≤ p'.now) ∧ (∀ p ∈ tapPolls, 0 < p.sent) ∧
      ¬ ChangesSent (run inputPoll (inputInit staticState) tapPolls).2 := by
  refine ⟨by decide, by decide, ?_⟩
  unfold ChangesSent
  decide +kernel

end DoomSat.Input
