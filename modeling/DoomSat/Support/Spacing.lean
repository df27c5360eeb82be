import Mathlib.Data.List.Basic

/-!
# `DoomSat.Support.Spacing`: times that keep a distance

`Spaced d ts` says that each of the times is at least `d` behind every earlier one. Such times
bound the rate in every window: `length_le_of_spaced` and `countP_window_le` say that a window
of length `w` has at most `w / d + 1` of them.

Nothing here depends on the program under verification.
-/

set_option autoImplicit false

namespace DoomSat.Support

/-- Each time is at least `d` behind every earlier one. -/
def Spaced (d : Nat) (ts : List Nat) : Prop := ts.Pairwise fun s t => s + d ≤ t

/-- One more time at a distance from the last one. -/
theorem Spaced.concat {d : Nat} {ts : List Nat} (h : Spaced d ts) {t : Nat}
    (hlast : ∀ s, ts.getLast? = some s → s + d ≤ t) : Spaced d (ts ++ [t]) := by
  refine List.pairwise_append.mpr ⟨h, List.pairwise_singleton _ t, ?_⟩
  intro s hs t' ht'
  rw [List.mem_singleton.mp ht']
  obtain ⟨init, last, rfl⟩ : ∃ init last, ts = init ++ [last] :=
    (List.eq_nil_or_concat' ts).resolve_left (List.ne_nil_of_mem hs)
  have hend : last + d ≤ t := hlast last List.getLast?_concat
  -- The other times are before the last one.
  rcases List.mem_append.mp hs with hs | hs
  · have := (List.pairwise_append.mp h).2.2 s hs last List.mem_cons_self
    omega
  · rwa [List.mem_singleton.mp hs]

/-- Spaced times in a window of length `w`. -/
theorem length_le_of_spaced {d : Nat} (hd : 0 < d) {ts : List Nat} (h : Spaced d ts)
    {start w : Nat} (hwin : ∀ t ∈ ts, start ≤ t ∧ t ≤ start + w) :
    ts.length ≤ w / d + 1 := by
  induction ts generalizing start w with
  | nil => exact Nat.zero_le _
  | cons t ts ih =>
    obtain ⟨hhead, htail⟩ := List.pairwise_cons.mp h
    have ht := hwin t List.mem_cons_self
    cases ts with
    | nil => simp
    | cons t' ts =>
      -- The others are in the window that is shorter by `d` at its start.
      have ht' := hwin t' (List.mem_cons_of_mem t List.mem_cons_self)
      have hd' := hhead t' List.mem_cons_self
      have hle : d ≤ w := by omega
      have hrest := @ih htail (start + d) (w - d) (by
        intro s hs
        have := hwin s (List.mem_cons_of_mem t hs)
        have := hhead s hs
        omega)
      rw [List.length_cons]
      calc (t' :: ts).length + 1 ≤ (w - d) / d + 1 + 1 := Nat.add_le_add_right hrest 1
        _ = w / d + 1 := by
          rw [← Nat.add_div_right _ hd, Nat.sub_add_cancel hle]

/-- The number of spaced times in any window of length `w`. -/
theorem countP_window_le {d : Nat} (hd : 0 < d) {ts : List Nat} (h : Spaced d ts)
    (start w : Nat) :
    ts.countP (fun t => start ≤ t ∧ t ≤ start + w) ≤ w / d + 1 := by
  rw [List.countP_eq_length_filter]
  apply length_le_of_spaced hd (h.filter _)
  intro t ht
  simpa using (List.mem_filter.mp ht).2

end DoomSat.Support
