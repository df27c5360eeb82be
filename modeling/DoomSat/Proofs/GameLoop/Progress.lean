import DoomSat.Proofs.GameLoop.Clock

/-!
# `DoomSat.Proofs.GameLoop.Progress`: `TryRunTics` runs at least one tic

The comment of `D_RunFrame` promises that `TryRunTics` "will run at least one tic". The loop
that waits gives up when five tics have passed since its call, so the promise depends on the
clock. `tryRunTics_runs` shows that it is kept while consecutive readings are less than 115 ms
apart: a tic that passes is seen by `NetUpdate` before the loop gives up.

`waitTics_ready` is the case with a command that waits already, and `waitTics_progress` is
the loop without one. Its measure is the number of rounds up to the next tic of the clock.
`tryRunTics_progress` puts the two together for any state with the invariant of
`DoomSat.Proofs.GameLoop.Clock`, and `tryRunTics_runs` is about the states that a run reaches.
-/

set_option autoImplicit false

namespace DoomSat.Engine

open Support

variable {γ : Type} {clock : Nat → UInt32} {settings : Settings} {k : Nat} {st : Loop γ}
variable (interface : LoopInterface γ)

/-! ### Tics and milliseconds -/

/-- The two divisions of `ticsOf` as one. A tic of `ticdup` units takes `1000 * ticdup / 35` ms. -/
theorem ticsOf_eq (settings : Settings) (ms : Nat) :
    ticsOf settings ms = ms * 35 / (1000 * settings.ticdup) := Nat.div_div_eq_div_mul ..

/-- Fewer than five tics pass in 114 ms: 114 * 35 = 3990 stays below 4 * 1000, the length of
four tics in these units. `MAX_NETGAME_STALL_TICS` is 5, so such a gap alone does not end the
loop. -/
theorem ticsOf_add_gap (settings : Settings) (ms : Nat) :
    ticsOf settings (ms + 114) ≤ ticsOf settings ms + 4 := by
  have hpos := settings.ticdup_pos
  rw [ticsOf_eq, ticsOf_eq]
  have hunit : 1000 ≤ 1000 * settings.ticdup := Nat.le_mul_of_pos_right _ hpos
  generalize 1000 * settings.ticdup = unit at hunit ⊢
  have hlt : ms * 35 < (ms * 35 / unit + 1) * unit :=
    (Nat.div_lt_iff_lt_mul (by omega)).mp (Nat.lt_succ_self _)
  generalize ms * 35 / unit = tics at hlt ⊢
  refine Nat.le_of_lt_succ ((Nat.div_lt_iff_lt_mul (by omega)).mpr ?_)
  show (ms + 114) * 35 < (tics + 1 + 4) * unit
  rw [Nat.add_mul (tics + 1) 4 unit]
  omega

/-- A tic passes in 29 ms, since 29 * 35 = 1015. With duplicates the unit is `ticdup` times as
long. -/
theorem ticsOf_add_tic (settings : Settings) (ms : Nat) :
    ticsOf settings ms + 1 ≤ ticsOf settings (ms + 29 * settings.ticdup) := by
  have hpos := settings.ticdup_pos
  rw [ticsOf_eq, ticsOf_eq]
  have hunit : 0 < 1000 * settings.ticdup := by omega
  rw [Nat.le_div_iff_mul_le hunit, Nat.add_mul, Nat.one_mul]
  have hle := Nat.div_mul_le_self (ms * 35) (1000 * settings.ticdup)
  omega

/-- There is room for at least one command. -/
theorem ticLimit_pos (settings : Settings) : 0 < ticLimit settings := by
  unfold ticLimit
  split <;> decide

/-- After a reading that is not 0 the base of the time is fixed: it is this reading, or it was
set before. -/
theorem readTicks_started (h : clock st.reads ≠ 0) : (readTicks clock st).basetime ≠ 0 := by
  unfold readTicks
  dsimp only
  split
  · exact h
  · next hne => exact hne

/-- With a fixed base the time of the next reading is its difference to the base. -/
theorem nextMs_of_started (h : st.basetime ≠ 0) :
    nextMs clock st = (clock st.reads).toNat - st.basetime.toNat := by
  unfold nextMs
  rw [baseTicks_of_ne h]

/-! ### The loop that waits -/

/-- With enough commands the loop ends at once, with any fuel. The clock is not read. -/
theorem waitTics_ready {entertic counts lowtic : Int} (fuel : Nat)
    (hdiv : st.gametic / settings.ticdup = k) (hready : k + counts ≤ lowtic)
    (hlo : -2147483648 ≤ k + counts) (hhi : lowtic ≤ 2147483647) :
    waitTics clock settings interface entertic counts fuel lowtic st
      = .ok (some lowtic, st) := by
  have htarget : int ((k : Nat) + counts) = .ok ((k : Nat) + counts) :=
    int_of_bounds hlo (by omega)
  cases fuel with
  | zero =>
    rw [waitTics, hdiv, htarget, ok_bind, if_pos (by omega)]
    rfl
  | succ fuel =>
    rw [waitTics, hdiv, htarget, ok_bind, if_pos (by omega)]
    rfl

/-- A round of the loop without a command that waits: it ends the loop with a command, or no tic
has passed and the next round starts. The second case says what the next round can rely on: the
same command is missing, the base is the same, and two readings were made. -/
theorem waitTics_round (hclock : ForwardClock clock) (hsingle : settings.singletics = false)
    (fuel : Nat) (h : TimeInv clock settings k st) (hempty : st.maketic = k)
    (hstarted : st.basetime ≠ 0)
    (hgap : (clock (st.reads + 1)).toNat ≤ (clock st.reads).toNat + 114) :
    (∃ next, waitTics clock settings interface st.lasttime 1 (fuel + 1) k st = .ok next ∧
      next.1.isSome) ∨
    (st.lasttime = ticsOf settings (nextMs clock st) ∧
      ∃ st', waitTics clock settings interface st.lasttime 1 (fuel + 1) k st
          = waitTics clock settings interface st.lasttime 1 fuel k st' ∧
        TimeInv clock settings k st' ∧ st'.maketic = k ∧ st'.lasttime = st.lasttime ∧
        st'.basetime = st.basetime ∧ st'.reads = st.reads + 2) := by
  have hlast := h.lasttime_bound hclock
  have hle := h.lasttime_le
  have hmade := h.maketic_le
  have hlimit := ticLimit_pos settings
  have htarget : int ((k : Nat) + 1) = .ok ((k : Nat) + 1) :=
    int_of_bounds (by omega) (by omega)
  obtain ⟨st', hupdate, h', hsame, hmaketic⟩ :=
    (netUpdate_timed interface h hclock hsingle).exists_ok
  have hmade' := h'.maketic_le
  have hlast' := h'.lasttime_bound hclock
  have hlasttime : st'.lasttime = ticsOf settings (nextMs clock st) := hsame.lasttime
  have hreads : st'.reads = st.reads + 1 := hsame.reads
  have hbase : st'.basetime = st.basetime := hsame.basetime.trans (if_neg hstarted)
  rw [waitTics, h.commands.gameticdiv, htarget, ok_bind, if_neg (by omega), hupdate]
  dsimp only
  rw [ok_bind, h'.commands.gameticdiv, if_neg (by omega)]
  -- Either `NetUpdate` saw a new tic and built the command, or the time did not reach one.
  by_cases htic : k + 1 ≤ st'.maketic
  · -- The next test of the loop succeeds.
    left
    rw [if_neg (by omega), waitTics_ready interface _ h'.commands.gameticdiv (by omega)
      (by omega) (by omega)]
    exact ⟨_, rfl, rfl⟩
  · right
    have hnone : st.lasttime = ticsOf settings (nextMs clock st) := by omega
    -- The reading of `I_GetTime` is at most 114 ms later.
    have hms : nextMs clock st' ≤ nextMs clock st + 114 := by
      rw [nextMs_of_started hstarted, nextMs_of_started (by rw [hbase]; exact hstarted),
        hreads, hbase]
      omega
    have htics := (ticsOf_mono settings hms).trans
      (ticsOf_add_gap settings (nextMs clock st))
    have hsame' : st'.maketic = k := by omega
    refine ⟨hnone, readTicks clock st', ?_, h'.readTicks hclock, hsame',
      hlasttime.trans hnone.symm, ?_, ?_⟩
    · rw [if_pos (by omega), iGetTime_eq h'.base hclock]
      dsimp only
      rw [tdiv_ticdup, if_neg (by unfold MAX_NETGAME_STALL_TICS; omega), hsame']
    · exact (if_neg (by rw [hbase]; exact hstarted)).trans hbase
    · show st'.reads + 1 = _
      rw [hreads]

/-- Without a command that waits, the loop ends with one in the round that sees the next tic of
the clock. A round makes two readings, so the `n`-th round looks at the reading `st.reads + 2 *
n`. -/
theorem waitTics_progress (hclock : ForwardClock clock) (hsingle : settings.singletics = false)
    (n : Nat) {st : Loop γ} (h : TimeInv clock settings k st) (hempty : st.maketic = k)
    (hstarted : st.basetime ≠ 0)
    (hgap : ∀ i, st.reads ≤ i → (clock (i + 1)).toNat ≤ (clock i).toNat + 114)
    (hprogress : st.lasttime <
      ticsOf settings ((clock (st.reads + 2 * n)).toNat - st.basetime.toNat)) :
    ∃ next, waitTics clock settings interface st.lasttime 1 (n + 1) k st = .ok next ∧
      next.1.isSome := by
  -- The induction is on the rounds. A round that does not end the loop leaves a state with the
  -- same hypotheses.
  induction n generalizing st with
  | zero =>
    rcases waitTics_round interface hclock hsingle 0 h hempty hstarted
      (hgap _ (Nat.le_refl _)) with hdone | ⟨hnone, -⟩
    · exact hdone
    · -- The only round sees the next tic.
      rw [nextMs_of_started hstarted] at hnone
      rw [Nat.mul_zero, Nat.add_zero] at hprogress
      omega
  | succ n ih =>
    rcases waitTics_round interface hclock hsingle (n + 1) h hempty hstarted
      (hgap _ (Nat.le_refl _)) with hdone | ⟨-, st', heq, h', hempty', hlast, hbase, hreads⟩
    · exact hdone
    · rw [heq, ← hlast]
      apply ih h' hempty' (by rw [hbase]; exact hstarted)
      · intro i hi
        exact hgap i (by omega)
      · rw [hlast, hbase, hreads, Nat.add_assoc, show 2 + 2 * n = 2 * (n + 1) by omega]
        exact hprogress

/-! ### A call of `TryRunTics` -/

/-- When the loop that waits ends with a command, the next commands are run. `counts` is at
least 1, so the command `k` is among them. -/
theorem runAvailable_runs (hclock : ForwardClock clock) (hsingle : settings.singletics = false)
    {entertic realtics : Int} {fuel : Nat} (h : TimeInv clock settings k st)
    (hwait : ∃ next, waitTics clock settings interface entertic
        (countTics settings realtics (st.maketic - k)) fuel st.maketic st = .ok next ∧
      next.1.isSome) :
    ∃ st', runAvailable clock settings interface entertic realtics fuel st = .ok st' ∧
      settings.ticdup * (k + 1) ≤ st'.gametic := by
  have hpos := countTics_pos settings realtics (st.maketic - k)
  have hle := countTics_le settings realtics (st.maketic - k)
  unfold runAvailable
  dsimp only
  rw [h.commands.gameticdiv]
  generalize countTics settings realtics (st.maketic - k) = counts at hpos hle hwait ⊢
  -- What the loop returned is as `waitTics_timed` says, and it is not the early return.
  obtain ⟨⟨lowtic, st'⟩, heq, hsome⟩ := hwait
  obtain ⟨h', hlow⟩ := (waitTics_timed interface hclock hsingle fuel h (Int.le_refl _) hpos
    (by omega)).of_ok heq
  obtain ⟨lowtic, rfl⟩ := Option.isSome_iff_exists.mp hsome
  obtain ⟨hcounts, hmade⟩ := hlow lowtic rfl
  obtain ⟨st'', hrun, h''⟩ := (runCounts_timed interface hclock hsingle counts.toNat h'
    (by rw [Int.toNat_of_nonneg (by omega)]; exact hcounts) hmade).exists_ok
  refine ⟨st'', ?_, ?_⟩
  · rw [heq, ok_bind]
    exact hrun
  · rw [h''.commands.gametic]
    exact Nat.mul_le_mul_left _ (by omega)

/-- When `NetUpdate` builds nothing although all commands have been run, its two readings of the
clock are in the same tic as the last update. -/
theorem ticsOf_eq_of_empty (hclock : ForwardClock clock) (h : TimeInv clock settings k st)
    (hempty : min (st.maketic +
        ((ticsOf settings (nextMs clock (readTicks clock st)) : Int) - st.lasttime).toNat)
        (k + ticLimit settings) = k) :
    (ticsOf settings (nextMs clock st) : Int)
      = ticsOf settings (nextMs clock (readTicks clock st)) := by
  have hlimit := ticLimit_pos settings
  have hmono : ticsOf settings (nextMs clock st)
      ≤ ticsOf settings (nextMs clock (readTicks clock st)) :=
    ticsOf_mono settings (nextMs_mono hclock st)
  have hle := h.lasttime_le
  have hfirst := h.commands.le
  omega

/-- `TryRunTics` returns after it has run a command: when 29 ms for each duplicate pass within
the rounds that it may wait, the clock does not jump by more than 114 ms between two readings,
and the base of the time is fixed. Either a command waits at its call, or the loop that waits
sees the next tic of the clock before it gives up. -/
theorem tryRunTics_progress (hclock : ForwardClock clock) (hsingle : settings.singletics = false)
    (h : TimeInv clock settings k st) (hstarted : clock st.reads ≠ 0)
    (hgap : ∀ i, st.reads ≤ i → (clock (i + 1)).toNat ≤ (clock i).toNat + 114) (rounds : Nat)
    (hrounds : (clock st.reads).toNat + 29 * settings.ticdup
      ≤ (clock (st.reads + 2 * rounds)).toNat) :
    ∃ st', tryRunTics clock settings interface rounds st = .ok st' ∧
      settings.ticdup * (k + 1) ≤ st'.gametic := by
  have hentered := h.entered hclock
  obtain ⟨realtics, heq⟩ := tryRunTics_eq interface h hclock hsingle rounds
  obtain ⟨st', hupdate, h', hsame, hmaketic⟩ :=
    (netUpdate_timed interface hentered hclock hsingle).exists_ok
  -- `NetUpdate` has returned `st'`. The rest of the call starts there.
  have hgoal : ∃ st'', runAvailable clock settings interface
      (ticsOf settings (nextMs clock st)) realtics rounds st' = .ok st'' ∧
      settings.ticdup * (k + 1) ≤ st''.gametic := by
    apply runAvailable_runs interface hclock hsingle h'
    have hpos := countTics_pos settings realtics (st'.maketic - k)
    have hcount := countTics_le settings realtics (st'.maketic - k)
    have hbound := h'.lasttime_bound hclock
    have hmade := h'.maketic_le
    have hk := h'.commands.le
    by_cases hready : k + 1 ≤ st'.maketic
    · refine ⟨_, waitTics_ready interface rounds h'.commands.gameticdiv ?_ ?_ ?_, rfl⟩
      · omega
      · omega
      · omega
    · -- No command waits, and no tic has passed between the last update and this call.
      have hempty : st'.maketic = k := by omega
      have hlast : (ticsOf settings (nextMs clock st) : Int) = st'.lasttime :=
        (ticsOf_eq_of_empty hclock h (hmaketic.symm.trans hempty)).trans hsame.lasttime.symm
      -- So one command is wanted, and the loop has at least one round.
      have hone : countTics settings realtics (st'.maketic - k) = 1 := by omega
      obtain ⟨n, rfl⟩ : ∃ n, rounds = n + 1 := by
        refine ⟨rounds - 1, ?_⟩
        rcases Nat.eq_zero_or_pos rounds with rfl | hrounds'
        · have := settings.ticdup_pos
          simp only [Nat.mul_zero, Nat.add_zero] at hrounds
          omega
        · omega
      have hbase : st'.basetime = (readTicks clock st).basetime :=
        hsame.basetime.trans (if_neg (readTicks_started hstarted))
      have hreads : st'.reads = st.reads + 2 := hsame.reads
      rw [hone, hlast, hempty]
      apply waitTics_progress interface hclock hsingle n h' hempty
      · rw [hbase]
        exact readTicks_started hstarted
      · intro i hi
        exact hgap i (by omega)
      · rw [← hlast, hbase, hreads, Nat.add_assoc, show 2 + 2 * n = 2 * (n + 1) by omega]
        -- The base is not later than the first reading, so 29 ms on the clock are 29 ms since
        -- the base.
        have hmore : nextMs clock st + 29 * settings.ticdup
            ≤ (clock (st.reads + 2 * (n + 1))).toNat - baseTicks clock st := by
          have hfirst := h.base.baseTicks_le
          unfold nextMs
          omega
        have htic := (ticsOf_add_tic settings (nextMs clock st)).trans (ticsOf_mono settings hmore)
        show (_ : Int) < ticsOf settings (_ - baseTicks clock st)
        omega
  obtain ⟨st'', hrun, hgametic⟩ := hgoal
  refine ⟨st'', ?_, hgametic⟩
  rw [heq, hupdate, ok_bind]
  exact hrun

/-- In every state that a run reaches: `TryRunTics` returns after it has run a command, when
29 ms for each duplicate pass within the rounds that it may wait, and consecutive readings
are less than 115 ms apart. The tics that have been run then are not more than the tics of the
clock since the program started. -/
theorem tryRunTics_runs {clock : Nat → UInt32} (hclock : ForwardClock clock)
    {settings : Settings} (hsingle : settings.singletics = false) (interface : LoopInterface γ)
    (game : γ) (calls : List LoopCall) {st : Loop γ}
    (hreach : runLoop clock settings interface game calls = .ok st)
    (hstarted : clock st.reads ≠ 0)
    (hgap : ∀ i, st.reads ≤ i → (clock (i + 1)).toNat ≤ (clock i).toNat + 114)
    (rounds : Nat)
    (hrounds : (clock st.reads).toNat + 29 * settings.ticdup
      ≤ (clock (st.reads + 2 * rounds)).toNat) :
    ∃ st', tryRunTics clock settings interface rounds st = .ok st' ∧
      st.gametic + settings.ticdup ≤ st'.gametic ∧
      st'.gametic * 1000 ≤ TICRATE * ((clock st'.reads).toNat - (clock 0).toNat) := by
  obtain ⟨k, h⟩ := (runLoop_timed interface hclock hsingle game calls).of_ok hreach
  obtain ⟨st', hrun, hgametic⟩ :=
    tryRunTics_progress interface hclock hsingle h hstarted hgap rounds hrounds
  obtain ⟨k', h'⟩ :=
    (loopStep_timed interface h hclock hsingle (.tryRunTics rounds)).of_ok hrun
  obtain ⟨hmade, htics⟩ := h'.within_clock hclock
  refine ⟨st', hrun, ?_, (Nat.mul_le_mul_right 1000 hmade).trans htics⟩
  rw [h.commands.gametic, ← Nat.mul_succ]
  exact hgametic

/-- The first frame with the steady clock. -/
theorem tryRunTics_runs_steady :
    ∃ st', tryRunTics steadyClock defaultSettings idleInterface 1
        (iGetTime steadyClock (Loop.start ())).2 = .ok st' ∧ 0 + 1 ≤ st'.gametic ∧
      st'.gametic * 1000 ≤ 35 * ((steadyClock st'.reads).toNat - (steadyClock 0).toNat) :=
  tryRunTics_runs forwardClock_steadyClock rfl idleInterface () [.iGetTime] rfl (by decide)
    (fun i _ => by rw [toNat_steadyClock, toNat_steadyClock]; omega) 1
    (by rw [toNat_steadyClock, toNat_steadyClock]; decide)

end DoomSat.Engine
