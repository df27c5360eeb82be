import DoomSat.Proofs.GameLoop.Order
import DoomSat.Support.Block
import Mathlib.Order.Monotone.Defs

/-!
# `DoomSat.Proofs.GameLoop.Clock`: the tic loop keeps up with the clock

The results here are about a clock that goes forward, and for at most `UPTIME_MAX`
milliseconds: `GetAdjustedTime` multiplies the time by 35 as an `int`, so the program has
undefined behaviour after some 17 hours (`getAdjustedTime_eq_error`).

`TimeInv clock settings k st` adds the clock to `LoopInv`: the commands built so far are not
more than the tics that have passed. `runLoop_within_clock` is the theorem about every run:
there is no overflow, and the game never runs ahead of the clock.
-/

set_option autoImplicit false

namespace DoomSat.Engine

open Support

/-- The largest time in milliseconds that `GetAdjustedTime` can multiply by `TICRATE`, some 17
hours. With one millisecond more it overflows (`getAdjustedTime_eq_error`). -/
def UPTIME_MAX : Nat := 61356675

/-- A clock that goes forward, for at most `UPTIME_MAX` milliseconds. -/
structure ForwardClock (clock : Nat → UInt32) : Prop where
  mono : Monotone fun n => (clock n).toNat
  uptime : ∀ n, (clock n).toNat ≤ (clock 0).toNat + UPTIME_MAX

/-- A value within the bounds of `int` is kept. The bounds are written as numerals, so that the
callers close both sides with `omega` and never unfold `INT_MIN` and `INT_MAX`. -/
theorem int_of_bounds {n : Int} (hlo : -2147483648 ≤ n) (hhi : n ≤ 2147483647) :
    int n = .ok n := by
  unfold int INT_MIN INT_MAX
  exact if_pos ⟨hlo, hhi⟩

/-- The same for the upper bound alone. `Proofs.GameLoop.Order` states its conditions against
overflow with `INT_MAX`. -/
theorem le_INT_MAX {n : Int} (h : n ≤ 2147483647) : n ≤ INT_MAX := by
  unfold INT_MAX
  exact h

variable {γ : Type}

/-! ### Readings -/

section
variable (clock : Nat → UInt32) (settings : Settings)

/-- `basetime` after the next reading. -/
def baseTicks (st : Loop γ) : Nat := (readTicks clock st).basetime.toNat

/-- The time of the next reading, in milliseconds. -/
def nextMs (st : Loop γ) : Nat := (clock st.reads).toNat - baseTicks clock st

/-- The tics of `ticdup` units in a time in milliseconds. -/
def ticsOf (ms : Nat) : Nat := ms * TICRATE / 1000 / settings.ticdup

/-- `basetime` is an early reading, or there was no reading but 0. -/
def BaseInv (st : Loop γ) : Prop :=
  st.basetime = 0 ∨
    (clock 0).toNat ≤ st.basetime.toNat ∧ st.basetime.toNat ≤ (clock st.reads).toNat

end

section
variable {clock : Nat → UInt32} {settings : Settings} {st : Loop γ}

/-- The first reading other than 0 becomes the base time. Until then `basetime` is 0, and the
next reading is its own base. -/
theorem baseTicks_of_zero (h : st.basetime = 0) :
    baseTicks clock st = (clock st.reads).toNat := by
  unfold baseTicks readTicks
  rw [if_pos h]

/-- Once the base time is set, no reading changes it (`I_GetTicks` tests `basetime == 0`). -/
theorem baseTicks_of_ne (h : st.basetime ≠ 0) : baseTicks clock st = st.basetime.toNat := by
  unfold baseTicks readTicks
  rw [if_neg h]

/-- The base is not later than the next reading, so the subtraction in `I_GetTicks` does not
wrap around. -/
theorem BaseInv.baseTicks_le (h : BaseInv clock st) :
    baseTicks clock st ≤ (clock st.reads).toNat := by
  by_cases hzero : st.basetime = 0
  · rw [baseTicks_of_zero hzero]
  · rw [baseTicks_of_ne hzero]
    exact (h.resolve_left hzero).2

/-- The base is not earlier than the first reading. So the time since the base is at most the
time since the program started, which `ForwardClock.uptime` bounds. -/
theorem BaseInv.le_baseTicks (h : BaseInv clock st) (hclock : ForwardClock clock) :
    (clock 0).toNat ≤ baseTicks clock st := by
  by_cases hzero : st.basetime = 0
  · rw [baseTicks_of_zero hzero]
    exact hclock.mono (Nat.zero_le _)
  · rw [baseTicks_of_ne hzero]
    exact (h.resolve_left hzero).1

/-- The time of the next reading stays within `UPTIME_MAX`. Every bound against overflow below
starts from this one. -/
theorem BaseInv.nextMs_le (h : BaseInv clock st) (hclock : ForwardClock clock) :
    nextMs clock st ≤ UPTIME_MAX := by
  have hbase := h.le_baseTicks hclock
  have huptime := hclock.uptime st.reads
  unfold nextMs
  omega

/-- The unsigned difference of `I_GetTicks` is the difference of the numbers: the base is an
earlier reading, so nothing is borrowed. -/
theorem elapsedTicks_toNat (h : BaseInv clock st) :
    (elapsedTicks clock st).toNat = nextMs clock st :=
  UInt32.toNat_sub_of_le _ _ (UInt32.le_iff_toNat_le.mpr h.baseTicks_le)

/-- A reading keeps `BaseInv`. If it sets the base time, the base is this reading, and the next
one is not earlier. -/
theorem BaseInv.readTicks (h : BaseInv clock st) (hclock : ForwardClock clock) :
    BaseInv clock (readTicks clock st) := by
  have hstep : (clock st.reads).toNat ≤ (clock (st.reads + 1)).toNat :=
    hclock.mono (Nat.le_succ _)
  exact Or.inr ⟨h.le_baseTicks hclock, h.baseTicks_le.trans hstep⟩

/-- The next reading gives no earlier time. While the base time is 0 the time is 0. Afterwards
the base is fixed, and the clock goes forward. -/
theorem nextMs_mono (hclock : ForwardClock clock) (st : Loop γ) :
    nextMs clock st ≤ nextMs clock (readTicks clock st) := by
  have hstep : (clock st.reads).toNat ≤ (clock (st.reads + 1)).toNat :=
    hclock.mono (Nat.le_succ _)
  unfold nextMs
  -- The base of the two readings can differ only while it is not set.
  by_cases hzero : st.basetime = 0
  · rw [baseTicks_of_zero hzero, Nat.sub_self]
    exact Nat.zero_le _
  · -- The base is fixed by now.
    have hsame : (readTicks clock st).basetime = st.basetime := if_neg hzero
    have hne : (readTicks clock st).basetime ≠ 0 := by rw [hsame]; exact hzero
    rw [baseTicks_of_ne hzero, baseTicks_of_ne hne, hsame]
    exact Nat.sub_le_sub_right hstep _

/-- `I_GetTime` does not wrap around. It multiplies the milliseconds by 35 as an unsigned value,
and `UPTIME_MAX * 35` is below 2^32. -/
theorem iGetTime_eq (h : BaseInv clock st) (hclock : ForwardClock clock) :
    iGetTime clock st = (((nextMs clock st * TICRATE / 1000 : Nat) : Int), readTicks clock st) := by
  have hms := h.nextMs_le hclock
  unfold UPTIME_MAX at hms
  unfold iGetTime
  congr 2
  rw [UInt32.toNat_div, UInt32.toNat_mul, elapsedTicks_toNat h]
  show nextMs clock st * 35 % 4294967296 / 1000 = nextMs clock st * 35 / 1000
  rw [Nat.mod_eq_of_lt (by omega)]

/-- `I_GetTimeMS` returns the unsigned time as an `int`. The value is the same below 2^31, and
it is negative from there on. -/
theorem iGetTimeMS_fst (hlt : (elapsedTicks clock st).toNat < 2147483648) :
    (iGetTimeMS clock st).1 = (elapsedTicks clock st).toNat :=
  BitVec.toInt_eq_toNat_of_lt (by show 2 * (elapsedTicks clock st).toNat < 4294967296; omega)

/-- `GetAdjustedTime` does not overflow while the time is within `UPTIME_MAX`. It returns the
same tics as `I_GetTime`: without a server `offsetms` is 0. -/
theorem getAdjustedTime_eq (h : BaseInv clock st) (hclock : ForwardClock clock) :
    getAdjustedTime clock st
      = .ok (((nextMs clock st * TICRATE / 1000 : Nat) : Int), readTicks clock st) := by
  have hms := h.nextMs_le hclock
  rw [UPTIME_MAX, ← elapsedTicks_toNat h] at hms
  unfold getAdjustedTime
  rw [← elapsedTicks_toNat h]
  have htime : (iGetTimeMS clock st).1 = (elapsedTicks clock st).toNat :=
    iGetTimeMS_fst (by omega)
  generalize (elapsedTicks clock st).toNat = ms at htime hms ⊢
  show (int ((iGetTimeMS clock st).1 * TICRATE) >>= fun scaled =>
    .ok (scaled.tdiv 1000, readTicks clock st)) = _
  have hscaled : int ((ms : Int) * TICRATE) = .ok ((ms : Int) * TICRATE) :=
    int_of_bounds (by unfold TICRATE; omega) (by unfold TICRATE; omega)
  rw [htime, hscaled]
  rfl

/-- The bound of `ForwardClock` is the exact one, up to the wrap of the time to an `int`. -/
theorem getAdjustedTime_eq_error (hlo : UPTIME_MAX < (elapsedTicks clock st).toNat)
    (hhi : (elapsedTicks clock st).toNat < 2147483648) :
    getAdjustedTime clock st = .error .overflow := by
  have htime := iGetTimeMS_fst hhi
  unfold UPTIME_MAX at hlo
  unfold getAdjustedTime
  generalize (elapsedTicks clock st).toNat = ms at htime hlo hhi
  show (int ((iGetTimeMS clock st).1 * TICRATE) >>= fun scaled =>
    .ok (scaled.tdiv 1000, readTicks clock st)) = _
  have hover : int ((ms : Int) * TICRATE) = .error .overflow := by
    unfold int INT_MAX TICRATE
    exact if_neg fun h => by omega
  rw [htime, hover]
  rfl

end

/-! ### The invariant -/

/-- `k` commands were run, and the commands built so far are not more than the tics that
have passed. -/
structure TimeInv (clock : Nat → UInt32) (settings : Settings) (k : Nat) (st : Loop γ) :
    Prop where
  commands : LoopInv settings k st
  base : BaseInv clock st
  skiptics : st.skiptics = 0
  lasttime_le : st.lasttime ≤ ticsOf settings (nextMs clock st)
  maketic_le : (st.maketic : Int) ≤ st.lasttime
  oldentertics_nonneg : 0 ≤ st.oldentertics
  oldentertics_le : st.oldentertics ≤ UPTIME_MAX

section
variable {clock : Nat → UInt32} {settings : Settings} {k : Nat} {st : Loop γ}

/-- More milliseconds give no fewer tics. All three operations of `ticsOf` are monotone. -/
theorem ticsOf_mono (settings : Settings) {ms ms' : Nat} (h : ms ≤ ms') :
    ticsOf settings ms ≤ ticsOf settings ms' :=
  Nat.div_le_div_right (Nat.div_le_div_right (Nat.mul_le_mul_right _ h))

/-- All the tics that have passed are fewer than an `int` holds. -/
theorem ticdup_mul_ticsOf_le {ms : Nat} (h : ms ≤ UPTIME_MAX) :
    settings.ticdup * ticsOf settings ms ≤ 2147483 := by
  unfold UPTIME_MAX at h
  have hscaled : ms * TICRATE / 1000 ≤ 2147483 := by
    unfold TICRATE
    omega
  exact (Nat.mul_div_le _ _).trans hscaled

/-- The same bound for the tics in units of `ticdup`, which is the unit of `lasttime` and of
`maketic`. -/
theorem ticsOf_le (settings : Settings) {ms : Nat} (h : ms ≤ UPTIME_MAX) :
    ticsOf settings ms ≤ 2147483 :=
  (Nat.le_mul_of_pos_left _ settings.ticdup_pos).trans (ticdup_mul_ticsOf_le h)

/-- `lasttime` is never negative: it is at least the number of commands. -/
theorem TimeInv.lasttime_nonneg (h : TimeInv clock settings k st) : 0 ≤ st.lasttime := by
  have := h.maketic_le
  omega

/-- `lasttime` is at most the tics of the longest uptime. So the differences that `NetUpdate`
and `TryRunTics` take of it fit in an `int`. -/
theorem TimeInv.lasttime_bound (h : TimeInv clock settings k st)
    (hclock : ForwardClock clock) : st.lasttime ≤ 2147483 := by
  have hle := h.lasttime_le
  have hbound := ticsOf_le settings (h.base.nextMs_le hclock)
  omega

/-- A command that waits can be run `ticdup` times without an overflow of `gametic`. The command
was built for a tic that has passed, and all of those are below the bound. -/
theorem TimeInv.gametic_bound (h : TimeInv clock settings k st) (hclock : ForwardClock clock)
    (hlt : k < st.maketic) : st.gametic + settings.ticdup ≤ 2147483 := by
  have hle := h.lasttime_le
  have hmade := h.maketic_le
  have hk : k + 1 ≤ ticsOf settings (nextMs clock st) := by omega
  calc st.gametic + settings.ticdup = settings.ticdup * (k + 1) := by
        rw [h.commands.gametic, Nat.mul_add, Nat.mul_one]
    _ ≤ settings.ticdup * ticsOf settings (nextMs clock st) := Nat.mul_le_mul_left _ hk
    _ ≤ 2147483 := ticdup_mul_ticsOf_le (h.base.nextMs_le hclock)

/-- Before the first call no tic has passed. -/
theorem timeInv_start (clock : Nat → UInt32) (settings : Settings) (game : γ) :
    TimeInv clock settings 0 (Loop.start game) where
  commands := loopInv_start settings game
  base := Or.inl rfl
  skiptics := rfl
  lasttime_le := Int.natCast_nonneg _
  maketic_le := Int.le_refl _
  oldentertics_nonneg := Int.le_refl _
  oldentertics_le := Int.natCast_nonneg _

/-- A reading keeps the invariant. Only `lasttime_le` speaks of the reading, and a later time
has no fewer tics (`nextMs_mono`). -/
theorem TimeInv.readTicks (h : TimeInv clock settings k st) (hclock : ForwardClock clock) :
    TimeInv clock settings k (readTicks clock st) where
  commands := h.commands.readTicks clock
  base := h.base.readTicks hclock
  skiptics := h.skiptics
  lasttime_le := h.lasttime_le.trans
    (Int.ofNat_le.mpr (ticsOf_mono settings (nextMs_mono hclock st)))
  maketic_le := h.maketic_le
  oldentertics_nonneg := h.oldentertics_nonneg
  oldentertics_le := h.oldentertics_le

/-- The time of the next reading depends on the reading counter and the base time only. -/
theorem nextMs_congr {st' : Loop γ} (h : SameClock st st') :
    nextMs clock st' = nextMs clock st := by
  unfold nextMs baseTicks Engine.readTicks
  rw [h.reads, h.basetime]

/-- A call that leaves the clock as it is keeps the invariant, when it builds no command for
a tic to come. -/
theorem TimeInv.of_sameClock (h : TimeInv clock settings k st) {k' : Nat} {st' : Loop γ}
    (hcommands : LoopInv settings k' st') (hclock : SameClock st st')
    (hmade : (st'.maketic : Int) ≤ st.lasttime) : TimeInv clock settings k' st' where
  commands := hcommands
  base := by
    unfold BaseInv
    rw [hclock.basetime, hclock.reads]
    exact h.base
  skiptics := hclock.skiptics.trans h.skiptics
  lasttime_le := by
    rw [hclock.lasttime, nextMs_congr hclock]
    exact h.lasttime_le
  maketic_le := hclock.lasttime ▸ hmade
  oldentertics_nonneg := hclock.oldentertics ▸ h.oldentertics_nonneg
  oldentertics_le := hclock.oldentertics ▸ h.oldentertics_le

/-- The code divides a signed time by `ticdup`. The time is not negative here, so this is the
quotient of naturals in `ticsOf`. -/
theorem tdiv_ticdup (settings : Settings) (ms : Nat) :
    ((ms * TICRATE / 1000 : Nat) : Int).tdiv settings.ticdup = ticsOf settings ms := rfl

/-! ### The calls -/

variable (interface : LoopInterface γ)

/-- The state in which `NetUpdate` builds its commands. -/
def updated (clock : Nat → UInt32) (settings : Settings) (st : Loop γ) : Loop γ :=
  { readTicks clock st with
    lasttime := ticsOf settings (nextMs clock st)
    skiptics := 0 }

/-- `NetUpdate` builds a command for each tic since its last call. The invariant excludes every
early exit of the code: no command is skipped, the time did not go back, and none of the two
subtractions overflows. -/
theorem netUpdate_eq (h : TimeInv clock settings k st) (hclock : ForwardClock clock)
    (hsingle : settings.singletics = false) :
    netUpdate clock settings interface st
      = buildTics settings interface
          ((ticsOf settings (nextMs clock st) : Int) - st.lasttime).toNat
          (updated clock settings st) := by
  have hle := h.lasttime_le
  have hbound := ticsOf_le settings (h.base.nextMs_le hclock)
  have hnonneg := h.lasttime_nonneg
  have hskip : (readTicks clock st).skiptics = 0 := h.skiptics
  unfold netUpdate
  rw [if_neg (by rw [hsingle]; decide), getAdjustedTime_eq h.base hclock, ok_bind]
  dsimp only
  -- The two checks are those of `nowtime - lasttime` and of `newtics - skiptics`.
  rw [tdiv_ticdup, int_of_bounds (by show _ ≤ _ - st.lasttime; omega)
    (by show _ - st.lasttime ≤ _; omega), ok_bind, hskip, Int.sub_zero,
    if_pos (by show 0 ≤ _ - st.lasttime; omega),
    int_of_bounds (by show _ ≤ _ - st.lasttime; omega)
    (by show _ - st.lasttime ≤ _; omega), ok_bind]
  rfl

/-- The state before the first command is built keeps the invariant. `lasttime` is now the time
of this reading, and the next reading is not earlier. -/
theorem TimeInv.updated (h : TimeInv clock settings k st) (hclock : ForwardClock clock) :
    TimeInv clock settings k (updated clock settings st) where
  commands := h.commands.congr rfl rfl rfl rfl rfl
  base := h.base.readTicks hclock
  skiptics := rfl
  lasttime_le := Int.ofNat_le.mpr (ticsOf_mono settings (nextMs_mono hclock st))
  maketic_le := h.maketic_le.trans h.lasttime_le
  oldentertics_nonneg := h.oldentertics_nonneg
  oldentertics_le := h.oldentertics_le

/-- `NetUpdate` keeps the invariant, and it builds as many commands as tics have passed while
there is room. The room is `ticLimit`: at most that many commands can wait for `k`, the next one
to run. -/
theorem netUpdate_timed (h : TimeInv clock settings k st) (hclock : ForwardClock clock)
    (hsingle : settings.singletics = false) :
    Ensures (netUpdate clock settings interface st)
      (fun st' => TimeInv clock settings k st' ∧ SameClock (Engine.updated clock settings st) st' ∧
        st'.maketic = min (st.maketic +
            ((ticsOf settings (nextMs clock st) : Int) - st.lasttime).toNat)
          (k + ticLimit settings))
      fun _ => False := by
  have hle := h.lasttime_le
  have hmade := h.maketic_le
  have hbound := ticsOf_le settings (h.base.nextMs_le hclock)
  rw [netUpdate_eq interface h hclock hsingle]
  generalize hnew : ((ticsOf settings (nextMs clock st) : Int) - st.lasttime).toNat = newtics
  -- All commands together are for tics that have passed. This is `maketic_le` of the new state.
  have hsum : (st.maketic + newtics : Int) ≤ ticsOf settings (nextMs clock st) := by omega
  refine (buildTics_ensures interface newtics (h.updated hclock).commands
    (Or.inl (le_INT_MAX ?_))).mono ?_ fun _ he => he
  · show (st.maketic + newtics : Int) ≤ _
    omega
  · rintro st' ⟨hcommands, hsame, hmaketic⟩
    have hmaketic : st'.maketic = min (st.maketic + newtics) (k + ticLimit settings) :=
      hmaketic
    refine ⟨(h.updated hclock).of_sameClock hcommands hsame ?_, hsame, hmaketic⟩
    show (st'.maketic : Int) ≤ ticsOf settings (nextMs clock st)
    omega

/-- The loop over `counts` keeps the invariant and runs `counts` commands. Each round runs one
command and then calls `NetUpdate`, which can only add commands. So a command that was there at
the start is still there when its round comes. -/
theorem runCounts_timed (hclock : ForwardClock clock) (hsingle : settings.singletics = false)
    {lowtic : Int} (counts : Nat) {k : Nat} {st : Loop γ} (h : TimeInv clock settings k st)
    (hlow : (k + counts : Int) ≤ lowtic) (hmade : lowtic ≤ st.maketic) :
    Ensures (runCounts clock settings interface lowtic counts st)
      (TimeInv clock settings (k + counts)) fun _ => False := by
  -- The induction is on the rounds that are left. `k` and the state change from round to round.
  induction counts generalizing k st with
  | zero => exact .ok h
  | succ counts ih =>
    have hlt : k < st.maketic := by omega
    have hgametic := h.commands.gametic
    have hbound := h.gametic_bound hclock hlt
    rw [runCounts, h.commands.gameticdiv, h.commands.clear]
    -- The command is run `ticdup` times. Only `gametic` and the game change.
    refine (runDuplicates_ensures interface (k := k) settings.ticdup (by omega)
      (by rw [hgametic]) (by rw [hgametic, Nat.mul_add, Nat.mul_one])
      (Or.inl (le_INT_MAX (by omega)))).bind ?_
    rintro _ ⟨game, rfl⟩
    have hrun := h.of_sameClock (h.commands.run hlt game) ⟨rfl, rfl, rfl, rfl, rfl⟩ h.maketic_le
    refine (netUpdate_timed interface hrun hclock hsingle).bind ?_
    rintro st' ⟨h', -, hmaketic⟩
    have hmaketic : st'.maketic = min (st.maketic + _) (k + 1 + ticLimit settings) := hmaketic
    have hle := hrun.commands.bound
    have hle : st.maketic ≤ k + 1 + ticLimit settings := hle
    rw [Nat.add_comm counts 1, ← Nat.add_assoc]
    exact ih h' (by push_cast; omega) (by omega)

/-- The loop that waits keeps the invariant. When it ends with a `lowtic`, the commands to run
are there. The only stop is the end of the fuel, which stands for a clock that does not move on. -/
theorem waitTics_timed (hclock : ForwardClock clock) (hsingle : settings.singletics = false)
    {entertic counts : Int} (fuel : Nat) {lowtic : Int} {st : Loop γ}
    (h : TimeInv clock settings k st) (hmade : lowtic ≤ st.maketic)
    (hpos : 1 ≤ counts) (hcounts : k + counts ≤ max (k + 1) st.maketic) :
    Ensures (waitTics clock settings interface entertic counts fuel lowtic st)
      (fun next => TimeInv clock settings k next.2 ∧
        ∀ lowtic', next.1 = some lowtic' → k + counts ≤ lowtic' ∧ lowtic' ≤ next.2.maketic)
      fun stop => stop = .waiting := by
  have hlast := h.lasttime_bound hclock
  have hmake := h.maketic_le
  have hk := h.commands.le
  have htarget : int ((k : Nat) + counts) = .ok ((k : Nat) + counts) :=
    int_of_bounds (by omega) (by omega)
  induction fuel generalizing lowtic st with
  | zero =>
    rw [waitTics, h.commands.gameticdiv, htarget, ok_bind]
    split
    · next hready =>
      refine .ok ⟨h, ?_⟩
      rintro _ ⟨⟩
      exact ⟨by omega, hmade⟩
    · exact .error rfl
  | succ fuel ih =>
    rw [waitTics, h.commands.gameticdiv, htarget, ok_bind]
    split
    · next hready =>
      refine .ok ⟨h, ?_⟩
      rintro _ ⟨⟩
      exact ⟨by omega, hmade⟩
    · refine Ensures.bind ((netUpdate_timed interface h hclock hsingle).mono (fun _ h' => h')
        fun _ he => he.elim) ?_
      rintro st' ⟨h', -, hmaketic⟩
      have hle := h'.commands.le
      have hbound := h.commands.bound
      have hgrow : (st.maketic : Int) ≤ st'.maketic := by omega
      have hread := h'.readTicks hclock
      dsimp only
      rw [h'.commands.gameticdiv, if_neg (by omega)]
      split
      · split
        · exact .ok ⟨hread, fun _ he => by cases he⟩
        · have hsame : (readTicks clock st').maketic = st'.maketic := rfl
          exact ih hread (Int.le_refl _) (by show _ ≤ ((max _ st'.maketic : Nat) : Int); omega)
            (hread.lasttime_bound hclock) hread.maketic_le hread.commands.le
      · exact ih h' (Int.le_refl _) (by omega) (h'.lasttime_bound hclock) h'.maketic_le hle

/-- `TryRunTics` asks for no more commands than there are, or for one that is not there yet.
This is what `waitTics_timed` needs, so that the target of the loop fits in an `int`. -/
theorem countTics_le (settings : Settings) (realtics availabletics : Int) :
    countTics settings realtics availabletics ≤ max 1 availabletics := by
  unfold countTics
  dsimp only
  split
  · omega
  · split
    · omega
    · split
      · omega
      · split <;> omega

/-- The entry of `TryRunTics`. -/
def entered (clock : Nat → UInt32) (settings : Settings) (st : Loop γ) : Loop γ :=
  { readTicks clock st with oldentertics := ticsOf settings (nextMs clock st) }

/-- The entry of `TryRunTics` keeps the invariant. `oldentertics` becomes the time of this
reading, which is within the bound. -/
theorem TimeInv.entered (h : TimeInv clock settings k st) (hclock : ForwardClock clock) :
    TimeInv clock settings k (entered clock settings st) where
  commands := h.commands.congr rfl rfl rfl rfl rfl
  base := h.base.readTicks hclock
  skiptics := h.skiptics
  lasttime_le := (h.readTicks hclock).lasttime_le
  maketic_le := h.maketic_le
  oldentertics_nonneg := Int.natCast_nonneg _
  oldentertics_le := by
    have hbound := ticsOf_le settings (h.base.nextMs_le hclock)
    show ((ticsOf settings (nextMs clock st) : Nat) : Int) ≤ ((61356675 : Nat) : Int)
    omega

/-- Without `-timedemo`, `TryRunTics` reads the clock, builds the new commands and runs what is
there. The value of `realtics` does not matter to the callers of this lemma, only that its
subtraction does not overflow. -/
theorem tryRunTics_eq (h : TimeInv clock settings k st) (hclock : ForwardClock clock)
    (hsingle : settings.singletics = false) (fuel : Nat) :
    ∃ realtics, tryRunTics clock settings interface fuel st
      = netUpdate clock settings interface (Engine.entered clock settings st) >>=
        runAvailable clock settings interface (ticsOf settings (nextMs clock st)) realtics
          fuel := by
  have hbound := ticsOf_le settings (h.base.nextMs_le hclock)
  have hlo := h.oldentertics_nonneg
  have hhi := h.oldentertics_le
  unfold UPTIME_MAX at hhi
  refine ⟨ticsOf settings (nextMs clock st) - st.oldentertics, ?_⟩
  unfold tryRunTics buildNewTics
  rw [iGetTime_eq h.base hclock]
  dsimp only
  rw [tdiv_ticdup, int_of_bounds (by show _ ≤ _ - st.oldentertics; omega)
    (by show _ - st.oldentertics ≤ _; omega), ok_bind, if_neg (by rw [hsingle]; decide)]
  rfl

/-- The rest of `TryRunTics` keeps the invariant. It waits for the commands it wants to run, and
then runs them, unless it returned from the wait without a tic. -/
theorem runAvailable_timed (hclock : ForwardClock clock)
    (hsingle : settings.singletics = false) (entertic realtics : Int) (fuel : Nat)
    (h : TimeInv clock settings k st) :
    Ensures (runAvailable clock settings interface entertic realtics fuel st)
      (fun st' => ∃ k', TimeInv clock settings k' st') fun stop => stop = .waiting := by
  unfold runAvailable
  dsimp only
  rw [h.commands.gameticdiv]
  have hpos := countTics_pos settings realtics (st.maketic - k)
  have hle := countTics_le settings realtics (st.maketic - k)
  generalize countTics settings realtics (st.maketic - k) = counts at hpos hle
  refine (waitTics_timed interface hclock hsingle fuel h (Int.le_refl _) hpos
    (by omega)).bind ?_
  rintro ⟨lowtic, st'⟩ ⟨h', hlow⟩
  -- `none` is the early return after `MAX_NETGAME_STALL_TICS` tics of waiting.
  cases lowtic with
  | none => exact .ok ⟨k, h'⟩
  | some lowtic =>
    obtain ⟨hcounts, hmade⟩ := hlow lowtic rfl
    refine (runCounts_timed interface hclock hsingle _ h' ?_ hmade).mono (fun _ h => ⟨_, h⟩)
      fun _ he => he.elim
    rw [Int.toNat_of_nonneg (by omega)]
    exact hcounts

/-- Every call keeps the invariant, and it does not stop but while it waits. `D_StartGameLoop`
sets `lasttime` to the time of its own reading, which is what `lasttime_le` asks for. -/
theorem loopStep_timed (h : TimeInv clock settings k st) (hclock : ForwardClock clock)
    (hsingle : settings.singletics = false) (call : LoopCall) :
    Ensures (loopStep clock settings interface st call)
      (fun st' => ∃ k', TimeInv clock settings k' st') fun stop => stop = .waiting := by
  cases call with
  | netUpdate =>
    exact (netUpdate_timed interface h hclock hsingle).mono (fun _ h' => ⟨k, h'.1⟩)
      fun _ he => he.elim
  | tryRunTics fuel =>
    obtain ⟨realtics, heq⟩ := tryRunTics_eq interface h hclock hsingle fuel
    show Ensures (tryRunTics clock settings interface fuel st) _ _
    rw [heq]
    refine Ensures.bind ((netUpdate_timed interface (h.entered hclock) hclock hsingle).mono
      (fun _ h' => h'.1) fun _ he => he.elim) fun st' h' => ?_
    exact runAvailable_timed interface hclock hsingle _ realtics fuel h'
  | dStartGameLoop =>
    show Ensures (dStartGameLoop clock settings st) _ _
    unfold dStartGameLoop
    rw [getAdjustedTime_eq h.base hclock, ok_bind]
    refine .ok ⟨k, ?_⟩
    exact {
      commands := h.commands.congr rfl rfl rfl rfl rfl
      base := h.base.readTicks hclock
      skiptics := h.skiptics
      lasttime_le := Int.ofNat_le.mpr (ticsOf_mono settings (nextMs_mono hclock st))
      maketic_le := h.maketic_le.trans h.lasttime_le
      oldentertics_nonneg := h.oldentertics_nonneg
      oldentertics_le := h.oldentertics_le }
  | iGetTime => exact .ok ⟨k, h.readTicks hclock⟩

/-- Every run keeps the invariant: it holds before the first call, and `loopStep_timed` is the
step. -/
theorem runLoop_timed (hclock : ForwardClock clock) (hsingle : settings.singletics = false)
    (game : γ) (calls : List LoopCall) :
    Ensures (runLoop clock settings interface game calls)
      (fun st => ∃ k, TimeInv clock settings k st) fun stop => stop = .waiting := by
  refine ensures_foldlM ?_ calls ⟨0, timeInv_start clock settings game⟩
  rintro st call ⟨k, h⟩
  exact loopStep_timed interface h hclock hsingle call

end

/-! ### Every run -/

/-- The commands that are built, and so the tics that are run, are not more than the tics of the
clock since the program started. One tic is 1000/35 ms, so the second part is multiplied out. -/
theorem TimeInv.within_clock {clock : Nat → UInt32} {settings : Settings} {k : Nat}
    {st : Loop γ} (h : TimeInv clock settings k st) (hclock : ForwardClock clock) :
    st.gametic ≤ settings.ticdup * st.maketic ∧
      settings.ticdup * st.maketic * 1000
        ≤ TICRATE * ((clock st.reads).toNat - (clock 0).toNat) := by
  have hlast := h.lasttime_le
  have hmade := h.maketic_le
  have hbase := h.base.le_baseTicks hclock
  refine ⟨h.commands.gametic ▸ Nat.mul_le_mul_left _ h.commands.le, ?_⟩
  have hms : nextMs clock st ≤ (clock st.reads).toNat - (clock 0).toNat := by
    unfold nextMs
    omega
  calc settings.ticdup * st.maketic * 1000
      ≤ settings.ticdup * ticsOf settings (nextMs clock st) * 1000 := by
        exact Nat.mul_le_mul_right _ (Nat.mul_le_mul_left _ (by omega))
    _ ≤ nextMs clock st * TICRATE / 1000 * 1000 := by
        exact Nat.mul_le_mul_right _ (Nat.mul_div_le _ _)
    _ ≤ nextMs clock st * TICRATE := Nat.div_mul_le_self _ _
    _ ≤ TICRATE * ((clock st.reads).toNat - (clock 0).toNat) := by
        rw [Nat.mul_comm]
        exact Nat.mul_le_mul_left _ hms

/-- Without `-timedemo`, and with a clock that goes forward for at most `UPTIME_MAX`
milliseconds, no run has an overflow. The commands built are not more than the tics of the
clock, so the game never runs ahead of the clock. -/
theorem runLoop_within_clock {clock : Nat → UInt32} (hclock : ForwardClock clock)
    {settings : Settings} (hsingle : settings.singletics = false) (interface : LoopInterface γ)
    (game : γ) (calls : List LoopCall) :
    Ensures (runLoop clock settings interface game calls)
      (fun st => st.gametic ≤ settings.ticdup * st.maketic ∧
        settings.ticdup * st.maketic * 1000
          ≤ TICRATE * ((clock st.reads).toNat - (clock 0).toNat))
      fun stop => stop = .waiting := by
  refine (runLoop_timed interface hclock hsingle game calls).mono ?_ fun _ he => he
  rintro st ⟨k, h⟩
  exact h.within_clock hclock

/-- A clock that moves on by 20 ms with each reading, up to two seconds. -/
def steadyClock (n : Nat) : UInt32 := UInt32.ofNat (min (20 * (n + 1)) 2000)

/-- Callbacks that do nothing and build empty commands. -/
def idleInterface : LoopInterface Unit where
  iStartTic := id
  processEvents := id
  runMenu := id
  buildTiccmd game _ := (.zero, game)
  runTic game _ _ := game

/-- The options without `-dup`, `-oldsync` and `-timedemo`. -/
def defaultSettings : Settings where
  ticdup := 1
  ticdup_pos := Nat.one_pos
  newSync := true
  singletics := false
  localplayer := singlePlayer

/-- The clock as a natural number. No reading is near 2^32. -/
theorem toNat_steadyClock (n : Nat) : (steadyClock n).toNat = min (20 * (n + 1)) 2000 := by
  show min (20 * (n + 1)) 2000 % 4294967296 = _
  omega

/-- The clock satisfies `ForwardClock`: it never goes back, and it stops after two seconds. -/
theorem forwardClock_steadyClock : ForwardClock steadyClock where
  mono m n h := by
    show (steadyClock m).toNat ≤ (steadyClock n).toNat
    rw [toNat_steadyClock, toNat_steadyClock]
    omega
  uptime n := by
    rw [toNat_steadyClock]
    unfold UPTIME_MAX
    omega

/-- A game of three frames with the steady clock. -/
theorem runLoop_within_clock_steady :
    Ensures (runLoop steadyClock defaultSettings idleInterface ()
        [.tryRunTics 10, .dStartGameLoop, .tryRunTics 10, .netUpdate, .tryRunTics 10])
      (fun st => st.gametic ≤ 1 * st.maketic ∧
        1 * st.maketic * 1000 ≤ 35 * ((steadyClock st.reads).toNat - (steadyClock 0).toNat))
      fun stop => stop = .waiting :=
  runLoop_within_clock forwardClock_steadyClock rfl idleInterface () _

end DoomSat.Engine
