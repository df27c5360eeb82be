import DoomSat.Model.GameLoop
import DoomSat.Support.Outcome
import DoomSat.Support.SequenceWindow
import Mathlib.Data.List.Defs

/-!
# `DoomSat.Proofs.GameLoop.Order`: the tic loop runs the commands in order

`LoopInv settings k st` holds between two calls: `k` commands were run, and each of them
`ticdup` times. The commands that wait lie in the ring `ticdata`, at most `ticLimit` of
them.

`netUpdate_ensures` and `tryRunTics_ensures` show that every call keeps the invariant.
`runDuplicates_ensures` says what the loop over `ticdup` does to the ring and to the calls of
`RunTic`. `runTics_in_order` is the theorem about every run: no command is lost, repeated or
overwritten, and no call of `I_Error` is reached, whatever the clock says.
-/

set_option autoImplicit false

namespace DoomSat.Engine

open Support

/-! ### The tics of one command -/

section
variable (settings : Settings)

/-- The command of the local player, who is alone in the game. -/
def localSet (cmd : Ticcmd) : TiccmdSet := storeTiccmd settings cmd .zero

/-- The calls of `RunTic` for one command: the first one gets the command as it was built,
the others get it without chat character and special buttons. -/
def commandTics (cmd : Ticcmd) : List TiccmdSet :=
  localSet settings cmd
    :: List.replicate (settings.ticdup - 1) (ticdupSquash (localSet settings cmd))

/-- How many commands wait at most. -/
def ticLimit : Nat := if settings.newSync then 3 else 5

end

/-- A squashed set has nothing left to squash: the chat character and the special buttons are
cleared, and the rest is as it was. -/
theorem ticdupSquash_ticdupSquash (set : TiccmdSet) :
    ticdupSquash (ticdupSquash set) = ticdupSquash set := by
  ext1
  · funext i
    simp only [ticdupSquash]
    congr 1
    split <;> simp_all
  · rfl

/-- The duplicates of a squashed set are all equal. So only the first tic of a command differs
from the others. -/
theorem iterate_ticdupSquash (set : TiccmdSet) (n : Nat) :
    List.iterate ticdupSquash (ticdupSquash set) n = List.replicate n (ticdupSquash set) := by
  induction n with
  | zero => rfl
  | succ n ih =>
    show ticdupSquash set :: List.iterate ticdupSquash (ticdupSquash (ticdupSquash set)) n = _
    rw [ticdupSquash_ticdupSquash, ih]
    rfl

/-- The loop over `ticdup` makes the calls of `commandTics`. It runs the set and squashes it
afterwards, so the first call gets the command as it was built. -/
theorem iterate_localSet (settings : Settings) (cmd : Ticcmd) :
    List.iterate ticdupSquash (localSet settings cmd) settings.ticdup
      = commandTics settings cmd := by
  obtain ⟨n, hn⟩ : ∃ n, settings.ticdup = n + 1 :=
    ⟨settings.ticdup - 1, by have := settings.ticdup_pos; omega⟩
  rw [commandTics, hn, Nat.add_sub_cancel, ← iterate_ticdupSquash]
  rfl

/-! ### The invariant -/

/-- The program did not stop with a call of `I_Error`. -/
def Stop.NoError (stop : Stop) : Prop := ∀ message, stop ≠ .error message

/-- A checked `int` gives the number itself. Its only failure is the overflow, which is no call
of `I_Error`. -/
theorem int_ensures (n : Int) :
    Ensures (int n) (fun m => m = n) Stop.NoError := by
  unfold int
  split
  · exact .ok rfl
  · exact .error fun message h => by cases h

/-- An increment succeeds, or its overflow is one of the failures to expect. Here the overflow
is one (`Stop.noError_overflow`), and `DoomSat.Proofs.GameLoop.Clock` excludes it by a bound. -/
theorem increment_ensures {n : Nat} {fail : Stop → Prop}
    (h : (n + 1 : Int) ≤ INT_MAX ∨ fail .overflow) :
    Ensures (increment n) (fun m => m = n + 1) fail := by
  unfold increment
  split
  · exact .ok rfl
  · next hover => exact .error (h.resolve_left hover)

/-- An overflow is a stop without a message. -/
theorem Stop.noError_overflow : Stop.NoError .overflow := fun message h => by cases h

/-- A call that leaves the clock and its uses as they are. -/
structure SameClock {γ : Type} (st st' : Loop γ) : Prop where
  lasttime : st'.lasttime = st.lasttime
  skiptics : st'.skiptics = st.skiptics
  oldentertics : st'.oldentertics = st.oldentertics
  basetime : st'.basetime = st.basetime
  reads : st'.reads = st.reads

variable {γ : Type}

/-- Only the local player has commands. -/
def CleanSet (settings : Settings) (set : TiccmdSet) : Prop :=
  ∀ i, i ≠ settings.localplayer → set.cmds i = .zero ∧ set.ingame i = false

/-- `k` commands were run, and the commands from `k` on wait in the ring. -/
structure LoopInv (settings : Settings) (k : Nat) (st : Loop γ) : Prop where
  gametic : st.gametic = settings.ticdup * k
  maketic : st.maketic = st.built.length
  le : k ≤ st.maketic
  bound : st.maketic ≤ k + ticLimit settings
  clean : ∀ slot, CleanSet settings (st.ticdata slot)
  window : HoldsWindow st.ticdata (st.built.map (localSet settings)) k
  ran : st.ran = (st.built.take k).flatMap (commandTics settings)

/-- Before the first call nothing was run and nothing waits. The window of an empty list holds
for any content of the ring. -/
theorem loopInv_start (settings : Settings) (game : γ) :
    LoopInv settings 0 (Loop.start game) where
  gametic := rfl
  maketic := rfl
  le := Nat.zero_le _
  bound := Nat.zero_le _
  clean _ _ _ := ⟨rfl, rfl⟩
  window := holdsWindow_length _ _
  ran := rfl

section
variable {settings : Settings} {k : Nat} {st : Loop γ}

/-- `gametic / ticdup` is the number of commands that were run. The code computes this quotient
wherever it needs the number. -/
theorem LoopInv.gameticdiv (h : LoopInv settings k st) : st.gametic / settings.ticdup = k := by
  rw [h.gametic]
  exact Nat.mul_div_cancel_left k settings.ticdup_pos

/-- The invariant only looks at the commands. -/
theorem LoopInv.congr (h : LoopInv settings k st) {st' : Loop γ}
    (hticdata : st'.ticdata = st.ticdata) (hmaketic : st'.maketic = st.maketic)
    (hgametic : st'.gametic = st.gametic) (hbuilt : st'.built = st.built)
    (hran : st'.ran = st.ran) : LoopInv settings k st' where
  gametic := hgametic.trans h.gametic
  maketic := by rw [hmaketic, hbuilt, h.maketic]
  le := hmaketic ▸ h.le
  bound := hmaketic ▸ h.bound
  clean := hticdata ▸ h.clean
  window := by
    rw [hticdata, hbuilt]
    exact h.window
  ran := by rw [hran, hbuilt, h.ran]

/-- The writes to a clean set give the command of the local player alone. The cell may still
hold an old command of this player, which the writes replace. -/
theorem storeTiccmd_of_clean {set : TiccmdSet} (h : CleanSet settings set) (cmd : Ticcmd) :
    storeTiccmd settings cmd set = localSet settings cmd := by
  ext1
  · -- The commands, and then the flags `ingame`.
    funext i
    by_cases hi : i = settings.localplayer
    · rw [hi]
      simp [storeTiccmd, localSet]
    · simp only [storeTiccmd, localSet, Function.update_of_ne hi]
      exact (h i hi).1
  · funext i
    by_cases hi : i = settings.localplayer
    · rw [hi]
      simp [storeTiccmd, localSet]
    · simp only [storeTiccmd, localSet, Function.update_of_ne hi]
      exact (h i hi).2

/-- The set that `BuildNewTic` leaves is clean: it writes to the local player only. -/
theorem cleanSet_localSet (settings : Settings) (cmd : Ticcmd) :
    CleanSet settings (localSet settings cmd) := by
  intro i hi
  simp only [localSet, storeTiccmd, Function.update_of_ne hi]
  exact ⟨rfl, rfl⟩

/-- Squashing keeps a set clean. The squash of an empty command is the empty command. -/
theorem cleanSet_ticdupSquash {set : TiccmdSet} (h : CleanSet settings set) :
    CleanSet settings (ticdupSquash set) := by
  intro i hi
  simp only [ticdupSquash, (h i hi).1, (h i hi).2]
  exact ⟨rfl, trivial⟩

/-- A cell is squashed once for each tic, and it stays clean. -/
theorem cleanSet_iterate {set : TiccmdSet} (h : CleanSet settings set) (n : Nat) :
    CleanSet settings (ticdupSquash^[n] set) := by
  induction n with
  | zero => exact h
  | succ n ih =>
    rw [Function.iterate_succ_apply']
    exact cleanSet_ticdupSquash ih

/-- There is nothing to clear in a clean set: `SinglePlayerClear` resets `ingame` of the other
players, and none of them is in the game. -/
theorem singlePlayerClear_of_clean {set : TiccmdSet} (h : CleanSet settings set) :
    singlePlayerClear settings set = set := by
  ext1
  · rfl
  · funext i
    by_cases hi : i = settings.localplayer
    · simp [singlePlayerClear, hi]
    · simp [singlePlayerClear, hi, (h i hi).2]

/-! ### Building commands -/

/-- No command is built when `ticLimit` commands wait. `BuildNewTic` tests `> 2` with the new
synchronisation and `>= 5` with the old one. Its test `> 8` never decides. -/
theorem bufferFull_iff {k maketic : Nat} (hle : k ≤ maketic) :
    bufferFull settings (maketic - k) = true ↔ k + ticLimit settings ≤ maketic := by
  unfold bufferFull ticLimit
  -- The new synchronisation has two tests, the old one a single test.
  cases settings.newSync with
  | true =>
    simp
    omega
  | false =>
    simp
    omega

/-- A new command joins the commands that wait. The write goes to the cell of `maketic`, which
no command that waits uses: at most five wait, and the ring has 128 cells. -/
theorem LoopInv.build (h : LoopInv settings k st) (cmd : Ticcmd)
    (hroom : st.maketic < k + ticLimit settings) (game : γ) :
    LoopInv settings k { st with
      game := game
      ticdata := Function.update st.ticdata (Fin.ofNat BACKUPTICS st.maketic)
        (storeTiccmd settings cmd (st.ticdata (Fin.ofNat BACKUPTICS st.maketic)))
      maketic := st.maketic + 1
      built := st.built ++ [cmd] } := by
  have hlimit : ticLimit settings ≤ 5 := by
    unfold ticLimit
    split <;> omega
  have hlength : st.maketic = (st.built.map (localSet settings)).length := by
    rw [List.length_map]
    exact h.maketic
  refine ⟨h.gametic, ?_, Nat.le_succ_of_le h.le, hroom, ?_, ?_, ?_⟩
  · show st.maketic + 1 = (st.built ++ [cmd]).length
    rw [List.length_append, h.maketic]
    rfl
  · -- The cells: the one that is written becomes clean, the others are not touched.
    intro slot
    show CleanSet settings (Function.update st.ticdata _ _ slot)
    rw [storeTiccmd_of_clean (h.clean _)]
    by_cases hslot : slot = Fin.ofNat BACKUPTICS st.maketic
    · rw [hslot, Function.update_self]
      exact cleanSet_localSet settings cmd
    · rw [Function.update_of_ne hslot]
      exact h.clean slot
  · show HoldsWindow (Function.update st.ticdata _ _) ((st.built ++ [cmd]).map _) k
    rw [storeTiccmd_of_clean (h.clean _), List.map_append, hlength]
    apply h.window.store
    -- The ring has more cells than commands may wait.
    show (st.built.map (localSet settings)).length < k + 128
    omega
  · show st.ran = ((st.built ++ [cmd]).take k).flatMap _
    have hk : k ≤ st.built.length := h.maketic ▸ h.le
    rw [List.take_append_of_le_length hk]
    exact h.ran

variable (clock : Nat → UInt32) (interface : LoopInterface γ)

/-- `BuildNewTic` builds a command, unless the buffer is full. It returns false exactly in the
second case, and `NetUpdate` ends its loop then. -/
theorem buildNewTic_ensures {fail : Stop → Prop} (h : LoopInv settings k st)
    (hfail : (st.maketic + 1 : Int) ≤ INT_MAX ∨ fail .overflow) :
    Ensures (buildNewTic settings interface st)
      (fun next => LoopInv settings k next.2 ∧ SameClock st next.2 ∧
        next.2.maketic = min (st.maketic + 1) (k + ticLimit settings) ∧
        (next.1 = false → next.2.maketic = k + ticLimit settings)) fail := by
  have hbound := h.bound
  unfold buildNewTic
  dsimp only
  rw [h.gameticdiv]
  -- A full buffer leaves the commands as they are.
  split
  · next hfull =>
    rw [bufferFull_iff h.le] at hfull
    refine .ok ⟨h.congr rfl rfl rfl rfl rfl, ⟨rfl, rfl, rfl, rfl, rfl⟩, ?_, fun _ => ?_⟩
    · show st.maketic = _
      omega
    · show st.maketic = _
      omega
  · next hroom =>
    rw [bufferFull_iff h.le] at hroom
    refine (increment_ensures hfail).bind ?_
    rintro _ rfl
    refine .ok ⟨h.build _ (by omega) _, ⟨rfl, rfl, rfl, rfl, rfl⟩, ?_, fun hf => by cases hf⟩
    show st.maketic + 1 = _
    omega

/-- The loop of `NetUpdate` builds one command for each tic while there is room. A full buffer
ends the loop early, and the bound `k + ticLimit` covers both ends. -/
theorem buildTics_ensures {fail : Stop → Prop} (newtics : Nat) (h : LoopInv settings k st)
    (hfail : (st.maketic + newtics : Int) ≤ INT_MAX ∨ fail .overflow) :
    Ensures (buildTics settings interface newtics st)
      (fun st' => LoopInv settings k st' ∧ SameClock st st' ∧
        st'.maketic = min (st.maketic + newtics) (k + ticLimit settings)) fail := by
  induction newtics generalizing st with
  | zero =>
    have hbound := h.bound
    exact .ok ⟨h, ⟨rfl, rfl, rfl, rfl, rfl⟩, by omega⟩
  | succ newtics ih =>
    rw [buildTics]
    refine (buildNewTic_ensures interface h (hfail.imp_left fun _ => by omega)).bind ?_
    rintro ⟨built, st'⟩ ⟨h', hclock, hmaketic, hfull⟩
    dsimp only at h' hclock hmaketic hfull ⊢
    -- `false` is the `break` of the loop.
    cases built with
    | false =>
      have hfull := hfull rfl
      exact .ok ⟨h', hclock, by omega⟩
    | true =>
      show Ensures (buildTics settings interface newtics st') _ _
      refine (ih h' (hfail.imp_left fun _ => by omega)).mono ?_ fun _ he => he
      rintro st'' ⟨h'', hclock', hmaketic'⟩
      refine ⟨h'', ⟨hclock'.lasttime.trans hclock.lasttime,
        hclock'.skiptics.trans hclock.skiptics, hclock'.oldentertics.trans hclock.oldentertics,
        hclock'.basetime.trans hclock.basetime, hclock'.reads.trans hclock.reads⟩, by omega⟩

/-- A reading of the clock changes no command, so the invariant holds after it. -/
theorem LoopInv.readTicks (h : LoopInv settings k st) :
    LoopInv settings k (readTicks clock st) := h.congr rfl rfl rfl rfl rfl

/-- `GetAdjustedTime` keeps the invariant and the number of commands. Its multiplication may
overflow here: no bound on the clock is assumed. -/
theorem getAdjustedTime_ensures (h : LoopInv settings k st) :
    Ensures (getAdjustedTime clock st)
      (fun next => LoopInv settings k next.2 ∧ next.2.maketic = st.maketic)
      Stop.NoError :=
  (int_ensures _).bind fun _ _ => .ok ⟨h.readTicks clock, rfl⟩

/-- `NetUpdate` keeps the invariant and loses no command, whatever the clock says. It never
calls `I_Error`. -/
theorem netUpdate_ensures (h : LoopInv settings k st) :
    Ensures (netUpdate clock settings interface st)
      (fun st' => LoopInv settings k st' ∧ st.maketic ≤ st'.maketic) Stop.NoError := by
  -- Whatever number of tics has passed, only the loop changes the commands.
  have hbuild : ∀ (newtics : Nat) (st' : Loop γ), LoopInv settings k st' →
      st'.maketic = st.maketic → Ensures (buildTics settings interface newtics st')
        (fun st' => LoopInv settings k st' ∧ st.maketic ≤ st'.maketic) Stop.NoError := by
    intro newtics st' h' hmaketic
    refine (buildTics_ensures interface newtics h' (Or.inr Stop.noError_overflow)).mono ?_
      fun _ he => he
    rintro st'' ⟨h'', -, hmaketic'⟩
    have hbound := h'.bound
    exact ⟨h'', by omega⟩
  unfold netUpdate
  -- The first branch is `-timedemo`.
  split
  · exact .ok ⟨h, Nat.le_refl _⟩
  · refine (getAdjustedTime_ensures clock h).bind ?_
    rintro ⟨time, st'⟩ ⟨h', hmaketic⟩
    refine (int_ensures _).bind fun newtics _ => ?_
    dsimp only
    split
    · exact (int_ensures _).bind fun tics _ =>
        hbuild _ _ (h'.congr rfl rfl rfl rfl rfl) hmaketic
    · exact (int_ensures _).bind fun skiptics _ =>
        hbuild 0 _ (h'.congr rfl rfl rfl rfl rfl) hmaketic

/-! ### Running tics -/

/-- The loop over `ticdup` runs the command in `slot` for `n` tics. It changes nothing but
`gametic`, the ring and the game. Its check `gametic/ticdup > lowtic` never fails, since the
quotient is `k` in all of these tics. -/
theorem runDuplicates_ensures {fail : Stop → Prop} {slot : Fin BACKUPTICS} {lowtic : Int}
    (n : Nat) {st : Loop γ} (hlow : (k : Int) ≤ lowtic)
    (hfrom : settings.ticdup * k ≤ st.gametic)
    (hto : st.gametic + n ≤ settings.ticdup * (k + 1))
    (hfail : (st.gametic + n : Int) ≤ INT_MAX ∨ fail .overflow) :
    Ensures (runDuplicates settings interface slot lowtic n st)
      (fun st' => ∃ game, st' = { st with
        game := game
        gametic := st.gametic + n
        ran := st.ran ++ List.iterate ticdupSquash (st.ticdata slot) n
        ticdata := Function.update st.ticdata slot (ticdupSquash^[n] (st.ticdata slot)) })
      fail := by
  induction n generalizing st with
  | zero =>
    refine .ok ⟨st.game, ?_⟩
    simp
  | succ n ih =>
    -- All these tics belong to the command `k`.
    have hdiv : st.gametic / settings.ticdup = k := by
      rw [Nat.div_eq_iff settings.ticdup_pos]
      rw [Nat.mul_add, Nat.mul_one] at hto
      rw [Nat.mul_comm] at hfrom hto
      omega
    rw [runDuplicates, hdiv, if_neg (Int.not_lt.mpr hlow)]
    refine (increment_ensures (hfail.imp_left fun _ => by omega)).bind ?_
    rintro _ rfl
    -- The state after the first tic has the same hypotheses for the `n` tics that are left.
    refine (ih (by show _ ≤ st.gametic + 1; omega) (by show st.gametic + 1 + n ≤ _; omega)
      (hfail.imp_left fun _ => by push_cast; omega)).mono ?_ fun _ he => he
    rintro st' ⟨game, rfl⟩
    refine ⟨game, ?_⟩
    simp only [Function.update_self, Function.update_idem, Function.iterate_succ_apply,
      List.iterate, List.append_assoc, List.singleton_append, Nat.add_assoc, Nat.add_comm 1 n]

/-- A command that waits is run, and its cell becomes free. The cell holds the command that was
built as number `k`: this is what `HoldsWindow` says, and it is why no command is repeated or
overwritten. -/
theorem LoopInv.run (h : LoopInv settings k st) (hlt : k < st.maketic) (game : γ) :
    LoopInv settings (k + 1) { st with
      game := game
      gametic := st.gametic + settings.ticdup
      ran := st.ran ++ List.iterate ticdupSquash (st.ticdata (Fin.ofNat BACKUPTICS k))
        settings.ticdup
      ticdata := Function.update st.ticdata (Fin.ofNat BACKUPTICS k)
        (ticdupSquash^[settings.ticdup] (st.ticdata (Fin.ofNat BACKUPTICS k))) } := by
  have hlimit : ticLimit settings ≤ 5 := by
    unfold ticLimit
    split <;> omega
  have hbound := h.bound
  obtain ⟨cmd, hcmd⟩ : ∃ cmd, st.built[k]? = some cmd :=
    ⟨_, List.getElem?_eq_getElem (h.maketic ▸ hlt)⟩
  have hcell : st.ticdata (Fin.ofNat BACKUPTICS k) = localSet settings cmd :=
    h.window k _ (Nat.le_refl _) (by rw [List.getElem?_map, hcmd]; rfl)
  refine ⟨?_, h.maketic, hlt, by show st.maketic ≤ _; omega, ?_, ?_, ?_⟩
  · show st.gametic + settings.ticdup = _
    rw [h.gametic, Nat.mul_add, Nat.mul_one]
  · -- The cell of `k` was squashed, and stays clean.
    intro slot
    show CleanSet settings (Function.update st.ticdata _ _ slot)
    by_cases hslot : slot = Fin.ofNat BACKUPTICS k
    · rw [hslot, Function.update_self]
      exact cleanSet_iterate (h.clean _) settings.ticdup
    · rw [Function.update_of_ne hslot]
      exact h.clean slot
  · -- The rest of the window does not use this cell.
    apply h.window.drop
    show (st.built.map (localSet settings)).length ≤ k + 128
    rw [List.length_map, ← h.maketic]
    omega
  · -- The calls made are those of the command `k`.
    show st.ran ++ List.iterate ticdupSquash (st.ticdata _) settings.ticdup = _
    rw [hcell, iterate_localSet, h.ran]
    show _ = (st.built.take (k + 1)).flatMap _
    rw [List.take_add_one, hcmd, List.flatMap_append]
    simp

/-- `SinglePlayerClear` writes the content of a cell back, because every cell is clean. -/
theorem LoopInv.clear (h : LoopInv settings k st) (slot : Fin BACKUPTICS) :
    { st with
      ticdata := Function.update st.ticdata slot
        (singlePlayerClear settings (st.ticdata slot)) } = st := by
  rw [singlePlayerClear_of_clean (h.clean slot), Function.update_eq_self]

/-- The loop over `counts` runs the next `counts` commands. All of them wait at the start, and
`NetUpdate` only adds others, so `k` is below `maketic` in every round. -/
theorem runCounts_ensures {lowtic : Int} (counts : Nat) {k : Nat} {st : Loop γ}
    (h : LoopInv settings k st) (hlow : (k + counts : Int) ≤ lowtic)
    (hmade : lowtic ≤ st.maketic) :
    Ensures (runCounts clock settings interface lowtic counts st)
      (LoopInv settings (k + counts)) Stop.NoError := by
  -- The induction is on the rounds that are left, for any `k` and any state.
  induction counts generalizing k st with
  | zero => exact .ok h
  | succ counts ih =>
    have hlt : k < st.maketic := by omega
    have hgametic := h.gametic
    rw [runCounts, h.gameticdiv, h.clear]
    refine (runDuplicates_ensures interface (k := k) settings.ticdup (by omega)
      (by rw [hgametic]) (by rw [hgametic, Nat.mul_add, Nat.mul_one])
      (Or.inr Stop.noError_overflow)).bind ?_
    rintro _ ⟨game, rfl⟩
    refine (netUpdate_ensures clock interface (h.run hlt game)).bind ?_
    rintro st' ⟨h', hle⟩
    have hle : st.maketic ≤ st'.maketic := hle
    rw [Nat.add_comm counts 1, ← Nat.add_assoc]
    exact ih h' (by push_cast; omega) (by omega)

/-- The loop that waits ends with enough commands, or without a tic. The check `lowtic <
gametic` never fails: `lowtic` is the number of commands, which is at least `k`. -/
theorem waitTics_ensures (entertic counts : Int) (fuel : Nat) {lowtic : Int} {st : Loop γ}
    (h : LoopInv settings k st) (hmade : lowtic ≤ st.maketic) :
    Ensures (waitTics clock settings interface entertic counts fuel lowtic st)
      (fun next => LoopInv settings k next.2 ∧
        ∀ lowtic', next.1 = some lowtic' → k + counts ≤ lowtic' ∧ lowtic' ≤ next.2.maketic)
      Stop.NoError := by
  -- The fuel bounds the rounds. At its end the program still waits, which is no error.
  induction fuel generalizing lowtic st with
  | zero =>
    rw [waitTics, h.gameticdiv]
    refine (int_ensures _).bind ?_
    rintro _ rfl
    split
    · next hready =>
      refine .ok ⟨h, ?_⟩
      rintro _ ⟨⟩
      exact ⟨by omega, hmade⟩
    · exact .error fun message he => by cases he
  | succ fuel ih =>
    rw [waitTics, h.gameticdiv]
    refine (int_ensures _).bind ?_
    rintro _ rfl
    split
    · next hready =>
      refine .ok ⟨h, ?_⟩
      rintro _ ⟨⟩
      exact ⟨by omega, hmade⟩
    · refine (netUpdate_ensures clock interface h).bind ?_
      rintro st' ⟨h', -⟩
      dsimp only
      rw [h'.gameticdiv]
      have hle := h'.le
      rw [if_neg (by omega)]
      split
      · split
        · exact .ok ⟨h'.readTicks clock, fun _ he => by cases he⟩
        · exact ih (h'.readTicks clock) (Int.le_refl _)
      · exact ih h' (Int.le_refl _)

/-- The start of `TryRunTics` keeps the invariant, with and without `-timedemo`. -/
theorem buildNewTics_ensures (h : LoopInv settings k st) :
    Ensures (buildNewTics clock settings interface st)
      (fun st' => LoopInv settings k st' ∧ st.maketic ≤ st'.maketic) Stop.NoError := by
  unfold buildNewTics
  split
  · refine (buildNewTic_ensures interface h (Or.inr Stop.noError_overflow)).bind ?_
    rintro next ⟨h', -, hmaketic, -⟩
    have hbound := h.bound
    exact .ok ⟨h', by omega⟩
  · exact netUpdate_ensures clock interface h

/-- At least one command is to be run: `TryRunTics` raises `counts` to 1 at the end. -/
theorem countTics_pos (settings : Settings) (realtics availabletics : Int) :
    1 ≤ countTics settings realtics availabletics := by
  unfold countTics
  dsimp only
  split <;> omega

/-- The rest of `TryRunTics` keeps the invariant. It runs as many commands as the loop that
waits has ensured, or it returns without a tic. -/
theorem runAvailable_ensures (entertic realtics : Int) (fuel : Nat)
    (h : LoopInv settings k st) :
    Ensures (runAvailable clock settings interface entertic realtics fuel st)
      (fun st' => ∃ k', LoopInv settings k' st') Stop.NoError := by
  unfold runAvailable
  dsimp only
  generalize hcounts : countTics settings realtics _ = counts
  refine (waitTics_ensures clock interface _ counts fuel h (Int.le_refl _)).bind ?_
  rintro ⟨lowtic, st'⟩ ⟨h', hlow⟩
  cases lowtic with
  | none => exact .ok ⟨k, h'⟩
  | some lowtic =>
    obtain ⟨hle, hmade⟩ := hlow lowtic rfl
    have hpos := hcounts ▸ countTics_pos settings realtics _
    refine (runCounts_ensures clock interface _ h' ?_ hmade).mono (fun _ h => ⟨_, h⟩)
      fun _ he => he
    rw [Int.toNat_of_nonneg (by omega)]
    exact hle

/-- `TryRunTics` runs no command or the next ones. -/
theorem tryRunTics_ensures (fuel : Nat) (h : LoopInv settings k st) :
    Ensures (tryRunTics clock settings interface fuel st)
      (fun st' => ∃ k', LoopInv settings k' st') Stop.NoError := by
  unfold tryRunTics
  refine (int_ensures _).bind fun realtics _ => ?_
  have hread : LoopInv settings k { readTicks clock st with
      oldentertics := (iGetTime clock st).1.tdiv settings.ticdup } :=
    h.congr rfl rfl rfl rfl rfl
  refine (buildNewTics_ensures clock interface hread).bind fun st' h' => ?_
  exact runAvailable_ensures clock interface _ realtics fuel h'.1

/-- Every call keeps the invariant. Only `TryRunTics` changes `k`. -/
theorem loopStep_ensures (h : LoopInv settings k st) (call : LoopCall) :
    Ensures (loopStep clock settings interface st call)
      (fun st' => ∃ k', LoopInv settings k' st') Stop.NoError := by
  cases call with
  | netUpdate =>
    exact (netUpdate_ensures clock interface h).mono (fun _ h' => ⟨k, h'.1⟩) fun _ he => he
  | tryRunTics fuel => exact tryRunTics_ensures clock interface fuel h
  | dStartGameLoop =>
    exact (getAdjustedTime_ensures clock h).bind fun next h' =>
      .ok ⟨k, h'.1.congr rfl rfl rfl rfl rfl⟩
  | iGetTime => exact .ok ⟨k, h.readTicks clock⟩

end

/-- Every run keeps the invariant: `loopInv_start` is the start and `loopStep_ensures` the step. -/
theorem runLoop_ensures (clock : Nat → UInt32) (settings : Settings)
    (interface : LoopInterface γ) (game : γ) (calls : List LoopCall) :
    Ensures (runLoop clock settings interface game calls)
      (fun st => ∃ k, LoopInv settings k st) Stop.NoError := by
  refine ensures_foldlM ?_ calls ⟨0, loopInv_start settings game⟩
  rintro st call ⟨k, h⟩
  exact loopStep_ensures clock interface h call

/-! ### Every run -/

/-- In every run, `RunTic` was called for the first `k` commands that `BuildTiccmd` returned,
in order and `ticdup` times each. The commands that wait are few. No run reaches a call of
`I_Error`, whatever the clock says and whatever the callbacks do. -/
theorem runTics_in_order (clock : Nat → UInt32) (settings : Settings)
    (interface : LoopInterface γ) (game : γ) (calls : List LoopCall) :
    Ensures (runLoop clock settings interface game calls)
      (fun st => ∃ k, st.gametic = settings.ticdup * k ∧ st.maketic = st.built.length ∧
        st.ran = (st.built.take k).flatMap (commandTics settings) ∧
        k ≤ st.built.length ∧ st.built.length ≤ k + ticLimit settings)
      (fun stop => ∀ message, stop ≠ .error message) := by
  refine (runLoop_ensures clock settings interface game calls).mono ?_ fun _ he => he
  rintro st ⟨k, h⟩
  have hle := h.le
  have hbound := h.bound
  rw [h.maketic] at hle hbound
  exact ⟨k, h.gametic, h.maketic, h.ran, hle, hbound⟩

end DoomSat.Engine
