import DoomSat.Model.Demo
import DoomSat.Support.Block
import DoomSat.Support.Outcome

/-!
# `DoomSat.Proofs.Demo.Recording`: what a recorded demo holds

`RecordInv` ties the demo buffer to what was recorded so far, and it leaves room for one more
command. `gWriteDemoTiccmd_spec` gives the result of `G_WriteDemoTiccmd`: either the demo is
closed, or it has grown by the bytes of the command, and the game uses the command as a demo
gives it back (`readBack`).

`recordTics_spec` is the result for a whole recording: however it ends, the file holds the
commands that the game used, behind the header and before the marker.
-/

set_option autoImplicit false

namespace DoomSat.Engine

open Support

/-! ### One command -/

/-- The command as a demo gives it back. Without long tics, it loses the low byte of the
turn. -/
def readBack (longtics : Bool) (cmd : Ticcmd) : Ticcmd :=
  if longtics then cmd
  else { cmd with angleturn := angleOfBytes 0 (UInt8.ofInt (cmd.angleturn.toInt / 256)) }

/-- The command looks like the end of a demo. -/
def IsMarker (cmd : Ticcmd) : Prop := cmd.forwardmove.toUInt8 = DEMOMARKER

instance (cmd : Ticcmd) : Decidable (IsMarker cmd) := inferInstanceAs (Decidable (_ = _))

/-- The command of the player with what a demo holds of another one. -/
def Ticcmd.withMoves (live cmd : Ticcmd) : Ticcmd :=
  { live with
    forwardmove := cmd.forwardmove
    sidemove := cmd.sidemove
    angleturn := cmd.angleturn
    buttons := cmd.buttons }

/-- A command takes at most five bytes of a demo. -/
theorem length_ticcmdBytes (longtics : Bool) (cmd : Ticcmd) :
    (ticcmdBytes longtics cmd).length ≤ 5 := by
  cases longtics with
  | false => exact Nat.le_succ 4
  | true => exact Nat.le_refl 5

/-- The cast of an `int` to a byte. -/
theorem toNat_ofInt (n : Int) : ((UInt8.ofInt n).toNat : Int) = n % 256 := by
  show (((n % 2 ^ 8).toNat % 2 ^ 8 : Nat) : Int) = n % 256
  omega

/-- The two bytes of a turn give it back. -/
theorem angleOfBytes_bytes (angle : Int16) :
    angleOfBytes (UInt8.ofInt (angle.toInt % 256)) (UInt8.ofInt (angle.toInt / 256))
      = angle := by
  have hlt : angle.toInt < 32768 := angle.toInt_lt
  have hle : -32768 ≤ angle.toInt := angle.le_toInt
  unfold angleOfBytes
  rw [toNat_ofInt, toNat_ofInt]
  refine Int16.toInt_inj.mp ?_
  rw [Int16.toInt_ofInt, Int.bmod_def]
  show (if _ % (65536 : Int) < (65536 + 1) / 2 then _ % (65536 : Int)
    else _ % (65536 : Int) - 65536) = _
  split <;> omega

/-- The turn of a command without long tics, rounded down to a multiple of 256. -/
theorem toInt_readBack (cmd : Ticcmd) :
    (readBack false cmd).angleturn.toInt = cmd.angleturn.toInt / 256 * 256 := by
  have hlt : cmd.angleturn.toInt < 32768 := cmd.angleturn.toInt_lt
  have hle : -32768 ≤ cmd.angleturn.toInt := cmd.angleturn.le_toInt
  show (Int16.ofInt _).toInt = _
  rw [toNat_ofInt, Int16.toInt_ofInt, Int.bmod_def]
  show (if _ % (65536 : Int) < (65536 + 1) / 2 then _ % (65536 : Int)
    else _ % (65536 : Int) - 65536) = _
  split <;> (simp only [UInt8.toNat_zero] at *; omega)

/-- A command with a turn that fits in one byte comes back as it is. With long tics every
command does. -/
theorem readBack_eq {longtics : Bool} {cmd : Ticcmd}
    (h : longtics = false → 256 ∣ cmd.angleturn.toInt) : readBack longtics cmd = cmd := by
  cases longtics with
  | true => rfl
  | false =>
    have hturn : (readBack false cmd).angleturn = cmd.angleturn := by
      refine Int16.toInt_inj.mp ?_
      rw [toInt_readBack]
      exact Int.ediv_mul_cancel (h rfl)
    show { cmd with angleturn := (readBack false cmd).angleturn } = cmd
    rw [hturn]

/-- A demo holds all that it can change of a command. -/
theorem withMoves_readBack (longtics : Bool) (cmd : Ticcmd) :
    cmd.withMoves (readBack longtics cmd) = readBack longtics cmd := by
  cases longtics with
  | true => rfl
  | false => rfl

/-- The rounding of the turn does not touch the byte that a marker is told by. -/
theorem isMarker_readBack (longtics : Bool) (cmd : Ticcmd) :
    IsMarker (readBack longtics cmd) ↔ IsMarker cmd := by
  cases longtics with
  | true => rfl
  | false => rfl

/-- A command and what comes back of it have the same bytes. -/
theorem ticcmdBytes_readBack (longtics : Bool) (cmd : Ticcmd) :
    ticcmdBytes longtics (readBack longtics cmd) = ticcmdBytes longtics cmd := by
  cases longtics with
  | true => rfl
  | false =>
    show [cmd.forwardmove.toUInt8, cmd.sidemove.toUInt8,
      UInt8.ofInt ((readBack false cmd).angleturn.toInt / 256), cmd.buttons] = _
    rw [toInt_readBack, Int.mul_ediv_cancel _ (by decide)]
    rfl

/-! ### Reading -/

/-- A command that is not a marker comes back from its bytes. -/
theorem gReadDemoTiccmd_eq {longtics : Bool} {demo : Demo} {cmd : Ticcmd} {rest : List UInt8}
    (h : demo.Holds (ticcmdBytes longtics cmd ++ rest)) (hmarker : ¬ IsMarker cmd)
    (live : Ticcmd) :
    let after := demo.skip (ticcmdBytes longtics cmd).length
    gReadDemoTiccmd longtics demo live
        = .ok (some (live.withMoves (readBack longtics cmd), after)) ∧
      after.Holds rest := by
  have hforward : cmd.forwardmove.toUInt8.toInt8 = cmd.forwardmove :=
    Int8.toInt8_toUInt8 cmd.forwardmove
  have hside : cmd.sidemove.toUInt8.toInt8 = cmd.sidemove := Int8.toInt8_toUInt8 cmd.sidemove
  have hgoes : ¬ cmd.forwardmove.toUInt8 = DEMOMARKER := hmarker
  unfold gReadDemoTiccmd
  cases longtics with
  | true =>
    have hpeek := Cursor.peek_of_holds h
    obtain ⟨hget₁, h₁⟩ := Cursor.get_of_holds h
    obtain ⟨hget₂, h₂⟩ := Cursor.get_of_holds h₁
    obtain ⟨hget₃, h₃⟩ := Cursor.get_of_holds h₂
    obtain ⟨hget₄, h₄⟩ := Cursor.get_of_holds h₃
    obtain ⟨hget₅, h₅⟩ := Cursor.get_of_holds h₄
    simp only [hpeek, hget₁, hget₂, hget₃, hget₄, hget₅, inside, ok_bind]
    rw [if_neg hgoes, if_pos trivial, hforward, hside, angleOfBytes_bytes]
    exact ⟨rfl, h₅⟩
  | false =>
    have hpeek := Cursor.peek_of_holds h
    obtain ⟨hget₁, h₁⟩ := Cursor.get_of_holds h
    obtain ⟨hget₂, h₂⟩ := Cursor.get_of_holds h₁
    obtain ⟨hget₃, h₃⟩ := Cursor.get_of_holds h₂
    obtain ⟨hget₄, h₄⟩ := Cursor.get_of_holds h₃
    simp only [hpeek, hget₁, hget₂, hget₃, hget₄, inside, ok_bind]
    rw [if_neg hgoes, if_neg Bool.false_ne_true, hforward, hside]
    exact ⟨rfl, h₄⟩

/-- The marker ends a demo. -/
theorem gReadDemoTiccmd_marker {longtics : Bool} {demo : Demo} {rest : List UInt8}
    (h : demo.Holds (DEMOMARKER :: rest)) (live : Ticcmd) :
    gReadDemoTiccmd longtics demo live = .ok none := by
  unfold gReadDemoTiccmd
  rw [Cursor.peek_of_holds h]
  rfl

/-! ### Writing -/

/-- The buffer holds what was recorded, and it has room for one more command. -/
structure RecordInv (demo : Demo) (file : List UInt8) : Prop where
  contents : demo.contents demo.pos = file
  room : demo.pos + 5 ≤ demo.size

/-- The demo buffer cannot always grow. -/
def RecordSettings.Limited (settings : RecordSettings) : Prop :=
  settings.vanillaDemoLimit = true ∨ ∃ size, settings.zMalloc size = none

/-- `G_CheckDemoStatus` writes what was recorded, with the marker. -/
theorem RecordInv.closed {demo : Demo} {file : List UInt8} (h : RecordInv demo file) :
    gCheckDemoStatus demo = .recorded (file ++ [DEMOMARKER]) := by
  have hroom := h.room
  have hput : demo.put DEMOMARKER = some _ := if_pos (by omega)
  unfold gCheckDemoStatus
  rw [hput]
  refine congrArg DemoStop.recorded ?_
  rw [← h.contents]
  refine @Cursor.contents_eq_append demo _ [DEMOMARKER] ?_ ?_
  · intro i hi
    exact Function.update_of_ne (Nat.ne_of_lt hi) ..
  · intro i byte hbyte
    cases i with
    | zero =>
      rw [← Option.some.inj hbyte]
      exact Function.update_self ..
    | succ i => cases hbyte

/-- The buffer that `IncreaseDemoBuffer` allocates holds what was recorded. -/
theorem increaseDemoBuffer_spec (settings : RecordSettings) {demo : Demo} {file : List UInt8}
    (h : RecordInv demo file) :
    Ensures (increaseDemoBuffer settings demo)
      (fun grown => (∀ i < demo.size, grown.bytes i = demo.bytes i) ∧
        grown.size = demo.size * 2 ∧ grown.pos = demo.pos)
      (fun stop => stop = .recorded (file ++ [DEMOMARKER]) ∧ settings.Limited) := by
  unfold increaseDemoBuffer
  cases hfresh : settings.zMalloc (demo.size * 2) with
  | none => exact .error ⟨h.closed, .inr ⟨_, hfresh⟩⟩
  | some fresh => exact .ok ⟨fun i hi => if_pos hi, rfl, rfl⟩

/-- The buffer after `G_WriteDemoTiccmd` has looked for more room. -/
theorem makeRoom_spec (settings : RecordSettings) {demo : Demo} {file : List UInt8}
    (h : RecordInv demo file) :
    Ensures (makeRoom settings demo)
      (fun grown => (∀ i < demo.size, grown.bytes i = demo.bytes i) ∧
        demo.size ≤ grown.size ∧ demo.pos + 10 ≤ grown.size ∧ grown.pos = demo.pos)
      (fun stop => stop = .recorded (file ++ [DEMOMARKER]) ∧ settings.Limited) := by
  have hroom := h.room
  unfold makeRoom
  split
  · split
    · exact .error ⟨h.closed, .inl ‹_›⟩
    · refine (increaseDemoBuffer_spec settings h).mono ?_ fun _ hstop => hstop
      rintro grown ⟨hsame, hsize, hpos⟩
      exact ⟨hsame, by omega, by omega, hpos⟩
  · exact .ok ⟨fun _ _ => rfl, Nat.le_refl _, by omega, rfl⟩

/-- A command that looks like the marker starts with its byte. -/
theorem ticcmdBytes_marker (longtics : Bool) {cmd : Ticcmd} (h : IsMarker cmd) :
    ∃ rest, ticcmdBytes longtics cmd = DEMOMARKER :: rest := by
  have hbyte : cmd.forwardmove.toUInt8 = DEMOMARKER := h
  refine ⟨(ticcmdBytes longtics cmd).tail, ?_⟩
  rw [← hbyte]
  rfl

/-- `G_WriteDemoTiccmd` closes the demo, or it adds the command to the demo. -/
theorem gWriteDemoTiccmd_spec (settings : RecordSettings) (quit : Bool) (cmd : Ticcmd)
    {demo : Demo} {file : List UInt8} (h : RecordInv demo file) :
    Ensures (gWriteDemoTiccmd settings quit cmd demo)
      (fun next => quit = false ∧ ¬ IsMarker cmd ∧
        next.1 = readBack settings.longtics cmd ∧
        RecordInv next.2 (file ++ ticcmdBytes settings.longtics cmd))
      (fun stop => stop = .recorded (file ++ [DEMOMARKER]) ∧
        (quit = true ∨ IsMarker cmd ∨ settings.Limited)) := by
  have hroom := h.room
  have hlen := length_ticcmdBytes settings.longtics cmd
  unfold gWriteDemoTiccmd
  cases quit with
  | true => exact .error ⟨h.closed, .inl rfl⟩
  | false =>
    obtain ⟨stored, hput, -, hsize, hbefore, hbytes⟩ :=
      @Cursor.putAll_eq demo (ticcmdBytes settings.longtics cmd) (by omega)
    -- The position goes back, so the buffer still holds the same demo.
    have hback : RecordInv { stored with pos := demo.pos } file := by
      refine ⟨?_, ?_⟩
      · rw [← h.contents]
        exact Cursor.contents_congr hbefore
      · show demo.pos + 5 ≤ stored.size
        omega
    rw [hput]
    refine ((makeRoom_spec settings hback).mono (fun _ hgrown => hgrown)
      fun stop hstop => ⟨hstop.1, .inr (.inr hstop.2)⟩).bind ?_
    rintro grown ⟨hsame, hle, hgrown, hpos⟩
    have hpos : grown.pos = demo.pos := hpos
    have hle : stored.size ≤ grown.size := hle
    have hgrown : demo.pos + 10 ≤ grown.size := hgrown
    have hbeforeGrown : ∀ i < demo.pos, grown.bytes i = demo.bytes i := by
      intro i hi
      rw [hsame i (by show i < stored.size; omega)]
      exact hbefore i hi
    have hbytesGrown : ∀ i byte, (ticcmdBytes settings.longtics cmd)[i]? = some byte →
        grown.bytes (demo.pos + i) = byte := by
      intro i byte hbyte
      have hi := (List.getElem?_eq_some_iff.mp hbyte).1
      rw [hsame (demo.pos + i) (by show demo.pos + i < stored.size; omega)]
      exact hbytes i byte hbyte
    have hholds : grown.Holds (ticcmdBytes settings.longtics cmd ++ []) := by
      rw [List.append_nil]
      refine ⟨by omega, ?_⟩
      rw [hpos]
      exact hbytesGrown
    by_cases hmarker : IsMarker cmd
    · -- The demo is closed in front of the command.
      have hinv : RecordInv grown file := by
        refine ⟨?_, by omega⟩
        rw [hpos, ← h.contents]
        exact Cursor.contents_congr hbeforeGrown
      obtain ⟨rest, hrest⟩ := ticcmdBytes_marker settings.longtics hmarker
      rw [hrest] at hholds
      rw [gReadDemoTiccmd_marker hholds, ok_bind]
      exact .error ⟨hinv.closed, .inr (.inl hmarker)⟩
    · rw [(gReadDemoTiccmd_eq hholds hmarker cmd).1, ok_bind]
      refine .ok ⟨rfl, hmarker, withMoves_readBack settings.longtics cmd, ?_, ?_⟩
      · show grown.contents (grown.pos + _) = _
        rw [hpos, Cursor.contents_eq_append hbeforeGrown hbytesGrown, h.contents]
      · show grown.pos + _ + 5 ≤ grown.size
        omega

/-! ### A whole recording -/

/-- The bytes of the commands that a game uses. -/
def commandBytes (longtics : Bool) (used : List Ticcmd) : List UInt8 :=
  used.flatMap (ticcmdBytes longtics)

/-- However a recording ends, its file holds the commands that the game used: the first ones of
the tics, as a demo gives them back. Only the quit key, a command that looks like a marker and a
full buffer end it early. The induction is over the tics, for any file so far; `RecordInv` is
what one tic leaves for the next. -/
theorem recordTics_spec (settings : RecordSettings) (tics : List (Bool × Ticcmd)) {demo : Demo}
    {file : List UInt8} (h : RecordInv demo file) :
    let result := recordTics settings demo tics
    result.2 = .recorded (file ++ commandBytes settings.longtics result.1 ++ [DEMOMARKER]) ∧
      (∀ cmd ∈ result.1, ¬ IsMarker cmd) ∧
      ∃ n, result.1 = ((tics.take n).map Prod.snd).map (readBack settings.longtics) ∧
        (n < tics.length →
          settings.Limited ∨
            ∃ tic, tics[n]? = some tic ∧ (tic.1 = true ∨ IsMarker tic.2)) := by
  induction tics generalizing demo file with
  | nil =>
    refine ⟨?_, nofun, 0, rfl, fun hlt => absurd hlt (Nat.lt_irrefl 0)⟩
    show gCheckDemoStatus demo = .recorded (file ++ [] ++ [DEMOMARKER])
    rw [List.append_nil]
    exact h.closed
  | cons tic tics ih =>
    obtain ⟨quit, cmd⟩ := tic
    have hwrite := gWriteDemoTiccmd_spec settings quit cmd h
    unfold recordTics
    cases hstep : gWriteDemoTiccmd settings quit cmd demo with
    -- The recording ends at this tic, and the file is closed in front of it.
    | error stop =>
      obtain ⟨hstop, hwhy⟩ := hwrite.of_error hstep
      refine ⟨?_, nofun, 0, rfl, fun _ => ?_⟩
      · show stop = .recorded (file ++ [] ++ [DEMOMARKER])
        rw [List.append_nil]
        exact hstop
      · rcases hwhy with hquit | hmarker | hlimited
        · exact .inr ⟨_, rfl, .inl hquit⟩
        · exact .inr ⟨_, rfl, .inr hmarker⟩
        · exact .inl hlimited
    -- The demo has grown by one command, and the rest is recorded behind it.
    | ok next =>
      obtain ⟨-, hmarker, hused, hinv⟩ := hwrite.of_ok hstep
      obtain ⟨hstop, hnone, n, htaken, hearly⟩ := ih hinv
      refine ⟨?_, ?_, n + 1, ?_, fun hlt => ?_⟩
      · show (recordTics settings next.2 tics).2 = _
        rw [hstop, ← ticcmdBytes_readBack, ← hused, List.append_assoc file]
        rfl
      · intro used hmem
        rcases List.mem_cons.mp hmem with hfirst | hrest
        · rw [hfirst, hused, isMarker_readBack]
          exact hmarker
        · exact hnone used hrest
      · show next.1 :: (recordTics settings next.2 tics).1 = _
        rw [hused, htaken]
        rfl
      · exact hearly (Nat.lt_of_succ_lt_succ hlt)

end DoomSat.Engine
