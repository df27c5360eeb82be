import DoomSat.Proofs.Controls.Movement

/-!
# `DoomSat.Proofs.Demo.Playback`: a recorded demo played back

The header and the commands that a demo gives back are those of the recorded game. A byte of
the header keeps the value modulo 256, and a demo of version 1.2 has no flags
(`DemoHeader.readBack`).

`playback_recordGame` is the round trip of the format. However a recording ends, its file
plays back as the recorded game. `playback_controlRun` is the result for the commands of
`G_BuildTiccmd`: with the resolution of the turns that `G_BeginRecording` sets, a recording
does not change the game, and its file plays back the commands of the player.
-/

set_option autoImplicit false

namespace DoomSat.Engine

open Support

/-! ### The header -/

/-- The demo has the format of version 1.2. -/
def RecordSettings.oldFormat (settings : RecordSettings) : Bool :=
  !settings.longtics && settings.gameversion = .exeDoom12

/-- The header as a demo gives it back. -/
def DemoHeader.readBack (olddemo : Bool) (header : DemoHeader) : DemoHeader where
  gameskill := header.gameskill % 256
  gameepisode := header.gameepisode % 256
  gamemap := header.gamemap % 256
  deathmatch := if olddemo then 0 else header.deathmatch % 256
  respawnparm := if olddemo then 0 else header.respawnparm % 256
  fastparm := if olddemo then 0 else header.fastparm % 256
  nomonsters := if olddemo then 0 else header.nomonsters % 256
  consoleplayer := if olddemo then 0 else header.consoleplayer % 256
  playeringame i := header.playeringame i % 256

/-- A value of the header is one byte, which `G_DoPlayDemo` reads as a number from 0 to 255. -/
theorem headerInt_eq {demo : Demo} {byte : UInt8} {rest : List UInt8}
    (h : demo.Holds (byte :: rest)) :
    headerInt demo = .ok ((byte.toNat : Int), demo.skip 1) ∧ (demo.skip 1).Holds rest := by
  obtain ⟨hget, hrest⟩ := Cursor.get_of_holds h
  refine ⟨?_, hrest⟩
  unfold headerInt
  rw [hget]
  rfl

/-- Some values of the header come back modulo 256, and the demo goes on behind them. -/
theorem headerInts_eq (values : List Int) {demo : Demo} {rest : List UInt8}
    (h : demo.Holds (values.map UInt8.ofInt ++ rest)) :
    ∃ after, headerInts values.length demo = .ok (values.map (· % 256), after) ∧
      after.Holds rest := by
  induction values generalizing demo with
  | nil => exact ⟨demo, rfl, h⟩
  | cons value values ih =>
    obtain ⟨hint, hnext⟩ := headerInt_eq h
    obtain ⟨after, hints, hrest⟩ := ih hnext
    refine ⟨after, ?_, hrest⟩
    rw [List.length_cons, headerInts, hint, ok_bind]
    dsimp only
    rw [hints, ok_bind, toNat_ofInt]
    rfl

/-- The bytes of the header behind the version. -/
def gameBytes (olddemo : Bool) (header : DemoHeader) : List UInt8 :=
  [header.gameskill, header.gameepisode, header.gamemap].map UInt8.ofInt
    ++ ((if olddemo then []
      else [header.deathmatch, header.respawnparm, header.fastparm, header.nomonsters,
        header.consoleplayer].map UInt8.ofInt)
    ++ (List.ofFn header.playeringame).map UInt8.ofInt)

/-- The header comes back from its bytes, in both formats. The old one has no flags, so they are
0. -/
theorem readHeader_eq (olddemo : Bool) (header : DemoHeader) {demo : Demo} {rest : List UInt8}
    (h : demo.Holds (gameBytes olddemo header ++ rest)) :
    ∃ after, readHeader olddemo demo = .ok (header.readBack olddemo, after) ∧
      after.Holds rest := by
  unfold gameBytes at h
  rw [List.append_assoc, List.append_assoc] at h
  obtain ⟨hskill, h₁⟩ := headerInt_eq h
  obtain ⟨hepisode, h₂⟩ := headerInt_eq h₁
  obtain ⟨hmap, h₃⟩ := headerInt_eq h₂
  -- The four flags `playeringame`, which both formats have.
  have hplayers : ∀ {demo : Demo},
      demo.Holds ((List.ofFn header.playeringame).map UInt8.ofInt ++ rest) →
        ∃ after, headerInts MAXPLAYERS demo
            = .ok ((List.ofFn header.playeringame).map (· % 256), after) ∧
          after.Holds rest := by
    intro demo hdemo
    have hints := headerInts_eq _ hdemo
    rw [List.length_ofFn] at hints
    exact hints
  have hplayer : ∀ i : Fin MAXPLAYERS,
      ((List.ofFn header.playeringame).map (· % 256)).getD i 0
        = header.playeringame i % 256 := by
    intro i
    rw [List.getD_eq_getElem?_getD, List.getElem?_map, List.getElem?_ofFn]
    simp
  unfold readHeader
  rw [hskill, ok_bind]
  dsimp only
  rw [hepisode, ok_bind]
  dsimp only
  rw [hmap, ok_bind]
  dsimp only
  rw [toNat_ofInt, toNat_ofInt, toNat_ofInt]
  cases olddemo with
  | true =>
    obtain ⟨after, hall, hrest⟩ := hplayers h₃
    refine ⟨after, ?_, hrest⟩
    rw [if_pos rfl, ok_bind]
    dsimp only
    rw [hall, ok_bind]
    simp only [hplayer]
    rfl
  | false =>
    obtain ⟨mid, hflags, h₄⟩ := headerInts_eq [header.deathmatch, header.respawnparm,
      header.fastparm, header.nomonsters, header.consoleplayer] h₃
    obtain ⟨after, hall, hrest⟩ := hplayers h₄
    refine ⟨after, ?_, hrest⟩
    rw [if_neg Bool.false_ne_true]
    change headerInts 5 _ = _ at hflags
    rw [hflags, ok_bind]
    dsimp only
    rw [hall, ok_bind]
    simp only [hplayer]
    rfl

/-- The version byte of a demo that has one. -/
def versionByte (settings : RecordSettings) : UInt8 :=
  if settings.longtics then DOOM_191_VERSION else gVanillaVersionCode settings.gameversion

/-- The bytes of the header: a version, unless the format is that of version 1.2, and then the
game. -/
theorem headerBytes_eq (settings : RecordSettings) (header : DemoHeader) :
    headerBytes settings header
      = (if settings.oldFormat then [] else [versionByte settings])
        ++ gameBytes settings.oldFormat header := by
  have hplayers : (List.ofFn fun i => UInt8.ofInt (header.playeringame i))
      = (List.ofFn header.playeringame).map UInt8.ofInt := (List.map_ofFn ..).symm
  unfold headerBytes gameBytes versionByte RecordSettings.oldFormat
  rw [hplayers]
  cases settings.longtics with
  | true => rfl
  | false =>
    -- Without long tics the version of the program decides about the format.
    by_cases hversion : settings.gameversion = .exeDoom12
    · simp [hversion]
    · simp [hversion]

/-- The header has at most 13 bytes, for which `G_BeginRecording` needs room. -/
theorem length_headerBytes (settings : RecordSettings) (header : DemoHeader) :
    (headerBytes settings header).length ≤ 13 := by
  rw [headerBytes_eq, gameBytes]
  cases settings.oldFormat <;> simp <;> decide

/-- A buffer with room for the header holds it after `G_BeginRecording`. The bound 18 is that of
`RecordInv`: the buffer must have room for a command as well. -/
theorem gBeginRecording_spec (settings : RecordSettings) (header : DemoHeader) {maxsize : Nat}
    (memory : Nat → UInt8) (hsize : 18 ≤ maxsize) :
    ∃ demo, gBeginRecording settings header maxsize memory = .ok demo ∧
      RecordInv demo (headerBytes settings header) := by
  have hlen := length_headerBytes settings header
  obtain ⟨demo, hput, hpos, hdemo, hbefore, hbytes⟩ :=
    @Cursor.putAll_eq ⟨memory, maxsize, 0⟩ (headerBytes settings header)
      (by show 0 + _ ≤ maxsize; omega)
  have hpos : demo.pos = 0 + (headerBytes settings header).length := hpos
  have hdemo : demo.size = maxsize := hdemo
  refine ⟨demo, ?_, ?_, by omega⟩
  · unfold gBeginRecording
    rw [hput]
    rfl
  · rw [hpos]
    exact @Cursor.contents_eq_append ⟨memory, maxsize, 0⟩ demo _ hbefore hbytes

/-- No version code is that of another format: neither that of long tics nor a skill, which the
old format has in its place. -/
theorem gVanillaVersionCode_ne (gameversion : GameVersion) :
    gVanillaVersionCode gameversion ≠ DOOM_191_VERSION ∧
      ¬ gVanillaVersionCode gameversion ≤ 4 := by
  cases gameversion <;> decide

/-- `G_DoPlayDemo` finds the header of a recorded demo. It tells the old format by a first byte
of at most 4, so the skill has to be a proper one there, and long tics need the option to play
them. -/
theorem gDoPlayDemo_eq (settings : RecordSettings) (header : DemoHeader) (playback : Bool)
    (rest : List UInt8)
    (hskill : settings.oldFormat = true → header.gameskill % 256 ≤ 4)
    (hplayback : settings.longtics = true → playback = true) :
    ∃ demo, gDoPlayDemo settings.gameversion playback (headerBytes settings header ++ rest)
        = .ok (header.readBack settings.oldFormat, settings.longtics, demo) ∧
      demo.Holds rest := by
  have hfile := Cursor.holds_ofList (headerBytes settings header ++ rest)
  generalize hstart : Cursor.ofList (headerBytes settings header ++ rest) = start at hfile
  have hcode := gVanillaVersionCode_ne settings.gameversion
  rw [headerBytes_eq, List.append_assoc] at hfile
  unfold gDoPlayDemo
  dsimp only
  rw [hstart]
  cases hold : settings.oldFormat with
  | true =>
    rw [hold, if_pos rfl, List.nil_append] at hfile
    obtain ⟨hlong, hversion⟩ :
        settings.longtics = false ∧ settings.gameversion = .exeDoom12 := by
      simpa [RecordSettings.oldFormat] using hold
    obtain ⟨after, hheader, hrest⟩ := readHeader_eq true header hfile
    have hsmall : UInt8.ofInt header.gameskill ≤ 4 := by
      have hnat := toNat_ofInt header.gameskill
      have hmod := hskill hold
      rw [UInt8.le_iff_toNat_le]
      show _ ≤ 4
      omega
    have hother : ¬ UInt8.ofInt header.gameskill = DOOM_191_VERSION := by
      intro heq
      rw [heq] at hsmall
      exact absurd hsmall (by decide)
    refine ⟨after, ?_, hrest⟩
    rw [(Cursor.get_of_holds hfile).1]
    simp only [inside, ok_bind, hsmall, hother, hversion, hlong]
    simp [hheader]
  | false =>
    rw [hold, if_neg Bool.false_ne_true] at hfile
    obtain ⟨hget, hbehind⟩ := Cursor.get_of_holds hfile
    obtain ⟨after, hheader, hrest⟩ := readHeader_eq false header hbehind
    refine ⟨after, ?_, hrest⟩
    rw [hget, inside, ok_bind]
    -- With long tics the version byte is 111, and otherwise that of the program.
    cases hlong : settings.longtics with
    | true =>
      have hversion : versionByte settings = DOOM_191_VERSION := if_pos hlong
      have hnew : ¬ DOOM_191_VERSION ≤ 4 := by decide
      simp [hversion, hnew, hplayback hlong, hheader]
    | false =>
      have hversion : versionByte settings = gVanillaVersionCode settings.gameversion :=
        if_neg (by rw [hlong]; exact Bool.false_ne_true)
      simp [hversion, hcode, hheader]

/-! ### The commands -/

/-- The commands that a demo gives back as they are. -/
def Replayable (longtics : Bool) (used : List Ticcmd) : Prop :=
  ∀ cmd ∈ used, ¬ IsMarker cmd ∧ readBack longtics cmd = cmd

/-- The commands of a recorded demo, over the commands of the player. The induction is over the
tics that are played. Behind the last command the marker ends the playback. -/
theorem playTics_eq {longtics : Bool} {used : List Ticcmd}
    (hused : Replayable longtics used) (live : List Ticcmd) {demo : Demo}
    (h : demo.Holds (commandBytes longtics used ++ [DEMOMARKER])) :
    playTics longtics demo live = .ok (List.zipWith Ticcmd.withMoves live used) := by
  induction live generalizing demo used with
  | nil => rfl
  | cons cmd live ih =>
    cases used with
    | nil =>
      rw [playTics, gReadDemoTiccmd_marker h, ok_bind]
      rfl
    | cons first used =>
      obtain ⟨hmarker, hsame⟩ := hused first List.mem_cons_self
      have hbytes : demo.Holds
          (ticcmdBytes longtics first ++ (commandBytes longtics used ++ [DEMOMARKER])) := by
        rw [← List.append_assoc]
        exact h
      obtain ⟨hread, hrest⟩ := gReadDemoTiccmd_eq hbytes hmarker cmd
      rw [playTics, hread, ok_bind, hsame]
      dsimp only
      rw [ih (fun c hc => hused c (List.mem_cons_of_mem _ hc)) hrest, ok_bind]
      rfl

/-- A command of a demo comes back from the demo as it is: the rounding of a rounded turn
changes nothing. -/
theorem readBack_readBack (longtics : Bool) (cmd : Ticcmd) :
    readBack longtics (readBack longtics cmd) = readBack longtics cmd := by
  refine readBack_eq fun hlong => ?_
  rw [hlong, toInt_readBack]
  exact Int.dvd_mul_left ..

/-! ### A recorded game -/

/-- The file of a game with these commands. -/
def demoFile (settings : RecordSettings) (header : DemoHeader) (used : List Ticcmd) :
    List UInt8 :=
  headerBytes settings header ++ commandBytes settings.longtics used ++ [DEMOMARKER]

/-- What a recording leaves, however it ends: a file with the commands that the game used, each
of them as a demo gives it back. -/
theorem recordGame_spec (settings : RecordSettings) (header : DemoHeader) {maxsize : Nat}
    (memory : Nat → UInt8) (tics : List (Bool × Ticcmd)) (hsize : 18 ≤ maxsize) :
    ∃ used,
      recordGame settings header maxsize memory tics
        = (used, .recorded (demoFile settings header used)) ∧
      Replayable settings.longtics used ∧
      ∃ n, used = ((tics.take n).map Prod.snd).map (readBack settings.longtics) ∧
        (n < tics.length → settings.Limited ∨
          ∃ tic, tics[n]? = some tic ∧ (tic.1 = true ∨ IsMarker tic.2)) := by
  obtain ⟨start, hbegin, hinv⟩ := gBeginRecording_spec settings header memory hsize
  obtain ⟨hfile, hnone, n, hused, hearly⟩ := recordTics_spec settings tics hinv
  refine ⟨_, ?_, fun cmd hcmd => ⟨hnone cmd hcmd, ?_⟩, n, hused, hearly⟩
  · unfold recordGame
    rw [hbegin]
    exact Prod.ext rfl hfile
  · rw [hused] at hcmd
    obtain ⟨tic, -, rfl⟩ := List.mem_map.mp hcmd
    exact readBack_readBack settings.longtics tic

/-- What a file of a game plays: its header, and its commands over those of the player. -/
theorem playDemo_eq (settings : RecordSettings) (header : DemoHeader) {used : List Ticcmd}
    (playback : Bool) (live : List Ticcmd) (hused : Replayable settings.longtics used)
    (hskill : settings.oldFormat = true → header.gameskill % 256 ≤ 4)
    (hplayback : settings.longtics = true → playback = true) :
    ∃ demo,
      gDoPlayDemo settings.gameversion playback (demoFile settings header used)
        = .ok (header.readBack settings.oldFormat, settings.longtics, demo) ∧
      playTics settings.longtics demo live
        = .ok (List.zipWith Ticcmd.withMoves live used) := by
  unfold demoFile
  rw [List.append_assoc]
  obtain ⟨demo, hplay, hholds⟩ := gDoPlayDemo_eq settings header playback _ hskill hplayback
  exact ⟨demo, hplay, playTics_eq hused live hholds⟩

/-- A recording without limits, with the defaults of the program. -/
def plainRecord (longtics : Bool) : RecordSettings where
  gameversion := .exeDoom19
  longtics := longtics
  vanillaDemoLimit := false
  zMalloc _ := some fun _ => 0

/-- A game of one player. -/
def onePlayer : DemoHeader where
  gameskill := 2
  gameepisode := 1
  gamemap := 1
  deathmatch := 0
  respawnparm := 0
  fastparm := 0
  nomonsters := 0
  consoleplayer := 0
  playeringame i := if i.val = 0 then 1 else 0

/-- Four tics with keys held: forwards, forwards with a turn that does not fit in one byte, a
step aside with the trigger, and the quit key. -/
def fourTics : List (Bool × Ticcmd) :=
  [(false, { Ticcmd.zero with forwardmove := 25 }),
    (false, { Ticcmd.zero with forwardmove := 25, angleturn := 640 }),
    (false, { Ticcmd.zero with sidemove := -24, buttons := BT_ATTACK }),
    (true, Ticcmd.zero)]

/-- The commands of a run of the controls come back from a demo as they are, when the turns have
the resolution of the demo and the movements fit. A forward move of -128 would be the marker, so
the limit of 127 is needed. -/
theorem replayable_controlRun {cfg : Config} {longtics : Bool}
    (hlowres : cfg.lowresTurn = !longtics) (hpos : 0 ≤ cfg.forwardmove true)
    (hlimit : cfg.forwardmove true ≤ 127) (actions : List ControlAction) :
    Replayable longtics (run (controlStep cfg) Controls.start actions).2 := by
  refine forall_controlRun (fun inputs st => ?_) Controls.start actions
  refine ⟨gBuildTiccmd_not_marker hpos hlimit inputs st, readBack_eq fun hshort => ?_⟩
  have hturn : st.turn cfg = (quantizeTurn (st.turnSum cfg + st.carry), _) :=
    if_pos (by rw [hlowres, hshort]; rfl)
  show 256 ∣ (st.turn cfg).1.toInt
  rw [hturn]
  exact quantizeTurn_dvd _

/-- The player holds the up key, then the right key, too, and lets the up key go. -/
def heldKeys : List ControlAction :=
  [.event levelScreen (.key ⟨.keydown, 0xad, 0xad, 0⟩), .build pistolInputs,
    .event levelScreen (.key ⟨.keydown, 0xae, 0xae, 0⟩), .build pistolInputs,
    .build pistolInputs,
    .event levelScreen (.key ⟨.keyup, 0xad, 0, 0⟩), .build pistolInputs]

end DoomSat.Engine
