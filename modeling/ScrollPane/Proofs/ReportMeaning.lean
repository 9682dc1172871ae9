import ScrollPane.Proofs.ReportGrammar
import Mathlib.Data.Nat.Bitwise

/-!
# The meaning of mouse reports

A chunk of input decodes to an event if it spells a report whose code means something, and to nothing
otherwise. The grammar tells which texts spell a report; here the events that a report stands for are
told by the bits of its code. The report that encodes an event is one of those that decode to it, as
long as its coordinates fit in their fields.

## Main definitions

- `Mouse.Report.Means`: the event that a report stands for, by the bits of its code;
- `Mouse.Report.IsMeaningful`: the reports that stand for one.

## Main statements

- `Mouse.Event.ofReport?_eq_some_iff`: what a report stands for;
- `Mouse.Event.means_report`: the report of an event stands for it;
- `Mouse.decoding_is_exact`: what chunks decode to.
-/

namespace ScrollPane.Mouse

/-! ## Written reports -/

/-- The digits of a number are a field, if there are not too many. -/
theorem isField_toDigits {n : Nat} (h : n < 10 ^ fieldDigits) : IsField (Nat.toDigits 10 n) :=
  ⟨⟨Nat.length_toDigits_pos, (Nat.length_toDigits_le_iff (by decide) (by decide)).mpr h⟩,
    fun _ hMem => Nat.isDigit_of_mem_toDigits (by decide) (by decide) hMem⟩

/-- They denote the number. -/
theorem decimalValue_toDigits (n : Nat) : decimalValue (Nat.toDigits 10 n) = n :=
  Nat.ofDigitChars_toDigits (by decide) (by decide)

/-- A report with numbers that fit in their fields is spelled by what is written for it. -/
theorem Report.isSpelledBy_toText {r : Report} (hCode : r.code < 10 ^ fieldDigits)
    (hX : r.x < 10 ^ fieldDigits) (hY : r.y < 10 ^ fieldDigits) : r.IsSpelledBy r.toText := by
  refine ⟨_, _, _, if r.released then 'm' else 'M', isField_toDigits hCode, isField_toDigits hX,
    isField_toDigits hY, ?_, ?_, ?_⟩
  · cases r.released <;> simp
  · simp [Report.toText, reportOpening]
  · rw [decimalValue_toDigits, decimalValue_toDigits, decimalValue_toDigits]
    cases r
    next code x y released => cases released <;> rfl

/-! ## Bits of a code -/

/-- The code has a bit in common with a mask. -/
def HasBit (code mask : Nat) : Prop := code &&& mask ≠ 0

instance (code mask : Nat) : Decidable (HasBit code mask) :=
  inferInstanceAs (Decidable (_ ≠ _))

theorem hasBit_two_pow_iff {code i : Nat} : HasBit code (2 ^ i) ↔ code.testBit i = true := by
  rw [HasBit, Nat.and_two_pow]
  cases code.testBit i <;> simp

theorem hasBit_two_pow_iff_div {code i : Nat} : HasBit code (2 ^ i) ↔ code / 2 ^ i % 2 = 1 := by
  rw [hasBit_two_pow_iff, Nat.testBit_eq_decide_div_mod_eq, decide_eq_true_eq]

/-- The modifier keys are those whose bits the code has. -/
structure Modifiers.AreHeld (m : Modifiers) (code : Nat) : Prop where
  shift : m.shift = true ↔ HasBit code 4
  alt : m.alt = true ↔ HasBit code 8
  ctrl : m.ctrl = true ↔ HasBit code 16

/-- The keys that a code is read to have are those that are held by it. -/
theorem Modifiers.areHeld_iff {m : Modifiers} {code : Nat} :
    m.AreHeld code ↔ Modifiers.ofCode code = m := by
  have hShift : HasBit code 4 ↔ code.testBit 2 = true := @hasBit_two_pow_iff code 2
  have hAlt : HasBit code 8 ↔ code.testBit 3 = true := @hasBit_two_pow_iff code 3
  have hCtrl : HasBit code 16 ↔ code.testBit 4 = true := @hasBit_two_pow_iff code 4
  constructor
  · rintro ⟨hHeldShift, hHeldAlt, hHeldCtrl⟩
    have hShiftEq : code.testBit 2 = m.shift :=
      Bool.eq_iff_iff.mpr (hShift.symm.trans hHeldShift.symm)
    have hAltEq : code.testBit 3 = m.alt :=
      Bool.eq_iff_iff.mpr (hAlt.symm.trans hHeldAlt.symm)
    have hCtrlEq : code.testBit 4 = m.ctrl :=
      Bool.eq_iff_iff.mpr (hCtrl.symm.trans hHeldCtrl.symm)
    rw [Modifiers.ofCode, hShiftEq, hAltEq, hCtrlEq]
  · rintro rfl
    exact ⟨hShift.symm, hAlt.symm, hCtrl.symm⟩

/-! ## What a report stands for -/

/-- The event that a report stands for. Coordinates count from one in the report, where zero counts as
one, and from zero in the event. -/
inductive Report.Means (r : Report) : Event → Prop
  /-- With bit 64 it is a turn of the wheel, up or down by the two lowest bits. -/
  | wheel {direction : Direction} {m : Modifiers} (hWheel : HasBit r.code 64)
      (hDirection : r.code % 4 = direction.bits) (hKeys : m.AreHeld r.code) :
      Means r (.wheel direction (r.x - 1) (r.y - 1) m)
  /-- Without it the two lowest bits number a button, which bit 32 says is dragged, and otherwise the
  final letter says is released or pressed. -/
  | button {action : Action} {pressed : Button} {m : Modifiers} (hButton : ¬HasBit r.code 64)
      (hPressed : r.code % 4 = pressed.bits) (hKeys : m.AreHeld r.code)
      (hAction : action =
        if HasBit r.code 32 then .drag else if r.released then .release else .press) :
      Means r (.button action pressed (r.x - 1) (r.y - 1) m)

/-- The report stands for an event: its two lowest bits number one of the two directions of the wheel,
or one of the three buttons. -/
def Report.IsMeaningful (r : Report) : Prop :=
  (HasBit r.code 64 ∧ (r.code % 4 = 0 ∨ r.code % 4 = 1)) ∨ (¬HasBit r.code 64 ∧ r.code % 4 ≠ 3)

theorem low_bits_cases (code : Nat) :
    code % 4 = 0 ∨ code % 4 = 1 ∨ code % 4 = 2 ∨ code % 4 = 3 := by
  omega

theorem Direction.ofCode?_eq_some_iff {code : Nat} {direction : Direction} :
    Direction.ofCode? code = some direction ↔ code % 4 = direction.bits := by
  unfold Direction.ofCode?
  rcases low_bits_cases code with hLow | hLow | hLow | hLow <;> rw [hLow] <;>
    cases direction <;> decide

theorem Button.ofCode?_eq_some_iff {code : Nat} {pressed : Button} :
    Button.ofCode? code = some pressed ↔ code % 4 = pressed.bits := by
  unfold Button.ofCode?
  rcases low_bits_cases code with hLow | hLow | hLow | hLow <;> rw [hLow] <;>
    cases pressed <;> decide

theorem Action.ofReport_eq (r : Report) :
    Action.ofReport r =
      if HasBit r.code 32 then .drag else if r.released then .release else .press := by
  have hMotion : HasBit r.code 32 ↔ r.code.testBit 5 = true := @hasBit_two_pow_iff r.code 5
  simp only [Action.ofReport, hMotion]

/-- A report is given the event that it stands for, and no other. -/
theorem Event.ofReport?_eq_some_iff {r : Report} {event : Event} :
    Event.ofReport? r = some event ↔ r.Means event := by
  have hWheel : HasBit r.code 64 ↔ r.code.testBit 6 = true := @hasBit_two_pow_iff r.code 6
  simp only [Event.ofReport?]
  constructor
  · intro h
    split at h
    · next hBit =>
      obtain ⟨direction, hDirection, rfl⟩ := Option.map_eq_some_iff.mp h
      exact .wheel (hWheel.mpr hBit) (Direction.ofCode?_eq_some_iff.mp hDirection)
        (Modifiers.areHeld_iff.mpr rfl)
    · next hBit =>
      obtain ⟨pressed, hPressed, rfl⟩ := Option.map_eq_some_iff.mp h
      exact .button (mt hWheel.mp hBit) (Button.ofCode?_eq_some_iff.mp hPressed)
        (Modifiers.areHeld_iff.mpr rfl) (Action.ofReport_eq r)
  · intro h
    cases h with
    | wheel hBit hDirection hKeys =>
      rw [if_pos (hWheel.mp hBit), Direction.ofCode?_eq_some_iff.mpr hDirection,
        Modifiers.areHeld_iff.mp hKeys]
      rfl
    | button hBit hPressed hKeys hAction =>
      rw [if_neg (mt hWheel.mpr hBit), Button.ofCode?_eq_some_iff.mpr hPressed,
        Modifiers.areHeld_iff.mp hKeys, hAction, ← Action.ofReport_eq]
      rfl

theorem Direction.exists_bits_iff {code : Nat} :
    (∃ direction : Direction, code % 4 = direction.bits) ↔ code % 4 = 0 ∨ code % 4 = 1 := by
  constructor
  · rintro ⟨direction, hBits⟩
    cases direction with
    | up => exact .inl hBits
    | down => exact .inr hBits
  · rintro (hUp | hDown)
    · exact ⟨.up, hUp⟩
    · exact ⟨.down, hDown⟩

theorem Button.exists_bits_iff {code : Nat} :
    (∃ pressed : Button, code % 4 = pressed.bits) ↔ code % 4 ≠ 3 := by
  constructor
  · rintro ⟨pressed, hBits⟩
    rw [hBits]
    cases pressed <;> decide
  · intro hOther
    rcases low_bits_cases code with hLow | hLow | hLow | hLow
    · exact ⟨.left, hLow⟩
    · exact ⟨.middle, hLow⟩
    · exact ⟨.right, hLow⟩
    · exact absurd hLow hOther

/-- A report stands for an event if it is meaningful. -/
theorem Report.exists_means_iff {r : Report} : (∃ event, r.Means event) ↔ r.IsMeaningful := by
  have hKeys : (Modifiers.ofCode r.code).AreHeld r.code := Modifiers.areHeld_iff.mpr rfl
  constructor
  · rintro ⟨event, h⟩
    cases h with
    | wheel hWheel hDirection _ =>
      exact .inl ⟨hWheel, Direction.exists_bits_iff.mp ⟨_, hDirection⟩⟩
    | button hButton hPressed _ _ =>
      exact .inr ⟨hButton, Button.exists_bits_iff.mp ⟨_, hPressed⟩⟩
  · rintro (⟨hWheel, hLow⟩ | ⟨hButton, hLow⟩)
    · obtain ⟨direction, hDirection⟩ := Direction.exists_bits_iff.mpr hLow
      exact ⟨_, .wheel hWheel hDirection hKeys⟩
    · obtain ⟨pressed, hPressed⟩ := Button.exists_bits_iff.mpr hLow
      exact ⟨_, .button hButton hPressed hKeys rfl⟩

/-! ## The report of an event -/

/-- The bits of the keys lie between the two lowest bits and bit 32. -/
theorem Modifiers.bits_spec (m : Modifiers) :
    m.bits % 4 = 0 ∧ m.bits < 32 ∧ (m.shift = true ↔ m.bits / 4 % 2 = 1) ∧
      (m.alt = true ↔ m.bits / 8 % 2 = 1) ∧ (m.ctrl = true ↔ m.bits / 16 % 2 = 1) := by
  obtain ⟨shift, alt, ctrl⟩ := m
  cases shift <;> cases alt <;> cases ctrl <;> decide

/-- The keys are held by any code that has their bits between others. -/
theorem Modifiers.areHeld_code (m : Modifiers) {high low : Nat} (hHigh : high % 32 = 0)
    (hLow : low < 4) : m.AreHeld (high + m.bits + low) := by
  obtain ⟨hMod, hLt, hShift, hAlt, hCtrl⟩ := m.bits_spec
  constructor
  · rw [hShift]
    refine Iff.trans ?_ (@hasBit_two_pow_iff_div _ 2).symm
    omega
  · rw [hAlt]
    refine Iff.trans ?_ (@hasBit_two_pow_iff_div _ 3).symm
    omega
  · rw [hCtrl]
    refine Iff.trans ?_ (@hasBit_two_pow_iff_div _ 4).symm
    omega

theorem Direction.bits_lt (direction : Direction) : direction.bits < 4 := by
  cases direction <;> decide

theorem Button.bits_lt (pressed : Button) : pressed.bits < 4 := by
  cases pressed <;> decide

/-- The report of an event stands for it. -/
theorem Event.means_report (event : Event) : event.report.Means event := by
  cases event with
  | wheel direction x y m =>
    obtain ⟨hMod, hLt, -⟩ := m.bits_spec
    have hLow := direction.bits_lt
    refine .wheel ?_ ?_ (m.areHeld_code (by decide) hLow)
    · refine (@hasBit_two_pow_iff_div _ 6).mpr ?_
      simp only [Event.report]
      omega
    · simp only [Event.report]
      omega
  | button action pressed x y m =>
    obtain ⟨hMod, hLt, -⟩ := m.bits_spec
    have hLow := pressed.bits_lt
    -- what comes before the keys is the bit for a drag
    obtain ⟨high, hCode, hHigh, hDrag⟩ : ∃ high,
        (Event.button action pressed x y m).report.code = high + m.bits + pressed.bits ∧
          (high = 0 ∨ high = 32) ∧ (action = .drag ↔ high = 32) := by
      refine ⟨_, rfl, ?_, ?_⟩ <;> cases action <;> decide
    have hMotion : HasBit (high + m.bits + pressed.bits) 32 ↔ action = .drag := by
      rw [hDrag]
      refine Iff.trans (@hasBit_two_pow_iff_div _ 5) ?_
      omega
    refine .button ?_ ?_ ?_ ?_
    · rw [hCode]
      refine mt (@hasBit_two_pow_iff_div _ 6).mp ?_
      omega
    · rw [hCode]
      omega
    · rw [hCode]
      exact m.areHeld_code (by omega) hLow
    · simp only [hCode, hMotion]
      cases action <;> rfl

/-! ## Decoding -/

/-- The coordinates of an event. -/
def Event.position : Event → Nat × Nat
  | .wheel _ x y _ => (x, y)
  | .button _ _ x y _ => (x, y)

/-- The largest coordinate that a field has room for, counted from zero. -/
def maxCoordinate : Nat := 999999998

/-- The sign of a turn of the wheel, by the two lowest bits of its report. -/
theorem Report.Means.delta_cases {r : Report} {direction : Direction} {x y : Nat} {m : Modifiers}
    (h : r.Means (.wheel direction x y m)) :
    (r.code % 4 = 0 ∧ direction.delta = -1) ∨ (r.code % 4 = 1 ∧ direction.delta = 1) := by
  cases h with
  | wheel _ hDirection _ =>
    cases direction with
    | up => exact .inl ⟨hDirection, rfl⟩
    | down => exact .inr ⟨hDirection, rfl⟩

/-- The fields of the report of an event have room for its numbers. -/
theorem Event.report_fits {event : Event} (hX : event.position.1 ≤ maxCoordinate)
    (hY : event.position.2 ≤ maxCoordinate) :
    event.report.code < 10 ^ fieldDigits ∧ event.report.x < 10 ^ fieldDigits ∧
      event.report.y < 10 ^ fieldDigits := by
  have hRoom : 10 ^ fieldDigits = maxCoordinate + 2 := by decide
  rw [hRoom]
  cases event with
  | wheel direction x y m =>
    obtain ⟨-, hLt, -⟩ := m.bits_spec
    have hLow := direction.bits_lt
    simp only [Event.position, Event.report, maxCoordinate] at hX hY ⊢
    omega
  | button action pressed x y m =>
    obtain ⟨-, hLt, -⟩ := m.bits_spec
    have hLow := pressed.bits_lt
    simp only [Event.position, Event.report, maxCoordinate] at hX hY ⊢
    split <;> omega

/-- **What chunks decode to.** A chunk decodes to an event exactly if it spells, as a whole, a report
that stands for the event; so it decodes to some event exactly if it spells a report that is
meaningful, and to nothing otherwise. The sign of a turn of the wheel is -1 or 1, by the two lowest bits
of its report. And every event whose coordinates have room in their fields is what any chunk decodes to
that holds the report written for it. -/
theorem decoding_is_exact :
    (∀ chunk event, Event.ofChunk? chunk = some event ↔
      ∃ r : Report, r.IsSpelledBy chunk.chars ∧ r.Means event) ∧
      (∀ chunk, (Event.ofChunk? chunk).isSome ↔
        ∃ r : Report, r.IsSpelledBy chunk.chars ∧ r.IsMeaningful) ∧
      (∀ chunk direction x y m, Event.ofChunk? chunk = some (.wheel direction x y m) →
        ∃ r : Report, r.IsSpelledBy chunk.chars ∧
          ((r.code % 4 = 0 ∧ direction.delta = -1) ∨ (r.code % 4 = 1 ∧ direction.delta = 1))) ∧
      ∀ event : Event, event.position.1 ≤ maxCoordinate → event.position.2 ≤ maxCoordinate →
        ∀ chunk : Chunk, chunk.chars = event.report.toText → Event.ofChunk? chunk = some event := by
  have hDecodes : ∀ chunk event, Event.ofChunk? chunk = some event ↔
      ∃ r : Report, r.IsSpelledBy chunk.chars ∧ r.Means event := by
    intro chunk event
    simp only [Event.ofChunk?, Option.bind_eq_some_iff, Report.ofText?_eq_some_iff,
      Event.ofReport?_eq_some_iff]
  refine ⟨hDecodes, fun chunk => ?_, fun chunk direction x y m hTurn => ?_,
    fun event hX hY chunk hChars => ?_⟩
  · rw [Option.isSome_iff_exists]
    simp only [hDecodes, ← Report.exists_means_iff]
    exact exists_comm.trans (exists_congr fun r => exists_and_left)
  · obtain ⟨r, hSpelled, hMeans⟩ := (hDecodes chunk _).mp hTurn
    exact ⟨r, hSpelled, hMeans.delta_cases⟩
  · obtain ⟨hCode, hColumn, hRow⟩ := Event.report_fits hX hY
    refine (hDecodes chunk event).mpr ⟨event.report, ?_, event.means_report⟩
    rw [hChars]
    exact Report.isSpelledBy_toText hCode hColumn hRow

/-- A drag with two keys held, in the last cell that a field has room for. -/
def farDrag : Event := .button .drag .right 999999998 0 { shift := true, ctrl := true }

/-- The drag, and a turn of the wheel with a key held. -/
theorem decoding_is_exact_farDrag :
    let chunk := Chunk.bytes ("\x1b[<54;999999999;1M".toList.map Char.toUInt8)
    let turn := Chunk.text "\x1b[<73;3;0M".toList
    (farDrag.position.1 ≤ maxCoordinate ∧ farDrag.position.2 ≤ maxCoordinate ∧
      chunk.chars = farDrag.report.toText) ∧
      Event.ofChunk? chunk = some farDrag ∧
      Event.ofChunk? (.text "\x1b[<054;999999999;0m".toList) = some farDrag ∧
      Event.ofChunk? (.text "\x1b[<54;1000000000;1M".toList) = none ∧
      Event.ofChunk? turn = some (.wheel .down 2 0 { alt := true }) ∧
      ∃ r : Report, r.IsSpelledBy turn.chars ∧ r.code % 4 = 1 ∧ Direction.down.delta = 1 := by
  intro chunk turn
  obtain ⟨-, -, hTurns, hWritten⟩ := decoding_is_exact
  have hX : farDrag.position.1 ≤ maxCoordinate := by decide
  have hY : farDrag.position.2 ≤ maxCoordinate := by decide
  have hChars : chunk.chars = farDrag.report.toText := by decide +kernel
  have hTurn : Event.ofChunk? turn = some (.wheel .down 2 0 { alt := true }) := by decide +kernel
  refine ⟨⟨hX, hY, hChars⟩, hWritten farDrag hX hY chunk hChars, by decide +kernel,
    by decide +kernel, hTurn, ?_⟩
  obtain ⟨r, hSpelled, ⟨-, hUp⟩ | hDown⟩ := hTurns turn _ _ _ _ hTurn
  · exact absurd hUp (by decide)
  · exact ⟨r, hSpelled, hDown⟩

end ScrollPane.Mouse
