import ScrollPane.Terminal
import Mathlib.Data.Finset.Basic

/-!
# The private modes of a terminal

A terminal understands the sequences that switch mouse reports as commands: `ESC [ ?`, the number of a
private mode, and `h` to set it or `l` to reset it. What a call leaves alone stays as it was, and a
call without buttons leaves the mode for drags alone. So a mode is set just if the last call that
concerns it has switched it on, and switching off without buttons does not end the drags that an
earlier call with buttons asked for.

## Main definitions

- `ModeReader`: a terminal as a reader of mode commands;
- `Terminal.modes`: the modes that are set after all that has been written;
- `TrackingCall.LeavesOn`: calls the last of which that concerns a mode has switched it on.

## Main statements

- `ModeReader.read_modeSwitch`: each switch is read as the command it stands for;
- `Terminal.mem_modes_switchAll_iff`: the modes that are set after any calls;
- `Terminal.switching_off_clears_iff`: when switching off leaves no mode set.
-/

namespace ScrollPane

/-! ## Reading mode commands -/

/-- How much of a mode command has come in. -/
inductive ModeCommand where
  | outside
  /-- `ESC` -/
  | escape
  /-- `ESC [` -/
  | bracket
  /-- `ESC [ ?`, and digits that denote the number. -/
  | mode (number : Nat)
deriving DecidableEq, Repr

/-- A terminal as a reader of mode commands: the command that is coming in, and the modes set. -/
structure ModeReader where
  command : ModeCommand := .outside
  modes : Finset Nat := ∅
deriving DecidableEq

namespace ModeReader

/-- Reads one character. The escape character begins a command wherever it comes, and a character that
does not fit gives the command up. -/
def step (r : ModeReader) (c : Char) : ModeReader :=
  if c = Text.esc then { r with command := .escape }
  else
    match r.command with
    | .outside => r
    | .escape => { r with command := if c = '[' then .bracket else .outside }
    | .bracket => { r with command := if c = '?' then .mode 0 else .outside }
    | .mode number =>
      if c.isDigit then { r with command := .mode (10 * number + (c.toNat - '0'.toNat)) }
      else if c = 'h' then { command := .outside, modes := insert number r.modes }
      else if c = 'l' then { command := .outside, modes := r.modes.erase number }
      else { r with command := .outside }

/-- Reads a text. -/
def read (r : ModeReader) (t : Text) : ModeReader := t.foldl step r

theorem read_append (r : ModeReader) (t u : Text) : r.read (t ++ u) = (r.read t).read u :=
  List.foldl_append

/-- Digits are added to the number that is coming in. -/
theorem read_digits {digits : Text} (hDigits : ∀ c ∈ digits, c.isDigit = true) (number : Nat)
    (modes : Finset Nat) :
    read ⟨.mode number, modes⟩ digits = ⟨.mode (Nat.ofDigitChars 10 digits number), modes⟩ := by
  induction digits generalizing number with
  | nil => rfl
  | cons c digits ih =>
    obtain ⟨hDigit, hMore⟩ := List.forall_mem_cons.mp hDigits
    have hPlain : c ≠ Text.esc := by
      rintro rfl
      cases hDigit
    have hStep : step ⟨.mode number, modes⟩ c =
        ⟨.mode (10 * number + (c.toNat - '0'.toNat)), modes⟩ := by
      simp only [step, if_neg hPlain, if_pos hDigit]
    show read (step ⟨.mode number, modes⟩ c) digits = _
    rw [hStep, ih hMore]
    rfl

/-- The switch of a mode is read as the command that sets or resets it, whatever was coming in. -/
theorem read_modeSwitch (r : ModeReader) (enable : Bool) (mode : Nat) :
    r.read (Mouse.modeSwitch enable mode) =
      ⟨.outside, if enable then insert mode r.modes else r.modes.erase mode⟩ := by
  have hDigits : ∀ c ∈ Nat.toDigits 10 mode, c.isDigit = true :=
    fun c hMem => Nat.isDigit_of_mem_toDigits (by decide) (by decide) hMem
  have hOpened : r.read ['\x1b', '[', '?'] = ⟨.mode 0, r.modes⟩ := rfl
  rw [Mouse.modeSwitch, read_append, read_append, hOpened, read_digits hDigits,
    Nat.ofDigitChars_ten_toDigits]
  cases enable <;> rfl

/-- Switching some modes leaves the others alone. -/
theorem mem_modes_read_switches {r : ModeReader} {enable : Bool} {switched : List Nat} {m : Nat} :
    m ∈ (r.read (switched.flatMap (Mouse.modeSwitch enable))).modes ↔
      if m ∈ switched then enable = true else m ∈ r.modes := by
  induction switched generalizing r with
  | nil => exact Iff.rfl
  | cons mode switched ih =>
    rw [List.flatMap_cons, read_append, read_modeSwitch, ih]
    by_cases hLater : m ∈ switched
    · simp [hLater]
    · by_cases hNow : m = mode
      · subst hNow
        cases enable <;> simp [hLater]
      · cases enable <;> simp [hLater, hNow]

/-- The order in which modes are switched does not matter. -/
theorem mem_modes_read_trackingSequence {r : ModeReader} {enable buttons : Bool} {m : Nat} :
    m ∈ (r.read (Mouse.trackingSequence enable buttons)).modes ↔
      if m ∈ Mouse.trackingModes buttons then enable = true else m ∈ r.modes := by
  rw [Mouse.trackingSequence, mem_modes_read_switches]
  cases enable <;> simp

end ModeReader

/-! ## Calls -/

/-- One call that switches mouse reports on or off. -/
structure TrackingCall where
  enabled : Bool
  buttons : Bool := false
deriving DecidableEq, Repr

namespace TrackingCall

/-- The call sets or resets the mode. -/
def Concerns (c : TrackingCall) (m : Nat) : Prop := m ∈ Mouse.trackingModes c.buttons

instance (c : TrackingCall) (m : Nat) : Decidable (c.Concerns m) :=
  inferInstanceAs (Decidable (_ ∈ _))

theorem concerns_iff {c : TrackingCall} {m : Nat} :
    c.Concerns m ↔ m = 1000 ∨ m = 1006 ∨ (m = 1002 ∧ c.buttons = true) := by
  obtain ⟨enabled, buttons⟩ := c
  cases buttons <;> simp [Concerns, Mouse.trackingModes, or_comm]

/-- The last of the calls that concerns the mode has switched it on. -/
def LeavesOn (calls : List TrackingCall) (m : Nat) : Prop :=
  ∃ before c after, calls = before ++ c :: after ∧ c.enabled = true ∧ c.Concerns m ∧
    ∀ later ∈ after, ¬later.Concerns m

theorem not_leavesOn_nil (m : Nat) : ¬LeavesOn [] m := by
  rintro ⟨before, c, after, hNil, -⟩
  simp at hNil

theorem leavesOn_cons_iff {c : TrackingCall} {calls : List TrackingCall} {m : Nat} :
    LeavesOn (c :: calls) m ↔
      LeavesOn calls m ∨ (c.enabled = true ∧ c.Concerns m ∧ ∀ later ∈ calls, ¬later.Concerns m) := by
  constructor
  · rintro ⟨before, last, after, hSplit, hLast⟩
    cases before with
    | nil =>
      obtain ⟨rfl, rfl⟩ := List.cons.inj hSplit
      exact .inr hLast
    | cons first before =>
      obtain ⟨-, rfl⟩ := List.cons.inj hSplit
      exact .inl ⟨before, last, after, rfl, hLast⟩
  · rintro (⟨before, last, after, rfl, hLast⟩ | hFirst)
    · exact ⟨c :: before, last, after, rfl, hLast⟩
    · exact ⟨[], c, calls, rfl, hFirst⟩

/-- The mode for drags is left on by a call with buttons that none with buttons has followed. -/
theorem leavesOn_drags_iff {calls : List TrackingCall} :
    LeavesOn calls 1002 ↔
      ∃ before after, calls = before ++ { enabled := true, buttons := true } :: after ∧
        ∀ later ∈ after, later.buttons = false := by
  have hDrags : ∀ c : TrackingCall, c.Concerns 1002 ↔ c.buttons = true := by
    intro c
    simp [concerns_iff]
  simp only [LeavesOn, hDrags, Bool.not_eq_true]
  constructor
  · rintro ⟨before, ⟨enabled, buttons⟩, after, rfl, rfl, rfl, hLater⟩
    exact ⟨before, after, rfl, hLater⟩
  · rintro ⟨before, after, rfl, hLater⟩
    exact ⟨before, _, after, rfl, rfl, rfl, hLater⟩

end TrackingCall

namespace Terminal

/-- The modes that are set after all that has been written. -/
def modes (t : Terminal) : Finset Nat := (ModeReader.read {} t.written.flatten).modes

/-- Makes calls one after the other. -/
def switchAll (t : Terminal) (calls : List TrackingCall) : Terminal :=
  calls.foldl (fun t c => t.setMouseTracking c.enabled c.buttons) t

/-- A call decides on the modes it concerns and leaves the others alone. -/
theorem mem_modes_setMouseTracking {t : Terminal} (c : TrackingCall) {m : Nat} :
    m ∈ (t.setMouseTracking c.enabled c.buttons).modes ↔
      if c.Concerns m then c.enabled = true else m ∈ t.modes := by
  have hWritten : (t.setMouseTracking c.enabled c.buttons).written.flatten =
      t.written.flatten ++ Mouse.trackingSequence c.enabled c.buttons := by
    simp [setMouseTracking, write]
  rw [modes, hWritten, ModeReader.read_append, ModeReader.mem_modes_read_trackingSequence]
  rfl

/-- The modes that are set after some calls are those that the calls leave on, and those set before
that no call concerns. -/
theorem mem_modes_switchAll_iff {t : Terminal} {calls : List TrackingCall} {m : Nat} :
    m ∈ (t.switchAll calls).modes ↔
      TrackingCall.LeavesOn calls m ∨ (m ∈ t.modes ∧ ∀ c ∈ calls, ¬c.Concerns m) := by
  induction calls generalizing t with
  | nil => simp [switchAll, TrackingCall.not_leavesOn_nil]
  | cons c calls ih =>
    have hFirst : t.switchAll (c :: calls) =
        (t.setMouseTracking c.enabled c.buttons).switchAll calls := rfl
    rw [hFirst, ih, mem_modes_setMouseTracking, TrackingCall.leavesOn_cons_iff, List.forall_mem_cons]
    by_cases hConcerns : c.Concerns m
    · simp [hConcerns]
    · simp [hConcerns]

/-- After a call that switches off, only the mode for drags can be set: where the call is made without
buttons and the calls before it have left that mode on. -/
theorem mem_modes_switchedOff_iff {t : Terminal} (hNone : t.modes = ∅) (calls : List TrackingCall)
    (buttons : Bool) {m : Nat} :
    m ∈ (t.switchAll (calls ++ [{ enabled := false, buttons }])).modes ↔
      m = 1002 ∧ buttons = false ∧ TrackingCall.LeavesOn calls 1002 := by
  have hLast : t.switchAll (calls ++ [{ enabled := false, buttons }]) =
      (t.switchAll calls).setMouseTracking false buttons := by
    simp [switchAll]
  have hNotBefore : m ∉ t.modes := by simp [hNone]
  rw [hLast, mem_modes_setMouseTracking { enabled := false, buttons }, mem_modes_switchAll_iff]
  constructor
  · intro h
    split at h
    · cases h
    · next hOther =>
      rcases h with hOn | ⟨hBefore, -⟩
      · obtain ⟨-, c, -, -, -, hConcerns, -⟩ := id hOn
        -- the call resets the other two modes, whatever its flag
        rcases TrackingCall.concerns_iff.mp hConcerns with rfl | rfl | ⟨rfl, -⟩
        · exact absurd (TrackingCall.concerns_iff.mpr (.inl rfl)) hOther
        · exact absurd (TrackingCall.concerns_iff.mpr (.inr (.inl rfl))) hOther
        · refine ⟨rfl, ?_, hOn⟩
          simpa [TrackingCall.concerns_iff] using hOther
      · exact absurd hBefore hNotBefore
  · rintro ⟨rfl, rfl, hOn⟩
    rw [if_neg (by decide)]
    exact .inl hOn

/-- **When switching off leaves no mode set.** After calls on a terminal that starts with no mode set,
the last of which switches off, no mode but the one for drags can be left. None is left just if that
call is made with buttons, or if each call that switched on with buttons has been followed by another
one with buttons. -/
theorem switching_off_clears_iff {t : Terminal} (hNone : t.modes = ∅) (calls : List TrackingCall)
    (buttons : Bool) :
    let off := t.switchAll (calls ++ [{ enabled := false, buttons }])
    off.modes ⊆ {1002} ∧
      (off.modes = ∅ ↔
        buttons = true ∨
          ∀ before after, calls = before ++ { enabled := true, buttons := true } :: after →
            ∃ later ∈ after, later.buttons = true) := by
  intro off
  have hLeft : ∀ m, m ∈ off.modes ↔ m = 1002 ∧ buttons = false ∧ TrackingCall.LeavesOn calls 1002 :=
    fun m => mem_modes_switchedOff_iff hNone calls buttons
  constructor
  · intro m hMem
    exact Finset.mem_singleton.mpr ((hLeft m).mp hMem).1
  · calc off.modes = ∅
        ↔ ¬(buttons = false ∧ TrackingCall.LeavesOn calls 1002) := by
          simp [Finset.eq_empty_iff_forall_notMem, hLeft]
      _ ↔ buttons = true ∨ ¬TrackingCall.LeavesOn calls 1002 := by
          rw [not_and_or, Bool.not_eq_false]
      _ ↔ _ := by
          rw [TrackingCall.leavesOn_drags_iff]
          simp

/-- Buttons are asked for and given back before the wheel alone is, on a terminal to which half a
command has been written. -/
theorem switching_off_clears_iff_takenBack :
    let t : Terminal := { rows := 24, written := ["\x1b[2J".toList, "\x1b[?10".toList] }
    let calls : List TrackingCall :=
      [{ enabled := true, buttons := true }, { enabled := false, buttons := true },
        { enabled := true }]
    t.modes = ∅ ∧ (t.switchAll calls).modes = {1000, 1006} ∧
      (t.switchAll (calls ++ [{ enabled := false }])).modes = ∅ := by
  intro t calls
  have hNone : t.modes = ∅ := by decide +kernel
  refine ⟨hNone, by decide +kernel, ?_⟩
  refine (switching_off_clears_iff hNone calls false).2.mpr (.inr ?_)
  intro before after hSplit
  cases before with
  | nil =>
    obtain ⟨-, rfl⟩ := List.cons.inj hSplit
    exact ⟨{ enabled := false, buttons := true }, List.mem_cons_self, rfl⟩
  | cons first before =>
    -- the first call is the only one that switches on with buttons
    have hRest : calls.tail = before ++ { enabled := true, buttons := true } :: after :=
      congrArg List.tail hSplit
    have hMem : { enabled := true, buttons := true } ∈ calls.tail := by
      rw [hRest]
      exact List.mem_append_right before List.mem_cons_self
    exact absurd hMem (by decide)

/-- A call without buttons does not end the drags that a call with buttons has asked for. -/
theorem switching_off_leaves_drags :
    let t : Terminal := { rows := 24 }
    t.modes = ∅ ∧
      (t.switchAll [{ enabled := true, buttons := true }, { enabled := false }]).modes = {1002} := by
  decide +kernel

end Terminal

end ScrollPane
