import Mathlib.Data.List.DropRight
import ScrollPane.Proofs.Drawing

/-!
# Runs of a transcript

A transcript remembers the rows that it drew last. They are extended as lines come in, drawn anew
for another width, and forgotten when the lines are removed. None of this is ever seen: whatever a
transcript is told in whatever order, it answers as a plain list of lines would that clips every
line each time. That list holds what has been added since the lines were last removed.

## Main definitions

- `Transcript.Command`, `Transcript.run`: what a transcript can be told, and its answers;
- `Transcript.linesAfter`: the lines that it should hold then;
- `Transcript.Command.reply`: what it should answer with these lines.

## Main statements

- `Transcript.lines_run`: a transcript holds the lines it should hold;
- `Transcript.run_reply`: and so all its answers are as if nothing were remembered.
-/

namespace ScrollPane

/-! ## The lines of a text -/

namespace Text

theorem length_lines (t : Text) : t.lines.length = t.count '\n' + 1 := by
  induction t with
  | nil => rfl
  | cons c rest ih =>
    simp only [lines, splitLine, List.length_cons] at ih ⊢
    by_cases hBreak : c = '\n'
    · simp [hBreak, ih]
    · simp [hBreak, ih]

/-- The lines of a text give the text again once they are joined by newlines. -/
theorem intercalate_lines (t : Text) : List.intercalate ['\n'] t.lines = t := by
  induction t with
  | nil => rfl
  | cons c rest ih =>
    simp only [lines, splitLine] at ih ⊢
    by_cases hBreak : c = '\n'
    · simp [hBreak, ih]
    · -- the character goes in front of the first line, before any newline
      rw [if_neg hBreak]
      cases hMore : (splitLine rest).2 with
      | nil => simpa [hMore] using ih
      | cons line more => simpa [hMore] using ih

theorem newline_not_mem_of_mem_lines {t line : Text} (hLine : line ∈ t.lines) : '\n' ∉ line := by
  induction t generalizing line with
  | nil =>
    obtain rfl := List.mem_singleton.mp hLine
    exact List.not_mem_nil
  | cons c rest ih =>
    simp only [lines, splitLine] at ih hLine
    by_cases hBreak : c = '\n'
    · rw [if_pos hBreak, List.mem_cons] at hLine
      rcases hLine with rfl | hLater
      · exact List.not_mem_nil
      · exact ih hLater
    · rw [if_neg hBreak, List.mem_cons] at hLine
      rcases hLine with rfl | hLater
      · have hFirst : '\n' ∉ (splitLine rest).1 := ih List.mem_cons_self
        rw [List.mem_cons, not_or]
        exact ⟨Ne.symm hBreak, hFirst⟩
      · exact ih (List.mem_cons_of_mem _ hLater)

end Text

namespace Transcript

/-! ## Telling a transcript what to do -/

/-- The window that a transcript draws itself. -/
def window : Int → Viewport → StateM Transcript Window := component.window?.get rfl

/-- What a transcript can be told. -/
inductive Command where
  | append (text : Text)
  | appendLines (lines : List Text)
  | clear
  | invalidate
  | size
  | render (width : Int)
  | window (width : Int) (v : Viewport)
deriving DecidableEq, Repr

/-- What a transcript answers. -/
inductive Reply where
  | done
  | size (size : Nat)
  | rows (rows : List Text)
  | window (window : Window)
deriving DecidableEq, Repr

def step : Command → StateM Transcript Reply
  | .append text => do
    modify (·.append text)
    return .done
  | .appendLines lines => do
    modify (·.appendLines lines)
    return .done
  | .clear => do
    modify Transcript.clear
    return .done
  | .invalidate => do
    component.invalidate
    return .done
  | .size => return .size (← get).size
  | .render width => return .rows (← component.render width)
  | .window width v => return .window (← window width v)

def run : List Command → StateM Transcript (List Reply)
  | [] => pure []
  | c :: later => do
    let reply ← step c
    let replies ← run later
    return reply :: replies

/-! ## What it should come to -/

/-- The lines that a command adds. -/
def Command.added : Command → List Text
  | .append text => text.lines
  | .appendLines lines => lines
  | _ => []

/-- The lines that a transcript should hold: those it started with, unless they have been removed,
and all that has been added since the lines were last removed. -/
def linesAfter (initial : List Text) (commands : List Command) : List Text :=
  (if .clear ∈ commands then [] else initial) ++
    (commands.rtakeWhile (· ≠ .clear)).flatMap Command.added

/-- The answer to a command that is given these lines and remembers nothing. -/
def Command.reply (lines : List Text) : Command → Reply
  | .size => .size lines.length
  | .render width => .rows (lines.map (Text.clip · width))
  | .window width v =>
    .window {
      rows := ((lines.map (Text.clip · width)).drop v.top.toNat).take v.height.toNat
      contentHeight := lines.length }
  | _ => .done

theorem linesAfter_concat (initial : List Text) (commands : List Command) (c : Command) :
    linesAfter initial (commands ++ [c]) =
      if c = .clear then [] else linesAfter initial commands ++ c.added := by
  by_cases hClear : c = .clear
  · simp [linesAfter, hClear]
  · -- another command leaves the lines as they are, and only adds to them
    have hMem : Command.clear ∈ commands ++ [c] ↔ .clear ∈ commands := by
      simp [Ne.symm hClear]
    simp only [linesAfter, hMem, hClear, if_false, List.append_assoc]
    rw [List.rtakeWhile_concat_pos _ _ _ (by simpa using hClear), List.flatMap_append,
      List.flatMap_singleton]

/-! ## Step by step -/

/-- A command answers by the lines alone, whatever rows are remembered. -/
theorem step_reply (c : Command) (t : Transcript) : (step c t).1 = c.reply t.lines := by
  have hServes := Transcript.serves t.lines
  cases c with
  | render width =>
    obtain ⟨hRows, -⟩ := hServes.render width t rfl
    exact congrArg Reply.rows hRows
  | window width v =>
    -- the transcript's own answer is the one that viewing it gives, whose height is never too low
    obtain ⟨hRows, -⟩ := Transcript.answers_draw t.lines width t rfl
    have hWindow : (window width v t).1 = v.window (t.lines.map (Text.clip · width)) := by
      show Viewport.window v (draw width t).1 = _
      rw [hRows]
    refine congrArg Reply.window (hWindow.trans ?_)
    simp [Viewport.window, Viewport.slice]
  | _ => rfl

/-- A command leaves the lines that it should leave. -/
theorem step_lines (c : Command) (t : Transcript) :
    (step c t).2.lines = if c = .clear then [] else t.lines ++ c.added := by
  have hServes := Transcript.serves t.lines
  cases c with
  | append text => rfl
  | appendLines lines => rfl
  | clear => rfl
  | invalidate => exact (List.append_nil _).symm
  | size => exact (List.append_nil _).symm
  | render width =>
    obtain ⟨-, hLines⟩ := hServes.render width t rfl
    exact hLines.trans (List.append_nil _).symm
  | window width v =>
    obtain ⟨-, hLines⟩ := Transcript.answers_draw t.lines width t rfl
    exact hLines.trans (List.append_nil _).symm

/-! ## Whole runs -/

theorem run_append (past future : List Command) (t : Transcript) :
    run (past ++ future) t =
      let before := run past t
      let after := run future before.2
      (before.1 ++ after.1, after.2) := by
  induction past generalizing t with
  | nil => rfl
  | cons c past ih =>
    simp only [List.cons_append, run, bind_apply, pure_apply, ih]

theorem length_run (commands : List Command) (t : Transcript) :
    (run commands t).1.length = commands.length := by
  induction commands generalizing t with
  | nil => rfl
  | cons c later ih =>
    simp only [run, bind_apply, pure_apply, List.length_cons, ih]

/-- A transcript holds the lines that it should hold. -/
theorem lines_run (initial : List Text) (commands : List Command) :
    (run commands (ofLines initial)).2.lines = linesAfter initial commands := by
  -- the lines depend on what was told last, so the induction takes the last command away
  induction commands using List.reverseRecOn with
  | nil => simp [run, ofLines, linesAfter]
  | append_singleton past c ih =>
    have hStep := step_lines c (run past (ofLines initial)).2
    rw [ih] at hStep
    rw [run_append, linesAfter_concat]
    exact hStep

/-- **What a transcript remembers is never seen.** In every run, from any lines, each answer is the
one that the lines give which the transcript should hold at that time; and a text that is added
counts as its stretches between newlines, one more than it has newlines. -/
theorem run_reply (initial : List Text) (past : List Command) (c : Command)
    (future : List Command) :
    (run (past ++ c :: future) (ofLines initial)).1[past.length]? =
        some (c.reply (linesAfter initial past)) ∧
      ∀ text : Text,
        let added := (Command.append text).added
        List.intercalate ['\n'] added = text ∧ (∀ line ∈ added, '\n' ∉ line) ∧
          added.length = text.count '\n' + 1 := by
  constructor
  · have hReply := step_reply c (run past (ofLines initial)).2
    rw [lines_run] at hReply
    rw [run_append, ← hReply, List.getElem?_append_right (by rw [length_run]), length_run,
      Nat.sub_self]
    rfl
  · intro text added
    exact ⟨text.intercalate_lines, fun line hLine => Text.newline_not_mem_of_mem_lines hLine,
      text.length_lines⟩

/-- Rows drawn at one width are extended, drawn again at another, and gone once the lines are. -/
example :
    (run [.render 1, .append "ab\nc".toList, .render 1, .render 2, .clear, .appendLines [['d']],
        .window 2 { width := 2, height := 5, top := -3 }] (ofLines [['x', 'y']])).1 =
      [.rows [['x']], .done, .rows [['x'], ['a'], ['c']], .rows [['x', 'y'], ['a', 'b'], ['c']],
        .done, .done, .window { rows := [['d']], contentHeight := 1 }] := by
  decide +kernel

end Transcript

end ScrollPane
