import ScrollPane.Text.Basic
import ScrollPane.Unicode.BreakClass

/-!
# Grapheme clusters

Text is divided into clusters by a machine that reads one break class at a time. Its state remembers
just enough of the characters before: a carriage return, a control, a prepended mark, the last part
of a Hangul syllable, an emoji with what may still join it, or one half of a flag.

## Main definitions

- `BreakState.step`: whether a cluster boundary lies before the next character, and the new state;
- `clusters`: the clusters of a text.
-/

namespace ScrollPane

open Unicode (BreakClass)

/-- What the characters read so far mean for the next boundary. -/
inductive BreakState where
  /-- Nothing that holds on to the next character, marks apart. -/
  | base
  | afterCR
  | afterControl
  | afterPrepend
  | afterLead
  | afterVowel
  | afterTail
  | afterPictographic
  /-- A pictograph followed by a joiner, which holds on to the next pictograph. -/
  | afterJoinedPictographic
  /-- The first letter of a flag. -/
  | afterRegionalIndicator
deriving DecidableEq, Repr

namespace BreakState

/-- The state after a character of class `k` when nothing before it matters. -/
def start : BreakClass → BreakState
  | .other | .extend | .spacingMark | .zwj => base
  | .cr => afterCR
  | .lf | .control => afterControl
  | .pictographic => afterPictographic
  | .regionalIndicator => afterRegionalIndicator
  | .leadJamo => afterLead
  | .openSyllable | .vowelJamo => afterVowel
  | .closedSyllable | .tailJamo => afterTail
  | .prepend => afterPrepend

/-- Whether a character of class `k` opens a cluster when nothing before it matters. -/
def opens : BreakClass → Bool
  | .extend | .spacingMark | .zwj => false
  | _ => true

/-- Whether there is a boundary before a character of class `k`, and the state after it. -/
def step : BreakState → BreakClass → Bool × BreakState
  | afterCR, .lf => (false, afterControl)
  | afterCR, k => (true, start k)
  | afterControl, k => (true, start k)
  | afterPrepend, .control => (true, base)
  | afterPrepend, .lf => (true, base)
  | afterPrepend, .cr => (true, afterCR)
  | afterPrepend, k => (false, start k)
  | afterLead, .vowelJamo => (false, afterVowel)
  | afterLead, .openSyllable => (false, afterVowel)
  | afterLead, .closedSyllable => (false, afterTail)
  | afterLead, .leadJamo => (false, afterLead)
  | afterVowel, .vowelJamo => (false, afterVowel)
  | afterVowel, .tailJamo => (false, afterTail)
  | afterTail, .tailJamo => (false, afterTail)
  | afterPictographic, .extend => (false, afterPictographic)
  | afterPictographic, .zwj => (false, afterJoinedPictographic)
  | afterJoinedPictographic, .pictographic => (false, afterPictographic)
  | afterRegionalIndicator, .regionalIndicator => (false, base)
  | _, k => (opens k, start k)

end BreakState

namespace Text

/-- Continues a cluster in state `s`: what still belongs to it, and the clusters after it. -/
def splitCluster (s : BreakState) : Text → Text × List Text
  | [] => ([], [])
  | c :: rest =>
    let next := s.step (BreakClass.ofChar c)
    let split := splitCluster next.2 rest
    if next.1 then ([], (c :: split.1) :: split.2) else (c :: split.1, split.2)

/-- The grapheme clusters of a text, in order. -/
def clusters : Text → List Text
  | [] => []
  | c :: rest =>
    let split := splitCluster (BreakState.start (BreakClass.ofChar c)) rest
    (c :: split.1) :: split.2

end Text

end ScrollPane
