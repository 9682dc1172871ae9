import ScrollPane.Text.Basic

/-!
# Escape sequences

A styled line is characters with escape sequences between them. Two shapes are known:

- a *control sequence*: `ESC [`, then parameters (digits and semicolons), then one of the letters
  `m`, `G`, `K`, `H`, `J`;
- a *command string*: `ESC ]` or `ESC _`, then any body, then `BEL` or `ESC \`. The first terminator
  ends it, whatever the body holds.

One scan from left to right splits a line into tokens. The visible text and the pieces of a line are
both read off that scan, so they cannot disagree about where an escape begins or ends.

## Main definitions

- `escapeLength?`: the length of the escape sequence at the head of a text;
- `tokens`, `visible`, `pieces`: a line as tokens, without its escapes, and as runs;
- `escapeAt?`, `lookUp`: the escape sequence at a position.
-/

namespace ScrollPane.Text

/-! ## The grammar -/

/-- A parameter character of a control sequence. -/
def isParameter (c : Char) : Bool := c.isDigit || c == ';'

/-- A letter that ends a control sequence. -/
def isFinal (c : Char) : Bool := c == 'm' || c == 'G' || c == 'K' || c == 'H' || c == 'J'

/-- The length of the parameters and the final letter at the head of a text. -/
def controlLength? : Text → Option Nat
  | [] => none
  | c :: rest =>
    if isParameter c then (controlLength? rest).map (· + 1)
    else if isFinal c then some 1
    else none

/-- The length up to and including the first terminator of a command string. -/
def commandLength? : Text → Option Nat
  | [] => none
  | '\x07' :: _ => some 1
  | '\x1b' :: '\\' :: _ => some 2
  | _ :: rest => (commandLength? rest).map (· + 1)

/-- The length of the complete escape sequence at the head of a text. -/
def escapeLength? : Text → Option Nat
  | '\x1b' :: '[' :: rest => (controlLength? rest).map (· + 2)
  | '\x1b' :: ']' :: rest => (commandLength? rest).map (· + 2)
  | '\x1b' :: '_' :: rest => (commandLength? rest).map (· + 2)
  | _ => none

/-! ## The scan -/

/-- A token of a line. -/
inductive Token where
  /-- A character outside every escape sequence. -/
  | char (c : Char)
  /-- A whole escape sequence. -/
  | escape (code : Text)
deriving DecidableEq, Repr

/-- The tokens of a text whose first `skip` characters belong to a token already taken. -/
def tokensFrom : Nat → Text → List Token
  | _, [] => []
  | skip + 1, _ :: rest => tokensFrom skip rest
  | 0, c :: rest =>
    match escapeLength? (c :: rest) with
    | some n => .escape ((c :: rest).take n) :: tokensFrom (n - 1) rest
    | none => .char c :: tokensFrom 0 rest

/-- The tokens of a line, from left to right. -/
def tokens (line : Text) : List Token := tokensFrom 0 line

/-- The character of a token outside the escapes. -/
def Token.char? : Token → Option Char
  | .char c => some c
  | .escape _ => none

/-- The line without its escape sequences. Text joined by a removal is not scanned again. -/
def visible (line : Text) : Text := line.tokens.filterMap Token.char?

/-! ## Pieces -/

/-- A piece of a line: one escape sequence, or a longest run of other characters. -/
inductive Piece where
  | plain (run : Text)
  | escape (code : Text)
deriving DecidableEq, Repr

/-- Tokens with neighbouring characters joined into runs. -/
def Piece.ofTokens : List Token → List Piece
  | [] => []
  | .escape code :: rest => .escape code :: ofTokens rest
  | .char c :: rest =>
    match ofTokens rest with
    | .plain run :: more => .plain (c :: run) :: more
    | more => .plain [c] :: more

/-- The pieces of a line, in order. -/
def pieces (line : Text) : List Piece := Piece.ofTokens line.tokens

/-! ## Look-up at a position -/

/-- An escape sequence found at a position, with the distance from the position asked for to its
end. -/
structure EscapeAt where
  code : Text
  length : Int
deriving DecidableEq, Repr

/-- The escape sequence that starts at `pos`. A position before the text stands for its start and one
beyond the text for its end, but the length counts from `pos` as given. -/
def escapeAt? (t : Text) (pos : Int) : Option EscapeAt :=
  let start := min pos.toNat t.length
  (escapeLength? (t.drop start)).map fun n =>
    { code := (t.drop start).take n, length := (start + n : Nat) - pos }

/-- A position that can be looked up: a signed integer of 64 bits. -/
def IsPosition (pos : Int) : Prop := -0x8000000000000000 ≤ pos ∧ pos < 0x8000000000000000

instance (pos : Int) : Decidable (IsPosition pos) := inferInstanceAs (Decidable (_ ∧ _))

/-- Why a look-up has no answer. -/
inductive LookUpError where
  /-- The position is no integer of 64 bits. -/
  | positionTooLarge
deriving DecidableEq, Repr

/-- Looks up the escape sequence that starts at a position, if the position can be looked up. -/
def lookUp (t : Text) (pos : Int) : Except LookUpError (Option EscapeAt) :=
  if IsPosition pos then .ok (t.escapeAt? pos) else .error .positionTooLarge

end ScrollPane.Text
