import ScrollPane.Text.Basic
import ScrollPane.Unicode.Digit

/-!
# Integer numerals

An optional sign, then decimal digits. The digits may come from any script, and from several, and a
single underscore may stand between two of them. A numeral of more than 4300 digits is refused,
whatever its value.
-/

namespace ScrollPane.Numeral

/-- The most digits a numeral may have, leading zeros included. -/
def digitLimit : Nat := 4300

/-- The values of one or more digits with at most one underscore between neighbours. -/
def digits? : Text → Option (List Nat)
  | [] => none
  | [c] => (Unicode.digit? c).map ([·])
  | c :: '_' :: rest => do
    let d ← Unicode.digit? c
    let ds ← digits? rest
    return d :: ds
  | c :: rest => do
    let d ← Unicode.digit? c
    let ds ← digits? rest
    return d :: ds

/-- The number that a list of digits denotes, the most significant first. -/
def value (digits : List Nat) : Nat := digits.foldl (fun n d => 10 * n + d) 0

/-- The value of an unsigned numeral within the digit limit. -/
def natural? (t : Text) : Option Nat :=
  ((digits? t).filter fun ds => ds.length ≤ digitLimit).map value

/-- The value of a numeral, if the text is one. -/
def int? : Text → Option Int
  | '+' :: rest => (natural? rest).map Int.ofNat
  | '-' :: rest => (natural? rest).map fun n => -Int.ofNat n
  | t => (natural? t).map Int.ofNat

end ScrollPane.Numeral
