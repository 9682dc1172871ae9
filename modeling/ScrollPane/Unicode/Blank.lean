import ScrollPane.Unicode.RangeTable

/-!
# Blank characters

White space in the wide sense: spaces of every script, tabs, line ends and the four information
separators.
-/

namespace ScrollPane.Unicode

/-- Code points that count as white space. -/
def blankTable : RangeTable :=
  [(0x9, 0xD), (0x1C, 0x20), (0x85, 0x85), (0xA0, 0xA0), (0x1680, 0x1680), (0x2000, 0x200A),
   (0x2028, 0x2029), (0x202F, 0x202F), (0x205F, 0x205F), (0x3000, 0x3000)]

example : blankTable.Ascending := by decide +kernel

/-- Whether a character is white space. -/
def isBlank (c : Char) : Bool := blankTable.contains c.toNat

end ScrollPane.Unicode
