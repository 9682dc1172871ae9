import ScrollPane.Unicode.RangeTable

/-!
# Format characters

The general category Cf (Unicode 14): invisible characters that only steer the layout of others.
-/

namespace ScrollPane.Unicode

/-- Code points of general category Cf. -/
def formatTable : RangeTable :=
  [(0xAD, 0xAD), (0x600, 0x605), (0x61C, 0x61C), (0x6DD, 0x6DD), (0x70F, 0x70F), (0x890, 0x891),
   (0x8E2, 0x8E2), (0x180E, 0x180E), (0x200B, 0x200F), (0x202A, 0x202E), (0x2060, 0x2064),
   (0x2066, 0x206F), (0xFEFF, 0xFEFF), (0xFFF9, 0xFFFB), (0x110BD, 0x110BD), (0x110CD, 0x110CD),
   (0x13430, 0x13438), (0x1BCA0, 0x1BCA3), (0x1D173, 0x1D17A), (0xE0001, 0xE0001),
   (0xE0020, 0xE007F)]

example : formatTable.Ascending := by decide +kernel

/-- Whether a character is of general category Cf. -/
def isFormat (c : Char) : Bool := formatTable.contains c.toNat

end ScrollPane.Unicode
