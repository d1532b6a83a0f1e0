/-!
# Blank characters

The characters with the Unicode property `White_Space`.  Conditions may hold any
of them between two tokens, and a name made of nothing else counts as empty.
-/

namespace Lamplight.Text

/-- Whether a character has the Unicode property `White_Space`. -/
def isBlank (char : Char) : Bool :=
  (0x09 ≤ char.toNat && char.toNat ≤ 0x0D) || char.toNat == 0x20 ||
    char.toNat == 0x85 || char.toNat == 0xA0 || char.toNat == 0x1680 ||
    (0x2000 ≤ char.toNat && char.toNat ≤ 0x200A) || char.toNat == 0x2028 ||
    char.toNat == 0x2029 || char.toNat == 0x202F || char.toNat == 0x205F ||
    char.toNat == 0x3000

/-- Whether a text holds blanks only; the empty text does. -/
def isBlankText (text : String) : Bool :=
  text.toList.all isBlank

end Lamplight.Text
