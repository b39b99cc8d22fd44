import SecurityScan.Text.Case
import SecurityScan.Text.CharacterName.Letters
import SecurityScan.Text.CharacterName.Pictures
import SecurityScan.Text.CharacterName.Symbols

/-!
# Characters by name

A character is found by any of its names, in letters of either case, and a name by its character.
-/

namespace SecurityScan.Text

/-- The character that has a name. -/
def charNamed? (name : String) : Option Char :=
  let name := upper name
  let found := (CharacterName.aliases.lookup name).or
    ((CharacterName.ideograph? name).or
      ((CharacterName.letters ++ CharacterName.symbols ++ CharacterName.pictures).findSome?
        fun b => b.find? name))
  found.map Char.ofNat

/-- The name of the character with a code point. -/
def nameOf? (n : Nat) : Option String :=
  (CharacterName.ideographName? n).or
    ((CharacterName.letters ++ CharacterName.symbols ++ CharacterName.pictures).findSome?
      fun b => b.nameOf? n)

end SecurityScan.Text
