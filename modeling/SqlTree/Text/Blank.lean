import SqlTree.Text.CodeRange

/-!
# Blank characters

The characters that may stand between tokens: those with the Unicode property White_Space.
-/

namespace SqlTree.Text

/-- The characters with the property White_Space. -/
def blankRanges : List CodeRange := [
  ⟨0x9, 0xD⟩, ⟨0x20, 0x20⟩, ⟨0x85, 0x85⟩, ⟨0xA0, 0xA0⟩, ⟨0x1680, 0x1680⟩, ⟨0x2000, 0x200A⟩,
  ⟨0x2028, 0x2029⟩, ⟨0x202F, 0x202F⟩, ⟨0x205F, 0x205F⟩, ⟨0x3000, 0x3000⟩]

/-- Whether a character is white space. -/
def isBlank (character : Char) : Bool :=
  covers blankRanges character.toNat

end SqlTree.Text
