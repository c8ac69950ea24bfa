import EntityLink.Text.CodeSet

/-!
# Blank text

White space is the Unicode property White_Space.  Settings and names are trimmed
of it, and a text of nothing else counts as empty.
-/

namespace EntityLink.Text

/-- The characters with the property White_Space. -/
def blankSet : CodeSet := ⟨[
    0x9, 0xe, 0x20, 0x21, 0x85, 0x86, 0xa0, 0xa1, 0x1680, 0x1681, 0x2000,
    0x200b, 0x2028, 0x202a, 0x202f, 0x2030, 0x205f, 0x2060, 0x3000, 0x3001]⟩

def isBlankChar (character : Char) : Bool :=
  blankSet.contains character

/-- Removes white space from both ends of a list of characters. -/
def trimChars (characters : List Char) : List Char :=
  ((characters.dropWhile isBlankChar).reverse.dropWhile isBlankChar).reverse

def trim (text : String) : String :=
  String.ofList (trimChars text.toList)

/-- Says whether a text holds nothing but white space. -/
def isBlank (text : String) : Bool :=
  text.toList.all isBlankChar

end EntityLink.Text
