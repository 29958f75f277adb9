import Bindery.Text.CharRange

/-!
# Blank text

A text is blank when it has no character but white space, where white space is the Unicode property
`White_Space`: the blanks and line breaks of ASCII, and the spaces and separators beyond it, but no
character of width zero.
-/

namespace Bindery

namespace Text

/-- The characters with the property `White_Space`. -/
def whiteSpace : CharRanges :=
  [(0x9, 0xD), (0x20, 0x20), (0x85, 0x85), (0xA0, 0xA0), (0x1680, 0x1680), (0x2000, 0x200A),
   (0x2028, 0x2029), (0x202F, 0x202F), (0x205F, 0x205F), (0x3000, 0x3000)]

/-- Whether a character is white space. -/
def isWhiteSpace (c : Char) : Bool :=
  whiteSpace.mem c

/-- Whether a text has no character but white space. -/
def isBlank (text : List Char) : Bool :=
  text.all isWhiteSpace

@[simp] theorem isBlank_nil : isBlank [] = true := rfl

@[simp] theorem isBlank_cons (c : Char) (text : List Char) :
    isBlank (c :: text) = (isWhiteSpace c && isBlank text) := rfl

@[simp] theorem isBlank_append (a b : List Char) : isBlank (a ++ b) = (isBlank a && isBlank b) :=
  List.all_append

end Text

end Bindery
