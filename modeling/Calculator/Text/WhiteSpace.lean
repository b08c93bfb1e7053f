import Calculator.Text.Ranges

/-! # White space

The property White_Space of Unicode, twenty-five characters. A line of a file that holds nothing
else is blank, and a text may be read without what stands around it. -/

namespace Calculator.Text

/-- The ranges of White_Space, ascending. -/
def whiteSpaceRanges : Ranges :=
  [(0x9, 0xD), (0x20, 0x20), (0x85, 0x85), (0xA0, 0xA0), (0x1680, 0x1680), (0x2000, 0x200A),
   (0x2028, 0x2029), (0x202F, 0x202F), (0x205F, 0x205F), (0x3000, 0x3000)]

/-- The character is white space. -/
def isWhiteSpace (c : Char) : Bool := whiteSpaceRanges.contains c

/-- The text holds nothing but white space. -/
def isBlank (text : List Char) : Bool := text.all isWhiteSpace

/-- The text without the white space at its ends. -/
def trim (text : List Char) : List Char :=
  ((text.dropWhile isWhiteSpace).reverse.dropWhile isWhiteSpace).reverse

end Calculator.Text
