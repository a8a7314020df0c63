import ObjectDocument.Text.Spans

/-!
# White space

The white space of this library is the Unicode property `White_Space`. It decides what a blank
suffix or pattern is, what trimming removes and what a number in a date may be preceded by.
-/

namespace ObjectDocument.Text

/-- The code points of the property `White_Space`. -/
def blankSpans : Spans := ⟨[
  0x9, 0xe, 0x20, 0x21, 0x85, 0x86, 0xa0, 0xa1, 0x1680, 0x1681, 0x2000, 0x200b, 0x2028, 0x202a,
  0x202f, 0x2030, 0x205f, 0x2060, 0x3000, 0x3001]⟩

def isBlank (c : Char) : Bool :=
  blankSpans.contains c

def trimLeft (cs : List Char) : List Char :=
  cs.dropWhile isBlank

/-- The characters between leading and trailing white space. -/
def trim (cs : List Char) : List Char :=
  (trimLeft (trimLeft cs).reverse).reverse

/-- Whether a text is empty or holds white space only. -/
def isBlankText (s : String) : Bool :=
  s.toList.all isBlank

end ObjectDocument.Text
