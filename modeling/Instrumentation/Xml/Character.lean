import Instrumentation.Text.Ranges
/-
  Characters of XML 1.0 documents

  The character classes that reading a document depends on: which characters
  may stand in a document at all, which separate tokens, and which may begin or
  continue a name. The ranges are those of the XML recommendation (productions
  `Char`, `S`, `NameStartChar` and `NameChar`).
-/

namespace Instrumentation.Xml

open Text (liesIn)

/-- The characters that separate tokens: space, tab, line feed and return. -/
def isBlank (c : Char) : Bool :=
  c == ' ' || c == '\t' || c == '\n' || c == '\r'

/-- The characters a document may hold, written out or by reference: every
control character but the blanks is refused, and so are U+FFFE and U+FFFF. -/
def isDocumentChar (c : Char) : Bool :=
  if c.toNat < 0x20 then isBlank c else c.toNat != 0xFFFE && c.toNat != 0xFFFF

/-- Letters beyond ASCII that may begin a name. -/
def nameStartRanges : List (Nat × Nat) :=
  [(0xC0, 0xD6), (0xD8, 0xF6), (0xF8, 0x2FF), (0x370, 0x37D), (0x37F, 0x1FFF),
   (0x200C, 0x200D), (0x2070, 0x218F), (0x2C00, 0x2FEF), (0x3001, 0xD7FF),
   (0xF900, 0xFDCF), (0xFDF0, 0xFFFD), (0x10000, 0xEFFFF)]

def isNameStart (c : Char) : Bool :=
  c.isAlpha || c == ':' || c == '_' || liesIn nameStartRanges c

/-- Characters beyond those of `isNameStart` that may continue a name. -/
def nameRanges : List (Nat × Nat) :=
  [(0xB7, 0xB7), (0x300, 0x36F), (0x203F, 0x2040)]

/-- Characters that may stand in a name after its first. -/
def isNameChar (c : Char) : Bool :=
  isNameStart c || c.isDigit || c == '-' || c == '.' || liesIn nameRanges c

end Instrumentation.Xml
