import Instrumentation.Xml.Position
/-
  Why a document is refused

  Every cause a reader may meet, with the places and names it needs, and the
  one function that words them. A character named in "expected ... not" is shown
  by the first byte of its UTF-8 form, since that is as far as the reader looked.
-/

namespace Instrumentation.Xml

/-- What a reader expected where it found another character. -/
inductive Expected where
  | quote
  | blank
  | character (c : Char)
  deriving DecidableEq, Repr

/-- Causes for refusing a document. -/
inductive ReadError where
  | doctype
  | noRoot
  | unclosedRoot
  | nodeLimit
  | endOfInput
  | invalidName (position : Position)
  | nonXmlCharacter (c : Char) (position : Position)
  | unexpected (wanted : Expected) (found : Char) (position : Position)
  | missing (wanted : String) (position : Position)
  | unknownToken (position : Position)
  | misplacedDeclaration (position : Position)
  | dashesInComment (position : Position)
  | sectionEndInText (position : Position)
  | malformedReference (position : Position)
  | unknownEntity (name : String) (position : Position)
  | mismatchedEnd (opened closed : String) (position : Position)
  | reservedElementPrefix (position : Position)
  | wrongXmlUri (position : Position)
  | xmlUriElsewhere (position : Position)
  | xmlnsUri (position : Position)
  | duplicateNamespace (name : String) (position : Position)
  | unknownNamespace (name : String) (position : Position)
  | duplicateAttribute (name : String) (position : Position)
  deriving DecidableEq, Repr

/-- The first byte of a character's UTF-8 form. -/
def leadByte (c : Char) : Nat :=
  let n := c.toNat
  if n < 0x80 then n
  else if n < 0x800 then 0xC0 + n / 0x40
  else if n < 0x10000 then 0xE0 + n / 0x1000
  else 0xF0 + n / 0x40000

/-- Lower-case hexadecimal digits of a number, at least one. -/
def hexText (n : Nat) : String := String.ofList (Nat.toDigits 16 n)

/-- A refused character as an error shows it. Only control characters and the
two last code points of the first plane are ever refused. -/
def refusedCharText (c : Char) : String :=
  if c.toNat = 0 then "'\\0'" else "'\\u\x7b" ++ hexText c.toNat ++ "\x7d'"

namespace ReadError

def message : ReadError → String
  | doctype => "XML with DTD detected"
  | noRoot => "the document does not have a root node"
  | unclosedRoot => "the root node was opened but never closed"
  | nodeLimit => "nodes limit reached"
  | endOfInput => "unexpected end of stream"
  | invalidName p => "invalid name token at " ++ p.text
  | nonXmlCharacter c p =>
    "a non-XML character " ++ refusedCharText c ++ " found at " ++ p.text
  | unexpected wanted found p =>
    let shown := match wanted with
      | .quote => "a quote"
      | .blank => "a whitespace"
      | .character c => "'" ++ String.singleton c ++ "'"
    "expected " ++ shown ++ " not '" ++ String.singleton (Char.ofNat (leadByte found)) ++
      "' at " ++ p.text
  | missing wanted p => "expected '" ++ wanted ++ "' at " ++ p.text
  | unknownToken p => "unknown token at " ++ p.text
  | misplacedDeclaration p => "unexpected XML declaration at " ++ p.text
  | dashesInComment p => "comment at " ++ p.text ++ " contains '--'"
  | sectionEndInText p => "']]>' at " ++ p.text ++ " is not allowed inside a character data"
  | malformedReference p => "malformed entity reference at " ++ p.text
  | unknownEntity name p => "unknown entity reference '" ++ name ++ "' at " ++ p.text
  | mismatchedEnd opened closed p =>
    "expected '" ++ opened ++ "' tag, not '" ++ closed ++ "' at " ++ p.text
  | reservedElementPrefix p =>
    "the 'xmlns' prefix is used at " ++ p.text ++ ", but it must not be"
  | wrongXmlUri p => "'xml' namespace prefix mapped to wrong URI at " ++ p.text
  | xmlUriElsewhere p =>
    "the 'xml' namespace URI is used for not 'xml' prefix at " ++ p.text
  | xmlnsUri p =>
    "the 'xmlns' URI is used at " ++ p.text ++ ", but it must not be declared"
  | duplicateNamespace name p =>
    "namespace '" ++ name ++ "' at " ++ p.text ++ " is already defined"
  | unknownNamespace name p => "an unknown namespace prefix '" ++ name ++ "' at " ++ p.text
  | duplicateAttribute name p =>
    "attribute '" ++ name ++ "' at " ++ p.text ++ " is already defined"

end ReadError

end Instrumentation.Xml
