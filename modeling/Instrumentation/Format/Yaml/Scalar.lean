import Instrumentation.Format.Yaml.Implicit
/-
  Scalars

  A string is written plain where nothing in it would be misread, between single
  quotation marks otherwise, and between double ones where it holds what only an
  escape can express. A string of several lines is written as the block of its
  lines, if its white space survives that.
-/

namespace Instrumentation.Format.Yaml

def isBreak (c : Char) : Bool :=
  c == '\n' || c == '\r' || c == '\u0085' || c == '\u2028' || c == '\u2029'

/-- Whether a character may stand in a document as it is. -/
def isPrintable (c : Char) : Bool :=
  let n := c.toNat
  n == 0xA || (0x20 ≤ n && n ≤ 0x7E) || (0xA0 ≤ n && n ≤ 0xD7FF) ||
    (0xE000 ≤ n && n ≤ 0xFFFD && n != 0xFEFF) || 0x10000 ≤ n

/-- Whether a character separates what stands on its two sides. -/
def isSeparator (c : Char) : Bool :=
  c == ' ' || c == '\t' || c == '\x00' || isBreak c

/-- Whether what stands before `rest` ends there. -/
def endsBefore (rest : List Char) : Bool := rest.head?.all isSeparator

/-- Characters that no plain scalar begins with. -/
def indicators : List Char :=
  ['#', ',', '[', ']', '\x7b', '\x7d', '&', '*', '!', '|', '>', '\x27', '"', '%', '@', '`']

/-- Whether something behind the first character would be read as the end of a key
or as the beginning of a comment. -/
def endsEarly (previous : Char) : List Char → Bool
  | [] => false
  | c :: rest =>
    (c == ':' && endsBefore rest) || (c == '#' && isSeparator previous) || endsEarly c rest

/-- Whether a string would be read as something else than a plain scalar. -/
def hasIndicator : List Char → Bool
  | [] => false
  | c :: rest =>
    indicators.contains c ||
      (['?', ':', '-'].contains c && endsBefore rest) ||
      ['-', '-', '-'].isPrefixOf (c :: rest) || ['.', '.', '.'].isPrefixOf (c :: rest) ||
      endsEarly c rest

/-- Whether two characters of two kinds follow each other. -/
def hasPair (first second : Char → Bool) : List Char → Bool
  | [] => false
  | c :: rest => (first c && rest.head?.any second) || hasPair first second rest

def isBlank (c : Char) : Bool := c == ' '

def plainAllowed (cs : List Char) : Bool :=
  cs.all (fun c => isPrintable c && !isBreak c) && !cs.head?.any isBlank &&
    !cs.getLast?.any isBlank && !hasIndicator cs

def singleAllowed (cs : List Char) : Bool :=
  cs.all isPrintable && !hasPair isBreak isBlank cs && !hasPair isBlank isBreak cs

def literalAllowed (cs : List Char) : Bool :=
  !cs.isEmpty && cs.all isPrintable && !cs.getLast?.any isBlank && !hasPair isBlank isBreak cs

inductive Style where
  | plain
  | single
  | double
  | literal
  deriving DecidableEq, Repr

def styleOf (s : String) : Style :=
  let cs := s.toList
  if cs.contains '\n' then
    if literalAllowed cs then .literal else .double
  else if !isTyped s && plainAllowed cs then .plain
  else if singleAllowed cs then .single
  else .double

def blanks (column : Nat) : List Char := List.replicate column ' '

/-- A run of characters in which every line that is not empty begins at a column.
`fresh` says whether a line begins here. -/
def alignedLines (column : Nat) (fresh : Bool) : List Char → List Char
  | [] => []
  | c :: rest =>
    if isBreak c then c :: alignedLines column true rest
    else (if fresh then blanks column else []) ++ c :: alignedLines column false rest

/-- The hexadecimal digits of a number, with zeros in front up to a width. -/
def hexDigits (width n : Nat) : List Char :=
  ((Nat.toDigits 16 n).map Char.toUpper).leftpad width '0'

/-- Characters with an escape of one letter. -/
def shortEscapes : List (Char × Char) :=
  [('\x00', '0'), ('\x07', 'a'), ('\x08', 'b'), ('\t', 't'), ('\n', 'n'), ('\x0b', 'v'),
   ('\x0c', 'f'), ('\r', 'r'), ('\x1b', 'e'), ('"', '"'), ('\\', '\\'), ('\u0085', 'N'),
   ('\u2028', 'L'), ('\u2029', 'P')]

/-- The written form of one character between double quotation marks. -/
def escaped (c : Char) : List Char :=
  match shortEscapes.lookup c with
  | some letter => ['\\', letter]
  | none =>
    if isPrintable c then [c]
    else if c.toNat ≤ 0xFF then '\\' :: 'x' :: hexDigits 2 c.toNat
    else if c.toNat ≤ 0xFFFF then '\\' :: 'u' :: hexDigits 4 c.toNat
    else '\\' :: 'U' :: hexDigits 8 c.toNat

/-- A string between single quotation marks. A quotation mark in it is written
twice, and its lines behind the first begin at a column. -/
def singleQuoted (column : Nat) (cs : List Char) : List Char :=
  let doubled := cs.flatMap fun c => if c == '\x27' then [c, c] else [c]
  '\x27' :: alignedLines column false doubled ++
    (if cs.getLast?.any isBreak then blanks column else []) ++ ['\x27']

/-- Whether a string of lines ends in an empty line. -/
def keepsBreaks (cs : List Char) : Bool :=
  match cs.reverse with
  | [c] => isBreak c
  | c :: d :: _ => isBreak c && isBreak d
  | [] => false

/-- What is said in front of a block about its first and its last lines. -/
def blockHeader (cs : List Char) : List Char :=
  (if cs.head?.any (fun c => isBlank c || isBreak c) then ['2'] else []) ++
    (if keepsBreaks cs then ['+'] else if cs.getLast?.any isBreak then [] else ['-'])

/-- A string as the block of its lines, each beginning at a column. -/
def literalBlock (column : Nat) (cs : List Char) : List Char :=
  '|' :: blockHeader cs ++ '\n' :: alignedLines column true cs

/-- The written form of a string; further lines of it begin at a column. -/
def scalar (column : Nat) (s : String) : List Char :=
  match styleOf s with
  | .plain => s.toList
  | .single => singleQuoted column s.toList
  | .double => '"' :: s.toList.flatMap escaped ++ ['"']
  | .literal => literalBlock column s.toList

end Instrumentation.Format.Yaml
