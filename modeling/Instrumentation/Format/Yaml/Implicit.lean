import Instrumentation.Text.Digit
/-
  Types of plain scalars

  A scalar that is written without quotation marks is null, a flag or a number if
  it has the form of one, and a string otherwise. The test here errs on the side
  of quoting: digits behind a leading zero are a string for some readers and a
  number for others.
-/

namespace Instrumentation.Format.Yaml

/-- The number that `value` becomes with further digits to a base. -/
def withDigits? (base value : Nat) : List Char → Option Nat
  | [] => some value
  | c :: rest => do
    let digit ← Text.digit? base c
    withDigits? base (value * base + digit) rest

/-- The number that one or more digits to a base make. -/
def digits? (base : Nat) (cs : List Char) : Option Nat :=
  if cs.isEmpty then none else withDigits? base 0 cs

def isNull (s : String) : Bool := ["", "null", "Null", "NULL", "~"].contains s

def isFlag (s : String) : Bool :=
  ["true", "True", "TRUE", "false", "False", "FALSE"].contains s

def isInfiniteOrNaN (s : String) : Bool :=
  [".inf", ".Inf", ".INF", "+.inf", "+.Inf", "+.INF", "-.inf", "-.Inf", "-.INF",
   ".nan", ".NaN", ".NAN"].contains s

/-- The base that the letter behind a zero stands for. -/
def baseOf? (c : Char) : Option Nat :=
  if c == 'x' then some 16
  else if c == 'o' then some 8
  else if c == 'b' then some 2
  else none

/-- The number written as a zero, the letter of a base, and digits to that base. -/
def basedNumber? : List Char → Option Nat
  | '0' :: letter :: cs => (baseOf? letter).bind (digits? · cs)
  | _ => none

/-- A scalar that is a whole number to a base that it names, of at most 128 bits. -/
def isBasedNumber : List Char → Bool
  | '-' :: cs => (basedNumber? cs).any (· ≤ Nat.pow 2 127)
  | '+' :: cs => (basedNumber? cs).any (· < Nat.pow 2 128)
  | cs => (basedNumber? cs).any (· < Nat.pow 2 128)

def withoutSign : List Char → List Char
  | '+' :: cs => cs
  | '-' :: cs => cs
  | cs => cs

/-- A zero with more digits behind it. -/
def hasLeadingZero (cs : List Char) : Bool :=
  match withoutSign cs with
  | '0' :: rest => !rest.isEmpty && rest.all Char.isDigit
  | _ => false

/-- The number `digits * 10 ^ exponent`. -/
structure Scaled where
  digits : Nat
  exponent : Int

def isExponentMark (c : Char) : Bool := c == 'e' || c == 'E'

/-- The exponent of a number from its mark on. -/
def exponent? : List Char → Option Int
  | [] => some 0
  | _ :: '-' :: cs => (digits? 10 cs).map fun n => -(n : Int)
  | _ :: cs => (digits? 10 (if cs.head? == some '+' then cs.tail else cs)).map Int.ofNat

/-- The number that a decimal numeral without sign stands for. There is a digit
before or behind the point, if there is a point. -/
def scaled? (cs : List Char) : Option Scaled := do
  let mantissa := cs.takeWhile (!isExponentMark ·)
  let whole := mantissa.takeWhile (· != '.')
  let fraction := (mantissa.dropWhile (· != '.')).drop 1
  let digits ← digits? 10 (whole ++ fraction)
  let exponent ← exponent? (cs.dropWhile (!isExponentMark ·))
  return ⟨digits, exponent - fraction.length⟩

/-- The least number that rounds to infinity in binary floating point of 64 bits. -/
def overflowBound : Nat := Nat.pow 2 970 * (Nat.pow 2 54 - 1)

/-- Whether a number is below the bound. Powers of ten are formed only where the
number of digits does not decide. -/
def Scaled.isFinite (n : Scaled) : Bool :=
  let magnitude := (Nat.toDigits 10 n.digits).length + n.exponent
  if n.digits = 0 ∨ magnitude ≤ 300 then true
  else if 310 < magnitude then false
  else if 0 ≤ n.exponent then n.digits * Nat.pow 10 n.exponent.toNat < overflowBound
  else n.digits < overflowBound * Nat.pow 10 n.exponent.natAbs

def isDecimal (cs : List Char) : Bool := (scaled? (withoutSign cs)).any Scaled.isFinite

/-- Whether a plain scalar would not be a string. -/
def isTyped (s : String) : Bool :=
  isNull s || isFlag s || isInfiniteOrNaN s || isBasedNumber s.toList ||
    hasLeadingZero s.toList || isDecimal s.toList

end Instrumentation.Format.Yaml
