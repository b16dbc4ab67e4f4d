/-!
# Numerals

Reading an unsigned numeral in a base up to thirty-six, with an upper bound on its value, and writing
numbers in decimal and in `0x` form.  A numeral is read from the left: the first character that is no
digit, or the first digit that takes the value past the bound, decides the fault.
-/

namespace TimingFleet.Text

namespace Numeral

/-- Why a text is no numeral of the wanted kind. -/
inductive Fault where
  | empty
  | invalidDigit
  | tooLarge
  deriving DecidableEq, Repr

/-- The wording shown to an operator. -/
def Fault.message : Fault → String
  | .empty => "cannot parse integer from empty string"
  | .invalidDigit => "invalid digit found in string"
  | .tooLarge => "number too large to fit in target type"

/-- The value of a digit or of a letter of either case. -/
def letterValue (c : Char) : Option Nat :=
  let n := c.toNat
  if 0x30 ≤ n ∧ n ≤ 0x39 then some (n - 0x30)
  else if 0x61 ≤ n ∧ n ≤ 0x7a then some (n - 0x57)
  else if 0x41 ≤ n ∧ n ≤ 0x5a then some (n - 0x37)
  else none

/-- The value of `c` as a digit of `base`. -/
def digitValue (base : Nat) (c : Char) : Option Nat :=
  (letterValue c).filter (· < base)

/-- Extends the value read so far by further digits; `bound` is the least value that is too large. -/
def extend (base bound : Nat) : Nat → List Char → Except Fault Nat
  | value, [] => .ok value
  | value, c :: cs =>
    match digitValue base c with
    | none => .error .invalidDigit
    | some d =>
      let value := value * base + d
      if value < bound then extend base bound value cs else .error .tooLarge

/-- Reads a numeral of `base` with an optional plus sign and a value below `bound`. -/
def read (base bound : Nat) : List Char → Except Fault Nat
  | [] => .error .empty
  | ['+'] => .error .invalidDigit
  | '+' :: cs => extend base bound 0 cs
  | cs => extend base bound 0 cs

/-- Reads a numeral that must fit thirty-two bits. -/
def readWord (base : Nat) (cs : List Char) : Except Fault UInt32 :=
  (read base UInt32.size cs).map UInt32.ofNat

/-- Decimal digits without leading zeros. -/
def decimal (n : Nat) : String := String.ofList (Nat.toDigits 10 n)

/-- Lower-case hexadecimal digits without leading zeros. -/
def hexDigits (n : Nat) : String := String.ofList (Nat.toDigits 16 n)

/-- Hexadecimal with the lead `0x`. -/
def hex (n : Nat) : String := "0x" ++ hexDigits n

/-- Words in hexadecimal without a lead, with commas between them, in brackets. -/
def hexList (words : List UInt32) : String :=
  "[" ++ ", ".intercalate (words.map fun word => hexDigits word.toNat) ++ "]"

/-- Decimal digits, filled with zeros on the left up to `width`. -/
def padded (width n : Nat) : String :=
  let digits := Nat.toDigits 10 n
  String.ofList (List.replicate (width - digits.length) '0' ++ digits)

end Numeral

end TimingFleet.Text
