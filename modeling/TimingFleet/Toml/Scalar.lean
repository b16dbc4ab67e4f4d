import TimingFleet.Text.Numeral
import TimingFleet.Toml.Basic
import TimingFleet.Toml.Value

/-!
# Scalars of TOML without quotes

Integers of sixty-four bits in four bases, floats, booleans, and moments.  A scalar is cut off as the
longest run of characters that can stand in one, and must be of one of these kinds as a whole.  A blank
may stand between a date and a time.
-/

namespace TimingFleet.Toml

open Text

/-! ## Digits -/

/-- The digits of a numeral, which may have single underscores between them. -/
def ungroup (base : Nat) (cs : List Char) : Option (List Char) :=
  let groups := split '_' cs
  if groups.all fun group => !group.isEmpty && group.all fun c => (Numeral.digitValue base c).isSome then
    some groups.flatten
  else none

/-- The value of a run of digits. -/
def digitsValue (base : Nat) (cs : List Char) : Nat :=
  cs.foldl (fun n c => n * base + (Numeral.digitValue base c).getD 0) 0

/-- Decimal digits without needless leading zeros. -/
def wholeDigits : List Char → Option (List Char)
  | '0' :: _ :: _ => none
  | cs => ungroup 10 cs

/-- Whether a minus sign stands at the front, and the rest without its sign. -/
def takeSign : List Char → Bool × List Char
  | '-' :: cs => (true, cs)
  | '+' :: cs => (false, cs)
  | cs => (false, cs)

/-! ## Integers -/

/-- The magnitude of the least integer of sixty-four bits. -/
def leastMagnitude : Nat := 0x8000000000000000

/-- The integer with the given sign and magnitude, if it fits sixty-four bits. -/
def signed (negative : Bool) (magnitude : Nat) : Option Int :=
  if negative then if magnitude ≤ leastMagnitude then some (-magnitude) else none
  else if magnitude < leastMagnitude then some magnitude else none

/-- Reads an integer in a base with a mark; it has no sign. -/
def markedInteger (base : Nat) (cs : List Char) : Option Int :=
  (ungroup base cs).bind fun digits => signed false (digitsValue base digits)

/-- Reads an integer. -/
def integer? : List Char → Option Int
  | '0' :: 'x' :: cs => markedInteger 16 cs
  | '0' :: 'o' :: cs => markedInteger 8 cs
  | '0' :: 'b' :: cs => markedInteger 2 cs
  | cs =>
    let (negative, cs) := takeSign cs
    (wholeDigits cs).bind fun digits => signed negative (digitsValue 10 digits)

/-! ## Floats -/

/-- The least number that rounds to infinity in sixty-four bits. -/
def floatBound : Nat := Nat.pow 2 1024 - Nat.pow 2 970

/-- Whether `n * 10 ^ exponent` reaches the bound.  Far from it the number of digits decides. -/
def reachesFloatBound (n : Nat) (exponent : Int) : Bool :=
  let size := (Nat.toDigits 10 n).length + exponent
  if n = 0 ∨ size < 300 then false
  else if 320 < size then true
  else if 0 ≤ exponent then decide (floatBound ≤ n * Nat.pow 10 exponent.toNat)
  else decide (floatBound * Nat.pow 10 (-exponent).toNat ≤ n)

/-- The value of the exponent part of a float, zero if it has none. -/
def exponent? : List Char → Option Int
  | [] => some 0
  | _ :: cs =>
    let (negative, cs) := takeSign cs
    (ungroup 10 cs).map fun digits =>
      if negative then -(digitsValue 10 digits : Int) else digitsValue 10 digits

/-- The digits of the fraction part of a float, none if it has no point. -/
def fraction? : List Char → Option (List Char)
  | [] => some []
  | _ :: cs => ungroup 10 cs

/-- Reads a float.  One that is too large is refused, unless it is negative. -/
def isFloat (cs : List Char) : Bool :=
  let (negative, cs) := takeSign cs
  if cs = ['i', 'n', 'f'] ∨ cs = ['n', 'a', 'n'] then true
  else
    let marksExponent := fun c => c == 'e' || c == 'E'
    let mantissa := cs.takeWhile fun c => !marksExponent c
    let exponentPart := cs.dropWhile fun c => !marksExponent c
    let fractionPart := mantissa.dropWhile (· ≠ '.')
    if exponentPart = [] ∧ fractionPart = [] then false
    else
      match wholeDigits (mantissa.takeWhile (· ≠ '.')), fraction? fractionPart,
        exponent? exponentPart with
      | some whole, some fraction, some exponent =>
        negative ||
          !reachesFloatBound (digitsValue 10 (whole ++ fraction)) (exponent - fraction.length)
      | _, _, _ => false

/-! ## Moments -/

/-- The value of two digits, if it is within bounds. -/
def twoDigits (lo hi : Nat) (a b : Char) : Option Nat :=
  if a.isDigit ∧ b.isDigit then
    let n := digitsValue 10 [a, b]
    if lo ≤ n ∧ n ≤ hi then some n else none
  else none

/-- The days of a month. -/
def daysInMonth (year month : Nat) : Nat :=
  if month = 2 then if year % 4 = 0 ∧ (year % 100 ≠ 0 ∨ year % 400 = 0) then 29 else 28
  else if month ∈ [4, 6, 9, 11] then 30
  else 31

/-- Year, month and day with hyphens between them. -/
def isDate : List Char → Bool
  | [y₁, y₂, y₃, y₄, '-', m₁, m₂, '-', d₁, d₂] =>
    let year := [y₁, y₂, y₃, y₄]
    match twoDigits 1 12 m₁ m₂ with
    | some month =>
      year.all Char.isDigit && (twoDigits 1 (daysInMonth (digitsValue 10 year) month) d₁ d₂).isSome
    | none => false
  | _ => false

/-- Drops hour, minute and second with colons between them, and a fraction of the second. -/
def afterTime? : List Char → Option (List Char)
  | h₁ :: h₂ :: ':' :: m₁ :: m₂ :: ':' :: s₁ :: s₂ :: cs =>
    if (twoDigits 0 23 h₁ h₂).isSome ∧ (twoDigits 0 59 m₁ m₂).isSome ∧ (twoDigits 0 60 s₁ s₂).isSome then
      match cs with
      | '.' :: cs => if cs.takeWhile Char.isDigit = [] then none else some (cs.dropWhile Char.isDigit)
      | cs => some cs
    else none
  | _ => none

/-- The distance of a clock from universal time. -/
def isOffset : List Char → Bool
  | ['Z'] => true
  | ['z'] => true
  | [sign, h₁, h₂, ':', m₁, m₂] =>
    (sign == '+' || sign == '-') && (twoDigits 0 23 h₁ h₂).isSome && (twoDigits 0 59 m₁ m₂).isSome
  | _ => false

/-- A time of day. -/
def isTime (cs : List Char) : Bool := afterTime? cs == some []

/-- A time of day, which may have an offset. -/
def isOffsetTime (cs : List Char) : Bool :=
  match afterTime? cs with
  | some rest => rest.isEmpty || isOffset rest
  | none => false

/-- A date, a time of day, or both. -/
def isMoment (cs : List Char) : Bool :=
  isDate cs || isTime cs ||
    match cs.drop 10 with
    | mark :: time => isDate (cs.take 10) && (mark ∈ ['T', 't', ' ']) && isOffsetTime time
    | [] => false

/-! ## Any scalar -/

/-- A character that can stand in a scalar. -/
def isScalarChar (c : Char) : Bool := isBare c || c == '+' || c == '.' || c == ':'

/-- Cuts a scalar off the front; a date takes a time along that follows it after a blank. -/
def cutScalar (cs : List Char) : List Char × List Char :=
  let first := cs.takeWhile isScalarChar
  let rest := cs.dropWhile isScalarChar
  match rest with
  | ' ' :: c :: more =>
    if isDate first ∧ c.isDigit then
      (first ++ ' ' :: (c :: more).takeWhile isScalarChar, (c :: more).dropWhile isScalarChar)
    else (first, rest)
  | _ => (first, rest)

/-- The value of a scalar. -/
def scalarValue (cs : List Char) : Option Value :=
  if cs = ['t', 'r', 'u', 'e'] then some (.boolean true)
  else if cs = ['f', 'a', 'l', 's', 'e'] then some (.boolean false)
  else
    match integer? cs with
    | some n => some (.integer n)
    | none =>
      if isFloat cs then some (.float (String.ofList cs))
      else if isMoment cs then some (.moment (String.ofList cs))
      else none

/-- Reads a scalar. -/
def scalar : Reader Value := fun cs =>
  let (first, rest) := cutScalar cs
  (scalarValue first).map (·, rest)

end TimingFleet.Toml
