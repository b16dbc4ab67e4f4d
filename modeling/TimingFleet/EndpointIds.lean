import TimingFleet.Text.Blank
import TimingFleet.Text.Split
import TimingFleet.Text.Numeral

/-!
# Endpoint id lists

Operators name endpoints by a list of ids and inclusive ranges with commas between them: `0,3-5,9`
stands for 0, 3, 4, 5 and 9.  Blanks may stand around numbers.  The first segment that is wrong decides
the error.
-/

namespace TimingFleet

open Text

/-- Why a list of ids is refused. -/
inductive IdListError where
  /-- The list holds nothing. -/
  | empty
  /-- Nothing stands between two commas or at an end. -/
  | emptySegment (list : String)
  /-- The token is no number of thirty-two bits. -/
  | invalidId (token : String)
  /-- A segment with more than one dash. -/
  | malformed (segment : String)
  /-- A range that ends before it starts. -/
  | invertedRange (segment : String)
  /-- A range of too many ids. -/
  | rangeTooWide (segment : String)
  deriving DecidableEq, Repr

namespace EndpointIds

/-- The most ids in one range. -/
def maxRange : Nat := 65536

/-- Reads one id, blanks around it allowed. -/
def parseId (token : List Char) : Except IdListError UInt32 :=
  let digits := trim token
  if digits = [] ∨ ¬ digits.all Char.isDigit then .error (.invalidId (String.ofList digits))
  else
    match Numeral.readWord 10 digits with
    | .ok id => .ok id
    | .error _ => .error (.invalidId (String.ofList digits))

/-- The ids from `lo` to `hi`. -/
def interval (lo hi : UInt32) : List UInt32 :=
  (List.range' lo.toNat (hi.toNat + 1 - lo.toNat)).map UInt32.ofNat

/-- Reads a range given by its ends. -/
def parseRange (segment lo hi : List Char) : Except IdListError (List UInt32) := do
  let lo ← parseId lo
  let hi ← parseId hi
  if hi < lo then .error (.invertedRange (String.ofList segment))
  else if maxRange ≤ hi.toNat - lo.toNat then .error (.rangeTooWide (String.ofList segment))
  else .ok (interval lo hi)

/-- Reads one segment of the list `list`. -/
def parseSegment (list segment : List Char) : Except IdListError (List UInt32) :=
  let segment := trim segment
  if segment = [] then .error (.emptySegment (String.ofList list))
  else
    match split '-' segment with
    | [single] => (parseId single).map ([·])
    | [lo, hi] => parseRange segment lo hi
    | _ => .error (.malformed (String.ofList segment))

/-- Reads the segments in order and joins what they stand for. -/
def parseSegments (list : List Char) : List (List Char) → Except IdListError (List UInt32)
  | [] => .ok []
  | segment :: rest => do
    let ids ← parseSegment list segment
    let more ← parseSegments list rest
    return ids ++ more

/-- Reads a list of ids, in the order in which they are written. -/
def parse (text : String) : Except IdListError (List UInt32) :=
  let list := text.toList
  if blank list then .error .empty else parseSegments list (split ',' list)

/-- The ids with `separator` between them. -/
def joinWith (separator : String) (ids : List UInt32) : String :=
  separator.intercalate (ids.map fun id => Numeral.decimal id.toNat)

/-- The ids with commas between them. -/
def text (ids : List UInt32) : String := joinWith "," ids

end EndpointIds

/-- The wording of the error. -/
def IdListError.message : IdListError → String
  | .empty => "Empty endpoint id list"
  | .emptySegment list => "Empty segment in id list '" ++ list ++ "'"
  | .invalidId token => "Invalid endpoint id '" ++ token ++ "'"
  | .malformed segment =>
    "Malformed segment '" ++ segment ++ "' (comma separated list of ids or ranges expected)"
  | .invertedRange segment => "Invalid interval '" ++ segment ++ "'"
  | .rangeTooWide segment =>
    "Range '" ++ segment ++ "' spans more than " ++ Numeral.decimal EndpointIds.maxRange ++ " ids"

end TimingFleet
