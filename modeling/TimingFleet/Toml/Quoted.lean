import TimingFleet.Text.Numeral
import TimingFleet.Toml.Basic

/-!
# Quoted text of TOML

There are four kinds: with escapes or literal, on one line or on several.  Each is a run of units up to
its closing quotes.  Text on several lines may hold one or two quotes in a row, also right before the
closing ones, and a line feed right after the opening quotes is not part of it.
-/

namespace TimingFleet.Toml

open Text

/-- The character with the code written in hexadecimal `digits`. -/
def codePoint (digits : List Char) : Option Char :=
  match Numeral.extend 16 0x110000 0 digits with
  | .ok n => if 0xd800 ≤ n ∧ n ≤ 0xdfff then none else some (Char.ofNat n)
  | .error _ => none

/-- Reads the part of an escape sequence that follows the backslash. -/
def escape : Reader Char
  | 'b' :: cs => some ('\x08', cs)
  | 't' :: cs => some ('\t', cs)
  | 'n' :: cs => some ('\n', cs)
  | 'f' :: cs => some ('\x0c', cs)
  | 'r' :: cs => some ('\r', cs)
  | '"' :: cs => some ('"', cs)
  | '\\' :: cs => some ('\\', cs)
  | 'u' :: a :: b :: c :: d :: cs => (codePoint [a, b, c, d]).map (·, cs)
  | 'U' :: a :: b :: c :: d :: e :: f :: g :: h :: cs =>
    (codePoint [a, b, c, d, e, f, g, h]).map (·, cs)
  | _ => none

/-! ## Units -/

/-- One character that stands for itself. -/
def literalUnit : Reader (List Char)
  | c :: cs => if isPlain c then some ([c], cs) else none
  | [] => none

/-- One character or one escape sequence. -/
def escapedUnit : Reader (List Char)
  | '\\' :: cs => (escape cs).map fun (c, rest) => ([c], rest)
  | cs => literalUnit cs

/-- A unit of text on several lines: a line feed, or what `unit` reads. -/
def orLineFeed (unit : Reader (List Char)) : Reader (List Char)
  | '\n' :: cs => some (['\n'], cs)
  | cs => unit cs

/-- A backslash at the end of a line, which drops all blanks and line feeds up to the next other
character, or what `unit` reads. -/
def orContinuation (unit : Reader (List Char)) : Reader (List Char)
  | '\\' :: cs =>
    match skipSpace cs with
    | '\n' :: rest => some ([], rest.dropWhile fun c => isSpace c || c == '\n')
    | _ => unit ('\\' :: cs)
  | cs => unit cs

/-! ## Closing quotes -/

/-- A single closing quote. -/
def closeSingle (quote : Char) : Reader (List Char)
  | c :: cs => if c = quote then some ([], cs) else none
  | [] => none

/-- Three closing quotes, with up to two more before them that belong to the text. -/
def closeTriple (quote : Char) : Reader (List Char) := fun cs =>
  let quotes := (cs.takeWhile (· = quote)).take 5
  if quotes.length < 3 then none else some (quotes.drop 3, cs.drop quotes.length)

/-- Reads units up to the closing quotes, at most `fuel` of them. -/
def unitsUntil (close unit : Reader (List Char)) : Nat → Reader (List Char)
  | 0, _ => none
  | fuel + 1, cs =>
    match close cs with
    | some (last, rest) => some (last, rest)
    | none => do
      let (first, cs) ← unit cs
      let (more, rest) ← unitsUntil close unit fuel cs
      return (first ++ more, rest)

/-- Reads the text in quotes after the opening ones. -/
def quotedBody (close unit : Reader (List Char)) : Reader String := fun cs =>
  (unitsUntil close unit (cs.length + 1) cs).map fun (text, rest) => (String.ofList text, rest)

/-- Drops one line feed at the front. -/
def dropLineFeed : List Char → List Char
  | '\n' :: cs => cs
  | cs => cs

/-- Reads text in quotes on one line. -/
def quotedLine : Reader String
  | '"' :: cs => quotedBody (closeSingle '"') escapedUnit cs
  | '\'' :: cs => quotedBody (closeSingle '\'') literalUnit cs
  | _ => none

/-- Reads text in quotes. -/
def quoted : Reader String
  | '"' :: '"' :: '"' :: cs =>
    quotedBody (closeTriple '"') (orLineFeed (orContinuation escapedUnit)) (dropLineFeed cs)
  | '\'' :: '\'' :: '\'' :: cs =>
    quotedBody (closeTriple '\'') (orLineFeed literalUnit) (dropLineFeed cs)
  | cs => quotedLine cs

end TimingFleet.Toml
