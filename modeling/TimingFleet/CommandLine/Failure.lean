import TimingFleet.Error
import TimingFleet.Text.Numeral
import TimingFleet.Text.Split

/-!
# Failures of commands

A command fails with an error and with what it was about to do.  The report shows the outermost message
on a line of its own and then its causes, which are numbered if there are several.
-/

namespace TimingFleet.CommandLine

open Text

/-- Why a command failed. -/
structure Failure where
  /-- What was being done, outermost first. -/
  context : List String := []
  cause : Error
  deriving DecidableEq, Repr

namespace Failure

/-- The messages, outermost first. -/
def chain (f : Failure) : List String := f.context ++ f.cause.chain

/-- A message after a heading, its further lines indented. -/
def indented (heading hanging : String) (message : String) : String :=
  heading ++ String.ofList (join ('\n' :: hanging.toList) (split '\n' message.toList))

/-- A cause with its number, which takes five columns. -/
def numbered (i : Nat) (message : String) : String :=
  let digits := Numeral.decimal i
  indented (String.ofList (List.replicate (5 - digits.length) ' ') ++ digits ++ ": ") "       " message

/-- The lines below the outermost message. -/
def causeLines : List String → List String
  | [] => []
  | [cause] => ["", "Caused by:", indented "    " "    " cause]
  | causes => ["", "Caused by:"] ++ causes.mapIdx numbered

/-- The report for an operator. -/
def report (f : Failure) : String :=
  match f.chain with
  | [] => ""
  | first :: causes => "Error: " ++ "\n".intercalate (first :: causeLines causes) ++ "\n"

end Failure

end TimingFleet.CommandLine
