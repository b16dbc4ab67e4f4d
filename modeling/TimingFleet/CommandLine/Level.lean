import TimingFleet.Text.Split

/-!
# Levels of a command line

A command line is read level by level: options and operands of a command stand before the name of its
subcommand, and what follows that name is the next level.  An option is written `--name value`,
`--name=value`, `-n value`, `-nvalue` or `-n=value`, and flags of one letter may stand together.  After
`--` there are only operands.  No option may be given twice on a level.
-/

namespace TimingFleet.CommandLine

open Text

/-- What an option brings with it. -/
inductive OptionKind where
  /-- Nothing. -/
  | flag
  /-- A value. -/
  | value
  /-- Nothing, and the rest of the command line is not looked at. -/
  | ending
  deriving DecidableEq, Repr

/-- An option that a level admits. -/
structure OptionSpec where
  name : String
  letter : Option Char := none
  kind : OptionKind
  deriving DecidableEq, Repr

/-- What a level admits. -/
structure LevelSpec where
  options : List OptionSpec
  commands : List String := []
  deriving DecidableEq, Repr

/-- What stands on a level. -/
structure Level where
  /-- The options by their names, with their values. -/
  options : List (String × Option String) := []
  operands : List String := []
  /-- The name of the subcommand, and the arguments after it. -/
  command : Option (String × List String) := none
  deriving DecidableEq, Repr

namespace Level

/-- The option is given. -/
def has (l : Level) (name : String) : Bool := (l.options.lookup name).isSome

/-- The value of the option, if it is given. -/
def value? (l : Level) (name : String) : Option String := (l.options.lookup name).join

/-- The level with more options before its own. -/
def withOptions (given : List (String × Option String)) (l : Level) : Level :=
  { l with options := given ++ l.options }

/-- The level with one more operand before its own. -/
def withOperand (operand : String) (l : Level) : Level :=
  { l with operands := operand :: l.operands }

end Level

namespace LevelSpec

/-- What the arguments after an option are read as. -/
inductive Next where
  | anything
  | valueOf (name : String)
  | operands
  | nothing
  deriving DecidableEq, Repr

/-- A value after a letter, which may have an equals sign before it. -/
def attachedValue : List Char → String
  | '=' :: cs => String.ofList cs
  | cs => String.ofList cs

/-- Reads the letters of an argument with one hyphen. -/
def letters (s : LevelSpec) : List Char → Option (List (String × Option String) × Next)
  | [] => some ([], .anything)
  | c :: cs =>
    match s.options.find? fun o => o.letter == some c with
    | none => none
    | some o =>
      match o.kind with
      | .flag => (letters s cs).map fun (given, next) => ((o.name, none) :: given, next)
      | .ending => some ([(o.name, none)], .nothing)
      | .value =>
        if cs = [] then some ([], .valueOf o.name)
        else some ([(o.name, some (attachedValue cs))], .anything)

/-- Reads the rest of an argument with two hyphens. -/
def word (s : LevelSpec) (body : List Char) : Option (List (String × Option String) × Next) :=
  let (name, value) :=
    match splitOnce ['='] body with
    | some (name, value) => (name, some (String.ofList value))
    | none => (body, none)
  match s.options.find? fun o => o.name == String.ofList name with
  | none => none
  | some o =>
    match o.kind, value with
    | .flag, none => some ([(o.name, none)], .anything)
    | .ending, none => some ([(o.name, none)], .nothing)
    | .value, some value => some ([(o.name, some value)], .anything)
    | .value, none => some ([], .valueOf o.name)
    | _, some _ => none

/-- An argument that is read as options; it has a hyphen and more. -/
def isOption : List Char → Bool
  | '-' :: _ :: _ => true
  | _ => false

/-- Reads an argument as options. -/
def options? (s : LevelSpec) : List Char → Option (List (String × Option String) × Next)
  | ['-', '-'] => some ([], .operands)
  | '-' :: '-' :: cs => s.word cs
  | '-' :: cs => s.letters cs
  | _ => none

/-- Reads the arguments of a level. -/
def scan (s : LevelSpec) : Next → List String → Option Level
  | .nothing, _ => some {}
  | .valueOf _, [] => none
  | _, [] => some {}
  | .operands, arg :: rest => (scan s .operands rest).map (·.withOperand arg)
  | .valueOf name, arg :: rest =>
    if isOption arg.toList then none
    else (scan s .anything rest).map (·.withOptions [(name, some arg)])
  | .anything, arg :: rest =>
    if arg ∈ s.commands then some { command := some (arg, rest) }
    else if isOption arg.toList then do
      let (given, next) ← s.options? arg.toList
      (scan s next rest).map (·.withOptions given)
    else (scan s .anything rest).map (·.withOperand arg)

/-- Reads a level of a command line. -/
def read (s : LevelSpec) (args : List String) : Option Level :=
  (s.scan .anything args).filter fun level => (level.options.map (·.1)).Nodup

end LevelSpec

end TimingFleet.CommandLine
