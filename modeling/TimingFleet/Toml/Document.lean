import TimingFleet.Toml.Quoted
import TimingFleet.Toml.Scalar
import TimingFleet.Toml.Table

/-!
# TOML documents

A document is a list of statements: headers of tables, headers of rows, and entries for the table whose
header came last.  Reading it is reading the statements and then carrying them out on an empty table;
either may refuse the document.  Neither keys nor values nest to a depth of eighty.
-/

namespace TimingFleet.Toml

/-- The nesting at which keys and values are refused. -/
def nestingLimit : Nat := 80

/-! ## Keys -/

/-- Reads one part of a key. -/
def keyPart (cs : List Char) : Option (String × List Char) :=
  match quotedLine cs with
  | some part => some part
  | none =>
    let bare := cs.takeWhile isBare
    if bare = [] then none else some (String.ofList bare, cs.dropWhile isBare)

/-- Reads a key of at most `parts` parts and the blanks after it. -/
def keyParts : Nat → Reader (List String)
  | 0, _ => none
  | parts + 1, cs => do
    let (part, cs) ← keyPart (skipSpace cs)
    match skipSpace cs with
    | '.' :: cs =>
      let (more, cs) ← keyParts parts cs
      return (part :: more, cs)
    | cs => return ([part], cs)

/-- Reads a key and the blanks after it. -/
def key : Reader (List String) := keyParts (nestingLimit - 1)

/-! ## Values -/

/-- Reads an entry with values read by `item`. -/
def entry (item : Reader Value) : Reader (List String × Value) := fun cs => do
  let (path, cs) ← key cs
  match cs with
  | '=' :: cs =>
    let (value, cs) ← item (skipSpace cs)
    return ((path, value), cs)
  | _ => none

/-- Reads the items of an array after its opening bracket, at most `fuel` of them. -/
def items (item : Reader Value) : Nat → Reader (List Value)
  | 0, _ => none
  | fuel + 1, cs =>
    match skipFiller false cs with
    | ']' :: cs => some ([], cs)
    | cs => do
      let (first, cs) ← item cs
      match skipFiller false cs with
      | ',' :: cs =>
        let (more, cs) ← items item fuel cs
        return (first :: more, cs)
      | ']' :: cs => return ([first], cs)
      | _ => none

/-- Reads one or more entries of a table in braces, at most `fuel` of them. -/
def fields (item : Reader Value) : Nat → Reader (List (List String × Value))
  | 0, _ => none
  | fuel + 1, cs => do
    let (first, cs) ← entry item cs
    match skipSpace cs with
    | ',' :: cs =>
      let (more, cs) ← fields item fuel cs
      return (first :: more, cs)
    | '\x7d' :: cs => return ([first], cs)
    | _ => none

/-- Carries out the entries of a table in braces. -/
def bracedTable (entries : List (List String × Value)) : Option Value :=
  (entries.foldlM (fun table (path, value) => Entries.put path value table) []).map fun table =>
    .table (Entries.values table)

/-- Reads a value that holds no other values. -/
def plainValue : Reader Value
  | '"' :: cs => (quoted ('"' :: cs)).map fun (text, cs) => (.text text, cs)
  | '\'' :: cs => (quoted ('\'' :: cs)).map fun (text, cs) => (.text text, cs)
  | cs => scalar cs

/-- Reads a value in which arrays and tables nest at most `depth` deep. -/
def value : Nat → Reader Value
  | 0, cs => plainValue cs
  | depth + 1, cs =>
    match cs with
    | '[' :: cs => do
      let (values, cs) ← items (value depth) (cs.length + 1) cs
      return (.array values, cs)
    | '\x7b' :: cs =>
      match skipSpace cs with
      | '\x7d' :: cs => some (.table [], cs)
      | cs => do
        let (entries, cs) ← fields (value depth) (cs.length + 1) cs
        let table ← bracedTable entries
        return (table, cs)
    | cs => plainValue cs

/-! ## Statements -/

/-- A statement of a document. -/
inductive Statement where
  | header (path : List String)
  | row (path : List String)
  | entry (path : List String) (value : Value)
  deriving Repr

/-- Reads a statement that begins at the front, with the end of its line. -/
def statement : Reader Statement
  | '[' :: '[' :: cs => do
    let (path, cs) ← key cs
    match cs with
    | ']' :: ']' :: cs => return (.row path, ← endLine cs)
    | _ => none
  | '[' :: cs => do
    let (path, cs) ← key cs
    match cs with
    | ']' :: cs => return (.header path, ← endLine cs)
    | _ => none
  | cs => do
    let ((path, value), cs) ← entry (value (nestingLimit - 1)) cs
    return (.entry path value, ← endLine cs)

/-- Reads the statements of a document, at most `fuel` lines of them. -/
def statements : Nat → List Char → Option (List Statement)
  | 0, _ => none
  | fuel + 1, cs =>
    match skipSpace cs with
    | [] => some []
    | '\n' :: cs => statements fuel cs
    | '#' :: cs => do statements fuel (← endLine ('#' :: cs))
    | cs => do
      let (first, cs) ← statement cs
      let more ← statements fuel cs
      return first :: more

/-! ## Documents -/

/-- A document under construction, and the header that came last. -/
structure Draft where
  entries : Entries := []
  header : List String := []

/-- Carries out a statement. -/
def Draft.follow (d : Draft) : Statement → Option Draft
  | .header path => (d.entries.openTable path).map fun entries => ⟨entries, path⟩
  | .row path => (d.entries.openRow path).map fun entries => ⟨entries, path⟩
  | .entry path value =>
    (d.entries.reach .passed (fun _ entries => entries.put path value) d.header .own).map fun entries =>
      { d with entries }

/-- Drops the mark that may stand at the front of a text in UTF-8. -/
def dropMark : List Char → List Char
  | '\ufeff' :: cs => cs
  | cs => cs

/-- Reads a document. -/
def read (text : String) : Option (List (String × Value)) := do
  let cs := unifyLineEnds (dropMark text.toList)
  let statements ← statements (cs.length + 1) cs
  let draft ← statements.foldlM Draft.follow {}
  return Entries.values draft.entries

end TimingFleet.Toml
