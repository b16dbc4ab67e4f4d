import Std.Data.ExtTreeMap
import Std.Data.ExtTreeSet
import TimingFleet.Text.Split

/-!
# Node paths

A register is named by a path of parts with dots between them.  A path is kept as its parts, so that
"below a node" and "ends in" are statements about lists; the empty text is the path of one empty part.
Main statement: reading a written path gives the path back.
-/

namespace TimingFleet

open Text

/-- The parts of a register's name. -/
structure NodePath where
  parts : List String
  deriving DecidableEq, Repr

namespace NodePath

/-- Reads a path with dots between its parts. -/
def ofString (text : String) : NodePath := ⟨(split '.' text.toList).map String.ofList⟩

/-- Writes a path with dots between its parts. -/
def toString (path : NodePath) : String :=
  String.ofList (join ['.'] (path.parts.map String.toList))

/-- The path of the empty text. -/
def root : NodePath := ⟨[""]⟩

/-- The node `rel` below `base`; below the empty path it is `rel` itself. -/
def join (base rel : NodePath) : NodePath :=
  if base = root then rel else ⟨base.parts ++ rel.parts⟩

/-- The node one part below `base`. -/
def child (base : NodePath) (name : String) : NodePath := base.join ⟨[name]⟩

/-- The parts of `path` below `base`, if it lies below. -/
def partsBelow (base path : NodePath) : Option (List String) :=
  if base.parts.isPrefixOf path.parts ∧ base.parts.length < path.parts.length then
    some (path.parts.drop base.parts.length)
  else none

/-- The node `path` lies strictly below `base`. -/
def above (base path : NodePath) : Bool := (partsBelow base path).isSome

/-- The node of which `path` is the node `rel` below, if the path ends so. -/
def beforeSuffix (rel path : NodePath) : Option NodePath :=
  let n := path.parts.length - rel.parts.length
  if rel.parts.length < path.parts.length ∧ path.parts.drop n = rel.parts then
    some ⟨path.parts.take n⟩
  else none

/-! ## Order -/

/-- Paths are ordered part by part. -/
def order (a b : NodePath) : Ordering := compare a.parts b.parts

instance : Std.TransCmp order where
  eq_swap := fun {a b} => @Std.OrientedCmp.eq_swap (List String) compare _ a.parts b.parts
  isLE_trans := fun {a b c} => @Std.TransCmp.isLE_trans (List String) compare _ a.parts b.parts c.parts

instance : Std.LawfulEqCmp order where
  compare_self := fun {a} => @Std.ReflCmp.compare_self (List String) compare _ a.parts
  eq_of_compare := by
    intro a b h
    cases a; cases b
    exact congrArg NodePath.mk (@Std.LawfulEqCmp.eq_of_compare (List String) compare _ _ _ h)

/-! ## Reading and writing -/

theorem toString_ofString (text : String) : (ofString text).toString = text := by
  have h : ((split '.' text.toList).map String.ofList).map String.toList = split '.' text.toList := by
    simp [List.map_map, Function.comp_def]
  simp [toString, ofString, h, join_split]

end NodePath

/-- A table with one entry for each node. -/
abbrev NodeTable (β : Type) := Std.ExtTreeMap NodePath β NodePath.order

/-- A table with one entry for each name, in ascending order of the names. -/
abbrev NameTable (β : Type) := Std.ExtTreeMap String β compare

/-- A table with one entry for each number, in ascending order. -/
abbrev IndexTable (β : Type) := Std.ExtTreeMap UInt32 β compare

/-- A set of numbers in ascending order. -/
abbrev IndexSet := Std.ExtTreeSet UInt32 compare

end TimingFleet
