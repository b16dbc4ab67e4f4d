import TimingFleet.Proofs.Register.EndpointNode

/-!
# Nodes below a node, in the text of their names

A register file that is searched by the text of its names finds the nodes below `base` as those whose text starts
with that of `base` and a dot.  Where no part holds a dot itself, these are the nodes below `base` in the list of
parts: `NodePath.above_iff_text`.  The dot matters: without it `endpoint1` would be found in `endpoint10`.
-/

namespace TimingFleet

namespace Text

variable {sep : Char} {x y r r' : List Char} {xs ys : List (List Char)}

/-- Up to the first separator two texts agree only if their first pieces do. -/
theorem cons_sep_prefix_iff (hx : sep ∉ x) (hy : sep ∉ y) :
    x ++ sep :: r <+: y ++ sep :: r' ↔ x = y ∧ r <+: r' := by
  induction x generalizing y with
  | nil =>
    cases y with
    | nil => simp
    | cons c y =>
      have hc : sep ≠ c := fun h => hy (h ▸ List.mem_cons_self)
      simp [hc]
  | cons a x ih =>
    obtain ⟨ha, hx⟩ := List.ne_and_not_mem_of_not_mem_cons hx
    cases y with
    | nil => simp [Ne.symm ha]
    | cons c y =>
      obtain ⟨-, hy⟩ := List.ne_and_not_mem_of_not_mem_cons hy
      rw [List.cons_append, List.cons_append, List.cons_prefix_cons, ih hx hy, List.cons.injEq, and_assoc]

/-- A text with a separator does not begin one without. -/
theorem not_sep_prefix (hy : sep ∉ y) : ¬ x ++ sep :: r <+: y := fun h =>
  hy (h.subset (List.mem_append_right x List.mem_cons_self))

/-- **Pieces at the front of a text**: with a separator behind them, joined pieces begin a joined text just if the
pieces begin its pieces and more follow. -/
theorem join_sep_prefix_join_iff (hne : xs ≠ []) (hx : ∀ x ∈ xs, sep ∉ x) (hy : ∀ y ∈ ys, sep ∉ y) :
    join [sep] xs ++ [sep] <+: join [sep] ys ↔ xs <+: ys ∧ xs.length < ys.length := by
  induction xs generalizing ys with
  | nil => exact absurd rfl hne
  | cons x xs ih =>
    have hx' : sep ∉ x := hx x List.mem_cons_self
    match ys, hy with
    | [], _ => simp [join]
    | [y], hy =>
      have hy' : sep ∉ y := hy y List.mem_cons_self
      have hno : ¬ join [sep] (x :: xs) ++ [sep] <+: y := by
        cases xs with
        | nil => exact not_sep_prefix hy'
        | cons x' xs =>
          rw [join, List.append_assoc, List.append_assoc]
          · exact not_sep_prefix hy'
          · simp
      simpa [join] using hno
    | y :: y' :: ys, hy =>
      have hy' : sep ∉ y := hy y List.mem_cons_self
      have hrest : ∀ z ∈ y' :: ys, sep ∉ z := fun z hz => hy z (List.mem_cons_of_mem y hz)
      have hjoin : join [sep] (y :: y' :: ys) = y ++ sep :: join [sep] (y' :: ys) := by simp [join]
      rw [hjoin]
      cases xs with
      | nil =>
        show x ++ sep :: [] <+: _ ↔ _
        rw [cons_sep_prefix_iff hx' hy']
        simp
      | cons x' xs =>
        have hsplit : join [sep] (x :: x' :: xs) ++ [sep] = x ++ sep :: (join [sep] (x' :: xs) ++ [sep]) := by
          simp [join]
        have hmore : ∀ z ∈ x' :: xs, sep ∉ z := fun z hz => hx z (List.mem_cons_of_mem x hz)
        have hlength : (x :: x' :: xs).length < (y :: y' :: ys).length ↔ (x' :: xs).length < (y' :: ys).length := by
          simp only [List.length_cons]
          omega
        rw [hsplit, cons_sep_prefix_iff hx' hy', ih (List.cons_ne_nil x' xs) hmore hrest, ← and_assoc,
          ← List.cons_prefix_cons, hlength]

end Text

namespace NodePath

variable {base path : NodePath}

/-- No part of the path holds a dot. -/
def DotFree (path : NodePath) : Prop := ∀ part ∈ path.parts, '.' ∉ part.toList

theorem toList_toString (path : NodePath) :
    path.toString.toList = Text.join ['.'] (path.parts.map String.toList) := String.toList_ofList

theorem above_iff_prefix : base.above path = true ↔ base.parts <+: path.parts ∧ base.parts.length < path.parts.length := by
  unfold above partsBelow
  by_cases h : base.parts.isPrefixOf path.parts ∧ base.parts.length < path.parts.length
  · rw [if_pos h]
    exact ⟨fun _ => ⟨List.isPrefixOf_iff_prefix.mp h.1, h.2⟩, fun _ => rfl⟩
  · rw [if_neg h]
    exact ⟨(nomatch ·), fun h' => absurd ⟨List.isPrefixOf_iff_prefix.mpr h'.1, h'.2⟩ h⟩

/-- **Below in the tree is below in the text.** -/
theorem above_iff_text (hne : base.parts ≠ []) (hb : base.DotFree) (hp : path.DotFree) :
    base.above path = true ↔ base.toString.toList ++ ['.'] <+: path.toString.toList := by
  have hbase : ∀ part ∈ base.parts.map String.toList, '.' ∉ part := List.forall_mem_map.mpr hb
  have hpath : ∀ part ∈ path.parts.map String.toList, '.' ∉ part := List.forall_mem_map.mpr hp
  have hmap : base.parts.map String.toList ≠ [] := fun h => hne (List.map_eq_nil_iff.mp h)
  have hinj : Function.Injective String.toList := fun _ _ h => String.toList_injective h
  rw [toList_toString, toList_toString, Text.join_sep_prefix_join_iff hmap hbase hpath,
    List.prefix_map_iff_of_injective hinj, List.length_map, List.length_map, above_iff_prefix]

end NodePath

namespace EndpointNode

/-- The text of an endpoint's node is its name. -/
theorem toString_base (id : UInt32) : (base id).toString = name id := by
  show String.ofList (name id).toList = name id
  exact String.ofList_toList

theorem dot_not_mem_name (id : UInt32) : '.' ∉ (name id).toList := by
  have hdigits : '.' ∉ (Text.Numeral.decimal id.toNat).toList := by
    rw [Text.Numeral.decimal, String.toList_ofList]
    intro h
    have hdigit : Char.isDigit '.' = true := Nat.isDigit_of_mem_toDigits (by decide) (by decide) h
    exact absurd hdigit (by decide)
  simpa [name] using hdigits

theorem dotFree_base (id : UInt32) : (base id).DotFree := by
  intro part hpart
  obtain rfl := List.mem_singleton.mp hpart
  exact dot_not_mem_name id

theorem dotFree_join_base {id : UInt32} {rel : NodePath} (h : rel.DotFree) : ((base id).join rel).DotFree := by
  rw [join_base]
  intro part hpart
  rcases List.mem_cons.mp hpart with rfl | hpart
  · exact dot_not_mem_name id
  · exact h part hpart

end EndpointNode

end TimingFleet
