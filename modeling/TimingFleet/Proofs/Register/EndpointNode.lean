import TimingFleet.Proofs.Text.Numerals
import TimingFleet.Register.Endpoint

/-!
# Nodes of different endpoints

The node of an endpoint is named by its number in decimal, so that different endpoints have different nodes and
share none below them (`join_base_inj`).
-/

namespace TimingFleet

namespace EndpointNode

variable {m n : UInt32} {rel rel' : NodePath}

/-- The one part of an endpoint's node. -/
def name (id : UInt32) : String := "endpoint" ++ Text.Numeral.decimal id.toNat

theorem name_injective (h : name m = name n) : m = n := by
  have hdecimal : Text.Numeral.decimal m.toNat = Text.Numeral.decimal n.toNat := by
    have hlist := congrArg String.toList h
    simp only [name, String.toList_append] at hlist
    exact String.toList_injective (List.append_cancel_left hlist)
  exact UInt32.toNat_inj.mp (Text.Numeral.decimal_injective hdecimal)

theorem base_ne_root (id : UInt32) : base id ≠ NodePath.root := by
  intro h
  have hname : name id = "" := List.head_eq_of_cons_eq (congrArg NodePath.parts h)
  have hlist := congrArg String.toList hname
  simp [name] at hlist

theorem join_base (id : UInt32) (rel : NodePath) : (base id).join rel = ⟨name id :: rel.parts⟩ := by
  unfold NodePath.join
  rw [if_neg (base_ne_root id)]
  rfl

/-- **Nodes below different endpoints are different.** -/
theorem join_base_inj : (base m).join rel = (base n).join rel' ↔ m = n ∧ rel = rel' := by
  rw [join_base, join_base, NodePath.mk.injEq, List.cons.injEq]
  refine ⟨fun ⟨hname, hparts⟩ => ⟨name_injective hname, ?_⟩, fun ⟨hid, hrel⟩ => ⟨by rw [hid], by rw [hrel]⟩⟩
  cases rel
  cases rel'
  exact congrArg NodePath.mk hparts

theorem join_base_ne_root (id : UInt32) (rel : NodePath) : (base id).join rel ≠ NodePath.root := by
  rw [join_base]
  intro h
  have hparts := congrArg NodePath.parts h
  exact base_ne_root id (congrArg (fun part => NodePath.mk [part]) (List.head_eq_of_cons_eq hparts))

theorem child_join_base (id : UInt32) (rel : NodePath) (child : String) :
    ((base id).join rel).child child = (base id).join ⟨rel.parts ++ [child]⟩ := by
  unfold NodePath.child
  rw [show ((base id).join rel).join ⟨[child]⟩ = ⟨((base id).join rel).parts ++ [child]⟩ from
    if_neg (join_base_ne_root id rel), join_base, join_base]
  rfl

theorem beforeSuffix_join_base (id : UInt32) (rel : NodePath) :
    NodePath.beforeSuffix rel ((base id).join rel) = some (base id) := by
  rw [join_base]
  simp [NodePath.beforeSuffix, base, name]

theorem above_join_base (id : UInt32) (h : rel.parts ≠ []) : (base id).above ((base id).join rel) = true := by
  have hpos : 0 < rel.parts.length := List.length_pos_iff.mpr h
  rw [join_base]
  simp [NodePath.above, NodePath.partsBelow, base, name, hpos]

end EndpointNode

end TimingFleet
