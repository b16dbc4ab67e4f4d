import TimingFleet.EndpointGroup
import TimingFleet.Proofs.Device.EndpointLayout
import TimingFleet.Proofs.Session.Logic

/-!
# Finding the endpoints of a group

A group is found by looking which endpoints exist.  Its ids are those asked for, ascending and each once.  If some do
not exist, the error names just these, ascending and each once.
-/

namespace TimingFleet

theorem mem_ascending {ns : List UInt32} {n : UInt32} : n ∈ ascending ns ↔ n ∈ ns := by
  simp [ascending, Std.ExtTreeSet.mem_toList, Std.ExtTreeSet.mem_ofList]

theorem pairwise_ascending (ns : List UInt32) : (ascending ns).Pairwise (· < ·) :=
  (Std.ExtTreeSet.ordered_toList (t := Std.ExtTreeSet.ofList ns compare)).imp fun h => Std.compare_eq_lt.mp h

theorem nodup_ascending (ns : List UInt32) : (ascending ns).Nodup :=
  (pairwise_ascending ns).imp fun h => UInt32.ne_of_lt h

namespace EndpointGroup

open Procedure

variable {now : UInt64} {s : Session} {ids : List UInt32}

/-- The ids that name no node. -/
def unknown (s : Session) (ids : List UInt32) : List UInt32 :=
  ids.filter fun id => !s.hasNode (EndpointNode.base id)

theorem mem_unknown {id : UInt32} : id ∈ unknown s ids ↔ id ∈ ids ∧ ¬ s.hasNode (EndpointNode.base id) = true := by
  simp [unknown]

theorem unknown_eq_nil_iff : unknown s ids = [] ↔ ∀ id ∈ ids, s.hasNode (EndpointNode.base id) = true := by
  simp [unknown]

theorem runs_missingIds :
    Runs now (missingIds ids) s (fun missing t _ => missing = unknown s ids ∧ t = s) fun _ _ _ => False := by
  induction ids with
  | nil => exact runs_pure ⟨rfl, rfl⟩
  | cons id ids ih =>
    refine runs_bind (runs_request_of_ok (a := s.hasNode (EndpointNode.base id)) rfl ?_)
    refine runs_bind (ih.mono ?_ fun _ _ _ hno => hno)
    rintro missing t _ ⟨rfl, rfl⟩
    refine runs_pure ⟨?_, rfl⟩
    cases hknown : t.hasNode (EndpointNode.base id) <;> simp [unknown, hknown]

/-- **Looking for endpoints** changes nothing, and it finds the group just if all of them are there. -/
theorem runs_resolve_or_missing (device : String) (ids : List UInt32) :
    Runs now (resolve device ids) s
      (fun g t _ => t = s ∧ unknown s ids = [] ∧ g = ⟨device, ascending ids⟩)
      fun e t _ => t = s ∧ unknown s ids ≠ [] ∧ e = .missingEndpoints device (ascending (unknown s ids)) := by
  unfold resolve
  refine runs_bind (runs_missingIds.mono ?_ fun _ _ _ hno => hno.elim)
  rintro missing t _ ⟨rfl, rfl⟩
  by_cases hknown : unknown t ids = []
  · rw [if_neg fun h => h hknown]
    exact runs_bind (runs_log (runs_pure ⟨rfl, hknown, rfl⟩))
  · rw [if_pos hknown]
    exact runs_fail ⟨rfl, hknown, rfl⟩

/-- **Existing endpoints are found.** -/
theorem runs_resolve (device : String) (h : ∀ id ∈ ids, s.hasNode (EndpointNode.base id) = true) :
    Runs now (resolve device ids) s (fun g t _ => g = ⟨device, ascending ids⟩ ∧ t = s) fun _ _ _ => False :=
  (runs_resolve_or_missing device ids).mono (fun _ _ _ hg => ⟨hg.2.2, hg.1⟩)
    fun _ _ _ hno => hno.2.1 (unknown_eq_nil_iff.mpr h)

/-- **Resolution is exact.**  On an endpoint device, with whatever is logged or queued, a group of endpoints is found
just if the device has all of them, and then its ids are those asked for, ascending and each once.  Otherwise the error
names those that the device lacks, ascending and each once.  Nothing changes in either case.  An endpoint counts as
there just if the text of some register starts with its name and a dot, which those of endpoint 10 do not for
endpoint 1. -/
theorem resolve_exact (now : UInt64) (before : Session) (id : String) (endpoints ids : List UInt32) :
    let s := { before with device := Device.endpoint id endpoints }
    let o := (resolve s.name ids).run now s
    o.state = s ∧
    ((∃ g, o.result = .ok g) ↔ ∀ e ∈ ids, e ∈ endpoints) ∧
    (∀ g, o.result = .ok g → g.device = s.name ∧ g.ids.Pairwise (· < ·) ∧ ∀ e, e ∈ g.ids ↔ e ∈ ids) ∧
    (∀ err, o.result = .error err → ∃ missing, err = .missingEndpoints s.name missing ∧
      missing.Pairwise (· < ·) ∧ ∀ e, e ∈ missing ↔ e ∈ ids ∧ e ∉ endpoints) ∧
    (∀ e, s.hasNode (EndpointNode.base e) = true ↔ ∃ path, s.device.registers.Holds path ∧
      (EndpointNode.name e).toList ++ ['.'] <+: path.toString.toList) := by
  intro s o
  have hlaid : s.device.registers.Laid endpoints := Device.laid_endpoint id endpoints
  have hnode : ∀ e, s.hasNode (EndpointNode.base e) = true ↔ e ∈ endpoints := fun e => hlaid.hasNode_base
  have hmissing : ∀ e, e ∈ unknown s ids ↔ e ∈ ids ∧ e ∉ endpoints := fun e => by rw [mem_unknown, hnode]
  have hall : unknown s ids = [] ↔ ∀ e ∈ ids, e ∈ endpoints := by simp only [unknown_eq_nil_iff, hnode]
  have hruns : Runs now (resolve s.name ids) s
      (fun g t _ => t = s ∧ unknown s ids = [] ∧ g = ⟨s.name, ascending ids⟩)
      fun e t _ => t = s ∧ unknown s ids ≠ [] ∧ e = .missingEndpoints s.name (ascending (unknown s ids)) :=
    runs_resolve_or_missing s.name ids
  obtain ⟨hok, herr⟩ := runs_iff.mp hruns
  refine ⟨?state, ?found, ?group, ?missing, fun e => (hnode e).trans hlaid.found_by_text.symm⟩
  case state =>
    cases hresult : o.result with
    | ok g => exact (hok g hresult).1
    | error err => exact (herr err hresult).1
  case found =>
    rw [← hall]
    cases hresult : o.result with
    | ok g => exact ⟨fun _ => (hok g hresult).2.1, fun _ => ⟨g, rfl⟩⟩
    | error err => exact ⟨(fun ⟨_, hg⟩ => nomatch hg), fun h => absurd h (herr err hresult).2.1⟩
  case group =>
    intro g hresult
    obtain ⟨-, -, rfl⟩ := hok g hresult
    exact ⟨rfl, pairwise_ascending ids, fun e => mem_ascending⟩
  case missing =>
    intro err hresult
    obtain ⟨-, -, rfl⟩ := herr err hresult
    exact ⟨_, rfl, pairwise_ascending _, fun e => mem_ascending.trans (hmissing e)⟩

/-- Endpoint 1 is not found where there is only endpoint 10. -/
example : ((resolve "EPT" [10, 1, 1]).run 0 (Session.ofDevice (.endpoint "EPT" [10]))).result =
    .error (.missingEndpoints "EPT" [1]) := rfl

end EndpointGroup

end TimingFleet
