import TimingFleet.Proofs.Device.EndpointLayout
import TimingFleet.Session.RegisterGroup

/-!
# Groups of registers

A group is read by the names one part below its node, which works if each of these names is that of a word
(`Registers.FlatAt`).  The table of the group then has just the words one part below the node (`Device.getElem?_dump`).

* `Device.Stocked d₀ groups d`: the device `d` has the registers of `d₀`, with any contents, and may have further words;
  those below a group are directly below it.
-/

namespace TimingFleet

/-! ## Tables -/

section Tables

variable {α β : Type} {cmp : α → α → Ordering} [Std.TransCmp cmp]

/-- A key that is there has a value, whatever is taken for keys that are not. -/
theorem getElem?_of_contains {t : Std.ExtTreeMap α β cmp} {k : α} (h : t.contains k = true) (fallback : β) :
    t[k]? = some (t[k]?.getD fallback) := by
  rw [Std.ExtTreeMap.contains_eq_isSome_getElem?] at h
  exact (Option.some_get h).symm.trans (congrArg some (Option.get_eq_getD _))

variable [Std.LawfulEqCmp cmp] [DecidableEq α]

/-- A table made for a list of keys. -/
theorem getElem?_ofList_map (keys : List α) (f : α → β) (k : α) :
    (Std.ExtTreeMap.ofList (keys.map fun k => (k, f k)) cmp)[k]? = if k ∈ keys then some (f k) else none := by
  have hinsert : ∀ t : Std.ExtTreeMap α β cmp,
      (t.insertMany (keys.map fun k => (k, f k)))[k]? = if k ∈ keys then some (f k) else t[k]? := by
    induction keys with
    | nil => intro t; simp
    | cons key keys ih =>
      intro t
      rw [List.map_cons, Std.ExtTreeMap.insertMany_cons, ih, Std.ExtTreeMap.getElem?_insert]
      by_cases hkey : key = k
      · simp [hkey]
      · simp [hkey, Ne.symm hkey]
  rw [Std.ExtTreeMap.ofList_eq_insertMany_empty, hinsert]
  simp

theorem contains_ofList_map (keys : List α) (f : α → β) (k : α) :
    (Std.ExtTreeMap.ofList (keys.map fun k => (k, f k)) cmp).contains k = true ↔ k ∈ keys := by
  rw [Std.ExtTreeMap.contains_eq_isSome_getElem?, getElem?_ofList_map]
  split_ifs with hk <;> simp [hk]

/-- An entry of such a table is one that was made. -/
theorem of_getElem?_ofList_map {keys : List α} {f : α → β} {k : α} {v : β}
    (h : (Std.ExtTreeMap.ofList (keys.map fun k => (k, f k)) cmp)[k]? = some v) : k ∈ keys ∧ f k = v := by
  rw [getElem?_ofList_map] at h
  split_ifs at h with hk
  exact ⟨hk, Option.some.inj h⟩

end Tables

/-! ## Groups -/

namespace NodePath

variable {path : NodePath}

theorem child_of_ne_root (h : path ≠ root) (name : String) : path.child name = ⟨path.parts ++ [name]⟩ := by
  unfold child join
  exact if_neg h

end NodePath

namespace Registers

variable {r : Registers} {path : NodePath} {name : String}

/-- Each name one part below the node is that of a word. -/
def FlatAt (r : Registers) (path : NodePath) : Prop :=
  ∀ name ∈ r.childNames path, r.words.contains (path.child name) = true

/-- The names of a flat group are those of its words. -/
theorem FlatAt.mem_childNames_iff (h : r.FlatAt path) (hroot : path ≠ .root) :
    name ∈ r.childNames path ↔ r.words.contains (path.child name) = true := by
  refine ⟨h name, fun hword => mem_childNames.mpr ⟨[], ?_⟩⟩
  rwa [NodePath.child_of_ne_root hroot] at hword

/-- A group is flat if the words below it are directly below it. -/
theorem flatAt_of_length (hroot : path ≠ .root)
    (h : ∀ word, r.words.contains word = true → path.above word = true → word.parts.length = path.parts.length + 1) :
    r.FlatAt path := by
  intro name hname
  obtain ⟨rest, hword⟩ := mem_childNames.mp hname
  have hlength := h _ hword (NodePath.above_iff_prefix.mpr ⟨List.prefix_append _ _, by simp⟩)
  obtain rfl : rest = [] := by
    rw [List.length_append, List.length_cons] at hlength
    exact List.length_eq_zero_iff.mp (by omega)
  rw [NodePath.child_of_ne_root hroot]
  exact hword

end Registers

namespace Device

variable {d d₀ : Device} {path : NodePath} {groups : List NodePath}

/-- A word that is there has a value. -/
theorem word?_of_contains (h : d.registers.words.contains path = true) :
    d.word? path = some ((d.word? path).getD 0) :=
  getElem?_of_contains h 0

/-- A block that is there has contents. -/
theorem block?_of_contains (h : d.registers.blocks.contains path = true) :
    d.block? path = some ((d.block? path).getD []) :=
  getElem?_of_contains h []

/-- The values of the word registers one part below `path`. -/
def dump (d : Device) (path : NodePath) : RegisterDump :=
  Std.ExtTreeMap.ofList
    ((d.registers.childNames path).map fun name => (name, (d.word? (path.child name)).getD 0)) compare

/-- **The table of a flat group** has just its words. -/
theorem getElem?_dump (h : d.registers.FlatAt path) (hroot : path ≠ .root) (name : String) :
    (d.dump path)[name]? = d.word? (path.child name) := by
  rw [dump, getElem?_ofList_map _ fun name => (d.word? (path.child name)).getD 0]
  split_ifs with hname
  · exact (word?_of_contains (h name hname)).symm
  · rw [h.mem_childNames_iff hroot, Bool.not_eq_true] at hname
    exact (Std.ExtTreeMap.getElem?_eq_none_of_contains_eq_false hname).symm

/-- The device has all registers of `d₀`, with any contents, and no block of these is a queue.  It may have further
words; those below a node of `groups` are directly below it. -/
structure Stocked (d₀ : Device) (groups : List NodePath) (d : Device) : Prop where
  kind : d.kind = d₀.kind
  words : ∀ path, d₀.registers.words.contains path = true → d.registers.words.contains path = true
  blocks : ∀ path, d₀.registers.blocks.contains path = true → d.registers.blocks.contains path = true
  fifos : ∀ path, d₀.registers.blocks.contains path = true → d.registers.fifos.contains path = false
  further : ∀ path, d.registers.words.contains path = true → d₀.registers.words.contains path = false →
    ∀ group ∈ groups, group.above path = true → ∃ name, path = group.child name

namespace Stocked

theorem refl (hfifos : ∀ path, d.registers.blocks.contains path = true → d.registers.fifos.contains path = false) :
    d.Stocked groups d :=
  ⟨rfl, fun _ h => h, fun _ h => h, hfifos, fun _ h hno => nomatch h.symm.trans hno⟩

/-- Any word can be set, also a new one, if it is not deeper in a group. -/
theorem setWord (h : d₀.Stocked groups d)
    (hp : ∀ group ∈ groups, group.above path = true → ∃ name, path = group.child name) (value : UInt32) :
    d₀.Stocked groups (d.setWord path value) where
  kind := h.kind
  words other hother := (Registers.contains_words_setWord _ _ _ _).mpr (Or.inr (h.words other hother))
  blocks := h.blocks
  fifos := h.fifos
  further other hother hnew := by
    rcases (Registers.contains_words_setWord _ _ _ _).mp hother with rfl | hold
    · exact hp
    · exact h.further other hold hnew

/-- Any block can be set. -/
theorem setBlock (h : d₀.Stocked groups d) (path : NodePath) (values : List UInt32) :
    d₀.Stocked groups (d.setBlock path values) where
  kind := h.kind
  words := h.words
  blocks other hother := (Registers.contains_blocks_setBlock _ _ _ _).mpr (Or.inr (h.blocks other hother))
  fifos := h.fifos
  further := h.further

theorem fifo_eq_none (h : d₀.Stocked groups d) (hp : d₀.registers.blocks.contains path = true) :
    d.registers.fifos[path]? = none :=
  Std.ExtTreeMap.getElem?_eq_none_of_contains_eq_false (h.fifos path hp)

/-- A group whose first words are directly below it is flat with the further words too. -/
theorem flatAt {group : NodePath} (h : d₀.Stocked groups d) (hgroup : group ∈ groups) (hroot : group ≠ .root)
    (hfirst : ∀ word, d₀.registers.words.contains word = true → group.above word = true →
      word.parts.length = group.parts.length + 1) : d.registers.FlatAt group := by
  refine Registers.flatAt_of_length hroot fun word hword habove => ?_
  cases h₀ : d₀.registers.words.contains word with
  | true => exact hfirst word h₀ habove
  | false =>
    obtain ⟨name, rfl⟩ := h.further word hword h₀ group hgroup habove
    rw [NodePath.child_of_ne_root hroot, List.length_append, List.length_singleton]

end Stocked

end Device

end TimingFleet
