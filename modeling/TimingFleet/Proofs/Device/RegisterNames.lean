import TimingFleet.Proofs.Device.RegisterGroups
import TimingFleet.Proofs.Session.Handles
import TimingFleet.Proofs.Text.Pieces

/-!
# Registers by the text of their names

On a device all registers have names that are texts (`Registers.Named`), and no access gives it one that is not
(`Session.named_follow`).  So a group can be told by texts: what lies below `text` are the names that go on after `text`
and a dot, and the names one part below are the first parts of what follows.

* `firstPart text`: the text before the first dot.
* `Registers.WordNamed r name`, `Registers.RegisterNamed r name`: a word, a register of any kind has this name.
* `Registers.NodeNamed r text`: a register has the name `text` or one that goes on after it and a dot.
* `Registers.Component r text c`: the name of a word goes on after `text` and a dot, first with the part `c`.
-/

namespace TimingFleet

open Text

/-- The text before the first dot, or all of it. -/
def firstPart (text : String) : String := String.ofList (text.toList.takeWhile (· ≠ '.'))

namespace NodePath

variable {path base rel : NodePath} {text other name : String}

/-- The path is that of a text. -/
def Named (path : NodePath) : Prop := ∃ text, ofString text = path

theorem eq_of_parts_eq (h : path.parts = base.parts) : path = base := by
  cases path
  cases base
  exact congrArg mk h

theorem ofString_injective (h : ofString text = ofString other) : text = other := by
  rw [← toString_ofString text, h, toString_ofString]

theorem parts_ofString_of_not_mem (h : '.' ∉ text.toList) : (ofString text).parts = [text] := by
  simp [ofString, split_of_not_mem h]

theorem parts_ofString_append (text other : String) :
    (ofString (text ++ "." ++ other)).parts = (ofString text).parts ++ (ofString other).parts := by
  have h : (text ++ "." ++ other).toList = text.toList ++ '.' :: other.toList := by simp
  simp only [ofString, h, split_append, List.map_append]

/-- The first part of a path is that of its text. -/
theorem exists_parts_ofString (text : String) : ∃ more, (ofString text).parts = firstPart text :: more := by
  obtain ⟨rest, hrest⟩ := exists_split_eq '.' text.toList
  exact ⟨rest.map String.ofList, by rw [ofString, hrest, List.map_cons, firstPart]⟩

theorem dotFree_ofString (text : String) : (ofString text).DotFree := by
  intro part hpart
  obtain ⟨piece, hpiece, rfl⟩ := List.mem_map.mp hpart
  rw [String.toList_ofList]
  exact sep_not_mem_of_mem_split hpiece

theorem dot_not_mem_firstPart (text : String) : '.' ∉ (firstPart text).toList := by
  obtain ⟨more, hmore⟩ := exists_parts_ofString text
  exact dotFree_ofString text _ (hmore ▸ List.mem_cons_self)

/-- Paths of texts have parts, and none of these holds a dot. -/
theorem named_iff : path.Named ↔ path.parts ≠ [] ∧ path.DotFree := by
  constructor
  · rintro ⟨text, rfl⟩
    refine ⟨?_, dotFree_ofString text⟩
    simpa [ofString] using split_ne_nil '.' text.toList
  · rintro ⟨hne, hdot⟩
    have hpieces : ∀ piece ∈ path.parts.map String.toList, '.' ∉ piece := List.forall_mem_map.mpr hdot
    have hmap : path.parts.map String.toList ≠ [] := fun h => hne (List.map_eq_nil_iff.mp h)
    have hparts : (path.parts.map String.toList).map String.ofList = path.parts := by
      simp [List.map_map, Function.comp_def]
    refine ⟨path.toString, ?_⟩
    rw [ofString, toList_toString, split_join hmap hpieces, hparts]

instance (path : NodePath) : Decidable path.DotFree :=
  inferInstanceAs (Decidable (∀ part ∈ path.parts, '.' ∉ part.toList))

instance (path : NodePath) : Decidable path.Named := decidable_of_iff _ named_iff.symm

theorem Named.append (hb : base.Named) (hr : rel.Named) : Named ⟨base.parts ++ rel.parts⟩ := by
  rw [named_iff] at *
  refine ⟨fun h => hb.1 (List.append_eq_nil_iff.mp h).1, fun part hpart => ?_⟩
  rcases List.mem_append.mp hpart with hpart | hpart
  · exact hb.2 part hpart
  · exact hr.2 part hpart

theorem Named.join (hb : base.Named) (hr : rel.Named) : (base.join rel).Named := by
  unfold NodePath.join
  split_ifs
  · exact hr
  · exact hb.append hr

/-- What stands before the last parts of a text is a text. -/
theorem Named.of_beforeSuffix (h : path.Named) (hbase : beforeSuffix rel path = some base) : base.Named := by
  unfold beforeSuffix at hbase
  dsimp only at hbase
  split_ifs at hbase with hend
  obtain rfl := Option.some.inj hbase
  obtain ⟨hne, hdot⟩ := named_iff.mp h
  refine named_iff.mpr ⟨fun hnil => ?_, fun part hpart => hdot part (List.mem_of_mem_take hpart)⟩
  rcases List.take_eq_nil_iff.mp hnil with hlength | hnil
  · exact absurd hend.1 (by omega)
  · exact hne hnil

theorem ofString_ne_root (h : text ≠ "") : ofString text ≠ root := fun heq =>
  h (ofString_injective (heq.trans (by decide +kernel : root = ofString "")))

/-- The node one part below the path of a text. -/
theorem child_ofString (htext : text ≠ "") (hname : '.' ∉ name.toList) :
    (ofString text).child name = ofString (text ++ "." ++ name) := by
  have hparts := parts_ofString_append text name
  rw [parts_ofString_of_not_mem hname] at hparts
  rw [child_of_ne_root (ofString_ne_root htext), ← hparts]

/-- A text whose path goes on below another goes on after it and a dot. -/
theorem exists_below {c : String} {rest : List String}
    (h : (ofString name).parts = (ofString text).parts ++ c :: rest) :
    ∃ below, name = text ++ "." ++ below ∧ firstPart below = c := by
  have hnamed : Named ⟨c :: rest⟩ :=
    named_iff.mpr ⟨List.cons_ne_nil c rest, fun part hpart =>
      dotFree_ofString name part (h ▸ List.mem_append_right _ hpart)⟩
  obtain ⟨below, hbelow⟩ := hnamed
  refine ⟨below, ofString_injective (eq_of_parts_eq ?_), ?_⟩
  · rw [h, parts_ofString_append, hbelow]
  · obtain ⟨more, hmore⟩ := exists_parts_ofString below
    rw [hbelow] at hmore
    exact (List.cons.inj hmore).1.symm

end NodePath

open NodePath

namespace Registers

variable {r : Registers} {path : NodePath} {text c : String}

/-- A word has this name. -/
def WordNamed (r : Registers) (name : String) : Prop := r.words.contains (.ofString name) = true

/-- A register has this name. -/
def RegisterNamed (r : Registers) (name : String) : Prop := r.Holds (.ofString name)

/-- A register has the name `text`, or one that goes on after it and a dot. -/
def NodeNamed (r : Registers) (text : String) : Prop :=
  r.RegisterNamed text ∨ ∃ below, r.RegisterNamed (text ++ "." ++ below)

/-- The name of a word goes on after `text` and a dot, first with the part `c`. -/
def Component (r : Registers) (text c : String) : Prop :=
  ∃ below, r.WordNamed (text ++ "." ++ below) ∧ firstPart below = c

/-- All registers have names that are texts. -/
def Named (r : Registers) : Prop := ∀ path, r.Holds path → path.Named

theorem Component.dot_not_mem (h : r.Component text c) : '.' ∉ c.toList := by
  obtain ⟨below, -, rfl⟩ := h
  exact dot_not_mem_firstPart below

/-- **A node** is one in the text of the names. -/
theorem Named.hasNode_ofString (h : r.Named) : r.hasNode (.ofString text) = true ↔ r.NodeNamed text := by
  rw [hasNode_iff]
  constructor
  · rintro ⟨other, hother, rfl | habove⟩
    · exact Or.inl hother
    · obtain ⟨name, rfl⟩ := h other hother
      obtain ⟨⟨rest, hrest⟩, hlength⟩ := NodePath.above_iff_prefix.mp habove
      cases rest with
      | nil =>
        rw [List.append_nil] at hrest
        exact absurd (congrArg List.length hrest) (Nat.ne_of_lt hlength)
      | cons c rest =>
        obtain ⟨below, rfl, -⟩ := exists_below hrest.symm
        exact Or.inr ⟨below, hother⟩
  · rintro (hself | ⟨below, hbelow⟩)
    · exact ⟨_, hself, Or.inl rfl⟩
    · obtain ⟨more, hmore⟩ := exists_parts_ofString below
      refine ⟨_, hbelow, Or.inr ?_⟩
      rw [NodePath.above_iff_prefix, parts_ofString_append, hmore]
      exact ⟨List.prefix_append _ _, by simp⟩

/-- **The names one part below** are the first parts with which the names of words go on. -/
theorem Named.mem_childNames_ofString (h : r.Named) : c ∈ r.childNames (.ofString text) ↔ r.Component text c := by
  rw [mem_childNames]
  constructor
  · rintro ⟨rest, hword⟩
    obtain ⟨name, hname⟩ := h _ (Or.inl hword)
    obtain ⟨below, rfl, hfirst⟩ := exists_below (congrArg NodePath.parts hname)
    rw [← hname] at hword
    exact ⟨below, hword, hfirst⟩
  · rintro ⟨below, hword, rfl⟩
    obtain ⟨more, hmore⟩ := exists_parts_ofString below
    have hparts := parts_ofString_append text below
    rw [hmore] at hparts
    exact ⟨more, hparts ▸ hword⟩

/-! ## Names stay texts -/

theorem Named.setWord (h : r.Named) (hp : path.Named) (value : UInt32) : (r.setWord path value).Named := by
  rintro other (hword | hother)
  · rcases (contains_words_setWord r path value other).mp hword with rfl | hword
    · exact hp
    · exact h other (Or.inl hword)
  · exact h other (Or.inr hother)

theorem Named.setBlock (h : r.Named) (hp : path.Named) (values : List UInt32) : (r.setBlock path values).Named := by
  rintro other (hword | hblock | hfifo)
  · exact h other (Or.inl hword)
  · rcases (contains_blocks_setBlock r path values other).mp hblock with rfl | hblock
    · exact hp
    · exact h other (Or.inr (Or.inl hblock))
  · exact h other (Or.inr (Or.inr hfifo))

theorem Named.setFifo (h : r.Named) (hp : path.Named) (words : List UInt32) : (r.setFifo path words).Named := by
  rintro other (hword | hblock | hfifo)
  · exact h other (Or.inl hword)
  · exact h other (Or.inr (Or.inl hblock))
  · rcases (contains_fifos_setFifo r path words other).mp hfifo with rfl | hfifo
    · exact hp
    · exact h other (Or.inr (Or.inr hfifo))

/-- What an access can be about has a name that is a text. -/
theorem Named.of_admits (h : r.Named) {a : Access} (ha : r.admits a = true) (hp : a.path? = some path) :
    path.Named := by
  cases a with
  | read other => exact Option.some.inj hp ▸ h other (Or.inl ha)
  | readBlock other words =>
    simp only [admits, isBlock, Bool.or_eq_true] at ha
    exact Option.some.inj hp ▸ h other (Or.inr ha)
  | write other value => exact Option.some.inj hp ▸ h other (Or.inl ha)
  | writeBlock other values => exact Option.some.inj hp ▸ h other (Or.inr (Or.inl ha))
  | dispatch => cases hp

end Registers

namespace Device

variable {d : Device} {path : NodePath}

theorem named_reactEndpoint (h : d.registers.Named) (hp : path.Named) (value : UInt32) :
    (d.reactEndpoint path value).registers.Named := by
  unfold reactEndpoint
  cases hbase : NodePath.beforeSuffix EndpointNode.enable path with
  | none => exact h
  | some base =>
    have hb : base.Named := hp.of_beforeSuffix hbase
    exact (h.setWord (hb.join (by decide +kernel)) _).setWord (hb.append (by decide +kernel)) _

theorem named_answerEcho (h : d.registers.Named) : d.answerEcho.registers.Named := by
  unfold answerEcho
  split_ifs
  · exact ((h.setBlock (by decide +kernel) _).setBlock (by decide +kernel) _).setWord (by decide +kernel) _
  · exact h.setWord (by decide +kernel) _

theorem named_updateLinkFlags (h : d.registers.Named) : d.updateLinkFlags.registers.Named := by
  unfold updateLinkFlags
  split_ifs
  · exact (h.setWord (by decide +kernel) _).setWord (by decide +kernel) _
  · exact h

theorem named_reactOverlord (h : d.registers.Named) (path : NodePath) (value : UInt32) :
    (d.reactOverlord path value).registers.Named := by
  unfold reactOverlord
  split
  · exact h.setWord (by decide +kernel) _
  split
  · exact named_answerEcho h
  split
  · exact h.setWord (by decide +kernel) _
  · exact h

theorem named_reactFanout (h : d.registers.Named) (path : NodePath) (value : UInt32) :
    (d.reactFanout path value).registers.Named := by
  unfold reactFanout
  split
  · exact named_updateLinkFlags h
  split
  · exact h.setWord (by decide +kernel) _
  · exact h

theorem named_writeWord (h : d.registers.Named) (hp : path.Named) (value : UInt32) :
    (d.writeWord path value).registers.Named := by
  have hset : (d.setWord path value).registers.Named := h.setWord hp value
  unfold writeWord
  dsimp only
  split
  · exact named_reactEndpoint hset hp value
  · exact named_reactOverlord hset path value
  · exact named_reactFanout hset path value

theorem named_writeBlock (h : d.registers.Named) (hp : path.Named) (values : List UInt32) :
    (d.writeBlock path values).registers.Named := by
  have hset : (d.setBlock path values).registers.Named := h.setBlock hp values
  unfold writeBlock
  dsimp only
  split_ifs
  · exact hset.setBlock (by decide +kernel) _
  · exact hset
  · exact hset
  · exact hset

theorem named_takeOut (h : d.registers.Named) (hp : path.Named) (words : Nat) :
    (d.takeOut path words).registers.Named := by
  unfold takeOut
  cases d.registers.fifos[path]? with
  | none => exact h
  | some queue =>
    have htaken := h.setFifo hp (queue.drop words)
    cases hbase : NodePath.beforeSuffix EndpointNode.bufferData path with
    | none => exact htaken
    | some base => exact htaken.setWord ((hp.of_beforeSuffix hbase).join (by decide +kernel)) _

/-- An operation gives a device no register whose name is not a text. -/
theorem named_after {op : Pending} (hop : ∀ path, op.access.path? = some path → path.Named) (h : d.registers.Named) :
    (d.after op).registers.Named := by
  cases op with
  | read handle => exact h
  | readBlock handle words => exact named_takeOut h (hop _ rfl) words
  | write path value => exact named_writeWord h (hop _ rfl) value
  | writeBlock path values => exact named_writeBlock h (hop _ rfl) values

end Device

/-- **Names stay texts** in the course of a session. -/
theorem Session.named_follow {s : Session} (hs : s.Orderly) (h : s.device.registers.Named) (rs : List Request) :
    (s.follow rs).device.registers.Named := by
  induction rs generalizing s with
  | nil => exact h
  | cons r rs ih =>
    refine ih (hs.answer r) (answer_keeps (I := fun d => d.registers.Named) (fun op hop d => ?_) h)
    exact Device.named_after fun path hpath => h.of_admits (hs.admits op hop) hpath

end TimingFleet
