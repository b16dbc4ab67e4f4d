import TimingFleet.Proofs.Device.EndpointLayout

/-!
# Registers that agree in places

`Registers.AgreeAt P r r'`: at the paths of `P`, `r` and `r'` hold the same.

Registers that are set alike still agree (`AgreeAt.setWord`), and what is set outside `P` does not matter there
(`agreeAt_setWord`).  Registers that agree everywhere are equal (`AgreeAt.eq`).
-/

namespace TimingFleet

open EndpointNode

namespace Registers

variable {P Q : NodePath → Prop} {r r' r'' : Registers} {path : NodePath}

/-- At the paths of `P` both hold the same. -/
structure AgreeAt (P : NodePath → Prop) (r r' : Registers) : Prop where
  words : ∀ path, P path → r'.words[path]? = r.words[path]?
  blocks : ∀ path, P path → r'.blocks[path]? = r.blocks[path]?
  fifos : ∀ path, P path → r'.fifos[path]? = r.fifos[path]?

namespace AgreeAt

theorem refl (P : NodePath → Prop) (r : Registers) : r.AgreeAt P r := ⟨fun _ _ => rfl, fun _ _ => rfl, fun _ _ => rfl⟩

theorem symm (h : r.AgreeAt P r') : r'.AgreeAt P r :=
  ⟨fun p hp => (h.words p hp).symm, fun p hp => (h.blocks p hp).symm, fun p hp => (h.fifos p hp).symm⟩

theorem trans (h : r.AgreeAt P r') (h' : r'.AgreeAt P r'') : r.AgreeAt P r'' :=
  ⟨fun p hp => (h'.words p hp).trans (h.words p hp), fun p hp => (h'.blocks p hp).trans (h.blocks p hp),
    fun p hp => (h'.fifos p hp).trans (h.fifos p hp)⟩

theorem mono (h : r.AgreeAt P r') (hQ : ∀ path, Q path → P path) : r.AgreeAt Q r' :=
  ⟨fun p hp => h.words p (hQ p hp), fun p hp => h.blocks p (hQ p hp), fun p hp => h.fifos p (hQ p hp)⟩

/-- Agreement on each of some sets of paths that cover all paths makes registers equal. -/
theorem eq (h : ∀ path, ∃ P : NodePath → Prop, P path ∧ r.AgreeAt P r') : r = r' := by
  obtain ⟨words, blocks, fifos⟩ := r
  obtain ⟨words', blocks', fifos'⟩ := r'
  have hwords : words = words' := Std.ExtTreeMap.ext_getElem? fun path => by
    obtain ⟨P, hp, hagree⟩ := h path
    exact (hagree.words path hp).symm
  have hblocks : blocks = blocks' := Std.ExtTreeMap.ext_getElem? fun path => by
    obtain ⟨P, hp, hagree⟩ := h path
    exact (hagree.blocks path hp).symm
  have hfifos : fifos = fifos' := Std.ExtTreeMap.ext_getElem? fun path => by
    obtain ⟨P, hp, hagree⟩ := h path
    exact (hagree.fifos path hp).symm
  rw [hwords, hblocks, hfifos]

theorem setWord (h : r.AgreeAt P r') (path : NodePath) (value : UInt32) :
    (r.setWord path value).AgreeAt P (r'.setWord path value) := by
  refine ⟨fun other hp => ?_, h.blocks, h.fifos⟩
  rw [getElem?_words_setWord, getElem?_words_setWord, h.words other hp]

theorem setFifo (h : r.AgreeAt P r') (path : NodePath) (words : List UInt32) :
    (r.setFifo path words).AgreeAt P (r'.setFifo path words) := by
  refine ⟨h.words, h.blocks, fun other hp => ?_⟩
  rw [getElem?_fifos_setFifo, getElem?_fifos_setFifo, h.fifos other hp]

theorem setBuffer (h : r.AgreeAt P r') (e : UInt32) (words : List UInt32) :
    (r.setBuffer e words).AgreeAt P (r'.setBuffer e words) :=
  (h.setFifo (data e) words).setWord (count e) _

/-- The names below a node are alike where all that lies below it is. -/
theorem childNames (h : r.AgreeAt P r') (hP : ∀ rest, P ⟨path.parts ++ rest⟩) :
    r'.childNames path = r.childNames path := by
  have hmem : ∀ child, child ∈ r'.childNames path ↔ child ∈ r.childNames path := by
    intro child
    simp only [mem_childNames, Std.ExtTreeMap.contains_eq_isSome_getElem?, h.words _ (hP _)]
  refine congrArg Std.ExtTreeSet.toList (Std.ExtTreeSet.ext_mem fun child => ?_)
  rw [← Std.ExtTreeSet.mem_toList, ← Std.ExtTreeSet.mem_toList]
  exact hmem child

end AgreeAt

theorem agreeAt_setWord (h : ¬ P path) (value : UInt32) : r.AgreeAt P (r.setWord path value) := by
  refine ⟨fun other hp => ?_, fun _ _ => rfl, fun _ _ => rfl⟩
  have hne : path ≠ other := fun heq => h (heq ▸ hp)
  rw [getElem?_words_setWord, if_neg hne]

theorem agreeAt_setFifo (h : ¬ P path) (words : List UInt32) : r.AgreeAt P (r.setFifo path words) := by
  refine ⟨fun _ _ => rfl, fun _ _ => rfl, fun other hp => ?_⟩
  have hne : path ≠ other := fun heq => h (heq ▸ hp)
  rw [getElem?_fifos_setFifo, if_neg hne]

theorem agreeAt_setBuffer {e : UInt32} (hdata : ¬ P (data e)) (hcount : ¬ P (count e)) (words : List UInt32) :
    r.AgreeAt P (r.setBuffer e words) :=
  (agreeAt_setFifo hdata words).trans (agreeAt_setWord hcount _)

end Registers

end TimingFleet
