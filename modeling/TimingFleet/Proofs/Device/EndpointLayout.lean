import TimingFleet.Proofs.Device.ReadoutBuffer
import TimingFleet.Proofs.Register.PathText

/-!
# Which registers an endpoint device has

An endpoint device has the registers of its endpoints and no others.

* `Registers.Laid r endpoints`: the words, blocks and queues of `r` are those of the endpoints.
* `Registers.SameNodes r r'`: `r` and `r'` hold registers of the same names; only contents differ.

Main statements: an endpoint device is laid out for its endpoints (`laid_endpoint`), it stays so while it is
prepared (`laid_prepared`), and just its endpoints are nodes of it (`Laid.hasNode_base`).
-/

namespace TimingFleet

namespace EndpointNode

/-- The word registers of an endpoint, seen from its node. -/
def wordNodes : List NodePath :=
  [version, eventCounter, bufferCount] ++ controlFlags.map (fun flag => ⟨control.parts ++ [flag]⟩) ++
    statusFlags.map fun flag => ⟨status.parts ++ [flag]⟩

/-- The groups of word registers of an endpoint, seen from its node. -/
def groupNodes : List NodePath := [control, status]

/-- The block registers of an endpoint, seen from its node. -/
def blockNodes : List NodePath := [timestamp, counters]

/-- The queues of an endpoint, seen from its node. -/
def queueNodes : List NodePath := [bufferData]

/-- All registers of an endpoint, seen from its node. -/
def nodes : List NodePath := wordNodes ++ blockNodes ++ queueNodes

theorem nodes_ne_nil : ∀ rel ∈ nodes, rel.parts ≠ [] := by decide

theorem dotFree_nodes : ∀ rel ∈ nodes, rel.DotFree := by
  have hall : ∀ rel ∈ nodes, ∀ part ∈ rel.parts, '.' ∉ part.toList := by decide +kernel
  exact hall

/-- The path is that of a node of `rels` at one of the endpoints. -/
def Among (endpoints : List UInt32) (rels : List NodePath) (path : NodePath) : Prop :=
  ∃ e ∈ endpoints, ∃ rel ∈ rels, (base e).join rel = path

variable {e : UInt32} {endpoints : List UInt32} {rels : List NodePath} {rel path : NodePath}

theorem among_join_base : Among endpoints rels ((base e).join rel) ↔ e ∈ endpoints ∧ rel ∈ rels := by
  constructor
  · rintro ⟨f, hf, rel', hrel, h⟩
    obtain ⟨rfl, rfl⟩ := join_base_inj.mp h
    exact ⟨hf, hrel⟩
  · rintro ⟨he, hrel⟩
    exact ⟨e, he, rel, hrel, rfl⟩

theorem among_cons :
    Among (e :: endpoints) rels path ↔ (∃ rel ∈ rels, (base e).join rel = path) ∨ Among endpoints rels path := by
  simp [Among]

/-- The node of an endpoint lies above the nodes of that endpoint only. -/
theorem above_base_iff {f : UInt32} (h : rel.parts ≠ []) : (base e).above ((base f).join rel) = true ↔ e = f := by
  refine ⟨fun habove => ?_, fun he => he ▸ above_join_base e h⟩
  rw [NodePath.above_iff_prefix, join_base] at habove
  exact name_injective (List.cons_prefix_cons.mp habove.1).1

end EndpointNode

open EndpointNode

namespace Registers

variable {r r' r'' : Registers} {e : UInt32} {endpoints : List UInt32} {path other : NodePath}

/-! ## Registers of the same names -/

/-- Both hold words, blocks and queues of the same names. -/
structure SameNodes (r r' : Registers) : Prop where
  words : ∀ path, r'.words.contains path = r.words.contains path
  blocks : ∀ path, r'.blocks.contains path = r.blocks.contains path
  fifos : ∀ path, r'.fifos.contains path = r.fifos.contains path

theorem SameNodes.refl (r : Registers) : r.SameNodes r := ⟨fun _ => rfl, fun _ => rfl, fun _ => rfl⟩

theorem SameNodes.trans (h : r.SameNodes r') (h' : r'.SameNodes r'') : r.SameNodes r'' :=
  ⟨fun p => (h'.words p).trans (h.words p), fun p => (h'.blocks p).trans (h.blocks p),
    fun p => (h'.fifos p).trans (h.fifos p)⟩

theorem contains_words_setWord (r : Registers) (path : NodePath) (value : UInt32) (other : NodePath) :
    (r.setWord path value).words.contains other = true ↔ path = other ∨ r.words.contains other = true := by
  simp [setWord, Std.ExtTreeMap.contains_insert, Std.LawfulEqCmp.compare_eq_iff_eq]

theorem contains_blocks_setBlock (r : Registers) (path : NodePath) (values : List UInt32) (other : NodePath) :
    (r.setBlock path values).blocks.contains other = true ↔ path = other ∨ r.blocks.contains other = true := by
  simp [setBlock, Std.ExtTreeMap.contains_insert, Std.LawfulEqCmp.compare_eq_iff_eq]

theorem contains_fifos_setFifo (r : Registers) (path : NodePath) (values : List UInt32) (other : NodePath) :
    (r.setFifo path values).fifos.contains other = true ↔ path = other ∨ r.fifos.contains other = true := by
  simp [setFifo, Std.ExtTreeMap.contains_insert, Std.LawfulEqCmp.compare_eq_iff_eq]

/-- A table keeps its names when an entry that is there gets other contents. -/
theorem sameNodes_setWord (h : r.words.contains path = true) (value : UInt32) : r.SameNodes (r.setWord path value) := by
  refine ⟨fun other => ?_, fun _ => rfl, fun _ => rfl⟩
  rw [Bool.eq_iff_iff, contains_words_setWord]
  exact ⟨fun hor => hor.elim (fun heq => heq ▸ h) fun ho => ho, Or.inr⟩

theorem sameNodes_setBlock (h : r.blocks.contains path = true) (values : List UInt32) :
    r.SameNodes (r.setBlock path values) := by
  refine ⟨fun _ => rfl, fun other => ?_, fun _ => rfl⟩
  rw [Bool.eq_iff_iff, contains_blocks_setBlock]
  exact ⟨fun hor => hor.elim (fun heq => heq ▸ h) fun ho => ho, Or.inr⟩

theorem sameNodes_setFifo (h : r.fifos.contains path = true) (values : List UInt32) :
    r.SameNodes (r.setFifo path values) := by
  refine ⟨fun _ => rfl, fun _ => rfl, fun other => ?_⟩
  rw [Bool.eq_iff_iff, contains_fifos_setFifo]
  exact ⟨fun hor => hor.elim (fun heq => heq ▸ h) fun ho => ho, Or.inr⟩

/-! ## Nodes -/

/-- The path is that of a register. -/
def Holds (r : Registers) (path : NodePath) : Prop :=
  r.words.contains path = true ∨ r.blocks.contains path = true ∨ r.fifos.contains path = true

theorem anyBelow_iff {β : Type} {table : NodeTable β} :
    anyBelow path table = true ↔ ∃ other, table.contains other = true ∧ path.above other = true := by
  simp only [anyBelow, List.any_eq_true, Std.ExtTreeMap.mem_keys, Std.ExtTreeMap.contains_iff_mem]

/-- A node is a register or lies above one. -/
theorem hasNode_iff : r.hasNode path = true ↔ ∃ other, r.Holds other ∧ (other = path ∨ path.above other = true) := by
  simp only [hasNode, Bool.or_eq_true, anyBelow_iff, Holds]
  grind

/-- The names one part below a node are those with which the names of words go on there. -/
theorem mem_childNames {child : String} :
    child ∈ r.childNames path ↔ ∃ rest, r.words.contains ⟨path.parts ++ child :: rest⟩ = true := by
  have hbelow : ∀ word : NodePath, (path.partsBelow word).bind List.head? = some child ↔
      ∃ rest, word = ⟨path.parts ++ child :: rest⟩ := by
    intro word
    unfold NodePath.partsBelow
    constructor
    · intro h
      split_ifs at h with hpre
      · obtain ⟨rest, hrest⟩ := List.isPrefixOf_iff_prefix.mp hpre.1
        rw [← hrest, Option.bind_some, List.drop_left, List.head?_eq_some_iff] at h
        obtain ⟨more, rfl⟩ := h
        exact ⟨more, congrArg NodePath.mk hrest.symm⟩
      · cases h
    · rintro ⟨rest, rfl⟩
      simp
  simp only [childNames, Std.ExtTreeSet.mem_toList, Std.ExtTreeSet.mem_ofList, List.contains_iff_mem,
    List.mem_filterMap, Std.ExtTreeMap.mem_keys, hbelow, Std.ExtTreeMap.contains_iff_mem]
  constructor
  · rintro ⟨word, hword, rest, rfl⟩
    exact ⟨rest, hword⟩
  · rintro ⟨rest, hword⟩
    exact ⟨_, hword, rest, rfl⟩

/-! ## The registers of some endpoints -/

/-- The registers are those of the endpoints. -/
structure Laid (r : Registers) (endpoints : List UInt32) : Prop where
  words : ∀ path, r.words.contains path = true ↔ Among endpoints wordNodes path
  blocks : ∀ path, r.blocks.contains path = true ↔ Among endpoints blockNodes path
  fifos : ∀ path, r.fifos.contains path = true ↔ Among endpoints queueNodes path

theorem Laid.sameNodes (h : r.Laid endpoints) (hs : r.SameNodes r') : r'.Laid endpoints :=
  ⟨fun p => by rw [hs.words, h.words], fun p => by rw [hs.blocks, h.blocks], fun p => by rw [hs.fifos, h.fifos]⟩

namespace Laid

variable {rel : NodePath} (h : r.Laid endpoints)

include h

theorem contains_word (he : e ∈ endpoints) (hrel : rel ∈ wordNodes) : r.words.contains ((base e).join rel) = true :=
  (h.words _).mpr (among_join_base.mpr ⟨he, hrel⟩)

theorem contains_block (he : e ∈ endpoints) (hrel : rel ∈ blockNodes) : r.blocks.contains ((base e).join rel) = true :=
  (h.blocks _).mpr (among_join_base.mpr ⟨he, hrel⟩)

theorem contains_queue (he : e ∈ endpoints) (hrel : rel ∈ queueNodes) : r.fifos.contains ((base e).join rel) = true :=
  (h.fifos _).mpr (among_join_base.mpr ⟨he, hrel⟩)

/-- The blocks of an endpoint are not queues. -/
theorem fifo_eq_none (hrel : rel ∈ blockNodes) : r.fifos[(base e).join rel]? = none := by
  have hno : ¬ r.fifos.contains ((base e).join rel) = true := by
    rw [h.fifos, among_join_base]
    rintro ⟨-, hqueue⟩
    exact absurd hqueue ((by decide : ∀ rel ∈ blockNodes, rel ∉ queueNodes) rel hrel)
  rw [Std.ExtTreeMap.contains_eq_isSome_getElem?] at hno
  exact Option.not_isSome_iff_eq_none.mp hno

theorem holds_iff (path : NodePath) : r.Holds path ↔ Among endpoints nodes path := by
  simp only [Holds, h.words, h.blocks, h.fifos, Among, nodes, List.mem_append]
  grind

/-- **The endpoints are nodes**, and no other number names one. -/
theorem hasNode_base : r.hasNode (base e) = true ↔ e ∈ endpoints := by
  rw [hasNode_iff]
  constructor
  · rintro ⟨path, hpath, hnode⟩
    obtain ⟨f, hf, rel, hrel, rfl⟩ := (h.holds_iff path).mp hpath
    have hparts : rel.parts ≠ [] := nodes_ne_nil rel hrel
    rcases hnode with hself | habove
    · rw [join_base] at hself
      exact absurd (List.tail_eq_of_cons_eq (congrArg NodePath.parts hself)) hparts
    · exact (above_base_iff hparts).mp habove ▸ hf
  · intro he
    exact ⟨(base e).join version, Or.inl (h.contains_word he (by decide)), Or.inr (above_join_base e (by decide))⟩

/-- **A search by text** for names that start with that of an endpoint and a dot finds registers of just that
endpoint. -/
theorem found_by_text :
    (∃ path, r.Holds path ∧ (name e).toList ++ ['.'] <+: path.toString.toList) ↔ e ∈ endpoints := by
  have htext : ∀ {f rel}, rel ∈ nodes →
      ((name e).toList ++ ['.'] <+: ((base f).join rel).toString.toList ↔ e = f) := by
    intro f rel hrel
    rw [← toString_base, ← NodePath.above_iff_text (by simp [base]) (dotFree_base e)
      (dotFree_join_base (dotFree_nodes rel hrel)), above_base_iff (nodes_ne_nil rel hrel)]
  constructor
  · rintro ⟨path, hpath, hprefix⟩
    obtain ⟨f, hf, rel, hrel, rfl⟩ := (h.holds_iff path).mp hpath
    exact (htext hrel).mp hprefix ▸ hf
  · intro he
    exact ⟨(base e).join version, Or.inl (h.contains_word he (by decide)), (htext (by decide)).mpr rfl⟩

/-- The words of a group lie directly below its node. -/
theorem length_of_above_group {group word : NodePath} (hgroup : group ∈ groupNodes)
    (hword : r.words.contains word = true) (habove : ((base e).join group).above word = true) :
    word.parts.length = ((base e).join group).parts.length + 1 := by
  have hflat : ∀ group ∈ groupNodes, ∀ rel ∈ wordNodes, group.parts <+: rel.parts →
      rel.parts.length = group.parts.length + 1 := by decide
  obtain ⟨f, hf, rel, hrel, rfl⟩ := (h.words _).mp hword
  rw [NodePath.above_iff_prefix, join_base, join_base] at habove
  have hlength := hflat group hgroup rel hrel (List.cons_prefix_cons.mp habove.1).2
  rw [join_base, join_base, List.length_cons, List.length_cons, hlength]

end Laid

/-! ## Registers that come with an endpoint -/

theorem contains_words_setFlags (r : Registers) (node : NodePath) (names : List String) (value : UInt32) (path : NodePath) :
    (r.setFlags node names value).words.contains path = true ↔
      (∃ name ∈ names, node.child name = path) ∨ r.words.contains path = true := by
  induction names generalizing r with
  | nil => simp [setFlags]
  | cons name names ih =>
    show ((r.setWord (node.child name) value).setFlags node names value).words.contains path = true ↔ _
    rw [ih, contains_words_setWord]
    simp [or_assoc, or_left_comm]

theorem blocks_setFlags (r : Registers) (node : NodePath) (names : List String) (value : UInt32) :
    (r.setFlags node names value).blocks = r.blocks := by
  induction names generalizing r with
  | nil => rfl
  | cons name names ih => exact ih (r.setWord (node.child name) value)

theorem contains_words_addEndpoint (r : Registers) (e : UInt32) (path : NodePath) :
    (Device.addEndpoint r e).words.contains path = true ↔
      (∃ rel ∈ wordNodes, (base e).join rel = path) ∨ r.words.contains path = true := by
  simp only [Device.addEndpoint, words_setFifo, words_setBlock, contains_words_setWord, contains_words_setFlags,
    child_join_base, wordNodes, List.mem_append, List.mem_cons, List.mem_map, List.not_mem_nil, or_false]
  grind

theorem contains_blocks_addEndpoint (r : Registers) (e : UInt32) (path : NodePath) :
    (Device.addEndpoint r e).blocks.contains path = true ↔
      (∃ rel ∈ blockNodes, (base e).join rel = path) ∨ r.blocks.contains path = true := by
  have hblocks : ∀ (r : Registers) (node : NodePath) (value : UInt32), (r.setWord node value).blocks = r.blocks :=
    fun _ _ _ => rfl
  have hfifo : ∀ (r : Registers) (node : NodePath) (values : List UInt32), (r.setFifo node values).blocks = r.blocks :=
    fun _ _ _ => rfl
  simp only [Device.addEndpoint, hfifo, hblocks, contains_blocks_setBlock, blocks_setFlags, blockNodes, List.mem_cons,
    List.not_mem_nil, or_false]
  grind

theorem contains_fifos_addEndpoint (r : Registers) (e : UInt32) (path : NodePath) :
    (Device.addEndpoint r e).fifos.contains path = true ↔
      (∃ rel ∈ queueNodes, (base e).join rel = path) ∨ r.fifos.contains path = true := by
  simp only [Device.addEndpoint, contains_fifos_setFifo, fifos_setBlock, fifos_setWord, fifos_setFlags, queueNodes,
    List.mem_singleton, exists_eq_left]

theorem Laid.addEndpoint (h : r.Laid endpoints) (e : UInt32) : (Device.addEndpoint r e).Laid (e :: endpoints) :=
  ⟨fun p => by rw [contains_words_addEndpoint, h.words, among_cons],
    fun p => by rw [contains_blocks_addEndpoint, h.blocks, among_cons],
    fun p => by rw [contains_fifos_addEndpoint, h.fifos, among_cons]⟩

/-- The order and the repetitions of the endpoints do not matter. -/
theorem Laid.congr {fs : List UInt32} (h : r.Laid endpoints) (hmem : ∀ e, e ∈ fs ↔ e ∈ endpoints) : r.Laid fs := by
  have hamong : ∀ rels path, Among fs rels path ↔ Among endpoints rels path := fun rels path => by
    simp only [Among, hmem]
  exact ⟨fun p => by rw [hamong, h.words], fun p => by rw [hamong, h.blocks], fun p => by rw [hamong, h.fifos]⟩

end Registers

namespace Device

open Registers

/-- **An endpoint device has the registers of its endpoints** and no others. -/
theorem laid_endpoint (id : String) (endpoints : List UInt32) : (endpoint id endpoints).registers.Laid endpoints := by
  have hall : ∀ (r : Registers) (before : List UInt32), r.Laid before →
      (endpoints.foldl addEndpoint r).Laid (before ++ endpoints) := by
    induction endpoints with
    | nil =>
      intro r before h
      rw [List.append_nil]
      exact h
    | cons e endpoints ih =>
      intro r before h
      refine (ih (addEndpoint r e) (e :: before) (h.addEndpoint e)).congr fun f => ?_
      simp [or_left_comm]
  refine hall {} [] ⟨fun path => ?_, fun path => ?_, fun path => ?_⟩
  all_goals simp [Among]

end Device

/-! ## Devices that have been prepared -/

/-- What can be set on an endpoint before its device is used. -/
inductive EndpointSetting where
  | version (value : UInt32)
  | eventCounter (count : UInt32)
  | timestamp (ticks : UInt64)
  | counters (values : List UInt32)
  | buffer (words : List UInt32)
  | state (code : UInt32)
  | word (rel : NodePath) (value : UInt32)
  deriving DecidableEq, Repr

namespace EndpointSetting

/-- Sets it on endpoint `e`. -/
def apply (d : Device) (e : UInt32) : EndpointSetting → Device
  | .version value => d.withVersion e value
  | .eventCounter count => d.withEventCounter e count
  | .timestamp ticks => d.withTimestamp e ticks
  | .counters values => d.withCounters e values
  | .buffer words => d.withBuffer e words
  | .state code => d.withState e code
  | .word rel value => d.withWord ((base e).join rel) value

/-- The setting is one of a register that endpoints have. -/
def Fits : EndpointSetting → Prop
  | .word rel _ => rel ∈ wordNodes
  | _ => True

/-- A setting changes registers only. -/
theorem apply_eq (d : Device) (e : UInt32) (c : EndpointSetting) :
    c.apply d e = { d with registers := (c.apply d e).registers } := by
  cases c <;> rfl

theorem sameNodes_apply {d : Device} {e : UInt32} {endpoints : List UInt32} (h : d.registers.Laid endpoints)
    (he : e ∈ endpoints) {c : EndpointSetting} (hc : c.Fits) :
    d.registers.SameNodes (c.apply d e).registers := by
  cases c with
  | version value => exact Registers.sameNodes_setWord (h.contains_word he (by decide)) value
  | eventCounter count => exact Registers.sameNodes_setWord (h.contains_word he (by decide)) count
  | timestamp ticks => exact Registers.sameNodes_setBlock (h.contains_block he (by decide)) _
  | counters values => exact Registers.sameNodes_setBlock (h.contains_block he (by decide)) _
  | buffer words =>
    have hqueue := Registers.sameNodes_setFifo (h.contains_queue he (by decide : bufferData ∈ queueNodes)) words
    exact hqueue.trans (Registers.sameNodes_setWord ((h.sameNodes hqueue).contains_word he (by decide)) _)
  | state code => exact Registers.sameNodes_setWord (h.contains_word he (by decide)) code
  | word rel value => exact Registers.sameNodes_setWord (h.contains_word he hc) value

end EndpointSetting

namespace Device

/-- The device after some settings. -/
def prepared (d : Device) (settings : List (UInt32 × EndpointSetting)) : Device :=
  settings.foldl (fun d c => c.2.apply d c.1) d

variable {settings : List (UInt32 × EndpointSetting)}

theorem prepared_eq (d : Device) (settings : List (UInt32 × EndpointSetting)) :
    d.prepared settings = { d with registers := (d.prepared settings).registers } := by
  induction settings generalizing d with
  | nil => rfl
  | cons c settings ih =>
    have hfirst := c.2.apply_eq d c.1
    have hrest := ih (c.2.apply d c.1)
    rw [hfirst] at hrest
    show (c.2.apply d c.1).prepared settings = { d with registers := ((c.2.apply d c.1).prepared settings).registers }
    rw [hfirst]
    exact hrest

/-- **Settings add no registers.** -/
theorem laid_prepared {d : Device} {endpoints : List UInt32} (h : d.registers.Laid endpoints)
    (hsettings : ∀ c ∈ settings, c.1 ∈ endpoints ∧ c.2.Fits) : (d.prepared settings).registers.Laid endpoints := by
  induction settings generalizing d with
  | nil => exact h
  | cons c settings ih =>
    obtain ⟨he, hc⟩ := hsettings c List.mem_cons_self
    refine ih (d := c.2.apply d c.1) ?_ fun c' hc' => hsettings c' (List.mem_cons_of_mem c hc')
    exact h.sameNodes (EndpointSetting.sameNodes_apply h he hc)

end Device

end TimingFleet
