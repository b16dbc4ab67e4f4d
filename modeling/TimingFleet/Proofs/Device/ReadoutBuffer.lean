import TimingFleet.Proofs.Register.EndpointNode
import TimingFleet.Proofs.Session.Effects

/-!
# Readout buffers

The readout buffer of an endpoint is a queue of words with an occupancy register beside it.

* `Registers.buffer r e`: the words in the buffer of endpoint `e`.
* `Registers.HasBuffer r e`: the buffer is there, and its occupancy register tells how many words it holds.

Taking words out of one buffer shortens it at the front and leaves all others as they are (`buffer_takeOut`,
`hasBuffer_takeOut`).  An endpoint device comes up with a buffer for each of its endpoints (`hasBuffer_withBuffers`).
-/

namespace TimingFleet

namespace EndpointNode

/-- The node of an endpoint that words are taken from. -/
def data (id : UInt32) : NodePath := (base id).join bufferData

/-- The node of an endpoint that tells the occupancy of its buffer. -/
def count (id : UInt32) : NodePath := (base id).join bufferCount

theorem data_inj {m n : UInt32} : data m = data n ↔ m = n := by simp [data, join_base_inj]

theorem count_inj {m n : UInt32} : count m = count n ↔ m = n := by simp [count, join_base_inj]

end EndpointNode

open EndpointNode

theorem wordsToRead_le (available : Nat) (mode : ReadoutMode) : wordsToRead available mode ≤ available := by
  cases mode with
  | everything => exact Nat.le_refl _
  | completeEvents => exact Nat.div_mul_le_self available wordsPerEvent

namespace Registers

variable {r : Registers} {e f : UInt32} {path : NodePath}

/-- The words in the readout buffer of endpoint `e`. -/
def buffer (r : Registers) (e : UInt32) : List UInt32 := (r.fifos[data e]?).getD []

/-- Endpoint `e` has a readout buffer, and its occupancy register tells how many words it holds. -/
structure HasBuffer (r : Registers) (e : UInt32) : Prop where
  queue : r.fifos[data e]? = some (r.buffer e)
  count : r.words[count e]? = some (UInt32.ofNat (r.buffer e).length)
  short : (r.buffer e).length < UInt32.size

theorem HasBuffer.of_eq {r' : Registers} (h : r.HasBuffer e) (hq : r'.fifos[data e]? = r.fifos[data e]?)
    (hc : r'.words[EndpointNode.count e]? = r.words[EndpointNode.count e]?) :
    r'.HasBuffer e ∧ r'.buffer e = r.buffer e := by
  have hbuffer : r'.buffer e = r.buffer e := by rw [buffer, hq, ← buffer]
  refine ⟨⟨?_, ?_, ?_⟩, hbuffer⟩
  · rw [hq, hbuffer]
    exact h.queue
  · rw [hc, hbuffer]
    exact h.count
  · rw [hbuffer]
    exact h.short

theorem HasBuffer.toNat_count (h : r.HasBuffer e) : (UInt32.ofNat (r.buffer e).length).toNat = (r.buffer e).length :=
  UInt32.toNat_ofNat_of_lt' h.short

/-- What is left of a buffer can be counted, too. -/
theorem HasBuffer.length_drop_lt (h : r.HasBuffer e) (n : Nat) : ((r.buffer e).drop n).length < UInt32.size := by
  rw [List.length_drop]
  exact Nat.lt_of_le_of_lt (Nat.sub_le _ n) h.short

/-- Puts words into the buffer of an endpoint. -/
def setBuffer (r : Registers) (e : UInt32) (words : List UInt32) : Registers :=
  (r.setFifo (data e) words).setWord (EndpointNode.count e) (UInt32.ofNat words.length)

theorem getElem?_fifos_setBuffer (r : Registers) (e : UInt32) (words : List UInt32) (path : NodePath) :
    (r.setBuffer e words).fifos[path]? = if data e = path then some words else r.fifos[path]? :=
  getElem?_fifos_setFifo r (data e) path words

theorem getElem?_words_setBuffer (r : Registers) (e : UInt32) (words : List UInt32) (path : NodePath) :
    (r.setBuffer e words).words[path]? =
      if EndpointNode.count e = path then some (UInt32.ofNat words.length) else r.words[path]? :=
  getElem?_words_setWord (r.setFifo (data e) words) _ path _

theorem buffer_setBuffer (r : Registers) (e : UInt32) (words : List UInt32) (f : UInt32) :
    (r.setBuffer e words).buffer f = if f = e then words else r.buffer f := by
  rw [buffer, getElem?_fifos_setBuffer]
  by_cases hf : f = e
  · rw [if_pos (data_inj.mpr hf.symm), if_pos hf]
    rfl
  · rw [if_neg fun hdata => hf (data_inj.mp hdata).symm, if_neg hf]
    rfl

theorem hasBuffer_setBuffer (r : Registers) {words : List UInt32} (h : words.length < UInt32.size) :
    (r.setBuffer e words).HasBuffer e := by
  have hbuffer : (r.setBuffer e words).buffer e = words := by rw [buffer_setBuffer, if_pos rfl]
  refine ⟨?_, ?_, ?_⟩
  · rw [getElem?_fifos_setBuffer, if_pos rfl, hbuffer]
  · rw [getElem?_words_setBuffer, if_pos rfl, hbuffer]
  · rwa [hbuffer]

theorem HasBuffer.setBuffer {words : List UInt32} (hf : r.HasBuffer f) (h : words.length < UInt32.size) :
    (r.setBuffer e words).HasBuffer f := by
  by_cases hef : e = f
  · subst hef
    exact hasBuffer_setBuffer r h
  · refine (hf.of_eq ?_ ?_).1
    · rw [getElem?_fifos_setBuffer, if_neg fun hdata => hef (data_inj.mp hdata)]
    · rw [getElem?_words_setBuffer, if_neg fun hcount => hef (count_inj.mp hcount)]

theorem fifos_setFlags (r : Registers) (base : NodePath) (names : List String) (value : UInt32) :
    (r.setFlags base names value).fifos = r.fifos := by
  induction names generalizing r with
  | nil => rfl
  | cons name names ih => exact ih (r.setWord (base.child name) value)

theorem getElem?_words_setFlags {base : NodePath} {names : List String} {value : UInt32}
    (h : ∀ name ∈ names, base.child name ≠ path) : (r.setFlags base names value).words[path]? = r.words[path]? := by
  induction names generalizing r with
  | nil => rfl
  | cons name names ih =>
    have hname : base.child name ≠ path := h name List.mem_cons_self
    have hrest := ih (r := r.setWord (base.child name) value) fun n hn => h n (List.mem_cons_of_mem name hn)
    rw [getElem?_words_setWord, if_neg hname] at hrest
    exact hrest

/-! ## Registers that an endpoint comes with -/

theorem hasBuffer_addEndpoint (r : Registers) (e : UInt32) : (Device.addEndpoint r e).HasBuffer e := by
  have hqueue : (Device.addEndpoint r e).fifos[data e]? = some [] := by
    simp [Device.addEndpoint, data]
  have hcount : (Device.addEndpoint r e).words[EndpointNode.count e]? = some 0 := by
    -- the occupancy register is the last word that is set
    exact (getElem?_words_setWord _ _ _ _).trans (if_pos rfl)
  have hbuffer : (Device.addEndpoint r e).buffer e = [] := by rw [buffer, hqueue]; rfl
  exact ⟨by rw [hqueue, hbuffer], by rw [hcount, hbuffer]; rfl, by rw [hbuffer]; decide⟩

/-- A new endpoint adds nodes below its own only. -/
theorem addEndpoint_elsewhere (r : Registers) (path : NodePath) (h : ∀ rel, (base e).join rel ≠ path) :
    (Device.addEndpoint r e).words[path]? = r.words[path]? ∧
      (Device.addEndpoint r e).fifos[path]? = r.fifos[path]? := by
  have hflag : ∀ rel name, ((base e).join rel).child name ≠ path := fun rel name => by
    rw [child_join_base]
    exact h _
  constructor
  · simp only [Device.addEndpoint, words_setFifo, words_setBlock]
    rw [getElem?_words_setWord, if_neg (h bufferCount), getElem?_words_setWord, if_neg (h eventCounter),
      getElem?_words_setFlags fun name _ => hflag status name, getElem?_words_setFlags fun name _ => hflag control name,
      getElem?_words_setWord, if_neg (h version)]
  · simp only [Device.addEndpoint, getElem?_fifos_setFifo, if_neg (h bufferData), fifos_setBlock, fifos_setWord,
      fifos_setFlags]

theorem HasBuffer.addEndpoint (hf : r.HasBuffer f) (e : UInt32) : (Device.addEndpoint r e).HasBuffer f := by
  by_cases hef : e = f
  · subst hef
    exact hasBuffer_addEndpoint r e
  · obtain ⟨hcount, -⟩ := addEndpoint_elsewhere r (e := e) (EndpointNode.count f) fun rel hrel =>
      hef (join_base_inj.mp hrel).1
    obtain ⟨-, hqueue⟩ := addEndpoint_elsewhere r (e := e) (data f) fun rel hrel =>
      hef (join_base_inj.mp hrel).1
    exact (hf.of_eq hqueue hcount).1

end Registers

/-! ## Taking words out -/

namespace Device

open Registers

variable {d : Device} {e f : UInt32} {words : List UInt32}

/-- Taking words out changes the queue and its occupancy register. -/
theorem takeOut_data (h : d.registers.fifos[data e]? = some words) (n : Nat) :
    d.takeOut (data e) n = { d with registers := d.registers.setBuffer e (words.drop n) } := by
  have hbase : NodePath.beforeSuffix bufferData (data e) = some (base e) := beforeSuffix_join_base e bufferData
  unfold takeOut
  simp only [h, hbase]
  rw [setBuffer, List.length_drop]
  rfl

theorem registers_takeOut (h : d.registers.HasBuffer e) (n : Nat) :
    (d.takeOut (data e) n).registers = d.registers.setBuffer e ((d.registers.buffer e).drop n) := by
  rw [takeOut_data h.queue]

/-- **Taking words out** shortens one buffer at the front. -/
theorem buffer_takeOut (h : d.registers.HasBuffer e) (n : Nat) (f : UInt32) :
    (d.takeOut (data e) n).registers.buffer f =
      if f = e then (d.registers.buffer e).drop n else d.registers.buffer f := by
  rw [registers_takeOut h, buffer_setBuffer]

theorem hasBuffer_takeOut (he : d.registers.HasBuffer e) (n : Nat) (hf : d.registers.HasBuffer f) :
    (d.takeOut (data e) n).registers.HasBuffer f := by
  rw [registers_takeOut he]
  exact hf.setBuffer (he.length_drop_lt n)

theorem contents_data (h : d.registers.HasBuffer e) (n : Nat) :
    d.contents (data e) n = (d.registers.buffer e).take n := by
  unfold contents
  simp only [h.queue]

theorem isBlock_data (h : d.registers.HasBuffer e) : d.registers.isBlock (data e) = true := by
  have hqueue : d.registers.fifos.contains (data e) = true := by
    rw [Std.ExtTreeMap.contains_eq_isSome_getElem?, h.queue]
    rfl
  rw [isBlock, hqueue, Bool.or_true]

theorem contains_count (h : d.registers.HasBuffer e) : d.registers.words.contains (count e) = true := by
  rw [Std.ExtTreeMap.contains_eq_isSome_getElem?, h.count]
  rfl

theorem hasNode_base (h : d.registers.HasBuffer e) : d.registers.hasNode (base e) = true := by
  have hkey : count e ∈ d.registers.words.keys := by
    rw [Std.ExtTreeMap.mem_keys]
    exact contains_count h
  have hbelow : anyBelow (base e) d.registers.words = true :=
    List.any_eq_true.mpr ⟨count e, hkey, above_join_base e (by decide)⟩
  simp [hasNode, hbelow]

/-! ## Devices with filled buffers -/

/-- The device with words in the buffers of some endpoints. -/
def withBuffers (d : Device) (buffers : List (UInt32 × List UInt32)) : Device :=
  buffers.foldl (fun d b => d.withBuffer b.1 b.2) d

/-- What each new endpoint has and keeps while others are added, the endpoints of a new device have. -/
theorem endpoint_has {P : Registers → UInt32 → Prop} (hnew : ∀ r e, P (addEndpoint r e) e)
    (hkept : ∀ r e f, P r f → P (addEndpoint r e) f) (id : String) {endpoints : List UInt32} (h : e ∈ endpoints) :
    P (endpoint id endpoints).registers e := by
  have hall : ∀ r : Registers, e ∈ endpoints ∨ P r e → P (endpoints.foldl addEndpoint r) e := by
    clear h
    induction endpoints with
    | nil => exact fun r h => h.resolve_left List.not_mem_nil
    | cons n endpoints ih =>
      intro r h
      refine ih (addEndpoint r n) ?_
      rcases h with h | h
      · rcases List.mem_cons.mp h with rfl | h
        · exact Or.inr (hnew r e)
        · exact Or.inl h
      · exact Or.inr (hkept r n e h)
  exact hall {} (Or.inl h)

theorem hasBuffer_endpoint (id : String) {endpoints : List UInt32} (h : e ∈ endpoints) :
    (endpoint id endpoints).registers.HasBuffer e :=
  endpoint_has hasBuffer_addEndpoint (fun _ e _ hf => hf.addEndpoint e) id h

/-- **Every endpoint of a new device**, and every endpoint whose buffer has been filled, has a buffer. -/
theorem hasBuffer_withBuffers {buffers : List (UInt32 × List UInt32)}
    (hshort : ∀ b ∈ buffers, b.2.length < UInt32.size)
    (h : e ∈ buffers.map Prod.fst ∨ d.registers.HasBuffer e) : (d.withBuffers buffers).registers.HasBuffer e := by
  induction buffers generalizing d with
  | nil => exact h.resolve_left List.not_mem_nil
  | cons b buffers ih =>
    have hb : b.2.length < UInt32.size := hshort b List.mem_cons_self
    refine ih (d := d.withBuffer b.1 b.2) (fun c hc => hshort c (List.mem_cons_of_mem b hc)) ?_
    rcases h with h | h
    · rcases List.mem_cons.mp h with rfl | h
      · exact Or.inr (hasBuffer_setBuffer d.registers hb)
      · exact Or.inl h
    · exact Or.inr (h.setBuffer hb)

end Device

end TimingFleet
