import TimingFleet.Proofs.Board.Operations
import TimingFleet.Proofs.Device.Reactions
import TimingFleet.Proofs.Session.Fetching

/-!
# What a board reports

Identity, status flags, PLL flags and time stamp are read in one batch each.  The reports are those of the registers at
that moment (`Device.identity`, `Device.dump`, `Device.pllReport`, `Device.timestamp`), and the device is as before,
whether the dispatch is served or refused.  The groups of flags may have more words than boards come up with, as long as
they have words only.
-/

namespace TimingFleet

open Procedure

/-! ## Groups of flags -/

namespace BoardNode

/-- The groups of flags that a board reports. -/
def groupNodes : List NodePath := [status, pllStatus, pllSticky]

theorem groupNodes_ne_root : ∀ group ∈ groupNodes, group ≠ .root := by decide

end BoardNode

/-- The flags with which a board comes up lie directly below the nodes of their groups, and no group is without. -/
theorem BoardRole.flags_of_group (role : BoardRole) : ∀ group ∈ BoardNode.groupNodes,
    (∀ word ∈ role.wordNodes, group.above word = true → word.parts.length = group.parts.length + 1) ∧
      ∃ word ∈ role.wordNodes, group.above word = true := by
  cases role <;> decide

theorem BoardRole.length_of_above_group (role : BoardRole) {group word : NodePath}
    (hgroup : group ∈ BoardNode.groupNodes) (hword : role.registers.words.contains word = true)
    (habove : group.above word = true) : word.parts.length = group.parts.length + 1 :=
  (role.flags_of_group group hgroup).1 word (role.contains_words.mp hword) habove

theorem Device.Plays.hasNode_group {d : Device} {role : BoardRole} (h : d.Plays role) {group : NodePath}
    (hgroup : group ∈ BoardNode.groupNodes) : d.registers.hasNode group = true := by
  obtain ⟨word, hword, habove⟩ := (role.flags_of_group group hgroup).2
  exact Registers.hasNode_iff.mpr ⟨word, Or.inl (h.word hword), Or.inr habove⟩

/-! ## Reports as functions of the registers -/

namespace Device

/-- The codes of a board. -/
def identity (d : Device) : BoardIdentity where
  boardType := (d.word? BoardNode.boardType).getD 0
  carrierType := (d.word? BoardNode.carrierType).getD 0
  designType := (d.word? BoardNode.designType).getD 0
  version := (d.word? BoardNode.version).getD 0

/-- What the PLL of a board shows. -/
def pllReport (d : Device) : PllReport where
  designId := DesignId.decode (resize designIdWords ((d.block? BoardNode.pllDesignId).getD []))
  status := d.dump BoardNode.pllStatus
  sticky := d.dump BoardNode.pllSticky

end Device

/-! ## Reading them -/

namespace Board

variable {b : Board} {s : Session} {d : Device} {role : BoardRole} {group : NodePath}

theorem queueing_flags (h : d.Plays role) (hgroup : group ∈ BoardNode.groupNodes) (hflat : d.registers.FlatAt group) :
    Queueing d (RegisterGroup.read group) fun handles u => u.Yields (RegisterGroup.collect handles) (d.dump group) :=
  queueing_group (h.hasNode_group hgroup) hflat

/-- **The identity** is that of the moment, for a board in either role. -/
theorem readsOut_identify (hs : s.Clear) (h : s.device.Plays role) :
    s.ReadsOut s b.identify s.device.identity := by
  have hread : ∀ path ∈ role.wordNodes,
      Queueing s.device (read path) fun handle u => u.Yields (wordValue handle) ((s.device.word? path).getD 0) :=
    fun path hp => queueing_read (Device.word?_of_contains (h.word hp))
  unfold identify
  refine hs.gathers.readsOut_bind (hread _ (by cases role <;> decide)) fun version t₁ h₁ => ?_
  refine h₁.readsOut_bind (hread _ (by cases role <;> decide)) fun boardType t₂ h₂ => ?_
  refine h₂.readsOut_bind (hread _ (by cases role <;> decide)) fun carrierType t₃ h₃ => ?_
  refine h₃.readsOut_bind (hread _ (by cases role <;> decide)) fun designType t₄ h₄ => ?_
  refine h₄.readsOut_dispatch fun u ⟨⟨⟨⟨_, hversion⟩, hboard⟩, hcarrier⟩, hdesign⟩ => ?_
  refine hboard.bind (hcarrier.bind (hdesign.bind (hversion.bind ?_)))
  dsimp only
  -- the design code decides whether there is a warning, which changes nothing
  split_ifs
  · exact (u.yields_log _ _).bind ((u.yields_log _ _).bind (u.yields_pure _))
  · exact (u.yields_log _ _).bind (u.yields_pure _)

/-- **Status flags** are those of the moment. -/
theorem readsOut_status (hs : s.Clear) (h : s.device.Plays role) (hflat : s.device.registers.FlatAt BoardNode.status) :
    s.ReadsOut s b.status (s.device.dump BoardNode.status) :=
  hs.gathers.readsOut_bind (queueing_flags h (by decide) hflat) fun _ _ ht => ht.readsOut_dispatch fun _ hu => hu.2

/-- **The PLL** is reported as at the moment. -/
theorem readsOut_pllStatus (hs : s.Clear) (h : s.device.Plays role)
    (hflat : ∀ group ∈ BoardNode.groupNodes, s.device.registers.FlatAt group) :
    s.ReadsOut s b.pllStatus s.device.pllReport := by
  have hid : BoardNode.pllDesignId ∈ role.blockNodes := by
    cases role <;> decide
  have hdesign : Queueing s.device (readBlock BoardNode.pllDesignId designIdWords) fun handle u =>
      u.Yields (blockValue handle)
        (Device.resize designIdWords ((s.device.block? BoardNode.pllDesignId).getD [])) :=
    queueing_readBlock (h.block hid) (h.fifo_eq_none (role.contains_blocks.mpr hid))
  have hgroup : ∀ group ∈ BoardNode.groupNodes, Queueing s.device (RegisterGroup.read group) fun handles u =>
      u.Yields (RegisterGroup.collect handles) (s.device.dump group) :=
    fun group hmem => queueing_flags h hmem (hflat group hmem)
  unfold pllStatus
  refine hs.gathers.readsOut_bind hdesign fun designId t₁ h₁ => ?_
  refine h₁.readsOut_bind (hgroup _ (by decide)) fun status t₂ h₂ => ?_
  refine h₂.readsOut_bind (hgroup _ (by decide)) fun sticky t₃ h₃ => ?_
  refine h₃.readsOut_dispatch fun u ⟨⟨⟨_, hdesignId⟩, hstatus⟩, hsticky⟩ => ?_
  exact hdesignId.bind (hstatus.bind (hsticky.bind (u.yields_pure _)))

/-- **The time stamp** of an overlord is that of the moment. -/
theorem readsOut_readTimestamp (hb : b.role = .overlord) (hs : s.Clear) (h : s.device.Plays .overlord) :
    s.ReadsOut s b.readTimestamp s.device.timestamp := by
  have hblock := (BoardRole.contains_blocks .overlord).mpr (by decide : MasterNode.timestamp ∈ _)
  have hrequire : Queueing s.device (b.require .overlord "timestamp read") fun _ _ => True := by
    rw [require, if_pos hb]
    exact queueing_pure fun _ => trivial
  unfold readTimestamp
  refine hs.gathers.readsOut_bind hrequire fun _ t₁ h₁ => ?_
  refine h₁.readsOut_bind (queueing_readBlock (h.blocks _ hblock) (h.fifo_eq_none hblock)) fun words t₂ h₂ => ?_
  refine h₂.readsOut_dispatch fun u hu => ?_
  rw [Device.timestamp, ← Ticks.ofWords_resize]
  exact hu.2.map Ticks.ofWords

end Board

end TimingFleet
