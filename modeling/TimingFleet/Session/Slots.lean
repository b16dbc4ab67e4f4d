import Std.Data.ExtTreeMap
import TimingFleet.Register.Path

/-!
# Handles and the slots behind them

A read gives a handle at once and its value later.  The value goes into a slot, so all copies of a
handle show the same.  Main statements: a fresh slot is empty, filling a slot shows in that slot and in
no other.
-/

namespace TimingFleet

/-- Stands for the value of a word read. -/
structure WordHandle where
  path : NodePath
  slot : Nat
  deriving DecidableEq, Repr

/-- Stands for the values of a block read. -/
structure BlockHandle where
  path : NodePath
  slot : Nat
  deriving DecidableEq, Repr

/-- The values behind the handles; slots from `next` on have not been given out. -/
structure Slots where
  next : Nat := 0
  words : Std.ExtTreeMap Nat UInt32 compare := ∅
  blocks : Std.ExtTreeMap Nat (List UInt32) compare := ∅

namespace Slots

/-- Gives out a slot. -/
def bump (s : Slots) : Slots := { s with next := s.next + 1 }

/-- A new word handle; its slot is `s.next`. -/
def wordHandle (s : Slots) (path : NodePath) : WordHandle := ⟨path, s.next⟩

/-- A new block handle; its slot is `s.next`. -/
def blockHandle (s : Slots) (path : NodePath) : BlockHandle := ⟨path, s.next⟩

/-- Puts a value behind a word handle. -/
def fillWord (s : Slots) (h : WordHandle) (value : UInt32) : Slots :=
  { s with words := s.words.insert h.slot value }

/-- Puts values behind a block handle. -/
def fillBlock (s : Slots) (h : BlockHandle) (values : List UInt32) : Slots :=
  { s with blocks := s.blocks.insert h.slot values }

/-- The value behind a word handle, once it is there. -/
def word? (s : Slots) (h : WordHandle) : Option UInt32 := s.words[h.slot]?

/-- The values behind a block handle, once they are there. -/
def block? (s : Slots) (h : BlockHandle) : Option (List UInt32) := s.blocks[h.slot]?

@[simp] theorem word?_fillWord (s : Slots) (h k : WordHandle) (value : UInt32) :
    (s.fillWord h value).word? k = if h.slot = k.slot then some value else s.word? k := by
  simp [word?, fillWord, Std.ExtTreeMap.getElem?_insert]

@[simp] theorem block?_fillBlock (s : Slots) (h k : BlockHandle) (values : List UInt32) :
    (s.fillBlock h values).block? k = if h.slot = k.slot then some values else s.block? k := by
  simp [block?, fillBlock, Std.ExtTreeMap.getElem?_insert]

end Slots

end TimingFleet
