namespace StructuralProducts

/-!
# Names

A name stands for an interned string.  It is one 32-bit word: the upper four
bits give the shard of the interner that holds the string and the lower
twenty-eight bits give the slot inside that shard.  A name means something only
together with the interner that issued it; two interners may issue the same word
for different strings.
-/

/-- A reference to an interned string. -/
structure Name where
  raw : UInt32
  deriving DecidableEq, Inhabited

namespace Name

/-- The number of slots that twenty-eight bits can address. -/
def slotCount : Nat := 0x10000000

/-- The largest slot of a shard. -/
def lastSlot : Nat := slotCount - 1

/-- The name of the empty string in every interner. -/
def empty : Name := ⟨0⟩

/-- The upper four bits. -/
def shard (name : Name) : Fin 16 :=
  ⟨name.raw.toNat / slotCount, by
    have bound := name.raw.toNat_lt
    unfold slotCount
    omega⟩

/-- The lower twenty-eight bits. -/
def slot (name : Name) : Nat :=
  name.raw.toNat % slotCount

/-- Pack a shard and a slot into one word. -/
def ofParts (shard : Fin 16) (slot : Nat) : Name :=
  ⟨UInt32.ofNat (shard.val * slotCount + slot)⟩

/-- Names are ordered by their words. -/
def precedes (first second : Name) : Bool :=
  first.raw < second.raw

/-- The order of two names as a three-way comparison. -/
def order (first second : Name) : Ordering :=
  compare first.raw.toNat second.raw.toNat

/-- The one-line form for inspection. -/
def inspect (name : Name) : String :=
  s!"Name({name.shard.val}:{name.slot})"

private theorem raw_ofParts (shard : Fin 16) {slot : Nat} (bound : slot < slotCount) :
    (ofParts shard slot).raw.toNat = shard.val * slotCount + slot := by
  have := shard.isLt
  unfold slotCount at bound
  simp only [ofParts, slotCount, UInt32.toNat_ofNat']
  omega

/-- Packing keeps the shard. -/
theorem shard_ofParts (shard : Fin 16) {slot : Nat} (bound : slot < slotCount) :
    (ofParts shard slot).shard = shard := by
  apply Fin.ext
  have packed := raw_ofParts shard bound
  unfold slotCount at bound packed
  simp only [Name.shard, slotCount, packed]
  omega

/-- Packing keeps the slot. -/
theorem slot_ofParts (shard : Fin 16) {slot : Nat} (bound : slot < slotCount) :
    (ofParts shard slot).slot = slot := by
  have packed := raw_ofParts shard bound
  unfold slotCount at bound packed
  simp only [Name.slot, slotCount, packed]
  omega

end Name
end StructuralProducts
