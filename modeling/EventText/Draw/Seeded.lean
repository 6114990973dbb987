import EventText.Draw.Basic
import EventText.Draw.ChaCha

/-!
A source that a seed determines. The seed is stretched to a key by a congruential generator with a
permuted output; the key's ChaCha stream is cut into numbers of 64 bits, and an index is the high
half of a number times the count, where numbers that would favour some indices are passed over.
-/

namespace EventText

def keyWords : Nat → UInt64 → List UInt32
  | 0, _ => []
  | n + 1, state =>
    let state := state * 6364136223846793005 + 11634580027462260723
    let word := (((state >>> 18) ^^^ state) >>> 27).toUInt32
    let places := (state >>> 59).toUInt32
    ((word >>> places) ||| (word <<< ((32 - places) % 32))) :: keyWords n state

def keyOfSeed (seed : UInt64) : Vector UInt32 8 :=
  Vector.ofFn fun i => (keyWords 8 seed)[i]?.getD 0

structure Seeded where
  key : Vector UInt32 8
  /-- How many numbers were taken. -/
  taken : Nat

def Seeded.ofSeed (seed : UInt64) : Seeded :=
  ⟨keyOfSeed seed, 0⟩

/-- The largest low half of a product that does not favour an index: with the count shifted to the
top of 64 bits, the count less one. -/
def fairZone (count : Nat) : Nat :=
  (count <<< (63 - count.log2)) - 1

/-- Takes numbers until one is fair. Each is passed over with a chance below one half, so the bound
on their number is never met in practice; at the bound the first index is taken. -/
def Seeded.fairIndex (count : Nat) : Nat → Seeded → Nat × Seeded
  | 0, source => (0, source)
  | tries + 1, source =>
    let product := ChaCha.word64 source.key source.taken * count
    let source := { source with taken := source.taken + 1 }
    if product % UInt64.size ≤ fairZone count then
      (product / UInt64.size, source)
    else
      fairIndex count tries source

instance : Source Seeded where
  next count positive source :=
    let (i, source) := source.fairIndex count 4096
    (⟨i % count, Nat.mod_lt _ positive⟩, source)

end EventText
