import TypeGuard.Guard.Error

namespace TypeGuard

/-- Bytes to insert at an offset of the source. -/
structure Patch where
  offset : Nat
  bytes : List UInt8
deriving Repr, DecidableEq

structure Insertion where
  offset : Nat
  size : Nat
deriving Repr, DecidableEq

def Insertion.sizeSum : List Insertion → Nat
  | [] => 0
  | i :: rest => i.size + sizeSum rest

/-- The insertions into a buffer so far, the latest first. -/
structure Drift where
  insertions : List Insertion := []
deriving Repr, DecidableEq

namespace Drift

def register (d : Drift) (offset size : Nat) : Drift :=
  ⟨⟨offset, size⟩ :: d.insertions⟩

/-- Where an offset of the source lies in the buffer. Insertions at the offset itself count, so a
second patch at one offset follows the first. -/
def drifted (d : Drift) (offset : Nat) : Nat :=
  offset + Insertion.sizeSum (d.insertions.filter (·.offset ≤ offset))

def total (d : Drift) : Nat :=
  Insertion.sizeSum d.insertions

end Drift

structure Buffer where
  bytes : List UInt8
  drift : Drift := {}
deriving Repr, DecidableEq

def Buffer.splice (b : Buffer) (p : Patch) : Buffer :=
  let at_ := b.drift.drifted p.offset
  ⟨b.bytes.take at_ ++ p.bytes ++ b.bytes.drop at_, b.drift.register p.offset p.bytes.length⟩

/-- Inserts patches into a source, in order. All offsets are checked before anything is inserted;
patches without bytes are then passed over. -/
def applyPatches (source : List UInt8) (patches : List Patch) : Except GuardError (List UInt8) :=
  match patches.find? fun p => source.length < p.offset with
  | some p => .error (.offsetOutOfBounds p.offset source.length)
  | none =>
    .ok ((patches.filter fun p => !p.bytes.isEmpty).foldl Buffer.splice { bytes := source }).bytes

end TypeGuard
