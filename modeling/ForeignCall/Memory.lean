import ForeignCall.Fault

/-! Buffers, and the arenas whose blocks they name. An address belongs to one block for ever. -/

namespace ForeignCall

structure Buffer where
  length : Int32
  address : Option Nat
  deriving DecidableEq

namespace Buffer

def null : Buffer := ⟨0, none⟩

def isEmpty (buffer : Buffer) : Bool :=
  buffer.length ≤ 0 || buffer.address.isNone

def withLength (buffer : Buffer) (length : Int) : Buffer :=
  { buffer with length := Int32.ofInt length }

def maxLength : Nat := 2147483647

def addressLabel (buffer : Buffer) : String :=
  match buffer.address with
  | none => "0x0"
  | some _ => "0xADDR"

def label (buffer : Buffer) : String :=
  s!"RustBuffer(len={buffer.length.toInt}, data={buffer.addressLabel})"

end Buffer

/-- Bytes lent to foreign code for the time of a call. It is told their number in a word of 32 bits,
whether or not they are that few. -/
structure LentBytes where
  length : Int32
  bytes : Thunk (List UInt8)

namespace LentBytes

def ofBytes (bytes : List UInt8) : LentBytes :=
  ⟨Int32.ofNat bytes.length, .pure bytes⟩

@[simp] theorem get_ofBytes (bytes : List UInt8) : (ofBytes bytes).bytes.get = bytes := rfl

/-- Copies of a unit, one behind the other, which are made when they are looked at. -/
def ofCopies (unit : List UInt8) (count : Nat) : LentBytes :=
  ⟨Int32.ofNat (count * unit.length), .mk fun _ => (List.replicate count unit).flatten⟩

theorem length_copies (unit : List UInt8) (count : Nat) :
    (List.replicate count unit).flatten.length = count * unit.length := by
  rw [List.length_flatten, List.map_replicate, List.sum_replicate_nat]

theorem ofCopies_eq (unit : List UInt8) (count : Nat) :
    ofCopies unit count = ofBytes (List.replicate count unit).flatten := by
  rw [ofBytes, length_copies]
  rfl

def visible (lent : LentBytes) : List UInt8 :=
  lent.bytes.get.take lent.length.toInt.toNat

end LentBytes

/-- The live blocks of one allocator by address, and how many it has handed out and taken back. -/
structure Arena where
  blocks : List (Nat × List UInt8)
  allocs : Nat
  frees : Nat

namespace Arena

def empty : Arena := ⟨[], 0, 0⟩

def live (arena : Arena) : Nat :=
  arena.blocks.length

def insert (arena : Arena) (address : Nat) (bytes : List UInt8) : Arena :=
  { arena with blocks := Table.set address bytes arena.blocks, allocs := arena.allocs + 1 }

def release? (arena : Arena) (address : Nat) : Option Arena :=
  if Table.contains address arena.blocks then
    some { arena with blocks := Table.erase address arena.blocks, frees := arena.frees + 1 }
  else none

end Arena

structure Heap where
  arenas : List Arena
  nextAddress : Nat

namespace Heap

def addArena (heap : Heap) : Nat × Heap :=
  (heap.arenas.length, { heap with arenas := heap.arenas ++ [.empty] })

def arena (heap : Heap) (index : Nat) : Arena :=
  heap.arenas.getD index .empty

/-- Copies the bytes into a new block. No bytes need no block. -/
def alloc (heap : Heap) (index : Nat) (bytes : List UInt8) : Except Fault (Buffer × Heap) :=
  if Buffer.maxLength < bytes.length then .error (.bufferTooLong bytes.length)
  else if bytes.isEmpty then .ok (.null, heap)
  else
    .ok (⟨Int32.ofNat bytes.length, some heap.nextAddress⟩, {
      arenas := heap.arenas.modify index fun arena => arena.insert heap.nextAddress bytes
      nextAddress := heap.nextAddress + 1 })

/-- Takes back the block a buffer names. A buffer that names none is left alone. -/
def release (heap : Heap) (index : Nat) (buffer : Buffer) : Except Fault Heap :=
  match buffer.address with
  | none => .ok heap
  | some address =>
      match (heap.arena index).release? address with
      | none => .error (.notLive address)
      | some arena => .ok { heap with arenas := heap.arenas.set index arena }

def block? (heap : Heap) (address : Nat) : Option (List UInt8) :=
  heap.arenas.findSome? fun arena => Table.get? address arena.blocks

def read (heap : Heap) (buffer : Buffer) : List UInt8 :=
  if buffer.isEmpty then []
  else
    match buffer.address.bind heap.block? with
    | some bytes => bytes.take buffer.length.toInt.toNat
    | none => []

end Heap

end ForeignCall
