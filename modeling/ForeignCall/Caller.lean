import ForeignCall.Action
import ForeignCall.CallStatus
import ForeignCall.Host
import ForeignCall.Notice

/-! The calling side: its memory, the libraries it has opened, its active allocator, its log, and the
host that libraries come from. -/

namespace ForeignCall

/-- An opened library: the symbols it exports, the arena behind its buffer symbols, the answers
these still have to give, what the calls of the allocating one were lent, the latest first, and how
often the releasing one has been called. -/
structure Image where
  symbols : List String
  version : Int
  arena : Nat
  allocScript : List (Option Fill)
  freeScript : List (Option Fill)
  lends : List LentBytes
  freeCalls : Nat

def Image.allocCalls (image : Image) : Nat :=
  image.lends.length

/-- An opened library whose symbols all begin with one stem. -/
structure Library where
  image : Nat
  stem : String
  reportsVersion : Bool

inductive AllocatorSource where
  | arena (index : Nat)
  | image (index : Nat)
  deriving DecidableEq

structure Allocator where
  name : String
  source : AllocatorSource
  deriving DecidableEq

structure Caller where
  heap : Heap
  images : List Image
  active : Allocator
  log : List Notice
  width : Int
  host : Host
  libraries : List Library
  /-- The numbers of the libraries loaded so far, by path. -/
  loaded : List (Path × Nat)

namespace Caller

/-- One arena, and the allocator `main` on it active. -/
def initial (host : Host) (width : Int) : Caller where
  heap := ⟨[.empty], 0x1000⟩
  images := []
  active := ⟨"main", .arena 0⟩
  log := []
  width := width
  host := host
  libraries := []
  loaded := []

def notify (caller : Caller) (notices : List Notice) : Caller :=
  { caller with log := caller.log ++ notices }

@[simp] theorem notify_nil (caller : Caller) : caller.notify [] = caller := by
  simp [notify]

def note (notice : Notice) : Action Caller Unit :=
  .modify fun caller => caller.notify [notice]

def allocIn (index : Nat) (bytes : List UInt8) : Action Caller Buffer := fun caller =>
  match caller.heap.alloc index bytes with
  | .ok (buffer, heap) => (.ok buffer, { caller with heap })
  | .error fault => (.error fault, caller)

def releaseIn (index : Nat) (buffer : Buffer) : Action Caller Unit := fun caller =>
  match caller.heap.release index buffer with
  | .ok heap => (.ok (), { caller with heap })
  | .error fault => (.error fault, caller)

def read (buffer : Buffer) : Action Caller (List UInt8) := fun caller =>
  (.ok (caller.heap.read buffer), caller)

def consume (release : Buffer → Action Caller Unit) (buffer : Buffer) :
    Action Caller (List UInt8) :=
  (read buffer).ensuring (release buffer)

theorem consume_apply (release : Buffer → Action Caller Unit) (buffer : Buffer)
    (caller : Caller) :
    consume release buffer caller =
      ((release buffer caller).1.map fun _ => caller.heap.read buffer,
        (release buffer caller).2) := by
  simp only [consume, Action.ensuring, Caller.read]
  cases release buffer caller with
  | mk result after => cases result <;> rfl

def activate (allocator : Allocator) : Action Caller Allocator := fun caller =>
  (.ok caller.active, { caller with active := allocator })

end Caller

def Fill.status (alloc : List UInt8 → Action Caller Buffer) (fill : Fill) :
    Action Caller CallStatus := do
  let payload ←
    match fill.payload with
    | some bytes => alloc bytes
    | none => Pure.pure Buffer.null
  let payload :=
    match fill.length with
    | some length => payload.withLength length
    | none => payload
  return ⟨Int8.ofInt fill.code, payload⟩

end ForeignCall
