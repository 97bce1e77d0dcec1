import ForeignCall.Bridge
import ForeignCall.Loading
import ForeignCall.Session.Lifting

/-! The steps of a session. They name buffers, allocators, handle maps, tasks and continuations. -/

namespace ForeignCall.Session

inductive CallForm where
  | plain
  | raising
  | outcome
  | check
  /-- The outcome of a filled status without a call. -/
  | unpack

inductive Variable where
  | library
  | directory
  | wire

inductive LiftChoice where
  | same
  | double
  | failing

structure Launch where
  identity : Datum
  polls : List (List PollAct)
  route : Route
  function : ForeignFunction
  lift : LiftChoice
  lifter : LifterChoice
  freeFails : Bool

inductive Step where
  | newAllocator (name : String)
  | setAllocator (name : String)
  | activeAllocator
  | fromBytes (buffer : String) (bytes : List UInt8)
  | alloc (allocator : String) (buffer : String) (bytes : List UInt8)
  | allocCopies (allocator : String) (buffer : String) (unit : List UInt8) (count : Nat)
  | allocOversize (allocator : String) (length : Nat)
  | aliasBuffer (buffer : String) (of : String)
  | nullBuffer (buffer : String) (length : Int)
  | setLength (buffer : String) (length : Int)
  | toBytes (buffer : String)
  | consume (buffer : String)
  | liftText (buffer : String)
  | free (buffer : String) (allocator : Option String)
  | describe (buffer : String)
  | lift (lifter : LifterChoice) (buffer : String)
  | setWidth (width : Int)
  | newMap (map : String) (bits : Option Int)
  | insert (map : String) (value : Datum)
  | insertMany (map : String) (count : Nat)
  | get (map : String) (handle : Int)
  | remove (map : String) (handle : Int)
  | contains (map : String) (handle : Datum)
  | size (map : String)
  | setCounter (map : String) (value : Int)
  | call (form : CallForm) (function : ForeignFunction) (arguments : List Datum)
      (lifter : LifterChoice) (texts : TextChoice)
  | setVariables (changes : List (Variable × Option String))
  | bind (file : LibraryFile) (stem : String)
  | load (name : String) (stem : Option String) (install : Bool)
  | findLibrary (name : String)
  | contract (library : Nat) (expected : Int)
  | libraryAllocator (library : Nat) (name : String)
  | start (task : String) (launch : Launch) (settle : Bool)
  | callback (route : Route) (handle : Int) (code : Int) (settle : Bool)
  | cancel (task : String) (settle : Bool)
  | settle
  | replaceContinuations (bits : Option Int)
  | newContinuation (name : String) (closed : Bool)
  | nextCode (name : String)

/-- A step, or steps that run with another allocator active. Such a block is left at its first
failing step if `leaves` says so. -/
inductive Script where
  | step (step : Step)
  | block (allocator : String) (leaves : Bool) (body : List Script)

instance : Inhabited Script := ⟨.step .settle⟩

end ForeignCall.Session
