import ForeignCall.Call

/-! Allocating and releasing through an allocator. Those of a library call its buffer symbols, and
what these report is handled like any call: a payload they send is released by the active allocator,
which may be the same library's. -/

namespace ForeignCall

namespace Image

/-- Notes a call of the allocating symbol and takes its next scripted answer. -/
def nextAlloc (lent : LentBytes) (image : Image) : Option Fill × Image :=
  (image.allocScript.head?.join,
    { image with allocScript := image.allocScript.tail, lends := lent :: image.lends })

def nextFree (image : Image) : Option Fill × Image :=
  (image.freeScript.head?.join,
    { image with freeScript := image.freeScript.tail, freeCalls := image.freeCalls + 1 })

end Image

namespace Caller

def onImage (index : Nat) (step : Image → Option Fill × Image) :
    Action Caller (Option Fill × Nat) := fun caller =>
  match caller.images[index]? with
  | none => (.ok (none, caller.heap.arenas.length), caller)
  | some image =>
      (.ok ((step image).1, image.arena),
        { caller with images := caller.images.set index (step image).2 })

theorem onImage_of_found {index : Nat} {caller : Caller} {image : Image}
    (found : caller.images[index]? = some image) (step : Image → Option Fill × Image) :
    onImage index step caller = (.ok ((step image).1, image.arena),
      { caller with images := caller.images.set index (step image).2 }) := by
  rw [onImage, found]

/-- What the allocating symbol of an opened library has been lent, the latest first. -/
def lends (caller : Caller) (index : Nat) : List LentBytes :=
  (caller.images[index]?.map Image.lends).getD []

/-- How often the allocating symbol of an opened library has been called. -/
def allocCalls (caller : Caller) (index : Nat) : Nat :=
  (caller.images[index]?.map Image.allocCalls).getD 0

def freeCalls (caller : Caller) (index : Nat) : Nat :=
  (caller.images[index]?.map Image.freeCalls).getD 0

/-- What is told of the opened libraries when one of them has changed. -/
theorem told_set {β : Type} {caller : Caller} {index : Nat} {image : Image}
    (found : caller.images[index]? = some image) (told : Image → β) (unopened : β)
    (changed : Image) (other : Nat) :
    ((caller.images.set index changed)[other]?.map told).getD unopened =
      if other = index then told changed else (caller.images[other]?.map told).getD unopened := by
  obtain ⟨bound, -⟩ := List.getElem?_eq_some_iff.mp found
  by_cases same : other = index
  · subst same
    simp [bound]
  · simp [same, Ne.symm same]

def allocSymbol (index : Nat) (lent : LentBytes) : Action Caller (CallStatus × Buffer) := do
  let (scripted, arena) ← onImage index (Image.nextAlloc lent)
  match scripted with
  | some fill => return (← fill.status (allocIn arena), .null)
  | none => return (.fresh, ← allocIn arena lent.visible)

def freeSymbol (index : Nat) (buffer : Buffer) : Action Caller (CallStatus × Unit) := do
  let (scripted, arena) ← onImage index Image.nextFree
  match scripted with
  | some fill => return (← fill.status (allocIn arena), ())
  | none =>
      releaseIn arena buffer
      return (.fresh, ())

/-- Releases through a library may start further ones; at most this many may be under way. -/
def maxNestedReleases : Nat := 141

def freeNested : Nat → Allocator → Buffer → Action Caller Unit
  | nested, allocator, buffer =>
      match allocator.source with
      | .arena index => releaseIn index buffer
      | .image index =>
          match nested with
          | 0 => .fail .nestedReleases
          | nested + 1 =>
              Call.raising
                (fun payload => do freeNested nested (← Action.state).active payload)
                .undeclared fun _ => freeSymbol index buffer

def freeBy (allocator : Allocator) (buffer : Buffer) : Action Caller Unit :=
  freeNested maxNestedReleases allocator buffer

def free (buffer : Buffer) : Action Caller Unit := do
  freeBy (← Action.state).active buffer

def allocBy (allocator : Allocator) (bytes : List UInt8) : Action Caller Buffer :=
  match allocator.source with
  | .arena index => allocIn index bytes
  | .image index =>
      Call.raising free .undeclared fun _ => allocSymbol index (LentBytes.ofBytes bytes)

/-- Allocates for copies of a unit. They are not made only to be refused or lent. -/
def allocCopies (allocator : Allocator) (unit : List UInt8) (count : Nat) :
    Action Caller Buffer :=
  match allocator.source with
  | .arena index =>
      if Buffer.maxLength < count * unit.length then .fail (.bufferTooLong (count * unit.length))
      else allocIn index (List.replicate count unit).flatten
  | .image index =>
      Call.raising free .undeclared fun _ => allocSymbol index (LentBytes.ofCopies unit count)

theorem allocCopies_eq (allocator : Allocator) (unit : List UInt8) (count : Nat) :
    allocCopies allocator unit count = allocBy allocator (List.replicate count unit).flatten := by
  unfold allocCopies allocBy
  cases allocator.source with
  | image index => simp only [LentBytes.ofCopies_eq]
  | arena index =>
      dsimp only
      split
      next long =>
        funext caller
        rw [← LentBytes.length_copies] at long ⊢
        rw [allocIn, Heap.alloc, if_pos long]
        rfl
      next => rfl

def alloc (bytes : List UInt8) : Action Caller Buffer := do
  allocBy (← Action.state).active bytes

/-- Runs a body with another allocator active. Whatever comes of the body, the one before is active
again. The calling side may be a part of a larger state. -/
def withAllocator {σ α : Type} (onCaller : Action Caller Allocator → Action σ Allocator)
    (allocator : Allocator) (body : Action σ α) : Action σ α := do
  let previous ← onCaller (activate allocator)
  body.ensuring (do let _ ← onCaller (activate previous))

theorem withAllocator_apply {σ α : Type} (onCaller : Action Caller Allocator → Action σ Allocator)
    (active : σ → Allocator) (activating : Allocator → σ → σ)
    (activates : ∀ allocator s,
      onCaller (activate allocator) s = (.ok (active s), activating allocator s))
    (allocator : Allocator) (body : Action σ α) (s : σ) :
    withAllocator onCaller allocator body s =
      ((body (activating allocator s)).1, activating (active s) (body (activating allocator s)).2) := by
  rw [withAllocator, Action.bind_of_ok (activates allocator s), Action.ensuring]
  dsimp only
  rw [Action.bind_of_ok (activates (active s) _)]
  rfl

end Caller

end ForeignCall
