import ForeignCall.Proofs.Payload.Texts

/-! Allocations that a library refuses. What is said about the refusal is itself in a block of the
library, which goes back through its releasing symbol while the allocation is still under way. -/

namespace ForeignCall

namespace Heap

variable {heap middle after : Heap} {index : Nat} {bytes : List UInt8} {buffer : Buffer}

/-- A block has come and gone, if there were bytes for one, and every other is where it was. -/
structure Restored (index : Nat) (bytes : List UInt8) (before after : Heap) : Prop where
  blocks : ∀ other address, after.blockIn other address = before.blockIn other address
  allocs : ∀ other, (after.arena other).allocs =
    (before.arena other).allocs + if other = index ∧ bytes ≠ [] then 1 else 0
  frees : ∀ other, (after.arena other).frees =
    (before.arena other).frees + if other = index ∧ bytes ≠ [] then 1 else 0

theorem Released.frees_eq (released : Released index buffer heap after) (other : Nat) :
    (after.arena other).frees =
      (heap.arena other).frees + if other = index ∧ buffer.address.isSome then 1 else 0 := by
  by_cases same : other = index
  · subst same
    simpa using released.frees
  · simpa [same] using released.otherFrees other same

theorem Sound.restored (sound : heap.Sound) (bound : index < heap.arenas.length)
    (allocated : heap.alloc index bytes = .ok (buffer, middle))
    (released : Released index buffer middle after) : Restored index bytes heap after := by
  obtain ⟨rfl, rfl, rfl⟩ | ⟨nonempty, -, rfl, -, -, changed⟩ := arena_of_alloc bound allocated
  · refine ⟨fun other address => released.others other address fun _ => nofun, ?_, ?_⟩
    · intro other
      simpa using released.allocs other
    · intro other
      simpa [Buffer.null] using released.frees_eq other
  · refine ⟨fun other address => ?_, fun other => ?_, fun other => ?_⟩
    · by_cases given : other = index ∧ address = heap.nextAddress
      · -- There was no block yet at the next address.
        obtain ⟨rfl, rfl⟩ := given
        rw [released.gone _ rfl]
        cases there : heap.blockIn other heap.nextAddress with
        | none => rfl
        | some bytes' => exact absurd (sound.below other _ bytes' there) (Nat.lt_irrefl _)
      · rw [released.others other address fun same named =>
          given ⟨same, (Option.some.inj named).symm⟩, blockIn, changed]
        split
        next same =>
          rw [Arena.insert, Table.get?_set_of_ne fun next => given ⟨same, next⟩, blockIn]
        next => rfl
    · rw [released.allocs, changed]
      split <;> simp [Arena.insert, *]
    · rw [released.frees_eq, changed]
      split <;> simp [Arena.insert, *]

end Heap

/-- What is raised for a call that failed with a code and a payload. -/
structure Fault.Tells (fault : Fault) (code : Int8) (payload : List UInt8) : Prop where
  error : code = 1 → fault.family? = some .internal ∧ fault.message = "Unexpected CALL_ERROR"
  panic : code = 2 → fault.family? = some .panic ∧
    fault.message = if payload = [] then "Rust panic" else shownText payload
  unknown : code ≠ 1 → code ≠ 2 → fault.family? = some .internal ∧
    fault.message = s!"Unknown rust call status: {code.toInt}"

namespace Fill

variable {fill : Fill}

/-- The payload has the length of its block. -/
structure Whole (fill : Fill) : Prop where
  length : fill.length = none
  fits : fill.Fits

theorem Whole.payloadLength (whole : fill.Whole) :
    fill.payloadLength = Int32.ofNat (fill.payload.getD []).length := by
  rw [Fill.payloadLength, whole.length]

theorem Whole.visible (whole : fill.Whole) : fill.visible = fill.payload.getD [] := by
  rw [Fill.visible, whole.payloadLength, Heap.toInt_of_fits whole.fits, Int.toNat_natCast,
    List.take_length]

theorem Whole.payloadLength_pos_iff (whole : fill.Whole) :
    0 < fill.payloadLength ↔ fill.payload.getD [] ≠ [] := by
  rw [whole.payloadLength, Int32.lt_iff_toInt_lt, Heap.toInt_of_fits whole.fits]
  exact Int.natCast_pos.trans List.length_pos_iff

theorem Whole.panicMessage_eq (whole : fill.Whole) :
    (if 0 < fill.payloadLength then String.ofList (Utf8.replacing fill.visible) else silentPanic) =
      if fill.payload.getD [] = [] then "Rust panic" else shownText (fill.payload.getD []) := by
  rw [whole.visible]
  by_cases empty : fill.payload.getD [] = []
  · rw [if_pos empty, if_neg (mt whole.payloadLength_pos_iff.mp (not_not.mpr empty))]
    rfl
  · rw [if_neg empty, if_pos (whole.payloadLength_pos_iff.mpr empty)]
    rfl

theorem Whole.tells (whole : fill.Whole) {fault : Fault} (failed : fill.verdict = .error fault) :
    fault.Tells fill.statusCode (fill.payload.getD []) := by
  unfold verdict at failed
  rw [whole.panicMessage_eq] at failed
  split at failed
  next => cases failed
  next =>
    split at failed
    next error =>
      cases failed
      exact ⟨fun _ => ⟨rfl, rfl⟩, by simp [error], fun other => absurd error other⟩
    next noError =>
      split at failed
      next panicked =>
        obtain rfl := Except.error.inj failed
        exact ⟨fun error => absurd error noError, fun _ => ⟨rfl, rfl⟩,
          fun _ other => absurd panicked other⟩
      next noPanic =>
        obtain rfl := Except.error.inj failed
        exact ⟨fun error => absurd error noError, fun panicked => absurd panicked noPanic,
          fun _ _ => ⟨rfl, rfl⟩⟩

theorem Whole.filled (whole : fill.Whole) {heap : Heap} (sound : heap.Sound) {index : Nat}
    {payload : Buffer} (held : heap.Holds index payload (fill.payload.getD [])) :
    CallStatus.Filled ⟨fill.statusCode, payload⟩ fill heap where
  code := rfl
  length := held.length_eq.trans whole.payloadLength.symm
  read := (sound.read_eq held).trans whole.visible.symm

theorem Whole.exists_status (whole : fill.Whole) (caller : Caller) (arena : Nat) :
    ∃ payload heap, caller.heap.alloc arena (fill.payload.getD []) = .ok (payload, heap) ∧
      fill.status (Caller.allocIn arena) caller =
        (.ok ⟨fill.statusCode, payload⟩, { caller with heap }) := by
  obtain ⟨payload, heap, allocated⟩ := caller.heap.exists_alloc_of_fits arena whole.fits
  refine ⟨payload, heap, allocated, ?_⟩
  obtain ⟨code, bytes, length⟩ := fill
  obtain rfl : length = none := whole.length
  cases bytes with
  | none =>
      obtain ⟨rfl, rfl⟩ : payload = .null ∧ heap = caller.heap := by
        cases allocated
        exact ⟨rfl, rfl⟩
      rfl
  | some bytes =>
      have made : Caller.allocIn arena bytes caller = (.ok payload, { caller with heap }) := by
        change caller.heap.alloc arena bytes = _ at allocated
        rw [Caller.allocIn, allocated]
      exact Action.bind_of_ok made _

end Fill

namespace Caller

/-- The library is behind the active allocator. Its next allocation has this answer, or the ordinary
one, and the release after that is an ordinary one. -/
structure Supplied (caller : Caller) (index arena : Nat) (answer : Option Fill) : Prop where
  active : caller.active.source = .image index
  sound : caller.heap.Sound
  bound : arena < caller.heap.arenas.length
  library : ∃ image, caller.images[index]? = some image ∧ image.arena = arena ∧
    image.allocScript.head?.join = answer ∧ image.nextFree.1 = none
  whole : ∀ fill, answer = some fill → fill.Whole

/-- An allocation has failed. The block of its payload, if there is one, came and went by way of the
library, whose releasing symbol was called for it once. -/
structure Unallocated (index arena : Nat) (payload : List UInt8) (before after : Caller) :
    Prop where
  heap : Heap.Restored arena payload before.heap after.heap
  released : payload ≠ [] → after.freeCalls index = before.freeCalls index + 1
  others : ∀ other, other ≠ index → after.freeCalls other = before.freeCalls other

variable {caller filled counted : Caller} {index arena : Nat} {native : Allocator} {image : Image}
  {bytes : List UInt8} {status : CallStatus} {buffer : Buffer} {fill : Fill}

theorem freeCalls_of_found (found : caller.images[index]? = some image) :
    caller.freeCalls index = image.freeCalls := by
  rw [freeCalls, found]
  rfl

/-- Allocating releases nothing. -/
theorem freeCalls_nextAlloc (found : caller.images[index]? = some image) (lent : LentBytes)
    (other : Nat) :
    freeCalls { caller with images := caller.images.set index (image.nextAlloc lent).2 } other =
      caller.freeCalls other := by
  refine (told_set found Image.freeCalls 0 _ other).trans ?_
  split
  next same =>
    rw [same, freeCalls_of_found found]
    rfl
  next => rfl

theorem freeCalls_nextFree (found : caller.images[index]? = some image) (other : Nat) :
    freeCalls { caller with images := caller.images.set index image.nextFree.2 } other =
      caller.freeCalls other + if other = index then 1 else 0 := by
  refine (told_set found Image.freeCalls 0 _ other).trans ?_
  split
  next same =>
    rw [same, freeCalls_of_found found]
    rfl
  next => rfl

theorem allocBy_of_called (source : native.source = .image index)
    (called : allocSymbol index (.ofBytes bytes) caller = (.ok (status, buffer), filled)) :
    allocBy native bytes caller =
      ((CallStatus.check free .undeclared .replacing status filled).1.map fun _ => buffer,
        (CallStatus.check free .undeclared .replacing status filled).2) := by
  rw [allocBy, source]
  exact (Action.bind_of_ok called _).trans (Action.returning_apply _ _ _)

/-- The status of a failed call is told, and its payload is released whether or not it is empty,
but for an empty one of a panic. -/
theorem check_of_failed (whole : fill.Whole) (failed : fill.statusCode ≠ 0)
    (reads : status.Filled fill filled.heap)
    (held : filled.heap.Holds arena status.payload (fill.payload.getD []))
    (reaches : filled.Reaches arena counted) :
    ∃ heap notices, Heap.Released arena status.payload filled.heap heap ∧
      (CallStatus.check free .undeclared .replacing status filled =
          (fill.verdict, notify { counted with heap } notices) ∨
        fill.payload.getD [] = [] ∧
          CallStatus.check free .undeclared .replacing status filled =
            (fill.verdict, notify { filled with heap } notices)) := by
  by_cases demanding : fill.Demanding
  · obtain ⟨heap, released, freed⟩ := reaches.free held.shows
    obtain ⟨notices, checked⟩ : ∃ notices,
        CallStatus.check free .undeclared .replacing status filled =
          ((free status.payload filled).1.bind fun _ => fill.verdict,
            (free status.payload filled).2.notify notices) :=
      CallStatus.check_of_demanding reads demanding
    rw [freed] at checked
    exact ⟨heap, notices, released, .inl checked⟩
  · have empty : fill.payload.getD [] = [] := by
      by_contra full
      exact demanding ⟨failed, fun _ => whole.payloadLength_pos_iff.mpr full⟩
    have null := held.address_eq_none_iff.mpr empty
    obtain ⟨notices, checked⟩ := CallStatus.check_of_undemanding reads demanding
    exact ⟨filled.heap, notices, .of_null null, .inr ⟨empty, checked⟩⟩

namespace Supplied

variable {answer : Option Fill}

theorem allocSymbol_of_none (supplied : caller.Supplied index arena none) (bytes : List UInt8) :
    ∃ buffer filled, allocSymbol index (.ofBytes bytes) caller = (.ok (.fresh, buffer), filled) := by
  obtain ⟨image, found, rfl, ordinary, -⟩ := supplied.library
  have taken := onImage_of_found found (Image.nextAlloc (.ofBytes bytes))
  have unscripted : (image.nextAlloc (.ofBytes bytes)).1 = none := ordinary
  rw [unscripted] at taken
  -- What the library sees of the bytes is never more than a length can tell.
  have fits : (LentBytes.ofBytes bytes).visible.length ≤ Buffer.maxLength := by
    have bounded := (LentBytes.ofBytes bytes).length.toInt_lt
    rw [LentBytes.visible, List.length_take, Buffer.maxLength]
    omega
  set lending := { caller with
    images := caller.images.set index (image.nextAlloc (.ofBytes bytes)).2 }
  have sound : lending.heap.Sound := supplied.sound
  obtain ⟨buffer, heap, made, -⟩ := exists_allocIn sound supplied.bound fits
  rw [allocSymbol, Action.bind_of_ok taken]
  exact ⟨buffer, _, Action.bind_of_ok made _⟩

theorem allocSymbol_of_some (supplied : caller.Supplied index arena (some fill))
    (bytes : List UInt8) :
    ∃ payload heap image, caller.heap.alloc arena (fill.payload.getD []) = .ok (payload, heap) ∧
      caller.images[index]? = some image ∧ image.arena = arena ∧ image.nextFree.1 = none ∧
      allocSymbol index (.ofBytes bytes) caller =
        (.ok (⟨fill.statusCode, payload⟩, .null),
          { caller with
            heap, images := caller.images.set index (image.nextAlloc (.ofBytes bytes)).2 }) := by
  obtain ⟨image, found, there, scripted, ordinary⟩ := supplied.library
  have taken := onImage_of_found found (Image.nextAlloc (.ofBytes bytes))
  have answered : (image.nextAlloc (.ofBytes bytes)).1 = some fill := scripted
  rw [answered, there] at taken
  obtain ⟨payload, heap, allocated, reported⟩ := (supplied.whole fill rfl).exists_status
    { caller with images := caller.images.set index (image.nextAlloc (.ofBytes bytes)).2 } arena
  refine ⟨payload, heap, image, allocated, found, there, ordinary, ?_⟩
  rw [allocSymbol, Action.bind_of_ok taken]
  exact Action.bind_of_ok reported _

/-- A failed allocation tells of its status, once the payload is back in the arena. -/
theorem refused (supplied : caller.Supplied index arena (some fill))
    (source : native.source = .image index) (failed : fill.statusCode ≠ 0) (bytes : List UInt8) :
    ∃ payload filled fault after,
      allocSymbol index (.ofBytes bytes) caller =
        (.ok (⟨fill.statusCode, payload⟩, .null), filled) ∧
      filled.heap.Holds arena payload (fill.payload.getD []) ∧
      allocBy native bytes caller = (.error fault, after) ∧
      fault.Tells fill.statusCode (fill.payload.getD []) ∧
      Unallocated index arena (fill.payload.getD []) caller after := by
  obtain ⟨payload, made, image, allocated, found, there, ordinary, called⟩ :=
    supplied.allocSymbol_of_some bytes
  set lent := (image.nextAlloc (.ofBytes bytes)).2
  set filled := { caller with heap := made, images := caller.images.set index lent }
  have whole := supplied.whole fill rfl
  have sound : filled.heap.Sound := supplied.sound.alloc supplied.bound allocated
  have held : filled.heap.Holds arena payload (fill.payload.getD []) :=
    Heap.holds_of_alloc supplied.bound allocated
  have kept : filled.images[index]? = some lent :=
    List.getElem?_set_self (List.getElem?_eq_some_iff.mp found).1
  have reaches : filled.Reaches arena
      { filled with images := filled.images.set index lent.nextFree.2 } :=
    .symbol supplied.active kept there ordinary
  obtain ⟨fault, told⟩ := fill.exists_fault failed
  obtain ⟨heap, notices, released, checked⟩ := check_of_failed whole failed
    (whole.filled sound held) held reaches
  have restored := supplied.sound.restored supplied.bound allocated released
  have calls : ∀ other, filled.freeCalls other = caller.freeCalls other :=
    freeCalls_nextAlloc found _
  rw [told] at checked
  have raised := allocBy_of_called source called
  obtain checked | ⟨empty, checked⟩ := checked
  · rw [checked] at raised
    refine ⟨payload, filled, fault, _, called, held, raised, whole.tells told, restored, ?_, ?_⟩
    · intro _
      rw [freeCalls_notify, ← calls]
      exact (freeCalls_nextFree kept index).trans (by rw [if_pos rfl])
    · intro other different
      rw [freeCalls_notify, ← calls]
      exact (freeCalls_nextFree kept other).trans (by rw [if_neg different, Nat.add_zero])
  · rw [checked] at raised
    exact ⟨payload, filled, fault, _, called, held, raised, whole.tells told, restored,
      fun full => absurd empty full, fun other _ => calls other⟩

end Supplied

/-- Whether an allocation through a library comes to anything is for the status to say. A success
hands on the buffer of the library. Anything else is told as it is for every call, and the payload that
came with it, if it has a block, goes back once through the releasing symbol of the library. No other
block is touched. -/
theorem alloc_by_status {answer : Option Fill} (supplied : caller.Supplied index arena answer)
    (source : native.source = .image index) (bytes : List UInt8) :
    ∃ status buffer filled,
      allocSymbol index (.ofBytes bytes) caller = (.ok (status, buffer), filled) ∧
      status.code = (answer.map Fill.statusCode).getD 0 ∧
      filled.heap.Holds arena status.payload ((answer.bind Fill.payload).getD []) ∧
      ((∃ made, (allocBy native bytes caller).1 = .ok made) ↔ status.code = 0) ∧
      (status.code = 0 → allocBy native bytes caller = (.ok buffer, filled)) ∧
      (status.code ≠ 0 → ∃ fault after, allocBy native bytes caller = (.error fault, after) ∧
        fault.Tells status.code ((answer.bind Fill.payload).getD []) ∧
        Unallocated index arena ((answer.bind Fill.payload).getD []) caller after) := by
  have succeeds : ∀ {status : CallStatus} {buffer : Buffer} {filled : Caller},
      allocSymbol index (.ofBytes bytes) caller = (.ok (status, buffer), filled) →
      status.code = 0 → allocBy native bytes caller = (.ok buffer, filled) := by
    intro status buffer filled called success
    have passed : CallStatus.check free .undeclared .replacing status filled = (.ok (), filled) :=
      Action.bind_of_ok (CallStatus.outcome_of_success (by simp [CallStatus.isSuccess, success]) ..) _
    rw [allocBy_of_called source called, passed]
    rfl
  cases answer with
  | none =>
      obtain ⟨buffer, filled, called⟩ := supplied.allocSymbol_of_none bytes
      have allocated := succeeds called rfl
      exact ⟨.fresh, buffer, filled, called, rfl, .null,
        iff_of_true ⟨buffer, congrArg Prod.fst allocated⟩ rfl, fun _ => allocated,
        fun failed => absurd rfl failed⟩
  | some fill =>
      by_cases success : fill.statusCode = 0
      · obtain ⟨payload, heap, image, made, -, -, -, called⟩ := supplied.allocSymbol_of_some bytes
        have allocated := succeeds called success
        exact ⟨_, _, _, called, rfl, Heap.holds_of_alloc supplied.bound made,
          iff_of_true ⟨.null, congrArg Prod.fst allocated⟩ success, fun _ => allocated,
          fun failed => absurd success failed⟩
      · obtain ⟨payload, filled, fault, after, called, held, raised, tells, unallocated⟩ :=
          supplied.refused source success bytes
        refine ⟨_, _, filled, called, rfl, held, iff_of_false ?_ success,
          fun succeeded => absurd succeeded success,
          fun _ => ⟨fault, after, raised, tells, unallocated⟩⟩
        rintro ⟨made, returned⟩
        rw [raised] at returned
        cases returned

def outOfMemory : Fill := ⟨2, some [111, 111, 109], none⟩

/-- A library whose next allocation panics. -/
def exhausted : Caller :=
  { Caller.initial .bare 8 with
    heap := (Caller.initial .bare 8).heap.addArena.2
    images := [⟨["demo_rustbuffer_from_bytes", "demo_rustbuffer_free"], 0, 1,
      [some outOfMemory], [], [], 0⟩]
    active := ⟨"library", .image 0⟩ }

theorem exhausted_supplied : exhausted.Supplied 0 1 (some outOfMemory) where
  active := rfl
  sound := (Heap.Sound.initial .bare 8).addArena
  bound := Nat.one_lt_two
  library := ⟨_, rfl, rfl, rfl, rfl⟩
  whole := by
    rintro _ ⟨⟩
    exact ⟨rfl, by decide⟩

theorem alloc_by_status_exhausted :
    exhausted.Supplied 0 1 (some outOfMemory) ∧ exhausted.active.source = .image 0 ∧
      ∃ fault after, allocBy exhausted.active [120] exhausted = (.error fault, after) ∧
        fault.family? = some .panic ∧ fault.message = "oom" ∧ after.freeCalls 0 = 1 ∧
        Unallocated 0 1 [111, 111, 109] exhausted after := by
  have source : exhausted.active.source = .image 0 := rfl
  obtain ⟨status, buffer, filled, -, code, -, -, -, refuses⟩ :=
    alloc_by_status exhausted_supplied source [120]
  have panicked : status.code = 2 := code
  obtain ⟨fault, after, raised, tells, unallocated⟩ := refuses (by simp [panicked])
  have told := tells.panic panicked
  exact ⟨exhausted_supplied, source, fault, after, raised, told.1, told.2.trans (by decide),
    unallocated.released (by decide), unallocated⟩

end Caller

end ForeignCall
