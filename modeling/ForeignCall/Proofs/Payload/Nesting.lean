import ForeignCall.Proofs.Payload.Release

/-! Releases through a library whose calls report statuses of any kind. A status may hand over a
payload that is itself to be released, by the next such call, while the one that reported it is still
under way. -/

namespace ForeignCall

namespace Fill

def statusCode (fill : Fill) : Int8 :=
  Int8.ofInt fill.code

def payloadLength (fill : Fill) : Int32 :=
  match fill.length with
  | some length => Int32.ofInt length
  | none => Int32.ofNat (fill.payload.getD []).length

/-- The bytes that can be read through the payload. -/
def visible (fill : Fill) : List UInt8 :=
  (fill.payload.getD []).take fill.payloadLength.toInt.toNat

def Fits (fill : Fill) : Prop :=
  (fill.payload.getD []).length ≤ Buffer.maxLength

/-- Whoever unpacks the status has to release its payload, whether or not there is a block behind
it. Only successes and panics without a text ask for nothing. -/
def Demanding (fill : Fill) : Prop :=
  fill.statusCode ≠ 0 ∧ (fill.statusCode = 2 → 0 < fill.payloadLength)

instance (fill : Fill) : Decidable fill.Fits :=
  inferInstanceAs (Decidable (_ ≤ _))

instance (fill : Fill) : Decidable fill.Demanding :=
  inferInstanceAs (Decidable (_ ∧ _))

/-- What a call that declares no error comes to, once the payload is released. -/
def verdict (fill : Fill) : Except Fault Unit :=
  if fill.statusCode = 0 then .ok ()
  else if fill.statusCode = 1 then .error .undeclaredError
  else if fill.statusCode = 2 then
    .error (.panicked
      (if 0 < fill.payloadLength then String.ofList (Utf8.replacing fill.visible) else silentPanic))
  else .error (.unknownStatus fill.statusCode.toInt)

variable {fill : Fill}

theorem family_of_verdict {fault : Fault} (failed : fill.verdict = .error fault) :
    fault.family? = some .internal ∨ fault.family? = some .panic := by
  unfold verdict at failed
  split at failed
  next => cases failed
  next =>
    split at failed
    next =>
      cases failed
      exact .inl rfl
    next =>
      split at failed
      next =>
        cases failed
        exact .inr rfl
      next =>
        cases failed
        exact .inl rfl

theorem exists_fault (failed : fill.statusCode ≠ 0) : ∃ fault, fill.verdict = .error fault := by
  unfold verdict
  rw [if_neg failed]
  split
  · exact ⟨_, rfl⟩
  · split <;> exact ⟨_, rfl⟩

end Fill

theorem Heap.Sound.read_resized {heap : Heap} (sound : heap.Sound) {index : Nat} {buffer : Buffer}
    {bytes : List UInt8} (held : heap.Holds index buffer bytes) (length : Int32) :
    heap.read { buffer with length } = bytes.take length.toInt.toNat := by
  cases held with
  | null => exact (read_null heap length).trans List.take_nil.symm
  | block nonempty fits live => exact sound.read_block live length

theorem Heap.exists_alloc_of_fits (heap : Heap) (index : Nat) {bytes : List UInt8}
    (fits : bytes.length ≤ Buffer.maxLength) :
    ∃ buffer after, heap.alloc index bytes = .ok (buffer, after) := by
  rw [alloc, if_neg (Nat.not_lt.mpr fits)]
  split <;> exact ⟨_, _, rfl⟩

/-- A status as a fill leaves it, with the payload in some arena. -/
structure CallStatus.Filled (status : CallStatus) (fill : Fill) (heap : Heap) : Prop where
  code : status.code = fill.statusCode
  length : status.payload.length = fill.payloadLength
  read : heap.read status.payload = fill.visible

theorem Heap.Holds.length_eq {heap : Heap} {index : Nat} {buffer : Buffer} {bytes : List UInt8}
    (held : heap.Holds index buffer bytes) : buffer.length = Int32.ofNat bytes.length := by
  cases held <;> rfl

theorem Caller.exists_allocIn {caller : Caller} {arena : Nat} (sound : caller.heap.Sound)
    (bound : arena < caller.heap.arenas.length) {bytes : List UInt8}
    (fits : bytes.length ≤ Buffer.maxLength) :
    ∃ buffer heap, allocIn arena bytes caller = (.ok buffer, { caller with heap }) ∧
      heap.Holds arena buffer bytes ∧ heap.Sound ∧
      heap.arenas.length = caller.heap.arenas.length := by
  obtain ⟨buffer, heap, allocated⟩ := caller.heap.exists_alloc_of_fits arena fits
  refine ⟨buffer, heap, ?_, Heap.holds_of_alloc bound allocated, sound.alloc bound allocated, ?_⟩
  · rw [allocIn, allocated]
  · obtain ⟨-, -, rfl⟩ | ⟨-, -, -, arenas, -⟩ := Heap.arena_of_alloc bound allocated
    · rfl
    · exact arenas

theorem Fill.exists_status {fill : Fill} (fits : fill.Fits) {caller : Caller} {arena : Nat}
    (sound : caller.heap.Sound) (bound : arena < caller.heap.arenas.length) :
    ∃ status heap, fill.status (Caller.allocIn arena) caller = (.ok status, { caller with heap }) ∧
      status.Filled fill heap ∧ heap.Sound ∧ heap.arenas.length = caller.heap.arenas.length := by
  obtain ⟨buffer, heap, made, held, sound, arenas⟩ :
      ∃ buffer heap, fill.status (Caller.allocIn arena) caller =
          (.ok ⟨fill.statusCode, (fill.length.map buffer.withLength).getD buffer⟩,
            { caller with heap }) ∧
        heap.Holds arena buffer (fill.payload.getD []) ∧ heap.Sound ∧
        heap.arenas.length = caller.heap.arenas.length := by
    obtain ⟨code, payload, length⟩ := fill
    cases payload with
    | none => exact ⟨.null, caller.heap, by cases length <;> rfl, .null, sound, rfl⟩
    | some bytes =>
        obtain ⟨buffer, heap, made, kept⟩ := Caller.exists_allocIn sound bound fits
        refine ⟨buffer, heap, (Action.bind_of_ok made _).trans ?_, kept⟩
        cases length <;> rfl
  have resized : (fill.length.map buffer.withLength).getD buffer =
      { buffer with length := fill.payloadLength } := by
    unfold payloadLength
    cases fill.length with
    | none => exact congrArg (Buffer.mk · buffer.address) held.length_eq
    | some length => rfl
  rw [resized] at made
  exact ⟨_, heap, made, ⟨rfl, rfl, sound.read_resized held _⟩, sound, arenas⟩

namespace Caller

/-- The library is behind the active allocator, and this is how it answers the next releases. -/
structure Serves (caller : Caller) (index count : Nat) (answers : Nat → Fill) : Prop where
  active : caller.active.source = .image index
  sound : caller.heap.Sound
  library : ∃ image, caller.images[index]? = some image ∧
    image.arena < caller.heap.arenas.length ∧
    ∀ k < count, image.freeScript[k]? = some (some (answers k))
  fits : ∀ k < count, (answers k).Fits

namespace Serves

variable {caller : Caller} {index count : Nat} {answers : Nat → Fill}

theorem notify (serves : caller.Serves index count answers) (notices : List Notice) :
    (caller.notify notices).Serves index count answers :=
  ⟨serves.active, serves.sound, serves.library, serves.fits⟩

theorem mono (serves : caller.Serves index count answers) {fewer : Nat} (fewer_le : fewer ≤ count) :
    caller.Serves index fewer answers := by
  obtain ⟨image, found, bound, script⟩ := serves.library
  exact ⟨serves.active, serves.sound,
    ⟨image, found, bound, fun k within => script k (Nat.lt_of_lt_of_le within fewer_le)⟩,
    fun k within => serves.fits k (Nat.lt_of_lt_of_le within fewer_le)⟩

/-- A call gives the next answer, and the rest of them is still to come. -/
theorem freeSymbol (serves : caller.Serves index (count + 1) answers) (buffer : Buffer) :
    ∃ status after, Caller.freeSymbol index buffer caller = (.ok (status, ()), after) ∧
      status.Filled (answers 0) after.heap ∧ after.Serves index count (fun k => answers (k + 1)) ∧
      after.freeCalls index = caller.freeCalls index + 1 := by
  obtain ⟨active, sound, ⟨image, found, bound, script⟩, fits⟩ := serves
  have within : index < caller.images.length := (List.getElem?_eq_some_iff.mp found).1
  have first : image.freeScript.head?.join = some (answers 0) := by
    rw [List.head?_eq_getElem?, script 0 (Nat.succ_pos count)]
    rfl
  have taken := onImage_of_found found Image.nextFree
  rw [Image.nextFree, first] at taken
  let counted : Caller := { caller with images := caller.images.set index image.nextFree.2 }
  have next : counted.images[index]? = some image.nextFree.2 := List.getElem?_set_self within
  have soundThere : counted.heap.Sound := sound
  obtain ⟨status, heap, filled, reads, sound, arenas⟩ :=
    Fill.exists_status (fits 0 (Nat.succ_pos count)) soundThere bound
  refine ⟨status, { counted with heap }, ?_, reads, ⟨active, sound, ⟨_, next, ?_, ?_⟩, ?_⟩, ?_⟩
  · rw [Caller.freeSymbol, Action.bind_of_ok taken]
    exact Action.bind_of_ok filled _
  · exact arenas ▸ bound
  · intro k later
    rw [← script (k + 1) (Nat.succ_lt_succ later)]
    simp [Image.nextFree]
  · exact fun k later => fits (k + 1) (Nat.succ_lt_succ later)
  · change (counted.images[index]?.map Image.freeCalls).getD 0 = _
    rw [next, freeCalls, found]
    rfl

end Serves

end Caller

namespace CallStatus

variable {release : Buffer → Action Caller Unit} {status : CallStatus} {fill : Fill}
  {caller after : Caller}

/-- What a step finds out about a status is logged and then raised. -/
theorem unpack_noted {β : Type} {step : Action Caller β} {result : Except Fault β}
    (ran : step caller = (result, after)) (notice : β → Notice) (form : β → Outcome Unit) :
    ∃ notices, (do
        .ofExcept (← (do
          let value ← step
          Caller.note (notice value)
          return form value)).unpack : Action Caller Unit) caller =
      (result.bind fun value => (form value).unpack, after.notify notices) := by
  cases result with
  | ok value =>
      refine ⟨[notice value], Action.bind_of_ok ?_ _⟩
      rw [Action.bind_of_ok ran]
      rfl
  | error fault =>
      refine ⟨[], ?_⟩
      rw [Caller.notify_nil]
      exact Action.bind_of_error (Action.bind_of_error ran _) _

/-- Nothing is released, and the status is all that counts. -/
theorem check_of_undemanding (filled : status.Filled fill caller.heap) (idle : ¬fill.Demanding) :
    ∃ notices, check release .undeclared .replacing status caller =
      (fill.verdict, caller.notify notices) := by
  obtain ⟨code, length, -⟩ := filled
  by_cases success : fill.statusCode = 0
  · refine ⟨[], ?_⟩
    have passed : status.isSuccess = true := by simp [isSuccess, code, success]
    rw [check, Action.bind_of_ok (outcome_of_success passed ..)]
    simp [Fill.verdict, success, Outcome.unpack, Caller.notify]
  · have panicked : fill.statusCode = 2 := by
      by_contra other
      exact idle ⟨success, fun panic => absurd panic other⟩
    have silent : ¬0 < fill.payloadLength := fun text => idle ⟨success, fun _ => text⟩
    have text : panicText release .replacing status.payload caller = (.ok silentPanic, caller) := by
      rw [panicText, length, if_neg silent]
      rfl
    obtain ⟨notices, raised⟩ := unpack_noted text Notice.panicked Outcome.panic
    refine ⟨notices, ?_⟩
    rw [check, outcome, isSuccess, isError, isPanic, code, panicked]
    refine raised.trans ?_
    simp [Fill.verdict, panicked, silent, Except.bind, Outcome.unpack]

/-- The payload is released, and if that fails the status counts for nothing. -/
theorem check_of_demanding (filled : status.Filled fill caller.heap) (demanding : fill.Demanding) :
    ∃ notices, check release .undeclared .replacing status caller =
      ((release status.payload caller).1.bind fun _ => fill.verdict,
        (release status.payload caller).2.notify notices) := by
  obtain ⟨code, length, read⟩ := filled
  obtain ⟨failed, text⟩ := demanding
  generalize ran : release status.payload caller = released
  obtain ⟨result, after⟩ := released
  by_cases error : fill.statusCode = 1
  · have lifted : Lifter.lift release status.payload .undeclared caller =
        (result.map fun _ => .undeclaredError, after) := by
      cases result with
      | ok => exact Action.bind_of_ok ran _
      | error => exact Action.bind_of_error ran _
    obtain ⟨notices, raised⟩ := unpack_noted lifted Notice.returnedError Outcome.failure
    refine ⟨notices, ?_⟩
    rw [check, outcome, isSuccess, isError, code, error]
    refine raised.trans ?_
    cases result <;> simp [Fill.verdict, error, Except.bind, Except.map, Outcome.unpack]
  · by_cases panicked : fill.statusCode = 2
    · have lifted : panicText release .replacing status.payload caller =
          (result.map fun _ => String.ofList (Utf8.replacing fill.visible), after) := by
        have consumed := Caller.consume_apply release status.payload caller
        rw [ran, read] at consumed
        rw [panicText, length, if_pos (text panicked)]
        cases result with
        | ok => exact Action.bind_of_ok consumed _
        | error => exact Action.bind_of_error consumed _
      obtain ⟨notices, raised⟩ := unpack_noted lifted Notice.panicked Outcome.panic
      refine ⟨notices, ?_⟩
      rw [check, outcome, isSuccess, isError, isPanic, code, panicked]
      refine raised.trans ?_
      cases result <;>
        simp [Fill.verdict, panicked, text panicked, Except.bind, Except.map, Outcome.unpack]
    · refine ⟨[], ?_⟩
      rw [Caller.notify_nil, check, outcome, isSuccess, isError, isPanic, code]
      simp only [failed, error, panicked, decide_false, Bool.false_eq_true, if_false, unknown]
      cases result with
      | ok =>
          rw [Action.bind_of_error ((Action.bind_of_ok ran _).trans (Action.fail_apply ..))]
          simp [Except.bind, Fill.verdict, failed, error, panicked, code]
      | error => exact Action.bind_of_error (Action.bind_of_error ran _) _

end CallStatus

theorem Call.raising_of_called {release : Buffer → Action Caller Unit} {lifter : Lifter}
    {function : CallStatus → Action Caller (CallStatus × Unit)} {status : CallStatus}
    {caller middle : Caller} (called : function .fresh caller = (.ok (status, ()), middle)) :
    raising release lifter function caller =
      CallStatus.check release lifter .replacing status middle := by
  rw [raising, Action.bind_of_ok called]
  change (CallStatus.check release lifter .replacing status >>= fun _ => pure ()) middle = _
  rw [Action.bind_apply]
  cases CallStatus.check release lifter .replacing status middle with
  | mk result after => cases result <;> rfl

/-- What a release comes to whose innermost call, with `k` others around it, asks for no further
release. The failure of an inner release hides the statuses farther out. -/
def Fill.ending (answers : Nat → Fill) : Nat → Except Fault Unit
  | 0 => (answers 0).verdict
  | k + 1 => (answers (k + 1)).verdict.bind fun _ => (answers k).verdict

theorem Fill.ending_succ {answers : Nat → Fill} {k : Nat}
    (demanding : ∀ j < k + 1, (answers j).Demanding) :
    ending answers (k + 1) =
      (ending (fun j => answers (j + 1)) k).bind fun _ => (answers 0).verdict := by
  cases k with
  | zero => rfl
  | succ k =>
      obtain ⟨fault, failed⟩ := Fill.exists_fault (demanding (k + 1) (Nat.lt_succ_self _)).1
      simp only [ending, failed]
      cases (answers (k + 1 + 1)).verdict <;> rfl

theorem Fill.family_of_ending {answers : Nat → Fill} {k : Nat} {fault : Fault}
    (failed : ending answers k = .error fault) :
    fault.family? = some .internal ∨ fault.family? = some .panic := by
  cases k with
  | zero => exact family_of_verdict failed
  | succ k =>
      cases innermost : (answers (k + 1)).verdict with
      | ok =>
          rw [ending, innermost] at failed
          exact family_of_verdict failed
      | error other =>
          rw [ending, innermost] at failed
          cases failed
          exact family_of_verdict innermost

namespace Caller

variable {caller : Caller} {index limit count k : Nat} {answers : Nat → Fill}
  {allocator : Allocator}

/-- A release calls the symbol and unpacks the status, which may start the next release. -/
theorem Serves.freeNested (serves : caller.Serves index (count + 1) answers)
    (source : allocator.source = .image index) (limit : Nat) (buffer : Buffer) :
    ∃ (payload : Buffer) (middle : Caller) (notices : List Notice),
      middle.Serves index count (fun j => answers (j + 1)) ∧
      middle.freeCalls index = caller.freeCalls index + 1 ∧
      (¬(answers 0).Demanding → Caller.freeNested (limit + 1) allocator buffer caller =
        ((answers 0).verdict, middle.notify notices)) ∧
      ((answers 0).Demanding → Caller.freeNested (limit + 1) allocator buffer caller =
        ((Caller.freeNested limit middle.active payload middle).1.bind fun _ =>
            (answers 0).verdict,
          (Caller.freeNested limit middle.active payload middle).2.notify notices)) := by
  obtain ⟨status, middle, called, filled, serves, calls⟩ := serves.freeSymbol buffer
  have unpacked : Caller.freeNested (limit + 1) allocator buffer caller =
      CallStatus.check (fun payload => do Caller.freeNested limit (← Action.state).active payload)
        .undeclared .replacing status middle := by
    rw [Caller.freeNested, source]
    exact Call.raising_of_called called
  by_cases demanding : (answers 0).Demanding
  · obtain ⟨notices, unpacks⟩ := CallStatus.check_of_demanding filled demanding
    exact ⟨status.payload, middle, notices, serves, calls, fun idle => absurd demanding idle,
      fun _ => unpacked.trans unpacks⟩
  · obtain ⟨notices, unpacks⟩ := CallStatus.check_of_undemanding filled demanding
    exact ⟨status.payload, middle, notices, serves, calls, fun _ => unpacked.trans unpacks,
      fun demands => absurd demands demanding⟩

theorem free_eq (buffer : Buffer) (caller : Caller) :
    Caller.free buffer caller =
      Caller.freeNested maxNestedReleases caller.active buffer caller := rfl

theorem freeCalls_notify (caller : Caller) (notices : List Notice) (index : Nat) :
    (caller.notify notices).freeCalls index = caller.freeCalls index := rfl

theorem Serves.ends (serves : caller.Serves index (k + 1) answers) (room : k < limit)
    (demanding : ∀ j < k, (answers j).Demanding) (idle : ¬(answers k).Demanding)
    (source : allocator.source = .image index) (buffer : Buffer) :
    (Caller.freeNested limit allocator buffer caller).1 = Fill.ending answers k ∧
      (Caller.freeNested limit allocator buffer caller).2.freeCalls index =
        caller.freeCalls index + (k + 1) := by
  induction k generalizing caller limit answers allocator buffer with
  | zero =>
      obtain ⟨limit, rfl⟩ := Nat.exists_eq_add_one.mpr room
      obtain ⟨payload, middle, notices, -, calls, ends, -⟩ := serves.freeNested source limit buffer
      rw [ends idle]
      exact ⟨rfl, calls⟩
  | succ k ih =>
      obtain ⟨limit, rfl⟩ := Nat.exists_eq_add_one.mpr (Nat.zero_lt_of_lt room)
      obtain ⟨payload, middle, notices, serves, calls, -, goesOn⟩ :=
        serves.freeNested source limit buffer
      obtain ⟨result, inner⟩ := ih serves (Nat.lt_of_succ_lt_succ room)
        (fun j within => demanding (j + 1) (Nat.succ_lt_succ within)) idle serves.active
        payload
      rw [goesOn (demanding 0 (Nat.succ_pos k))]
      refine ⟨?_, ?_⟩
      · rw [Fill.ending_succ demanding, result]
      · rw [freeCalls_notify, inner, calls]
        omega

/-- The limit is reached by calls that have not returned, so that none of their statuses counts. -/
theorem Serves.overflows (serves : caller.Serves index limit answers)
    (demanding : ∀ j < limit, (answers j).Demanding) (source : allocator.source = .image index)
    (buffer : Buffer) :
    (Caller.freeNested limit allocator buffer caller).1 = .error .nestedReleases ∧
      (Caller.freeNested limit allocator buffer caller).2.freeCalls index =
        caller.freeCalls index + limit := by
  induction limit generalizing caller answers allocator buffer with
  | zero =>
      rw [Caller.freeNested, source]
      exact ⟨rfl, rfl⟩
  | succ limit ih =>
      obtain ⟨payload, middle, notices, serves, calls, -, goesOn⟩ :=
        serves.freeNested source limit buffer
      obtain ⟨result, inner⟩ := ih serves
        (fun j within => demanding (j + 1) (Nat.succ_lt_succ within)) serves.active payload
      rw [goesOn (demanding 0 (Nat.succ_pos limit))]
      refine ⟨?_, ?_⟩
      · rw [result]
        rfl
      · rw [freeCalls_notify, inner, calls]
        omega

end Caller

/-- A release through a library ends at the first of its calls whose status asks for no further
release, with what the innermost calls report, and the same way whatever the limit beyond it. While
every status asks for one, calls are made up to the limit, and none of their statuses is heard of. -/
theorem release_ends_or_overflows {caller : Caller} {index count : Nat} {answers : Nat → Fill}
    (serves : caller.Serves index count answers) {allocator : Allocator}
    (source : allocator.source = .image index) (buffer : Buffer) :
    (∀ k < count, (∀ j < k, (answers j).Demanding) → ¬(answers k).Demanding → ∀ limit, k < limit →
      (Caller.freeNested limit allocator buffer caller).1 = Fill.ending answers k ∧
      (Caller.freeNested limit allocator buffer caller).2.freeCalls index =
        caller.freeCalls index + (k + 1) ∧
      ∀ fault, Fill.ending answers k = .error fault →
        fault.family? = some .internal ∨ fault.family? = some .panic) ∧
    ∀ limit ≤ count, (∀ j < limit, (answers j).Demanding) →
      (Caller.freeNested limit allocator buffer caller).1 = .error .nestedReleases ∧
      Fault.nestedReleases.kind = .recursion ∧
      (Caller.freeNested limit allocator buffer caller).2.freeCalls index =
        caller.freeCalls index + limit := by
  constructor
  · intro k within demanding idle limit room
    obtain ⟨result, calls⟩ := (serves.mono within).ends room demanding idle source buffer
    exact ⟨result, calls, fun _ failed => Fill.family_of_ending failed⟩
  · intro limit within demanding
    obtain ⟨result, calls⟩ := (serves.mono within).overflows demanding source buffer
    exact ⟨result, rfl, calls⟩

/-- A library whose next releases are answered like this, behind the active allocator. -/
def answering (answers : Nat → Fill) : Caller :=
  { Caller.initial .bare 8 with
    heap := (Caller.initial .bare 8).heap.addArena.2
    images := [⟨["demo_rustbuffer_from_bytes", "demo_rustbuffer_free"], 0, 1, [],
      (List.range Caller.maxNestedReleases).map fun k => some (answers k), [], 0⟩]
    active := ⟨"library", .image 0⟩ }

theorem answering_serves {answers : Nat → Fill} (fits : ∀ k, (answers k).Fits) :
    (answering answers).Serves 0 Caller.maxNestedReleases answers :=
  have sound : (answering answers).heap.Sound := (Heap.Sound.initial .bare 8).addArena
  have bound : 1 < (answering answers).heap.arenas.length := Nat.one_lt_two
  have script : ∀ k < Caller.maxNestedReleases,
      ((List.range Caller.maxNestedReleases).map fun k => some (answers k))[k]? =
        some (some (answers k)) := by
    intro k within
    simp [within]
  ⟨rfl, sound, ⟨_, rfl, bound, script⟩, fun k _ => fits k⟩

/-- An error with a payload, then an unknown code with a length and no payload, then success. -/
def grudging : Nat → Fill
  | 0 => ⟨1, some [120], none⟩
  | 1 => ⟨7, none, some 5⟩
  | _ => ⟨0, none, none⟩

theorem release_ends_grudging :
    (answering grudging).Serves 0 Caller.maxNestedReleases grudging ∧
      (Caller.free .null (answering grudging)).1 = .error (.unknownStatus 7) ∧
      (Caller.free .null (answering grudging)).2.freeCalls 0 = 3 :=
  have serves : (answering grudging).Serves 0 Caller.maxNestedReleases grudging :=
    answering_serves fun k => by
      match k with
      | 0 => decide
      | 1 | _ + 2 => exact Nat.zero_le _
  have ended := (release_ends_or_overflows serves serves.active .null).1 2 (by decide) (by decide)
    (by decide) Caller.maxNestedReleases (by decide)
  have unheard : (answering grudging).freeCalls 0 = 0 := rfl
  ⟨serves, by rw [Caller.free_eq, ended.1]; rfl, by rw [Caller.free_eq, ended.2.1, unheard]⟩

/-- An error each time, without a payload. -/
def refusing : Nat → Fill := fun _ => ⟨1, none, none⟩

theorem release_overflows_refusing :
    (Caller.free .null (answering refusing)).1 = .error .nestedReleases ∧
      (Caller.free .null (answering refusing)).2.freeCalls 0 = Caller.maxNestedReleases := by
  have serves : (answering refusing).Serves 0 Caller.maxNestedReleases refusing :=
    answering_serves fun _ => Nat.zero_le _
  have demanding : Fill.Demanding ⟨1, none, none⟩ := by decide
  have unheard : (answering refusing).freeCalls 0 = 0 := rfl
  rw [Caller.free_eq]
  obtain ⟨result, calls⟩ := serves.overflows (fun _ _ => demanding) serves.active .null
  exact ⟨result, by rw [calls, unheard, Nat.zero_add]⟩

end ForeignCall
