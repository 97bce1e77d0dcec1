import ForeignCall.Allocator
import ForeignCall.Proofs.Payload.Blocks

/-! What becomes of the payload of a completed call. Whoever looks into it also releases it, once,
and whatever comes of looking into it. -/

namespace ForeignCall

def Lifter.verdict (bytes : List UInt8) : Lifter → Except Fault Fault
  | .undeclared => .ok .undeclaredError
  | .decoding decode => decode bytes
  | .serialized codec factory => ofPayload codec factory bytes
  | .peeking decode => decode bytes

/-- Whether a lifter takes the payload over. -/
def Lifter.Owning : Lifter → Prop
  | .undeclared | .decoding _ | .serialized _ _ => True
  | .peeking _ => False

def CallStatus.verdict {α : Type} (lifter : Lifter) (decode : List UInt8 → Except Fault String)
    (status : CallStatus) (value : α) (bytes : List UInt8) : Except Fault (Outcome α) :=
  if status.isSuccess then .ok (.success value)
  else if status.isError then (lifter.verdict bytes).map .failure
  else if status.isPanic then
    (if bytes.isEmpty then .ok silentPanic else decode bytes).map .panic
  else .error (.unknownStatus status.code.toInt)

namespace Caller

/-- The active allocator is an arena of this side, and gave out the buffer for the bytes. -/
structure Carries (caller : Caller) (index : Nat) (buffer : Buffer) (bytes : List UInt8) :
    Prop where
  active : caller.active.source = .arena index
  sound : caller.heap.Sound
  held : caller.heap.Holds index buffer bytes

/-- A step gives the result, takes the buffer back into the arena, and does no more than log. -/
structure Settles {β : Type} (before : Caller) (index : Nat) (buffer : Buffer)
    (result : Except Fault β) (ran : Except Fault β × Caller) : Prop where
  result : ran.1 = result
  released : Heap.Released index buffer before.heap ran.2.heap
  others : ∃ notices, ran.2 = { before with heap := ran.2.heap, log := before.log ++ notices }

variable {caller : Caller} {index : Nat} {buffer : Buffer} {bytes : List UInt8}

theorem Settles.bare {β : Type} {result : Except Fault β} {heap : Heap}
    (released : Heap.Released index buffer caller.heap heap) :
    Settles caller index buffer result (result, { caller with heap }) :=
  ⟨rfl, released, [], by simp⟩

theorem Settles.noted {β γ : Type} {result : Except Fault β} {step : Action Caller β} {heap : Heap}
    (released : Heap.Released index buffer caller.heap heap)
    (ran : step caller = (result, { caller with heap })) (notice : β → Notice) (form : β → γ) :
    Settles caller index buffer (result.map form)
      ((do
        let value ← step
        note (notice value)
        return form value) caller) := by
  cases result with
  | ok value =>
      rw [Action.bind_of_ok ran]
      exact ⟨rfl, released, [notice value], rfl⟩
  | error fault =>
      rw [Action.bind_of_error ran]
      exact .bare released

theorem Settles.bind {β γ : Type} {result : Except Fault β} {step : Action Caller β}
    (settles : Settles caller index buffer result (step caller)) (next : β → Except Fault γ) :
    Settles caller index buffer (result.bind next)
      ((step >>= fun value => .ofExcept (next value)) caller) := by
  obtain ⟨returned, released, others⟩ := settles
  rw [Action.bind_apply]
  generalize step caller = ran at returned released others
  obtain ⟨outcome, after⟩ := ran
  cases outcome <;> cases returned <;> exact ⟨rfl, released, others⟩

theorem free_of_arena (active : caller.active.source = .arena index) (buffer : Buffer) :
    Caller.free buffer caller = Caller.releaseIn index buffer caller := by
  rw [free, Action.bind_of_ok (Action.state_apply caller), freeBy, freeNested, active]

theorem Carries.free (carries : caller.Carries index buffer bytes) :
    ∃ heap, Heap.Released index buffer caller.heap heap ∧
      Caller.free buffer caller = (.ok (), { caller with heap }) := by
  obtain ⟨heap, taken, released⟩ := Heap.release_of_holds carries.held
  refine ⟨heap, released, ?_⟩
  rw [free_of_arena carries.active, releaseIn, taken]

end Caller

variable {caller : Caller} {index : Nat} {payload : Buffer} {bytes : List UInt8}

theorem Caller.consume_eq {after : Caller} (read : caller.heap.read payload = bytes)
    (freed : Caller.free payload caller = (.ok (), after)) :
    Caller.consume Caller.free payload caller = (.ok bytes, after) := by
  simp [consume, Action.ensuring, Caller.read, freed, read]

theorem Lifter.lift_eq {lifter : Lifter} (owning : lifter.Owning) {after : Caller}
    (read : caller.heap.read payload = bytes)
    (freed : Caller.free payload caller = (.ok (), after)) :
    lifter.lift Caller.free payload caller = (lifter.verdict bytes, after) := by
  have consumed := Caller.consume_eq read freed
  cases lifter with
  | undeclared => exact Action.bind_of_ok freed _
  | decoding decode => exact Action.bind_of_ok consumed _
  | serialized codec factory => exact Action.bind_of_ok consumed _
  | peeking decode => exact owning.elim

theorem CallStatus.panicText_eq (decode : List UInt8 → Except Fault String) {heap : Heap}
    (carries : caller.Carries index payload bytes)
    (freed : Caller.free payload caller = (.ok (), { caller with heap })) :
    panicText Caller.free (.consuming decode) payload caller =
      (if bytes.isEmpty then .ok silentPanic else decode bytes, { caller with heap }) := by
  unfold panicText
  by_cases full : 0 < payload.length
  · have nonempty := carries.held.length_pos_iff.mp full
    rw [if_pos full, if_neg (by simpa using nonempty)]
    exact Action.bind_of_ok (Caller.consume_eq (carries.sound.read_eq carries.held) freed) _
  · obtain ⟨active, -, held⟩ := carries
    cases held with
    | null =>
        -- There is no block, so that releasing it would have changed nothing.
        have kept : Caller.free .null caller = (.ok (), caller) := Caller.free_of_arena active .null
        have same : caller = { caller with heap } := congrArg Prod.snd (kept.symm.trans freed)
        rw [if_neg full]
        exact Prod.ext rfl same
    | block nonempty fits live =>
        exact absurd ((Heap.Holds.block nonempty fits live).length_pos_iff.mpr nonempty) full

theorem CallStatus.outcome_settles {α : Type} {lifter : Lifter} (owning : lifter.Owning)
    (decode : List UInt8 → Except Fault String) {status : CallStatus}
    (failed : status.isSuccess = false) (value : α)
    (carries : caller.Carries index status.payload bytes) :
    caller.Settles index status.payload (status.verdict lifter decode value bytes)
      (outcome Caller.free lifter (.consuming decode) status value caller) := by
  obtain ⟨heap, released, freed⟩ := carries.free
  have read := carries.sound.read_eq carries.held
  simp only [outcome, verdict, failed, Bool.false_eq_true, if_false]
  split
  next => exact .noted released (Lifter.lift_eq owning read freed) _ _
  next =>
    split
    next => exact .noted released (panicText_eq decode carries freed) _ _
    next =>
      rw [unknown, Action.bind_of_ok freed]
      exact .bare released

theorem CallStatus.check_settles {lifter : Lifter} (owning : lifter.Owning)
    (decode : List UInt8 → Except Fault String) {status : CallStatus}
    (failed : status.isSuccess = false) (carries : caller.Carries index status.payload bytes) :
    caller.Settles index status.payload
      ((status.verdict lifter decode () bytes).bind Outcome.unpack)
      (check Caller.free lifter (.consuming decode) status caller) :=
  (outcome_settles owning decode failed () carries).bind Outcome.unpack

theorem CallStatus.verdict_unpack {α : Type} (lifter : Lifter)
    (decode : List UInt8 → Except Fault String) (status : CallStatus) (value : α)
    (bytes : List UInt8) :
    (((status.verdict lifter decode () bytes).bind Outcome.unpack).bind fun _ => .ok value) =
      (status.verdict lifter decode value bytes).bind Outcome.unpack := by
  unfold verdict
  split
  next => rfl
  next =>
    split
    next => cases lifter.verdict bytes <;> rfl
    next =>
      split
      next => generalize (if bytes.isEmpty then _ else _ : Except Fault String) = text
              cases text <;> rfl
      next => rfl

section Call

variable {α : Type} {function : CallStatus → Action Caller (CallStatus × α)} {start : Caller}
  {status : CallStatus} {value : α}

theorem Call.raising_settles {lifter : Lifter} (owning : lifter.Owning)
    (failed : status.isSuccess = false) (carries : caller.Carries index status.payload bytes)
    (returned : function .fresh start = (.ok (status, value), caller)) :
    caller.Settles index status.payload
      ((status.verdict lifter replacingText value bytes).bind Outcome.unpack)
      (raising Caller.free lifter function start) := by
  rw [raising, Action.bind_of_ok returned, ← CallStatus.verdict_unpack]
  exact (CallStatus.check_settles owning replacingText failed carries).bind fun _ => .ok value

theorem Call.outcome_settles {lifter : Lifter} (owning : lifter.Owning)
    (failed : status.isSuccess = false) (carries : caller.Carries index status.payload bytes)
    (returned : function .fresh start = (.ok (status, value), caller)) :
    caller.Settles index status.payload (status.verdict lifter replacingText value bytes)
      (outcome Caller.free lifter function start) := by
  rw [outcome, Action.bind_of_ok returned]
  exact CallStatus.outcome_settles owning replacingText failed value carries

end Call

/-- A failed call gives what its status and the bytes of the payload say, releases the payload once
if there is one, and touches no other block. A successful one touches nothing. -/
theorem payload_released_once {α : Type} (lifter : Lifter) (owning : lifter.Owning)
    (decode : List UInt8 → Except Fault String) (status : CallStatus) (value : α)
    (caller : Caller) :
    (status.isSuccess = true →
      CallStatus.check Caller.free lifter (.consuming decode) status caller = (.ok (), caller) ∧
      CallStatus.outcome Caller.free lifter (.consuming decode) status value caller =
        (.ok (.success value), caller) ∧
      ∀ function start, function .fresh start = (.ok (status, value), caller) →
        Call.raising Caller.free lifter function start = (.ok value, caller) ∧
        Call.outcome Caller.free lifter function start = (.ok (.success value), caller)) ∧
    (status.isSuccess = false → ∀ index bytes, caller.Carries index status.payload bytes →
      caller.Settles index status.payload
        ((status.verdict lifter decode () bytes).bind Outcome.unpack)
        (CallStatus.check Caller.free lifter (.consuming decode) status caller) ∧
      caller.Settles index status.payload (status.verdict lifter decode value bytes)
        (CallStatus.outcome Caller.free lifter (.consuming decode) status value caller) ∧
      ∀ function start, function .fresh start = (.ok (status, value), caller) →
        caller.Settles index status.payload
          ((status.verdict lifter replacingText value bytes).bind Outcome.unpack)
          (Call.raising Caller.free lifter function start) ∧
        caller.Settles index status.payload (status.verdict lifter replacingText value bytes)
          (Call.outcome Caller.free lifter function start)) := by
  constructor
  · intro success
    have checked : ∀ texts,
        CallStatus.check Caller.free lifter texts status caller = (.ok (), caller) :=
      fun texts =>
        Action.bind_of_ok (CallStatus.outcome_of_success success lifter texts () caller) _
    refine ⟨checked _, CallStatus.outcome_of_success success .., ?_⟩
    intro function start returned
    constructor
    · rw [Call.raising, Action.bind_of_ok returned]
      exact Action.bind_of_ok (checked _) _
    · rw [Call.outcome, Action.bind_of_ok returned]
      exact CallStatus.outcome_of_success success ..
  · intro failed index bytes carries
    refine ⟨CallStatus.check_settles owning decode failed carries,
      CallStatus.outcome_settles owning decode failed value carries, ?_⟩
    intro function start returned
    exact ⟨Call.raising_settles owning failed carries returned,
      Call.outcome_settles owning failed carries returned⟩

def withPayload : Caller :=
  { Caller.initial .bare 8 with heap := ⟨[⟨[(0x1000, [0xff, 0xfe])], 1, 0⟩], 0x1001⟩ }

def undecodable : Lifter :=
  .decoding fun _ => .error (.foreign "bad payload")

def undecodableError : CallStatus :=
  ⟨1, ⟨2, some 0x1000⟩⟩

theorem withPayload_carries : withPayload.Carries 0 undecodableError.payload [0xff, 0xfe] :=
  have bound : 0 < (Caller.initial .bare 8).heap.arenas.length := by decide
  have allocated : (Caller.initial .bare 8).heap.alloc 0 [0xff, 0xfe] =
      .ok (undecodableError.payload, withPayload.heap) := rfl
  ⟨rfl, (Heap.Sound.initial .bare 8).alloc bound allocated, Heap.holds_of_alloc bound allocated⟩

theorem payload_released_undecodable :
    undecodable.Owning ∧ undecodableError.isSuccess = false ∧
      withPayload.Carries 0 undecodableError.payload [0xff, 0xfe] ∧
      withPayload.Settles 0 undecodableError.payload
        (.error (.foreign "bad payload") : Except Fault Unit)
        (Call.raising Caller.free undecodable (fun _ caller => (.ok (undecodableError, ()), caller))
          withPayload) :=
  have settled := (payload_released_once undecodable trivial replacingText undecodableError ()
    withPayload).2 rfl 0 [0xff, 0xfe] withPayload_carries
  ⟨trivial, rfl, withPayload_carries, (settled.2.2 _ withPayload rfl).1⟩

end ForeignCall
