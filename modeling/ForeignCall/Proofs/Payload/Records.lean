import ForeignCall.Proofs.Payload.Texts

/-! What is logged about a failed call. The record follows the look into the payload, so that a panic
is always recorded, and an error only if its lifter comes to a fault and does not itself fail. -/

namespace ForeignCall

/-- A debug record about a call. -/
def Notice.IsCallRecord (notice : Notice) : Prop :=
  notice.channel = "rustcall.invoke" ∧ notice.level = .debug

instance (notice : Notice) : Decidable notice.IsCallRecord :=
  inferInstanceAs (Decidable (_ ∧ _))

def Caller.callRecords (caller : Caller) : Nat :=
  caller.log.countP fun notice => notice.IsCallRecord

/-- A step whose result is logged if it gives one. -/
theorem Caller.log_of_noted {β γ : Type} {step : Action Caller β} {before after : Caller}
    {result : Except Fault β} (ran : step before = (result, after)) (notice : β → Notice)
    (form : β → γ) :
    ((do
      let value ← step
      Caller.note (notice value)
      return form value : Action Caller γ) before).2.log =
      after.log ++ (result.toOption.map notice).toList := by
  cases result with
  | ok value =>
      rw [Action.bind_of_ok ran]
      rfl
  | error fault =>
      rw [Action.bind_of_error ran]
      exact (List.append_nil _).symm

namespace CallStatus

/-- What judging the status logs, when these bytes can be read through its payload. -/
def records (lifter : Lifter) (status : CallStatus) (bytes : List UInt8) : List Notice :=
  if status.code = 1 then ((lifter.verdict bytes).toOption.map .returnedError).toList
  else if status.code = 2 then
    [.panicked (if 0 < status.payload.length then shownText bytes else silentPanic)]
  else []

/-- A failed or panicked call is recorded once, and one that succeeded is not. -/
structure RecordedAsDue (status : CallStatus) (before after : Caller) : Prop where
  failed : status.code = 1 ∨ status.code = 2 → after.callRecords = before.callRecords + 1
  succeeded : status.code = 0 → after.callRecords = before.callRecords

variable {α : Type} {caller counted : Caller} {index : Nat} {bytes : List UInt8} {lifter : Lifter}
  {status : CallStatus}

theorem log_of_outcome (owning : lifter.Owning) (sound : caller.heap.Sound)
    (shows : caller.heap.Shows index status.payload bytes) (reaches : caller.Reaches index counted)
    (value : α) :
    (outcome Caller.free lifter .replacing status value caller).2.log =
      caller.log ++ status.records lifter bytes := by
  have read := sound.read_of_shows shows
  have kept : counted.log = caller.log := by cases reaches <;> rfl
  obtain ⟨heap, -, freed⟩ := reaches.free shows
  unfold records
  split
  next error =>
    rw [outcome_of_error error, ← kept]
    exact Caller.log_of_noted (Lifter.lift_eq owning read freed) _ _
  next noError =>
    split
    next panicked =>
      rw [outcome_of_panic panicked]
      by_cases full : 0 < status.payload.length
      · obtain ⟨heap, -, lifted⟩ := TextLifter.lift_replacing sound shows reaches
        have told : panicText Caller.free .replacing status.payload caller =
            (.ok (shownText bytes), { counted with heap }) := by rw [panicText, if_pos full, lifted]
        rw [if_pos full, ← kept]
        exact Caller.log_of_noted told _ _
      · have told : panicText Caller.free .replacing status.payload caller =
            (.ok silentPanic, caller) := by rw [panicText, if_neg full]; rfl
        rw [if_neg full]
        exact Caller.log_of_noted told _ _
    next noPanic =>
      rw [List.append_nil]
      by_cases success : status.code = 0
      · rw [outcome_of_success (by simp [isSuccess, success])]
      · rw [outcome_of_unknown ⟨success, noError, noPanic⟩, unknown, Action.bind_of_ok freed]
        exact kept

theorem count_records (lifter : Lifter) (status : CallStatus) (bytes : List UInt8) :
    (status.records lifter bytes).countP (fun notice => notice.IsCallRecord) =
      (status.records lifter bytes).length := by
  rw [List.countP_eq_length]
  intro notice member
  rw [decide_eq_true_eq]
  unfold records at member
  split at member
  next =>
    rw [Option.mem_toList, Option.map_eq_some_iff] at member
    obtain ⟨fault, -, rfl⟩ := member
    exact ⟨rfl, rfl⟩
  next =>
    split at member
    next =>
      rw [List.mem_singleton] at member
      rw [member]
      exact ⟨rfl, rfl⟩
    next => cases member

/-- The record that is due is there, unless it is that of an error whose lifter failed. -/
theorem recordedAsDue_iff {after : Caller}
    (logged : after.log = caller.log ++ status.records lifter bytes) :
    status.RecordedAsDue caller after ↔
      (status.code = 1 → ∃ fault, lifter.verdict bytes = .ok fault) := by
  have count : after.callRecords = caller.callRecords + (status.records lifter bytes).length := by
    rw [Caller.callRecords, logged, List.countP_append, count_records]
    rfl
  constructor
  · intro due error
    have once := due.failed (.inl error)
    rw [count, records, if_pos error] at once
    cases judged : lifter.verdict bytes with
    | ok fault => exact ⟨fault, rfl⟩
    | error fault => simp [judged, Except.toOption] at once
  · intro lifted
    refine ⟨?_, ?_⟩
    · rintro (error | panicked)
      · obtain ⟨fault, judged⟩ := lifted error
        rw [count, records, if_pos error, judged]
        rfl
      · rw [count, records, if_neg (by simp [panicked]), if_pos panicked]
        rfl
    · intro success
      rw [count, records, if_neg (by simp [success]), if_neg (by simp [success])]
      rfl

end CallStatus

section Call

variable {α : Type} {function : CallStatus → Action Caller (CallStatus × α)}
  {start caller counted : Caller} {lifter : Lifter} {status : CallStatus} {value : α} {index : Nat}
  {bytes : List UInt8}

theorem Call.log_of_returned (owning : lifter.Owning)
    (returned : function .fresh start = (.ok (status, value), caller)) (sound : caller.heap.Sound)
    (shows : caller.heap.Shows index status.payload bytes)
    (reaches : caller.Reaches index counted) :
    (raising Caller.free lifter function start).2.log =
        caller.log ++ status.records lifter bytes ∧
      (outcome Caller.free lifter function start).2.log =
        caller.log ++ status.records lifter bytes := by
  have logged : (outcome Caller.free lifter function start).2.log =
      caller.log ++ status.records lifter bytes := by
    rw [outcome, Action.bind_of_ok returned]
    exact CallStatus.log_of_outcome owning sound shows reaches value
  rw [raising_eq_unpack]
  exact ⟨logged, logged⟩

/-- Once the function has returned, both forms of a call log the same: a panic in any case, an error
if its payload was lifted to a fault, and else nothing. So the record that is due fails to appear just
when the lifter itself fails. -/
theorem recorded_unless_unlifted (owning : lifter.Owning)
    (returned : function .fresh start = (.ok (status, value), caller)) (sound : caller.heap.Sound)
    (shows : caller.heap.Shows index status.payload bytes)
    (reaches : caller.Reaches index counted) :
    (Call.raising Caller.free lifter function start).2.log =
      caller.log ++ status.records lifter bytes ∧
    (Call.outcome Caller.free lifter function start).2.log =
      caller.log ++ status.records lifter bytes ∧
    (status.RecordedAsDue caller (Call.raising Caller.free lifter function start).2 ↔
      (status.code = 1 → ∃ fault, lifter.verdict bytes = .ok fault)) ∧
    (status.RecordedAsDue caller (Call.outcome Caller.free lifter function start).2 ↔
      (status.code = 1 → ∃ fault, lifter.verdict bytes = .ok fault)) := by
  obtain ⟨raised, reported⟩ := Call.log_of_returned owning returned sound shows reaches
  exact ⟨raised, reported, CallStatus.recordedAsDue_iff raised,
    CallStatus.recordedAsDue_iff reported⟩

end Call

/-- Makes a fault of the bytes as they are. -/
def bytewise : Lifter :=
  .decoding fun bytes => .ok (.domain (.bytes bytes))

def reporting (status : CallStatus) : CallStatus → Action Caller (CallStatus × Unit) :=
  fun _ => return (status, ())

theorem recorded_unless_unlifted_bytewise :
    bytewise.Owning ∧
      reporting undecodableError .fresh withPayload = (.ok (undecodableError, ()), withPayload) ∧
      withPayload.heap.Sound ∧ withPayload.heap.Shows 0 undecodableError.payload [0xff, 0xfe] ∧
      withPayload.Reaches 0 withPayload ∧
      (Call.raising Caller.free bytewise (reporting undecodableError) withPayload).2.log =
        [.returnedError (.domain (.bytes [0xff, 0xfe]))] ∧
      undecodableError.RecordedAsDue withPayload
        (Call.raising Caller.free bytewise (reporting undecodableError) withPayload).2 := by
  have owning : bytewise.Owning := trivial
  have returned : reporting undecodableError .fresh withPayload =
      (.ok (undecodableError, ()), withPayload) := rfl
  have carries := withPayload_carries
  have shows := carries.held.shows
  have reaches := Caller.Reaches.direct carries.active
  obtain ⟨logged, -, due, -⟩ :=
    recorded_unless_unlifted owning returned carries.sound shows reaches
  exact ⟨owning, returned, carries.sound, shows, reaches, logged, due.mpr fun _ => ⟨_, rfl⟩⟩

/-- An error whose payload cannot be decoded leaves no record behind in either form. -/
theorem unrecorded_undecodable :
    undecodable.Owning ∧ withPayload.Carries 0 undecodableError.payload [0xff, 0xfe] ∧
      undecodableError.code = 1 ∧
      ¬ undecodableError.RecordedAsDue withPayload
        (Call.raising Caller.free undecodable (reporting undecodableError) withPayload).2 ∧
      ¬ undecodableError.RecordedAsDue withPayload
        (Call.outcome Caller.free undecodable (reporting undecodableError) withPayload).2 := by
  have owning : undecodable.Owning := trivial
  have carries := withPayload_carries
  have returned : reporting undecodableError .fresh withPayload =
      (.ok (undecodableError, ()), withPayload) := rfl
  obtain ⟨raised, reported⟩ := Call.log_of_returned owning returned carries.sound
    carries.held.shows (.direct carries.active)
  -- The lifter fails on every payload.
  have unlifted : ¬ (undecodableError.code = 1 →
      ∃ fault, undecodable.verdict [0xff, 0xfe] = .ok fault) := by
    intro lifted
    obtain ⟨fault, judged⟩ := lifted rfl
    cases judged
  exact ⟨owning, carries, rfl, mt (CallStatus.recordedAsDue_iff raised).mp unlifted,
    mt (CallStatus.recordedAsDue_iff reported).mp unlifted⟩

end ForeignCall
