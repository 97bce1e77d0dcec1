import ForeignCall.Allocator

/-! The two forms of a call. The raising one judges its status without the value; what it does is
what the other one does, with the outcome unpacked. -/

namespace ForeignCall

variable {α β : Type}

def Outcome.withValue (value : β) : Outcome α → Outcome β
  | .success _ => .success value
  | .failure fault => .failure fault
  | .panic message => .panic message

theorem Outcome.unpack_withValue (value : β) (outcome : Outcome α) :
    (outcome.withValue value).unpack = outcome.unpack.map fun _ => value := by
  cases outcome <;> rfl

/-- The value of a call has no part in what becomes of its status. -/
theorem CallStatus.outcome_withValue (release : Buffer → Action Caller Unit) (lifter : Lifter)
    (texts : TextLifter) (status : CallStatus) (value : α) (caller : Caller) :
    outcome release lifter texts status value caller =
      ((outcome release lifter texts status () caller).1.map (Outcome.withValue value),
        (outcome release lifter texts status () caller).2) := by
  unfold outcome
  split
  next => rfl
  next =>
    split
    next =>
      unfold failure
      rw [Action.bind_apply, Action.bind_apply]
      cases lifter.lift release status.payload caller with
      | mk result after => cases result <;> rfl
    next =>
      split
      next =>
        unfold panic
        rw [Action.bind_apply, Action.bind_apply]
        cases panicText release texts status.payload caller with
        | mk result after => cases result <;> rfl
      next =>
        unfold unknown
        rw [Action.bind_apply, Action.bind_apply]
        cases release status.payload caller with
        | mk result after => cases result <;> rfl

section Outcome

variable {release : Buffer → Action Caller Unit} {status : CallStatus}

theorem CallStatus.outcome_of_error (reported : status.code = 1) (lifter : Lifter)
    (texts : TextLifter) (value : α) :
    outcome release lifter texts status value = failure release lifter status := by
  rw [outcome, if_neg (by simp [isSuccess, reported]), if_pos (by simp [isError, reported])]

theorem CallStatus.outcome_of_panic (reported : status.code = 2) (lifter : Lifter)
    (texts : TextLifter) (value : α) :
    outcome release lifter texts status value = panic release texts status := by
  rw [outcome, if_neg (by simp [isSuccess, reported]), if_neg (by simp [isError, reported]),
    if_pos (by simp [isPanic, reported])]

theorem CallStatus.outcome_of_unknown
    (unknown : status.code ≠ 0 ∧ status.code ≠ 1 ∧ status.code ≠ 2) (lifter : Lifter)
    (texts : TextLifter) (value : α) :
    outcome release lifter texts status value = CallStatus.unknown release status := by
  rw [outcome, if_neg (by simp [isSuccess, unknown.1]), if_neg (by simp [isError, unknown.2.1]),
    if_neg (by simp [isPanic, unknown.2.2])]

end Outcome

namespace Call

variable {release : Buffer → Action Caller Unit} {lifter : Lifter}
  {function : CallStatus → Action Caller (CallStatus × α)} {before filled after : Caller}
  {status : CallStatus} {value : α} {fault : Fault}

theorem raising_eq_unpack (release : Buffer → Action Caller Unit) (lifter : Lifter)
    (function : CallStatus → Action Caller (CallStatus × α)) (caller : Caller) :
    raising release lifter function caller =
      ((outcome release lifter function caller).1.bind Outcome.unpack,
        (outcome release lifter function caller).2) := by
  rw [raising, outcome, Action.bind_apply, Action.bind_apply]
  cases function .fresh caller with
  | mk answered filled =>
      cases answered with
      | error fault => rfl
      | ok answer =>
          obtain ⟨status, value⟩ := answer
          dsimp only
          rw [CallStatus.outcome_withValue, CallStatus.check, Action.bind_apply, Action.bind_apply]
          cases CallStatus.outcome release lifter .replacing status () filled with
          | mk judged after =>
              cases judged with
              | error fault => rfl
              | ok judged =>
                  dsimp only [Except.map, Except.bind, Action.ofExcept_apply]
                  rw [Outcome.unpack_withValue]
                  cases judged.unpack <;> rfl

/-- What the raising form of a call gives, against what the other form reports. -/
structure Unpacks (raised : Except Fault α × Caller) (reported : Except Fault (Outcome α) × Caller) :
    Prop where
  value : ∀ value, raised.1 = .ok value ↔ reported.1 = .ok (.success value)
  fault : ∀ fault, raised.1 = .error fault ↔
    reported.1 = .ok (.failure fault) ∨
      (∃ message, fault = .panicked message ∧ reported.1 = .ok (.panic message)) ∨
      reported.1 = .error fault
  caller : raised.2 = reported.2

theorem unpacks (release : Buffer → Action Caller Unit) (lifter : Lifter)
    (function : CallStatus → Action Caller (CallStatus × α)) (caller : Caller) :
    Unpacks (raising release lifter function caller) (outcome release lifter function caller) := by
  rw [raising_eq_unpack]
  obtain ⟨reported, after⟩ := outcome release lifter function caller
  refine ⟨fun value => ?_, fun fault => ?_, rfl⟩
  · cases reported with
    | error fault => simp [Except.bind]
    | ok outcome => cases outcome <;> simp [Except.bind, Outcome.unpack]
  · cases reported with
    | error fault => simp [Except.bind]
    | ok outcome =>
        cases outcome with
        | success value => simp [Except.bind, Outcome.unpack]
        | failure fault => simp [Except.bind, Outcome.unpack]
        | panic message =>
            simp only [Except.bind, Outcome.unpack, Except.error.injEq, Except.ok.injEq,
              reduceCtorEq, Outcome.panic.injEq, false_or, or_false]
            constructor
            · rintro rfl
              exact ⟨message, rfl, rfl⟩
            · rintro ⟨_, rfl, rfl⟩
              rfl

/-- Both forms of a call raise a fault, and leave the same behind. -/
structure Raises (release : Buffer → Action Caller Unit) (lifter : Lifter)
    (function : CallStatus → Action Caller (CallStatus × α)) (before : Caller) (fault : Fault)
    (after : Caller) : Prop where
  raising : Call.raising release lifter function before = (.error fault, after)
  outcome : Call.outcome release lifter function before = (.error fault, after)

theorem Raises.of_outcome
    (raised : Call.outcome release lifter function before = (.error fault, after)) :
    Raises release lifter function before fault after where
  raising := by rw [raising_eq_unpack, raised]; rfl
  outcome := raised

theorem Raises.of_function (raised : function .fresh before = (.error fault, after)) :
    Raises release lifter function before fault after :=
  .of_outcome (Action.bind_of_error raised _)

theorem Raises.of_lifter (returned : function .fresh before = (.ok (status, value), filled))
    (reported : status.code = 1)
    (raised : lifter.lift release status.payload filled = (.error fault, after)) :
    Raises release lifter function before fault after := by
  have failed := Action.bind_of_error raised fun fault => do
    Caller.note (.returnedError fault)
    return (.failure fault : Outcome α)
  refine .of_outcome ((Action.bind_of_ok returned _).trans ?_)
  exact (congrFun (CallStatus.outcome_of_error reported ..) filled).trans failed

theorem Raises.of_panicText (returned : function .fresh before = (.ok (status, value), filled))
    (reported : status.code = 2)
    (raised : CallStatus.panicText release .replacing status.payload filled = (.error fault, after)) :
    Raises release lifter function before fault after := by
  have failed := Action.bind_of_error raised fun message => do
    Caller.note (.panicked message)
    return (.panic message : Outcome α)
  refine .of_outcome ((Action.bind_of_ok returned _).trans ?_)
  exact (congrFun (CallStatus.outcome_of_panic reported ..) filled).trans failed

theorem outcome_of_unknown (returned : function .fresh before = (.ok (status, value), filled))
    (unknown : status.code ≠ 0 ∧ status.code ≠ 1 ∧ status.code ≠ 2) :
    outcome release lifter function before = CallStatus.unknown release status filled :=
  (Action.bind_of_ok returned _).trans
    (congrFun (CallStatus.outcome_of_unknown unknown ..) filled)

theorem Raises.of_unknown (returned : function .fresh before = (.ok (status, value), filled))
    (unknown : status.code ≠ 0 ∧ status.code ≠ 1 ∧ status.code ≠ 2)
    (released : release status.payload filled = (.ok (), after)) :
    Raises release lifter function before (.unknownStatus status.code.toInt) after :=
  .of_outcome ((outcome_of_unknown returned unknown).trans (Action.bind_of_ok released _))

theorem Raises.of_release (returned : function .fresh before = (.ok (status, value), filled))
    (unknown : status.code ≠ 0 ∧ status.code ≠ 1 ∧ status.code ≠ 2)
    (raised : release status.payload filled = (.error fault, after)) :
    Raises release lifter function before fault after :=
  .of_outcome ((outcome_of_unknown returned unknown).trans (Action.bind_of_error raised _))

/-- The raising form returns what the other reports as a success, raises what it reports as a failure
or a panic and whatever it raises itself, and leaves the same behind. Both raise what the function
raises, what looking into the payload raises, and for an unknown code a fault that names it, unless
releasing the payload fails. -/
theorem forms_agree (release : Buffer → Action Caller Unit) (lifter : Lifter)
    (function : CallStatus → Action Caller (CallStatus × α)) (before : Caller) :
    Unpacks (raising release lifter function before) (outcome release lifter function before) ∧
    (∀ fault after, function .fresh before = (.error fault, after) →
      Raises release lifter function before fault after) ∧
    ∀ status value filled, function .fresh before = (.ok (status, value), filled) →
      (status.code = 1 → ∀ fault after,
        lifter.lift release status.payload filled = (.error fault, after) →
        Raises release lifter function before fault after) ∧
      (status.code = 2 → ∀ fault after,
        CallStatus.panicText release .replacing status.payload filled = (.error fault, after) →
        Raises release lifter function before fault after) ∧
      (status.code ≠ 0 ∧ status.code ≠ 1 ∧ status.code ≠ 2 →
        (∀ after, release status.payload filled = (.ok (), after) →
          ∃ fault, fault.family? = some .internal ∧
            fault.message = s!"Unknown rust call status: {status.code.toInt}" ∧
            Raises release lifter function before fault after) ∧
        ∀ fault after, release status.payload filled = (.error fault, after) →
          Raises release lifter function before fault after) := by
  refine ⟨unpacks .., fun _ _ raised => .of_function raised, fun status value filled returned => ?_⟩
  refine ⟨fun reported _ _ raised => .of_lifter returned reported raised,
    fun reported _ _ raised => .of_panicText returned reported raised, fun unknown => ⟨?_, ?_⟩⟩
  · exact fun after released =>
      ⟨.unknownStatus status.code.toInt, rfl, rfl, .of_unknown returned unknown released⟩
  · exact fun _ _ raised => .of_release returned unknown raised

/-- A function that reports the code 255, which is -1 in a byte with a sign. -/
def reportingOutOfRange : CallStatus → Action Caller (CallStatus × Unit) :=
  fun _ => return (⟨Int8.ofInt 255, .null⟩, ())

theorem forms_agree_outOfRange :
    ∃ fault, fault.message = "Unknown rust call status: -1" ∧
      Raises Caller.free .undeclared reportingOutOfRange (.initial .bare 8) fault
        (.initial .bare 8) := by
  have returned : reportingOutOfRange .fresh (.initial .bare 8) =
      (.ok (⟨Int8.ofInt 255, .null⟩, ()), .initial .bare 8) := rfl
  have unknown := ((forms_agree Caller.free .undeclared reportingOutOfRange
    (.initial .bare 8)).2.2 _ _ _ returned).2.2 (by decide)
  obtain ⟨fault, -, message, raises⟩ := unknown.1 (.initial .bare 8) rfl
  exact ⟨fault, message.trans (by decide), raises⟩

end Call

end ForeignCall
