import ForeignCall.Lifter

/-! What a completed call means: unpacking its status, as an outcome or by failing. -/

namespace ForeignCall

inductive Outcome (α : Type) where
  | success (value : α)
  | failure (fault : Fault)
  | panic (message : String)

def silentPanic : String := "Rust panic"

namespace Outcome

def unpack : Outcome α → Except Fault α
  | .success value => .ok value
  | .failure fault => .error fault
  | .panic message => .error (.panicked message)

end Outcome

namespace CallStatus

variable {α : Type} (release : Buffer → Action Caller Unit)

def failure (lifter : Lifter) (status : CallStatus) : Action Caller (Outcome α) := do
  let fault ← lifter.lift release status.payload
  Caller.note (.returnedError fault)
  return .failure fault

def panicText (texts : TextLifter) (payload : Buffer) : Action Caller String :=
  if 0 < payload.length then texts.lift release payload else return silentPanic

def panic (texts : TextLifter) (status : CallStatus) : Action Caller (Outcome α) := do
  let message ← panicText release texts status.payload
  Caller.note (.panicked message)
  return .panic message

def unknown (status : CallStatus) : Action Caller (Outcome α) := do
  release status.payload
  .fail (.unknownStatus status.code.toInt)

def outcome (lifter : Lifter) (texts : TextLifter) (status : CallStatus) (value : α) :
    Action Caller (Outcome α) :=
  if status.isSuccess then return .success value
  else if status.isError then failure release lifter status
  else if status.isPanic then panic release texts status
  else unknown release status

def check (lifter : Lifter) (texts : TextLifter) (status : CallStatus) : Action Caller Unit := do
  .ofExcept (← outcome release lifter texts status ()).unpack

variable {release}

theorem outcome_of_success {status : CallStatus} (success : status.isSuccess = true)
    (lifter : Lifter) (texts : TextLifter) (value : α) (caller : Caller) :
    outcome release lifter texts status value caller = (.ok (.success value), caller) := by
  simp [outcome, success]

theorem isSuccess_of_outcome {lifter : Lifter} {texts : TextLifter} {status : CallStatus}
    {value result : α} {before after : Caller}
    (succeeded :
      outcome release lifter texts status value before = (.ok (.success result), after)) :
    status.isSuccess = true := by
  cases other : status.isSuccess with
  | true => rfl
  | false =>
      rw [outcome, if_neg (by simp [other])] at succeeded
      split at succeeded
      · obtain ⟨_, _, -, noted⟩ := Action.bind_eq_ok succeeded
        simp [Action.bind_apply, Caller.note] at noted
      · split at succeeded
        · obtain ⟨_, _, -, noted⟩ := Action.bind_eq_ok succeeded
          simp [Action.bind_apply, Caller.note] at noted
        · obtain ⟨_, _, -, failed⟩ := Action.bind_eq_ok succeeded
          simp at failed

theorem check_eq_ok {lifter : Lifter} {texts : TextLifter} {status : CallStatus}
    {before after : Caller} (passed : check release lifter texts status before = (.ok (), after)) :
    status.isSuccess = true ∧ after = before := by
  obtain ⟨result, middle, reported, unpacked⟩ := Action.bind_eq_ok passed
  have success : status.isSuccess = true := by
    cases result with
    | success value => exact isSuccess_of_outcome reported
    | failure fault => simp [Outcome.unpack] at unpacked
    | panic message => simp [Outcome.unpack] at unpacked
  rw [outcome_of_success success] at reported
  cases reported
  simp [Outcome.unpack] at unpacked
  exact ⟨success, unpacked.symm⟩

end CallStatus

namespace Call

variable {α : Type} (release : Buffer → Action Caller Unit)

/-- Calls a foreign function, which is handed a fresh status, and fails as the status says. -/
def raising (lifter : Lifter) (function : CallStatus → Action Caller (CallStatus × α)) :
    Action Caller α := do
  let (status, value) ← function .fresh
  CallStatus.check release lifter .replacing status
  return value

def outcome (lifter : Lifter) (function : CallStatus → Action Caller (CallStatus × α)) :
    Action Caller (Outcome α) := do
  let (status, value) ← function .fresh
  CallStatus.outcome release lifter .replacing status value

variable {release}

theorem raising_eq_ok {lifter : Lifter} {function : CallStatus → Action Caller (CallStatus × α)}
    {value : α} {before after : Caller}
    (returned : raising release lifter function before = (.ok value, after)) :
    ∃ status, function .fresh before = (.ok (status, value), after) ∧ status.isSuccess = true := by
  obtain ⟨⟨status, result⟩, middle, called, checkedThen⟩ := Action.bind_eq_ok returned
  obtain ⟨_, _, checked, answered⟩ := Action.bind_eq_ok checkedThen
  obtain ⟨success, rfl⟩ := CallStatus.check_eq_ok checked
  cases answered
  exact ⟨status, called, success⟩

end Call

end ForeignCall
