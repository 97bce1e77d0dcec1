import ForeignCall.Memory

/-! The status of a call, which says what became of it. -/

namespace ForeignCall

inductive StatusCode where
  | success
  | error
  | panic
  deriving DecidableEq

namespace StatusCode

def toInt : StatusCode → Int
  | .success => 0
  | .error => 1
  | .panic => 2

def name : StatusCode → String
  | .success => "SUCCESS"
  | .error => "ERROR"
  | .panic => "PANIC"

def ofInt (value : Int) : Except Fault StatusCode :=
  if value = 0 then .ok .success
  else if value = 1 then .ok .error
  else if value = 2 then .ok .panic
  else .error (.statusCode value)

end StatusCode

/-- What foreign code reports about a call: a code and a payload. -/
structure CallStatus where
  code : Int8
  payload : Buffer
  deriving DecidableEq

namespace CallStatus

def fresh : CallStatus := ⟨0, .null⟩

def isSuccess (status : CallStatus) : Bool := status.code = 0
def isError (status : CallStatus) : Bool := status.code = 1
def isPanic (status : CallStatus) : Bool := status.code = 2

def label (status : CallStatus) : String :=
  s!"CallStatus(code={status.code.toInt}, error_buf={status.payload.label})"

end CallStatus

end ForeignCall
