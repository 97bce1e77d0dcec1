import ForeignCall.Allocator

/-! Foreign functions given by what they do when called. -/

namespace ForeignCall

/-- A function that fills the status it is handed and then raises or returns. -/
structure ForeignFunction where
  fill : Fill
  raises : Option String
  value : Datum
  sums : Bool

namespace Datum

def form : Datum → String
  | .null => "NoneType"
  | .bool _ => "bool"
  | .int _ => "int"
  | .float _ => "float"
  | .text _ => "str"
  | .bytes _ => "bytes"
  | .list _ => "list"
  | .map _ => "dict"
  | .ext _ _ => "ExtType"
  | .timestamp _ _ => "Timestamp"

/-- The integer that a datum counts as in sums. -/
def integer? : Datum → Option Int
  | .int value => some value
  | .bool value => some (if value then 1 else 0)
  | _ => none

def add (total item : Datum) : Except Fault Datum :=
  match total, item, total.integer?, item.integer? with
  | .float total, .float item, _, _ => .ok (.float (Binary64.add total item))
  | .float total, _, _, some item => .ok (.float (Binary64.add total (Binary64.ofInt item)))
  | _, .float item, some total, _ => .ok (.float (Binary64.add (Binary64.ofInt total) item))
  | _, _, some total, some item => .ok (.int (total + item))
  | _, _, _, _ => .error (.notAddable total.form item.form)

def sum (values : List Datum) : Except Fault Datum :=
  values.foldlM add (.int 0)

/-- A datum with itself: a number doubled, a text, a byte string or a list repeated. -/
def twice : Datum → Except Fault Datum
  | .int value => .ok (.int (2 * value))
  | .bool value => .ok (.int (if value then 2 else 0))
  | .float bits => .ok (.float (Binary64.add bits bits))
  | .text value => .ok (.text (value ++ value))
  | .bytes value => .ok (.bytes (value ++ value))
  | .list items => .ok (.list (items ++ items))
  | value => .error (.notANumber value.form)

end Datum

namespace ForeignFunction

def idle : ForeignFunction := ⟨⟨0, none, none⟩, none, .null, false⟩

def result (function : ForeignFunction) (arguments : List Datum) : Except Fault Datum :=
  if function.sums then Datum.sum arguments else .ok function.value

def status (function : ForeignFunction) : Action Caller CallStatus :=
  function.fill.status Caller.alloc

/-- A call. It fills every field of the status, whatever these held. -/
def call (function : ForeignFunction) (arguments : List Datum) (_ : CallStatus) :
    Action Caller (CallStatus × Datum) := do
  let status ← function.status
  match function.raises with
  | some message => .fail (.foreign message)
  | none => return (status, ← .ofExcept (function.result arguments))

end ForeignFunction

end ForeignCall
