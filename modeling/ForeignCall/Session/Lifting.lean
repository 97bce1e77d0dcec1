import ForeignCall.Call

/-! The lifters that a session can ask for. -/

namespace ForeignCall.Session

inductive Decoding where
  | utf8
  | ascii
  | bytes
  | failing

def Decoding.decode (payload : List UInt8) : Decoding → Except Fault Fault
  | .utf8 =>
      match Utf8.decode payload with
      | .ok chars => .ok (.domain (.text (Text.ofChars chars)))
      | .error flaw => .error (.utf8 flaw)
  | .ascii =>
      match Ascii.decode payload with
      | .ok chars => .ok (.domain (.text (Text.ofChars chars)))
      | .error flaw => .error (.ascii flaw)
  | .bytes => .ok (.domain (.bytes payload))
  | .failing => .error (.foreign "decode failed")

inductive Factory where
  | value
  | record
  | failing

def ofRecord (record : Datum) : Fault :=
  match record.field? "kind" with
  | some (.text kind) =>
      if kind = Text.ofString "NotFound" then .domain ((record.field? "key").getD .null)
      else .unknownDomainError
  | _ => .unknownDomainError

def Factory.make (value : Datum) : Factory → Except Fault Fault
  | .value => .ok (.domain value)
  | .record =>
      match value with
      | .map fields => .ok (ofRecord (.map fields))
      | _ => .error .notARecord
  | .failing => .error (.foreign "factory failed")

inductive LifterChoice where
  | undeclared
  | decoding (decoding : Decoding)
  | serialized (codec : Option String) (factory : Factory)
  | peeking

def LifterChoice.lifter (settings : Settings) : LifterChoice → Except Fault Lifter
  | .undeclared => .ok .undeclared
  | .decoding how => .ok (.decoding fun payload => how.decode payload)
  | .serialized codec factory => Lifter.serializing (fun value => factory.make value) codec settings
  | .peeking => .ok (.peeking fun payload => Decoding.bytes.decode payload)

inductive TextChoice where
  | replacing
  | marked
  | hex
  /-- Replacing text of a buffer that is not released. -/
  | leaking

def markedText (payload : List UInt8) : Except Fault String :=
  match Utf8.decode payload with
  | .ok chars => .ok ("lifted:" ++ String.ofList chars)
  | .error flaw => .error (.utf8 flaw)

def hexText (payload : List UInt8) : String :=
  String.join (payload.map Text.hexByte)

def TextChoice.lifter : TextChoice → TextLifter
  | .replacing => .replacing
  | .marked => .consuming markedText
  | .hex => .consuming fun payload => .ok (hexText payload)
  | .leaking => .peeking replacingText

end ForeignCall.Session
