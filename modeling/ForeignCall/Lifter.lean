import ForeignCall.Codec
import ForeignCall.Caller

/-! Lifters turn the payload of a failed call into the fault its caller sees. All but `peeking` ones
release the payload, also when decoding fails. -/

namespace ForeignCall

inductive Lifter where
  | undeclared
  | decoding (decode : List UInt8 → Except Fault Fault)
  | serialized (codec : Codec) (factory : Datum → Except Fault Fault)
  | peeking (decode : List UInt8 → Except Fault Fault)

inductive TextLifter where
  | consuming (decode : List UInt8 → Except Fault String)
  | peeking (decode : List UInt8 → Except Fault String)

/-- Text with U+FFFD for every flaw. -/
def replacingText (bytes : List UInt8) : Except Fault String :=
  .ok (String.ofList (Utf8.replacing bytes))

namespace TextLifter

def replacing : TextLifter := .consuming replacingText

def lift (release : Buffer → Action Caller Unit) (buffer : Buffer) :
    TextLifter → Action Caller String
  | .consuming decode => do .ofExcept (decode (← Caller.consume release buffer))
  | .peeking decode => do .ofExcept (decode (← Caller.read buffer))

end TextLifter

namespace Lifter

def ofPayload (codec : Codec) (factory : Datum → Except Fault Fault) (bytes : List UInt8) :
    Except Fault Fault :=
  match Codec.decode bytes codec with
  | .ok value => factory value
  | .error fault => .error fault

def lift (release : Buffer → Action Caller Unit) (buffer : Buffer) :
    Lifter → Action Caller Fault
  | .undeclared => do
      release buffer
      return .undeclaredError
  | .decoding decode => do .ofExcept (decode (← Caller.consume release buffer))
  | .serialized codec factory => do
      .ofExcept (ofPayload codec factory (← Caller.consume release buffer))
  | .peeking decode => do .ofExcept (decode (← Caller.read buffer))

/-- A lifter for serialized payloads. Its codec is settled here, once and for all. -/
def serializing (factory : Datum → Except Fault Fault) (codec : Option String)
    (settings : Settings) : Except Fault Lifter :=
  match Codec.resolve codec settings with
  | .ok codec => .ok (.serialized codec factory)
  | .error fault => .error fault

end Lifter

end ForeignCall
