import ForeignCall.Fault
import ForeignCall.Settings

/-! The codecs of error payloads, and which one a payload is decoded by. -/

namespace ForeignCall

inductive Codec where
  | json
  | msgpack
  | utf8
  | raw
  deriving DecidableEq

namespace Codec

def name : Codec → String
  | .json => "json"
  | .msgpack => "msgpack"
  | .utf8 => "utf8"
  | .raw => "raw"

def all : List Codec := [.json, .msgpack, .utf8, .raw]

def ofName (name : String) : Except Fault Codec :=
  match all.find? fun codec => codec.name = name with
  | some codec => .ok codec
  | none => .error (.unknownCodec name)

/-- The codec named explicitly, else the one the settings prefer, else JSON. An empty name counts as
none. -/
def resolve (explicit : Option String) (settings : Settings) : Except Fault Codec :=
  match explicit with
  | none => ofName (settings.preferredWire.getD "json")
  | some name =>
      if name.isEmpty then ofName (settings.preferredWire.getD "json") else ofName name

def decodeUtf8 (payload : List UInt8) : Except Fault (List Char) :=
  match Utf8.decode payload with
  | .ok chars => .ok chars
  | .error flaw => .error (.utf8 flaw)

def decodeJson (payload : List UInt8) : Except Fault Datum :=
  match decodeUtf8 payload with
  | .error fault => .error fault
  | .ok chars =>
      match Json.decode chars with
      | .ok value => .ok value
      | .error flaw => .error (.json flaw)

def decodeMessagePack (payload : List UInt8) : Except Fault Datum :=
  match MessagePack.decode payload with
  | .ok value => .ok value
  | .error flaw => .error (.messagePack flaw)

def decode (payload : List UInt8) : Codec → Except Fault Datum
  | .json => decodeJson payload
  | .msgpack => decodeMessagePack payload
  | .utf8 =>
      match decodeUtf8 payload with
      | .ok chars => .ok (.text (Text.ofChars chars))
      | .error fault => .error fault
  | .raw => .ok (.bytes payload)

def decodeNamed (payload : List UInt8) (name : String) : Except Fault Datum :=
  match ofName name with
  | .ok codec => decode payload codec
  | .error fault => .error fault

/-- The same for a payload of so many copies of some bytes. -/
def decodeCopies (unit : List UInt8) (count : Nat) (name : String) : Except Fault Datum :=
  match ofName name with
  | .ok .msgpack =>
      match MessagePack.decodeCopies unit count with
      | .ok value => .ok value
      | .error flaw => .error (.messagePack flaw)
  | _ => decodeNamed (List.replicate count unit).flatten name

end Codec

end ForeignCall
