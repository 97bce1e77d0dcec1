import ForeignCall.Binary64
import ForeignCall.Datum
import ForeignCall.Text.Utf8

/-! MessagePack payloads. A payload is one value; a reader takes the bytes it needs from the front
and hands on the rest. -/

namespace ForeignCall.MessagePack

inductive KeyForm where
  | null
  | bool
  | int
  | float
  | list
  | map
  | ext
  | timestamp
  deriving DecidableEq

inductive Flaw where
  | incomplete
  | unassignedByte
  | extraData
  | tooDeep
  | arrayTooLong (count limit : Nat)
  | mapTooLong (count limit : Nat)
  /-- An extension that with its code is too long for a four-byte length. -/
  | extensionTooLong (limit : Nat)
  | text (flaw : Utf8.Flaw)
  | key (form : KeyForm)
  | timestampLength (length : Nat)
  | timestampFraction
  | extensionCode
  deriving DecidableEq

/-- At most this many arrays and maps may be open at once. -/
def maxDepth : Nat := 1024

abbrev Reader (α : Type) := StateT (List UInt8) (Except Flaw) α

def fail (flaw : Flaw) : Reader α := fun _ => .error flaw

def split? : Nat → List UInt8 → Option (List UInt8 × List UInt8)
  | 0, rest => some ([], rest)
  | _ + 1, [] => none
  | count + 1, byte :: rest => (split? count rest).map fun (taken, left) => (byte :: taken, left)

def take (count : Nat) : Reader (List UInt8) := fun bytes =>
  match split? count bytes with
  | some parts => .ok parts
  | none => .error .incomplete

def bigEndian (bytes : List UInt8) : Nat :=
  bytes.foldl (fun value byte => value * 256 + byte.toNat) 0

def signedBigEndian (bytes : List UInt8) : Int :=
  Int.bmod (Int.ofNat (bigEndian bytes)) (Nat.pow 256 bytes.length)

def unsigned (width : Nat) : Reader Nat := do
  return bigEndian (← take width)

def signed (width : Nat) : Reader Int := do
  return signedBigEndian (← take width)

/-- What the first byte of a value announces, with the length or count that follows it. -/
inductive Head where
  | value (value : Datum)
  | text (length : Nat)
  | bytes (length : Nat)
  | ext (length : Nat)
  | array (count : Nat)
  | map (count : Nat)

def headOf (first : UInt8) : Reader Head :=
  let code := first.toNat
  if code < 0x80 then return .value (.int code)
  else if code < 0x90 then return .map (code - 0x80)
  else if code < 0xA0 then return .array (code - 0x90)
  else if code < 0xC0 then return .text (code - 0xA0)
  else if 0xE0 ≤ code then return .value (.int (Int.ofNat code - 256))
  else
    match code with
    | 0xC0 => return .value .null
    | 0xC2 => return .value (.bool false)
    | 0xC3 => return .value (.bool true)
    | 0xC4 => return .bytes (← unsigned 1)
    | 0xC5 => return .bytes (← unsigned 2)
    | 0xC6 => return .bytes (← unsigned 4)
    | 0xC7 => return .ext (← unsigned 1)
    | 0xC8 => return .ext (← unsigned 2)
    | 0xC9 => return .ext (← unsigned 4)
    | 0xCA => return .value (.float (Binary64.ofBinary32 (UInt32.ofNat (← unsigned 4))))
    | 0xCB => return .value (.float (UInt64.ofNat (← unsigned 8)))
    | 0xCC => return .value (.int (← unsigned 1))
    | 0xCD => return .value (.int (← unsigned 2))
    | 0xCE => return .value (.int (← unsigned 4))
    | 0xCF => return .value (.int (← unsigned 8))
    | 0xD0 => return .value (.int (← signed 1))
    | 0xD1 => return .value (.int (← signed 2))
    | 0xD2 => return .value (.int (← signed 4))
    | 0xD3 => return .value (.int (← signed 8))
    | 0xD4 => return .ext 1
    | 0xD5 => return .ext 2
    | 0xD6 => return .ext 4
    | 0xD7 => return .ext 8
    | 0xD8 => return .ext 16
    | 0xD9 => return .text (← unsigned 1)
    | 0xDA => return .text (← unsigned 2)
    | 0xDB => return .text (← unsigned 4)
    | 0xDC => return .array (← unsigned 2)
    | 0xDD => return .array (← unsigned 4)
    | 0xDE => return .map (← unsigned 2)
    | 0xDF => return .map (← unsigned 4)
    | _ => fail .unassignedByte

def head : Reader Head := do
  match ← take 1 with
  | [first] => headOf first
  | _ => fail .incomplete

def text (length : Nat) : Reader Text := do
  match Utf8.decode (← take length) with
  | .ok chars => return Text.ofChars chars
  | .error flaw => fail (.text flaw)

/-- Seconds and nanoseconds of a timestamp, by the length of its data. -/
def timestampParts (data : List UInt8) : Except Flaw (Int × Nat) :=
  match data.length with
  | 4 => .ok (Int.ofNat (bigEndian data), 0)
  | 8 => .ok (Int.ofNat (bigEndian data % 0x400000000), bigEndian data >>> 34)
  | 12 => .ok (signedBigEndian (data.drop 4), bigEndian (data.take 4))
  | length => .error (.timestampLength length)

def timestamp (data : List UInt8) : Except Flaw Datum :=
  match timestampParts data with
  | .error flaw => .error flaw
  | .ok (seconds, nanoseconds) =>
      if 999999999 < nanoseconds then .error .timestampFraction
      else .ok (.timestamp seconds nanoseconds)

def extension (code : UInt8) (data : List UInt8) : Except Flaw Datum :=
  if code = 0xFF then timestamp data
  else if code < 0x80 then .ok (.ext code.toNat data)
  else .error .extensionCode

/-- An extension whose length and code together have no four-byte length. It is refused without
being read: as too long for the payload if it is, and else as no timestamp. -/
def longExt (length count : Nat) : Flaw :=
  if length < count then .extensionTooLong length else .timestampLength count

def ext (count : Nat) : Reader Datum := do
  match ← take (count + 1) with
  | code :: data =>
      match extension code data with
      | .ok value => return value
      | .error flaw => fail flaw
  | [] => fail .incomplete

def keyOf : Datum → Except KeyForm Key
  | .text value => .ok (.text value)
  | .bytes value => .ok (.bytes value)
  | .null => .error .null
  | .bool _ => .error .bool
  | .int _ => .error .int
  | .float _ => .error .float
  | .list _ => .error .list
  | .map _ => .error .map
  | .ext _ _ => .error .ext
  | .timestamp _ _ => .error .timestamp

def items (element : Reader Datum) : Nat → Reader (List Datum)
  | 0 => return []
  | count + 1 => do
      let first ← element
      let rest ← items element count
      return first :: rest

def fields (element : Reader Datum) (before : List (Key × Datum)) :
    Nat → Reader (List (Key × Datum))
  | 0 => return before
  | count + 1 => do
      let key ← element
      let value ← element
      match keyOf key with
      | .error form => fail (.key form)
      | .ok key => fields element (Table.set key value before) count

/-- A value whose head has been read. `inside` reads what an array or map holds; there is none where
no further one may be opened. `length` is that of the whole payload. -/
def body (length : Nat) (inside : Option (Reader Datum)) : Head → Reader Datum
  | .value value => return value
  | .text count => do return .text (← text count)
  | .bytes count => do return .bytes (← take count)
  | .ext count => if count = 0xFFFFFFFF then fail (longExt length count) else ext count
  | .array count =>
      match inside with
      | none => fail .tooDeep
      | some element =>
          if length < count then fail (.arrayTooLong count length)
          else do return .list (← items element count)
  | .map count =>
      match inside with
      | none => fail .tooDeep
      | some element =>
          if length / 2 < count then fail (.mapTooLong count (length / 2))
          else do return .map (← fields element [] count)

/-- A value with at most `depth` arrays and maps open at once. -/
def value (length : Nat) : Nat → Reader Datum
  | 0 => do body length none (← head)
  | depth + 1 => do body length (some (value length depth)) (← head)

def decode (bytes : List UInt8) : Except Flaw Datum :=
  match value bytes.length maxDepth bytes with
  | .error flaw => .error flaw
  | .ok (value, []) => .ok value
  | .ok (_, _ :: _) => .error .extraData

/-- Decodes a payload of so many copies of some bytes. The longest extensions are refused by their
head already, and their copies are not made. -/
def decodeCopies (unit : List UInt8) (count : Nat) : Except Flaw Datum :=
  match unit, count with
  | 0xC9 :: 0xFF :: 0xFF :: 0xFF :: 0xFF :: _, _ + 1 =>
      .error (longExt (count * unit.length) 0xFFFFFFFF)
  | _, _ => decode (List.replicate count unit).flatten

end ForeignCall.MessagePack
