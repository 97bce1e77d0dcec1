/-! UTF-8 read one byte at a time. `pieces` splits any byte string into characters and flaws, a
flaw being a longest run of bytes that begins a character and does not complete it. `decode` refuses
the first flaw; `replacing` writes U+FFFD for each. -/

namespace ForeignCall.Utf8

inductive Reason where
  | invalidStart
  | invalidContinuation
  | unexpectedEnd
  deriving DecidableEq

inductive Piece where
  | char (c : Char)
  | flaw (reason : Reason) (bytes : List UInt8)
  deriving DecidableEq

/-- A character under way: the bytes read, the value they hold, how many are still to come, and the
range of the next one. -/
structure Pending where
  read : List UInt8
  value : Nat
  missing : Nat
  low : UInt8
  high : UInt8

def start (byte : UInt8) : List Piece × Option Pending :=
  if byte < 0x80 then ([.char (Char.ofNat byte.toNat)], none)
  else if byte < 0xC2 then ([.flaw .invalidStart [byte]], none)
  else if byte < 0xE0 then ([], some ⟨[byte], byte.toNat - 0xC0, 1, 0x80, 0xBF⟩)
  else if byte < 0xF0 then
    ([], some ⟨[byte], byte.toNat - 0xE0, 2,
      if byte = 0xE0 then 0xA0 else 0x80, if byte = 0xED then 0x9F else 0xBF⟩)
  else if byte < 0xF5 then
    ([], some ⟨[byte], byte.toNat - 0xF0, 3,
      if byte = 0xF0 then 0x90 else 0x80, if byte = 0xF4 then 0x8F else 0xBF⟩)
  else ([.flaw .invalidStart [byte]], none)

def Pending.extend (pending : Pending) (byte : UInt8) : List Piece × Option Pending :=
  let value := pending.value * 0x40 + (byte.toNat - 0x80)
  if pending.missing ≤ 1 then ([.char (Char.ofNat value)], none)
  else ([], some ⟨pending.read ++ [byte], value, pending.missing - 1, 0x80, 0xBF⟩)

def Pending.admits (pending : Pending) (byte : UInt8) : Bool :=
  pending.low ≤ byte && byte ≤ pending.high

/-- A byte that cannot go on with the character under way ends it as a flaw and is read afresh. -/
def step : Option Pending → UInt8 → List Piece × Option Pending
  | none, byte => start byte
  | some pending, byte =>
      if pending.admits byte then pending.extend byte
      else
        let (begun, next) := start byte
        (.flaw .invalidContinuation pending.read :: begun, next)

def finish : Option Pending → List Piece
  | none => []
  | some pending => [.flaw .unexpectedEnd pending.read]

def piecesFrom (state : Option Pending) : List UInt8 → List Piece
  | [] => finish state
  | byte :: rest => (step state byte).1 ++ piecesFrom (step state byte).2 rest

def pieces (bytes : List UInt8) : List Piece :=
  piecesFrom none bytes

/-- The first flaw of a byte string and the number of bytes before it. -/
structure Flaw where
  position : Nat
  reason : Reason
  bytes : List UInt8
  deriving DecidableEq

def collect (position : Nat) : List Piece → Except Flaw (List Char)
  | [] => .ok []
  | .char c :: rest =>
      match collect (position + c.utf8Size) rest with
      | .ok chars => .ok (c :: chars)
      | .error flaw => .error flaw
  | .flaw reason bytes :: _ => .error ⟨position, reason, bytes⟩

def decode (bytes : List UInt8) : Except Flaw (List Char) :=
  collect 0 (pieces bytes)

def Piece.shown : Piece → Char
  | .char c => c
  | .flaw _ _ => Char.ofNat 0xFFFD

def replacing (bytes : List UInt8) : List Char :=
  (pieces bytes).map Piece.shown

def encode (chars : List Char) : List UInt8 :=
  chars.flatMap String.utf8EncodeChar

@[simp] theorem encode_nil : encode [] = [] := rfl

@[simp] theorem encode_cons (c : Char) (chars : List Char) :
    encode (c :: chars) = String.utf8EncodeChar c ++ encode chars := rfl

@[simp] theorem piecesFrom_nil (state : Option Pending) : piecesFrom state [] = finish state := rfl

end ForeignCall.Utf8

namespace ForeignCall.Ascii

/-- The first byte above 0x7F and the number of bytes before it. -/
structure Flaw where
  position : Nat
  byte : UInt8
  deriving DecidableEq

def decodeFrom (position : Nat) : List UInt8 → Except Flaw (List Char)
  | [] => .ok []
  | byte :: rest =>
      if byte < 0x80 then
        match decodeFrom (position + 1) rest with
        | .ok chars => .ok (Char.ofNat byte.toNat :: chars)
        | .error flaw => .error flaw
      else .error ⟨position, byte⟩

def decode (bytes : List UInt8) : Except Flaw (List Char) :=
  decodeFrom 0 bytes

end ForeignCall.Ascii
