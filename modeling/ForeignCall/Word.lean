import ForeignCall.Action

/-! Machine words of a given width in bytes, and their text in a byte buffer, lowest byte first. A
word may be made at any width; only words of four and eight bytes are written and read. -/

namespace ForeignCall.Word

def limit (width : Int) : Nat :=
  Nat.pow 256 width.toNat

def ofInt (width : Int) (value : Int) : Except Fault Nat :=
  if width < 0 then .error .wordShift
  else if value < 0 ∨ Int.ofNat (limit width) ≤ value then .error (.wordRange value width)
  else .ok value.toNat

theorem ofInt_eq_ok {width value : Int} {word : Nat} (made : ofInt width value = .ok word) :
    0 ≤ value ∧ value < limit width ∧ (word : Int) = value := by
  unfold ofInt at made
  split at made
  · cases made
  · split at made
    · cases made
    · cases made
      simp only [Int.ofNat_eq_natCast] at *
      omega

theorem ofInt_natCast {width : Int} {value : Nat} (positive : 0 ≤ width)
    (fits : value < limit width) : ofInt width value = .ok value := by
  have bounds : ¬ ((value : Int) < 0 ∨ Int.ofNat (limit width) ≤ value) := by
    simp only [Int.ofNat_eq_natCast]
    omega
  rw [ofInt, if_neg (Int.not_lt.mpr positive), if_neg bounds, Int.toNat_natCast]

def maxValue (width : Int) : Nat :=
  limit width - 1

/-- The widths that are written and read. -/
def fieldWidth (width : Int) : Except Fault Nat :=
  if width = 4 then .ok 4 else if width = 8 then .ok 8 else .error (.wordWidth width)

def toBytes : Nat → Nat → List UInt8
  | 0, _ => []
  | width + 1, value => UInt8.ofNat (value % 256) :: toBytes width (value / 256)

def ofBytes : List UInt8 → Nat
  | [] => 0
  | byte :: rest => byte.toNat + 256 * ofBytes rest

@[simp] theorem length_toBytes (width value : Nat) : (toBytes width value).length = width := by
  induction width generalizing value with
  | zero => rfl
  | succ width ih => simp [toBytes, ih]

/-- Puts the text of a word behind a buffer. -/
def write (width : Int) (value : Nat) : Action (List UInt8) Unit := do
  let size ← .ofExcept (fieldWidth width)
  if limit width ≤ value then .fail (.wordField value size)
  else .modify fun buffer => buffer ++ toBytes size value

/-- Makes words and writes them one after another, up to the first that fails. -/
def writeEach (width : Int) : List Int → Action (List UInt8) Unit
  | [] => return ()
  | value :: rest => do
      write width (← .ofExcept (ofInt width value))
      writeEach width rest

def writeAll (width : Int) (values : List Int) (buffer : List UInt8) : Except Fault (List UInt8) :=
  match writeEach width values buffer with
  | (.ok _, buffer) => .ok buffer
  | (.error fault, _) => .error fault

def minOffset : Int := -0x8000000000000000

/-- Where the bytes of a field start. A negative offset counts from the end of the buffer; the field
must then end there or earlier. -/
def fieldStart (size : Nat) (offset : Int) (length : Nat) : Except Fault Nat :=
  if Int.ofNat length < offset + size then .error (.shortInput size offset length)
  else if 0 ≤ offset then .ok offset.toNat
  else if offset < minOffset then .error .offsetWidth
  else if 0 < offset + size then .error (.splitInput size offset)
  else if offset + length < 0 then .error (.offsetRange offset length)
  else .ok (offset + length).toNat

/-- The word at an offset, and the offset just past it. -/
def read (width : Int) (buffer : List UInt8) (offset : Int) : Except Fault (Nat × Int) :=
  match fieldWidth width with
  | .error fault => .error fault
  | .ok size =>
      match fieldStart size offset buffer.length with
      | .error fault => .error fault
      | .ok start => .ok (ofBytes ((buffer.drop start).take size), offset + size)

def label (value : Nat) : String :=
  s!"USize({value})"

end ForeignCall.Word
