/-! Decoded text as a sequence of code points. A code point may be half of a surrogate pair, which
no `Char` can be; a text without such halves is a text of characters. -/

namespace ForeignCall

structure CodePoint where
  val : Nat
  bounded : val < 0x110000
  deriving DecidableEq

abbrev Text := List CodePoint

namespace CodePoint

def ofNat (code : Nat) : CodePoint :=
  ⟨code % 0x110000, Nat.mod_lt _ (by decide)⟩

def ofChar (c : Char) : CodePoint :=
  ofNat c.toNat

@[simp] theorem val_ofNat {code : Nat} (bounded : code < 0x110000) :
    (ofNat code).val = code :=
  Nat.mod_eq_of_lt bounded

def isHighSurrogate (p : CodePoint) : Bool :=
  0xD800 ≤ p.val && p.val < 0xDC00

def isLowSurrogate (p : CodePoint) : Bool :=
  0xDC00 ≤ p.val && p.val < 0xE000

def isScalar (p : CodePoint) : Bool :=
  p.val < 0xD800 || 0xE000 ≤ p.val

/-- The character outside the basic plane that a surrogate pair stands for. -/
def ofSurrogates (high low : CodePoint) : CodePoint :=
  ofNat (0x10000 + (high.val - 0xD800) * 0x400 + (low.val - 0xDC00))

/-- A half of a surrogate pair has no character and reads as U+FFFD. -/
def toChar (p : CodePoint) : Char :=
  if p.isScalar then Char.ofNat p.val else Char.ofNat 0xFFFD

end CodePoint

namespace Text

def ofChars (chars : List Char) : Text :=
  chars.map CodePoint.ofChar

def ofString (s : String) : Text :=
  ofChars s.toList

def toString (text : Text) : String :=
  String.ofList (text.map CodePoint.toChar)

/-- A code point lies in one of these ranges, whose ends belong to them. -/
def inRanges (ranges : List (Nat × Nat)) (code : Nat) : Bool :=
  ranges.any fun range => range.1 ≤ code && code ≤ range.2

end Text

end ForeignCall
