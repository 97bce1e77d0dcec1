import Mathlib.Data.List.Chain
import ForeignCall.Json

/-! Values without floats, and the ways each may be written. -/

namespace ForeignCall.Json

/-- Two code points that stay two when both are escaped. -/
def Apart (first second : CodePoint) : Prop :=
  first.isHighSurrogate = true → second.isLowSurrogate = false

instance : DecidableRel Apart := fun first second =>
  inferInstanceAs (Decidable (first.isHighSurrogate = true → second.isLowSurrogate = false))

/-- A text in which no two code points in a row are taken for one. -/
structure Passage where
  points : Text
  apart : points.IsChain Apart

inductive Tree where
  | null
  | bool (value : Bool)
  | int (value : Int) (short : (Nat.toDigits 10 value.natAbs).length ≤ maxDigits)
  | text (value : Passage)
  | list (items : List Tree)
  | object (members : List (Passage × Tree))

mutual
/-- What a tree is read as. -/
def Tree.datum : Tree → Datum
  | .null => .null
  | .bool value => .bool value
  | .int value _ => .int value
  | .text value => .text value.points
  | .list items => .list (itemData items)
  | .object members => .map (bindings [] members)

def itemData : List Tree → List Datum
  | [] => []
  | item :: rest => item.datum :: itemData rest

/-- The bindings with those of further members, each of which binds its name anew. -/
def bindings (before : List (Key × Datum)) : List (Passage × Tree) → List (Key × Datum)
  | [] => before
  | (name, value) :: rest => bindings (Table.set (.text name.points) value.datum before) rest
end

mutual
/-- How many lists and objects are at most inside one another. Those that a later member of the
same name replaces count, since they are read nevertheless. -/
def Tree.depth : Tree → Nat
  | .list items => itemDepth items + 1
  | .object members => memberDepth members + 1
  | _ => 0

def itemDepth : List Tree → Nat
  | [] => 0
  | item :: rest => max item.depth (itemDepth rest)

def memberDepth : List (Passage × Tree) → Nat
  | [] => 0
  | (_, value) :: rest => max value.depth (memberDepth rest)
end

theorem bindings_append (before : List (Key × Datum)) (members more : List (Passage × Tree)) :
    bindings before (members ++ more) = bindings (bindings before members) more := by
  induction members generalizing before with
  | nil => rfl
  | cons member rest ih => exact ih _

theorem get?_bindings_of_absent {name : Passage} {before : List (Key × Datum)}
    {members : List (Passage × Tree)} (absent : ∀ member ∈ members, member.1.points ≠ name.points) :
    Table.get? (.text name.points) (bindings before members) =
      Table.get? (.text name.points) before := by
  induction members generalizing before with
  | nil => rfl
  | cons member rest ih =>
      obtain ⟨other, absent⟩ := List.forall_mem_cons.mp absent
      have apart : Key.text name.points ≠ .text member.1.points := fun same =>
        other (Key.text.inj same).symm
      exact (ih absent).trans (Table.get?_set_of_ne apart ..)

/-- Of the members of one name the last one counts. -/
theorem get?_bindings_of_last {name : Passage} {value : Tree} {members more : List (Passage × Tree)}
    (last : ∀ member ∈ more, member.1.points ≠ name.points) (before : List (Key × Datum)) :
    Table.get? (.text name.points) (bindings before (members ++ (name, value) :: more)) =
      some value.datum := by
  rw [bindings_append, bindings, get?_bindings_of_absent last, Table.get?_set_self]

/-! Renderings. -/

def Blank (text : List Char) : Prop :=
  ∀ c ∈ text, c = ' ' ∨ c = '\t' ∨ c = '\n' ∨ c = '\r'

def IsHexDigit (value : Nat) (c : Char) : Prop :=
  value < 16 ∧ (c = Nat.digitChar value ∨ c = (Nat.digitChar value).toUpper)

inductive Hex : Nat → List Char → Prop where
  | four {a b c d : Nat} {first second third fourth : Char} (ha : IsHexDigit a first)
      (hb : IsHexDigit b second) (hc : IsHexDigit c third) (hd : IsHexDigit d fourth) :
      Hex (((a * 16 + b) * 16 + c) * 16 + d) [first, second, third, fourth]

/-- The ways to write a code point in a string. -/
inductive Spelling : CodePoint → List Char → Prop where
  | raw {c : Char} (printable : 0x20 ≤ c.toNat) (noQuote : c ≠ '"') (noEscape : c ≠ '\\') :
      Spelling (.ofChar c) [c]
  | short {c meant : Char}
      (form : (c, meant) ∈ [('"', '"'), ('\\', '\\'), ('/', '/'), ('b', '\x08'), ('f', '\x0c'),
        ('n', '\n'), ('r', '\r'), ('t', '\t')]) :
      Spelling (.ofChar meant) ['\\', c]
  | unit {code : Nat} {digits : List Char} (hex : Hex code digits) :
      Spelling (.ofNat code) ('\\' :: 'u' :: digits)
  | pair {code : Nat} {high low : List Char} (beyond : 0x10000 ≤ code) (bounded : code < 0x110000)
      (first : Hex (0xD800 + (code - 0x10000) / 0x400) high)
      (second : Hex (0xDC00 + (code - 0x10000) % 0x400) low) :
      Spelling (.ofNat code) ('\\' :: 'u' :: (high ++ '\\' :: 'u' :: low))

inductive Spells : Text → List Char → Prop where
  | nil : Spells [] []
  | cons {point : CodePoint} {points : Text} {text rest : List Char} (one : Spelling point text)
      (others : Spells points rest) : Spells (point :: points) (text ++ rest)

/-- The ways to write the name of a member. -/
inductive Names : Passage → List Char → Prop where
  | quoted {name : Passage} {before body after : List Char} (leading : Blank before)
      (spells : Spells name.points body) (trailing : Blank after) :
      Names name (before ++ ('"' :: (body ++ ['"']) ++ after))

mutual
/-- The ways to write a tree. -/
inductive Renders : Tree → List Char → Prop where
  | null : Renders .null ['n', 'u', 'l', 'l']
  | yes : Renders (.bool true) ['t', 'r', 'u', 'e']
  | no : Renders (.bool false) ['f', 'a', 'l', 's', 'e']
  | whole {value : Int} {short : (Nat.toDigits 10 value.natAbs).length ≤ maxDigits}
      (nonneg : 0 ≤ value) : Renders (.int value short) (Nat.toDigits 10 value.natAbs)
  | negative {value : Int} {short : (Nat.toDigits 10 value.natAbs).length ≤ maxDigits}
      (nonpos : value ≤ 0) : Renders (.int value short) ('-' :: Nat.toDigits 10 value.natAbs)
  | text {value : Passage} {body : List Char} (spells : Spells value.points body) :
      Renders (.text value) ('"' :: (body ++ ['"']))
  | emptyList {space : List Char} (blank : Blank space) :
      Renders (.list []) ('[' :: (space ++ [']']))
  | list {items : List Tree} {body : List Char} (inside : RendersItems items body) :
      Renders (.list items) ('[' :: (body ++ [']']))
  | emptyObject {space : List Char} (blank : Blank space) :
      Renders (.object []) ('{' :: (space ++ ['}']))
  | object {members : List (Passage × Tree)} {body : List Char}
      (inside : RendersMembers members body) : Renders (.object members) ('{' :: (body ++ ['}']))

/-- The ways to write a tree with blanks around it. -/
inductive RendersPadded : Tree → List Char → Prop where
  | padded {tree : Tree} {before text after : List Char} (leading : Blank before)
      (renders : Renders tree text) (trailing : Blank after) :
      RendersPadded tree (before ++ (text ++ after))

inductive RendersItems : List Tree → List Char → Prop where
  | last {item : Tree} {text : List Char} (one : RendersPadded item text) :
      RendersItems [item] text
  | more {item : Tree} {items : List Tree} {text rest : List Char} (one : RendersPadded item text)
      (others : RendersItems items rest) : RendersItems (item :: items) (text ++ ',' :: rest)

inductive RendersMembers : List (Passage × Tree) → List Char → Prop where
  | last {name : Passage} {value : Tree} {label text : List Char} (named : Names name label)
      (one : RendersPadded value text) : RendersMembers [(name, value)] (label ++ ':' :: text)
  | more {name : Passage} {value : Tree} {members : List (Passage × Tree)}
      {label text rest : List Char} (named : Names name label) (one : RendersPadded value text)
      (others : RendersMembers members rest) :
      RendersMembers ((name, value) :: members) (label ++ ':' :: (text ++ ',' :: rest))
end

end ForeignCall.Json
