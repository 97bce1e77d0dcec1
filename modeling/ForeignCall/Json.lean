import ForeignCall.Binary64
import ForeignCall.Datum

/-! JSON texts read by a stack machine, one character at a time. Besides the grammar of JSON the
machine takes `NaN`, `Infinity` and `-Infinity`, integers of any size up to `maxDigits` digits, and
escaped surrogate halves. It stops at the first character that no text can go on with. -/

namespace ForeignCall.Json

inductive Problem where
  | expectingValue
  | expectingName
  | expectingColon
  | expectingComma
  | extraData
  | unterminatedString
  | controlCharacter
  | invalidEscape
  | invalidUnicodeEscape
  | byteOrderMark
  deriving DecidableEq

inductive Container where
  | array
  | object
  deriving DecidableEq

/-- Why the machine stops, with the number of characters before the place it blames. -/
inductive Stop where
  | problem (what : Problem) (position : Nat)
  | tooManyDigits (count : Nat)
  | tooDeep (container : Container)
  deriving DecidableEq

def maxDigits : Nat := 4300

/-- At most this many arrays and objects may be open at once. -/
def maxDepth : Nat := 990

/-- An unfinished array with its items, newest first, or an unfinished object with the name whose
value is being read. -/
inductive Frame where
  | array (items : List Datum)
  | object (fields : List (Key × Datum)) (name : Text)

/-- What a string is read for: a value, or the next name of an object with these fields. -/
inductive Purpose where
  | value
  | name (fields : List (Key × Datum))

inductive StringPart where
  | body
  | escape (backslash : Nat)
  | unicode (letter : Nat) (digits : Nat) (unit : Nat)
  | afterUnicode (letter : Nat)

/-- A string whose opening quote stands at `opened`, its code points newest first. -/
structure Quoted where
  purpose : Purpose
  opened : Nat
  points : Text
  part : StringPart

inductive NumeralPart where
  | sign
  | zero
  | whole
  | point (mark : Nat)
  | fraction
  | exponentMark (mark : Nat)
  | exponentSign (mark : Nat)
  | exponent

/-- A number under way. `digits` is the value of all digits before the exponent, `places` the
number of those after the point. `hasFraction` says whether there are any. -/
structure Numeral where
  start : Nat
  negative : Bool
  part : NumeralPart
  digits : Nat
  wholeDigits : Nat
  places : Nat
  exponent : Nat
  exponentNegative : Bool

inductive State where
  | value (mayClose : Bool)
  | name (fields : List (Key × Datum)) (mayClose : Bool)
  | colon (fields : List (Key × Datum)) (name : Text)
  | quoted (string : Quoted)
  | numeral (number : Numeral)
  | word (start : Nat) (rest : List Char) (meaning : Datum)
  | done (value : Datum)

structure Machine where
  position : Nat
  stack : List Frame
  state : State

def isSpace (c : Char) : Bool :=
  c = ' ' || c = '\t' || c = '\n' || c = '\r'

def digit? (c : Char) : Option Nat :=
  if '0' ≤ c && c ≤ '9' then some (c.toNat - '0'.toNat) else none

def hexDigit? (c : Char) : Option Nat :=
  if '0' ≤ c && c ≤ '9' then some (c.toNat - '0'.toNat)
  else if 'a' ≤ c && c ≤ 'f' then some (c.toNat - 'a'.toNat + 10)
  else if 'A' ≤ c && c ≤ 'F' then some (c.toNat - 'A'.toNat + 10)
  else none

def escaped? (c : Char) : Option Char :=
  match c with
  | '"' => some '"'
  | '\\' => some '\\'
  | '/' => some '/'
  | 'b' => some '\x08'
  | 'f' => some '\x0c'
  | 'n' => some '\n'
  | 'r' => some '\r'
  | 't' => some '\t'
  | _ => none

/-- An escaped low half joins an escaped high half just before it. -/
def pushUnit (unit : CodePoint) : Text → Text
  | [] => [unit]
  | last :: rest =>
      if last.isHighSurrogate && unit.isLowSurrogate then
        CodePoint.ofSurrogates last unit :: rest
      else unit :: last :: rest

namespace Machine

def goto (m : Machine) (stack : List Frame) (state : State) : Except Stop Machine :=
  .ok ⟨m.position + 1, stack, state⟩

def fail (m : Machine) (what : Problem) : Except Stop Machine :=
  .error (.problem what m.position)

/-- What is wrong where a value has ended and nothing may follow but a separator. -/
def unfinished : List Frame → Problem
  | [] => .extraData
  | _ :: _ => .expectingComma

def stepDone (m : Machine) (value : Datum) (c : Char) : Except Stop Machine :=
  if isSpace c then m.goto m.stack (.done value)
  else
    match m.stack with
    | [] => m.fail .extraData
    | .array items :: rest =>
        if c = ',' then m.goto (.array (value :: items) :: rest) (.value false)
        else if c = ']' then m.goto rest (.done (.list (value :: items).reverse))
        else m.fail .expectingComma
    | .object fields name :: rest =>
        let fields := Table.set (Key.text name) value fields
        if c = ',' then m.goto rest (.name fields false)
        else if c = '}' then m.goto rest (.done (.map fields))
        else m.fail .expectingComma

def openArray (m : Machine) : Except Stop Machine :=
  if maxDepth ≤ m.stack.length then .error (.tooDeep .array)
  else m.goto (.array [] :: m.stack) (.value true)

def openObject (m : Machine) : Except Stop Machine :=
  if maxDepth ≤ m.stack.length then .error (.tooDeep .object)
  else m.goto m.stack (.name [] true)

def startNumeral (m : Machine) (c : Char) : Except Stop Machine :=
  match digit? c with
  | none =>
      if c = '-' then m.goto m.stack (.numeral ⟨m.position, true, .sign, 0, 0, 0, 0, false⟩)
      else m.fail .expectingValue
  | some 0 => m.goto m.stack (.numeral ⟨m.position, false, .zero, 0, 1, 0, 0, false⟩)
  | some d => m.goto m.stack (.numeral ⟨m.position, false, .whole, d, 1, 0, 0, false⟩)

def startValue (m : Machine) (c : Char) : Except Stop Machine :=
  match c with
  | '"' => m.goto m.stack (.quoted ⟨.value, m.position, [], .body⟩)
  | '[' => m.openArray
  | '{' => m.openObject
  | 'n' => m.goto m.stack (.word m.position ['u', 'l', 'l'] .null)
  | 't' => m.goto m.stack (.word m.position ['r', 'u', 'e'] (.bool true))
  | 'f' => m.goto m.stack (.word m.position ['a', 'l', 's', 'e'] (.bool false))
  | 'N' => m.goto m.stack (.word m.position ['a', 'N'] (.float Binary64.nan))
  | 'I' =>
      m.goto m.stack
        (.word m.position ['n', 'f', 'i', 'n', 'i', 't', 'y'] (.float Binary64.infinity))
  | _ => m.startNumeral c

def stepValue (m : Machine) (mayClose : Bool) (c : Char) : Except Stop Machine :=
  if isSpace c then m.goto m.stack (.value mayClose)
  else if mayClose && c = ']' then m.goto m.stack.tail (.done (.list []))
  else m.startValue c

def stepName (m : Machine) (fields : List (Key × Datum)) (mayClose : Bool) (c : Char) :
    Except Stop Machine :=
  if isSpace c then m.goto m.stack (.name fields mayClose)
  else if c = '"' then m.goto m.stack (.quoted ⟨.name fields, m.position, [], .body⟩)
  else if mayClose && c = '}' then m.goto m.stack (.done (.map fields))
  else m.fail .expectingName

def stepColon (m : Machine) (fields : List (Key × Datum)) (name : Text) (c : Char) :
    Except Stop Machine :=
  if isSpace c then m.goto m.stack (.colon fields name)
  else if c = ':' then m.goto (.object fields name :: m.stack) (.value false)
  else m.fail .expectingColon

def closeString (m : Machine) (s : Quoted) : Except Stop Machine :=
  match s.purpose with
  | .value => m.goto m.stack (.done (.text s.points.reverse))
  | .name fields => m.goto m.stack (.colon fields s.points.reverse)

def stepBody (m : Machine) (s : Quoted) (c : Char) : Except Stop Machine :=
  if c = '"' then m.closeString s
  else if c = '\\' then m.goto m.stack (.quoted { s with part := .escape m.position })
  else if c.toNat < 0x20 then m.fail .controlCharacter
  else m.goto m.stack (.quoted { s with points := CodePoint.ofChar c :: s.points, part := .body })

def stepEscape (m : Machine) (s : Quoted) (backslash : Nat) (c : Char) : Except Stop Machine :=
  if c = 'u' then m.goto m.stack (.quoted { s with part := .unicode m.position 0 0 })
  else
    match escaped? c with
    | some meant =>
        m.goto m.stack
          (.quoted { s with points := CodePoint.ofChar meant :: s.points, part := .body })
    | none => .error (.problem .invalidEscape backslash)

def stepUnicode (m : Machine) (s : Quoted) (letter digits unit : Nat) (c : Char) :
    Except Stop Machine :=
  match hexDigit? c with
  | none => .error (.problem .invalidUnicodeEscape letter)
  | some d =>
      let unit := unit * 16 + d
      if digits < 3 then
        m.goto m.stack (.quoted { s with part := .unicode letter (digits + 1) unit })
      else
        m.goto m.stack
          (.quoted { s with
            points := pushUnit (CodePoint.ofNat unit) s.points, part := .afterUnicode letter })

def stepQuoted (m : Machine) (s : Quoted) (c : Char) : Except Stop Machine :=
  match s.part with
  | .body => m.stepBody s c
  | .afterUnicode _ => m.stepBody s c
  | .escape backslash => m.stepEscape s backslash c
  | .unicode letter digits unit => m.stepUnicode s letter digits unit c

def stepWord (m : Machine) (start : Nat) (rest : List Char) (meaning : Datum) (c : Char) :
    Except Stop Machine :=
  match rest with
  | [] => .error (.problem .expectingValue start)
  | [last] =>
      if c = last then m.goto m.stack (.done meaning)
      else .error (.problem .expectingValue start)
  | next :: more =>
      if c = next then m.goto m.stack (.word start more meaning)
      else .error (.problem .expectingValue start)

end Machine

namespace Numeral

def hasExponent (n : Numeral) : Bool :=
  match n.part with
  | .exponent => true
  | _ => false

def toInt (n : Numeral) : Int :=
  if n.negative then -Int.ofNat n.digits else Int.ofNat n.digits

def toBinary64 (n : Numeral) : UInt64 :=
  let exponent : Int :=
    if n.hasExponent then
      if n.exponentNegative then -Int.ofNat n.exponent else Int.ofNat n.exponent
    else 0
  Binary64.withSign n.negative (Binary64.ofDecimal n.digits (exponent - Int.ofNat n.places))

/-- The value of the longest number that the characters read so far begin with. -/
def value (n : Numeral) : Except Stop Datum :=
  match n.part with
  | .sign => .error (.problem .expectingValue n.start)
  | _ =>
      if n.places = 0 && !n.hasExponent then
        if maxDigits < n.wholeDigits then .error (.tooManyDigits n.wholeDigits)
        else .ok (.int n.toInt)
      else .ok (.float n.toBinary64)

def mark? (n : Numeral) : Option Nat :=
  match n.part with
  | .point mark => some mark
  | .exponentMark mark => some mark
  | .exponentSign mark => some mark
  | _ => none

/-- The number with one more character, if one can go on with it; `position` is where it stands. -/
def extend (n : Numeral) (position : Nat) (c : Char) : Option Numeral :=
  match n.part, digit? c with
  | .sign, some d =>
      some { n with part := if d = 0 then .zero else .whole, digits := d, wholeDigits := 1 }
  | .sign, none => none
  | .zero, some _ => none
  | .whole, some d =>
      some { n with digits := n.digits * 10 + d, wholeDigits := n.wholeDigits + 1 }
  | .zero, none => mark n position c
  | .whole, none => mark n position c
  | .point _, some d =>
      some { n with part := .fraction, digits := n.digits * 10 + d, places := n.places + 1 }
  | .point _, none => none
  | .fraction, some d => some { n with digits := n.digits * 10 + d, places := n.places + 1 }
  | .fraction, none =>
      if c = 'e' || c = 'E' then some { n with part := .exponentMark position } else none
  | .exponentMark _, some d => some { n with part := .exponent, exponent := d }
  | .exponentMark mark, none =>
      if c = '-' then some { n with part := .exponentSign mark, exponentNegative := true }
      else if c = '+' then some { n with part := .exponentSign mark }
      else none
  | .exponentSign _, some d => some { n with part := .exponent, exponent := d }
  | .exponentSign _, none => none
  | .exponent, some d => some { n with exponent := n.exponent * 10 + d }
  | .exponent, none => none
where
  mark (n : Numeral) (position : Nat) (c : Char) : Option Numeral :=
    if c = '.' then some { n with part := .point position }
    else if c = 'e' || c = 'E' then some { n with part := .exponentMark position }
    else none

end Numeral

namespace Machine

/-- The end of a number. Characters read in vain after it cannot follow a value. -/
def endNumeral (m : Machine) (n : Numeral) : Except Stop Datum :=
  match n.value with
  | .error stop => .error stop
  | .ok value =>
      match n.mark? with
      | some mark => .error (.problem (unfinished m.stack) mark)
      | none => .ok value

def stepNumeral (m : Machine) (n : Numeral) (c : Char) : Except Stop Machine :=
  match n.extend m.position c with
  | some longer => m.goto m.stack (.numeral longer)
  | none =>
      match n.part with
      | .sign =>
          if c = 'I' then
            m.goto m.stack
              (.word n.start ['n', 'f', 'i', 'n', 'i', 't', 'y']
                (.float (Binary64.withSign true Binary64.infinity)))
          else .error (.problem .expectingValue n.start)
      | _ =>
          match m.endNumeral n with
          | .error stop => .error stop
          | .ok value => m.stepDone value c

def step (m : Machine) (c : Char) : Except Stop Machine :=
  match m.state with
  | .value mayClose => m.stepValue mayClose c
  | .name fields mayClose => m.stepName fields mayClose c
  | .colon fields name => m.stepColon fields name c
  | .quoted s => m.stepQuoted s c
  | .numeral n => m.stepNumeral n c
  | .word start rest meaning => m.stepWord start rest meaning c
  | .done value => m.stepDone value c

def finishDone (m : Machine) (value : Datum) : Except Stop Datum :=
  match m.stack with
  | [] => .ok value
  | _ :: _ => .error (.problem .expectingComma m.position)

def finishQuoted (s : Quoted) : Except Stop Datum :=
  match s.part with
  | .body => .error (.problem .unterminatedString s.opened)
  | .escape _ => .error (.problem .unterminatedString s.opened)
  | .unicode letter _ _ => .error (.problem .invalidUnicodeEscape letter)
  | .afterUnicode letter => .error (.problem .invalidUnicodeEscape letter)

def finish (m : Machine) : Except Stop Datum :=
  match m.state with
  | .value _ => .error (.problem .expectingValue m.position)
  | .name _ _ => .error (.problem .expectingName m.position)
  | .colon _ _ => .error (.problem .expectingColon m.position)
  | .quoted s => finishQuoted s
  | .word start _ _ => .error (.problem .expectingValue start)
  | .numeral n =>
      match m.endNumeral n with
      | .error stop => .error stop
      | .ok value => m.finishDone value
  | .done value => m.finishDone value

def run (m : Machine) : List Char → Except Stop Datum
  | [] => m.finish
  | c :: rest =>
      match m.step c with
      | .error stop => .error stop
      | .ok next => next.run rest

def initial : Machine := ⟨0, [], .value false⟩

end Machine

def read (text : List Char) : Except Stop Datum :=
  match text with
  | c :: _ =>
      if c.toNat = 0xFEFF then .error (.problem .byteOrderMark 0) else Machine.initial.run text
  | [] => Machine.initial.run text

/-- A place in a text: its line and column, counted from one, and its offset, counted from zero.
Only line feeds end lines. -/
structure Place where
  line : Nat
  column : Nat
  offset : Nat
  deriving DecidableEq

def Place.advance (place : Place) (c : Char) : Place :=
  if c = '\n' then ⟨place.line + 1, 1, place.offset + 1⟩
  else ⟨place.line, place.column + 1, place.offset + 1⟩

def Place.of (text : List Char) (position : Nat) : Place :=
  (text.take position).foldl Place.advance ⟨1, 1, 0⟩

inductive Flaw where
  | problem (what : Problem) (place : Place)
  | tooManyDigits (count : Nat)
  | tooDeep (container : Container)
  deriving DecidableEq

def Stop.flaw (text : List Char) : Stop → Flaw
  | .problem what position => .problem what (Place.of text position)
  | .tooManyDigits count => .tooManyDigits count
  | .tooDeep container => .tooDeep container

def decode (text : List Char) : Except Flaw Datum :=
  match read text with
  | .ok value => .ok value
  | .error stop => .error (stop.flaw text)

end ForeignCall.Json
