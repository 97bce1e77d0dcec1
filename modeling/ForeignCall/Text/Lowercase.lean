import ForeignCall.Text.CaseData
import ForeignCall.Text.CodePoint

/-! Full lower-casing. Every letter goes to its partner on its own, except that U+0130 becomes two
characters and a capital sigma at the end of a word becomes the final sigma. -/

namespace ForeignCall.Text

def isCaseIgnorable (c : Char) : Bool :=
  inRanges caseIgnorableRanges c.toNat

def isCased (c : Char) : Bool :=
  inRanges casedRanges c.toNat

/-- Whether the nearest character that is not case-ignorable is cased. -/
def meetsCased (chars : List Char) : Bool :=
  match chars.dropWhile isCaseIgnorable with
  | [] => false
  | c :: _ => isCased c

def lowercaseChar (c : Char) : Char :=
  match lowercaseRuns.find? fun run => run.covers c.toNat with
  | some run => Char.ofNat (Int.ofNat c.toNat + run.shift).toNat
  | none => c

/-- A sigma is final when a cased character precedes it and none follows. -/
def lowercaseFrom (before : List Char) : List Char → List Char
  | [] => []
  | c :: rest =>
      let lower :=
        if c.toNat = 0x130 then [Char.ofNat 0x69, Char.ofNat 0x307]
        else if c.toNat = 0x3A3 then
          if meetsCased before && !meetsCased rest then [Char.ofNat 0x3C2] else [Char.ofNat 0x3C3]
        else [lowercaseChar c]
      lower ++ lowercaseFrom (c :: before) rest

def lowercase (chars : List Char) : List Char :=
  lowercaseFrom [] chars

def lowercased (s : String) : String :=
  String.ofList (lowercase s.toList)

end ForeignCall.Text
