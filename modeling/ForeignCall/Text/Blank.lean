/-! Unicode white space, and text without it at either end. -/

namespace ForeignCall.Text

def isBlank (c : Char) : Bool :=
  (0x09 ≤ c.toNat && c.toNat ≤ 0x0D) || (0x1C ≤ c.toNat && c.toNat ≤ 0x20) ||
  (0x2000 ≤ c.toNat && c.toNat ≤ 0x200A) ||
  c.toNat ∈ [0x85, 0xA0, 0x1680, 0x2028, 0x2029, 0x202F, 0x205F, 0x3000]

def trimLeft (chars : List Char) : List Char :=
  chars.dropWhile isBlank

def trimRight (chars : List Char) : List Char :=
  (trimLeft chars.reverse).reverse

def trim (chars : List Char) : List Char :=
  trimRight (trimLeft chars)

def trimmed (s : String) : String :=
  String.ofList (trim s.toList)

theorem trimLeft_of_blank {chars : List Char} (blank : ∀ c ∈ chars, isBlank c = true) :
    trimLeft chars = [] := by
  induction chars with
  | nil => rfl
  | cons c rest ih =>
      rw [List.forall_mem_cons] at blank
      exact (List.dropWhile_cons_of_pos blank.1).trans (ih blank.2)

theorem trimmed_of_blank {s : String} (blank : ∀ c ∈ s.toList, isBlank c = true) :
    trimmed s = "" := by
  rw [trimmed, trim, trimLeft_of_blank blank]
  rfl

theorem trimLeft_of_clear {chars : List Char} (clear : ∀ c ∈ chars, isBlank c = false) :
    trimLeft chars = chars := by
  cases chars with
  | nil => rfl
  | cons c rest =>
      have first : ¬isBlank c = true := by simp [clear c]
      rw [trimLeft, List.dropWhile_cons_of_neg first]

theorem trimmed_of_clear {s : String} (clear : ∀ c ∈ s.toList, isBlank c = false) :
    trimmed s = s := by
  have backward : ∀ c ∈ s.toList.reverse, isBlank c = false := by simpa using clear
  rw [trimmed, trim, trimLeft_of_clear clear, trimRight, trimLeft_of_clear backward,
    List.reverse_reverse, String.ofList_toList]

end ForeignCall.Text
