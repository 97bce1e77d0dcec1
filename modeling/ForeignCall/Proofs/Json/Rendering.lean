import ForeignCall.Proofs.Json.Reading
import ForeignCall.Proofs.Json.Tree

/-! Every rendering of a tree is read as that tree. -/

namespace ForeignCall.Json

/-- Reading `text` in front of `rest` the machine goes from one stack and state to another, wherever
it stands. -/
def Takes (source : List Frame × State) (text rest : List Char) (target : List Frame × State) :
    Prop :=
  ∀ position, ∃ next, (⟨position, source.1, source.2⟩ : Machine).run (text ++ rest) =
    (⟨next, target.1, target.2⟩ : Machine).run rest

theorem Takes.trans {source middle target : List Frame × State} {text more rest : List Char}
    (first : Takes source text (more ++ rest) middle) (second : Takes middle more rest target) :
    Takes source (text ++ more) rest target := by
  intro position
  obtain ⟨between, first⟩ := first position
  obtain ⟨next, second⟩ := second between
  exact ⟨next, by rw [List.append_assoc, first, second]⟩

theorem Takes.of_step {stack after : List Frame} {state goal : State} {c : Char}
    (step : ∀ position, (⟨position, stack, state⟩ : Machine).step c =
      .ok ⟨position + 1, after, goal⟩) (rest : List Char) :
    Takes (stack, state) [c] rest (after, goal) :=
  fun position => ⟨position + 1, run_of_ok (step position) rest⟩

theorem Takes.cons {stack between : List Frame} {state middle : State} {c : Char}
    (step : ∀ position, (⟨position, stack, state⟩ : Machine).step c =
      .ok ⟨position + 1, between, middle⟩) {more rest : List Char} {target : List Frame × State}
    (second : Takes (between, middle) more rest target) :
    Takes (stack, state) (c :: more) rest target :=
  (Takes.of_step step (more ++ rest)).trans second

/-! Blanks. -/

theorem Blank.isSpace {text : List Char} (blank : Blank text) {c : Char} (member : c ∈ text) :
    isSpace c = true := by
  rcases blank c member with rfl | rfl | rfl | rfl <;> rfl

/-- The states between two tokens, where blanks are passed over. -/
inductive BetweenTokens : State → Prop where
  | value (mayClose : Bool) : BetweenTokens (.value mayClose)
  | name (fields : List (Key × Datum)) (mayClose : Bool) : BetweenTokens (.name fields mayClose)
  | colon (fields : List (Key × Datum)) (name : Text) : BetweenTokens (.colon fields name)
  | done (value : Datum) : BetweenTokens (.done value)

theorem step_of_space {position : Nat} {stack : List Frame} {state : State} {c : Char}
    (between : BetweenTokens state) (space : isSpace c = true) :
    (⟨position, stack, state⟩ : Machine).step c = .ok ⟨position + 1, stack, state⟩ := by
  cases between <;> exact if_pos space

theorem takes_blank {stack : List Frame} {state : State} (between : BetweenTokens state)
    {text : List Char} (blank : Blank text) (rest : List Char) :
    Takes (stack, state) text rest (stack, state) := by
  induction text with
  | nil => exact fun position => ⟨position, rfl⟩
  | cons c text ih =>
      have space := blank.isSpace (List.mem_cons_self ..)
      exact .cons (fun _ => step_of_space between space) (ih (List.forall_mem_cons.mp blank).2)

/-! Strings. -/

theorem IsHexDigit.read {value : Nat} {c : Char} (hex : IsHexDigit value c) :
    hexDigit? c = some value := by
  have both : ∀ d < 16, hexDigit? (Nat.digitChar d) = some d ∧
      hexDigit? (Nat.digitChar d).toUpper = some d := by
    decide
  obtain ⟨small, rfl | rfl⟩ := hex
  · exact (both value small).1
  · exact (both value small).2

/-- The parts of a string between its characters. -/
inductive Resting : StringPart → Prop where
  | body : Resting .body
  | afterUnicode (letter : Nat) : Resting (.afterUnicode letter)

/-- A machine within a string. -/
abbrev inString (position : Nat) (stack : List Frame) (purpose : Purpose) (opened : Nat)
    (points : Text) (part : StringPart) : Machine :=
  ⟨position, stack, .quoted ⟨purpose, opened, points, part⟩⟩

section Strings

variable {position : Nat} {stack : List Frame} {purpose : Purpose} {opened : Nat} {points : Text}
  {part : StringPart} {rest : List Char}

theorem step_of_resting (resting : Resting part) (c : Char) :
    (inString position stack purpose opened points part).step c =
      (inString position stack purpose opened points part).stepBody
        ⟨purpose, opened, points, part⟩ c := by
  cases resting <;> rfl

theorem run_escape (resting : Resting part) (c : Char) :
    (inString position stack purpose opened points part).run ('\\' :: c :: rest) =
      (inString (position + 1) stack purpose opened points (.escape position)).run (c :: rest) :=
  run_of_ok (step_of_resting resting _) _

/-- Four digits after a backslash and a `u` push the unit they write. -/
theorem run_unit (resting : Resting part) {code : Nat} {digits : List Char}
    (hex : Hex code digits) :
    ∃ next letter,
      (inString position stack purpose opened points part).run ('\\' :: 'u' :: (digits ++ rest)) =
        (inString next stack purpose opened (pushUnit (.ofNat code) points)
          (.afterUnicode letter)).run rest := by
  cases hex with
  | four ha hb hc hd =>
      refine ⟨position + 6, position + 1, ?_⟩
      rw [run_escape resting]
      simp only [List.cons_append, List.nil_append, Machine.run, Machine.step, Machine.stepQuoted,
        Machine.stepEscape, Machine.stepUnicode, Machine.goto, ha.read, hb.read, hc.read, hd.read]
      simp

theorem pushUnit_of_apart {unit : CodePoint}
    (apart : ∀ last ∈ points.head?, Apart last unit) : pushUnit unit points = unit :: points := by
  cases points with
  | nil => rfl
  | cons last older =>
      have apart := apart last rfl
      rw [pushUnit, if_neg]
      rw [Bool.and_eq_true, not_and, Bool.not_eq_true]
      exact apart

theorem pushUnit_halves {high low : Nat} (isHigh : 0xD800 ≤ high ∧ high < 0xDC00)
    (isLow : 0xDC00 ≤ low ∧ low < 0xE000) :
    pushUnit (.ofNat low) (.ofNat high :: points) =
      .ofNat (0x10000 + (high - 0xD800) * 0x400 + (low - 0xDC00)) :: points := by
  have highVal : (CodePoint.ofNat high).val = high := CodePoint.val_ofNat (by omega)
  have lowVal : (CodePoint.ofNat low).val = low := CodePoint.val_ofNat (by omega)
  have halves : ((CodePoint.ofNat high).isHighSurrogate &&
      (CodePoint.ofNat low).isLowSurrogate) = true := by
    simp only [CodePoint.isHighSurrogate, CodePoint.isLowSurrogate, highVal, lowVal,
      Bool.and_eq_true, decide_eq_true_eq]
    exact ⟨isHigh, isLow⟩
  rw [pushUnit, if_pos halves, CodePoint.ofSurrogates, highVal, lowVal]

theorem apart_high {code : Nat} (bounded : code < 0x110000) (last : CodePoint) :
    Apart last (.ofNat (0xD800 + (code - 0x10000) / 0x400)) := by
  intro _
  rw [CodePoint.isLowSurrogate, CodePoint.val_ofNat (by omega), Bool.and_eq_false_iff]
  exact .inl (decide_eq_false (by omega))

theorem Spelling.run {point : CodePoint} {text : List Char} (spelling : Spelling point text)
    (resting : Resting part) (apart : ∀ last ∈ points.head?, Apart last point) :
    ∃ next after, Resting after ∧
      (inString position stack purpose opened points part).run (text ++ rest) =
        (inString next stack purpose opened (point :: points) after).run rest := by
  cases spelling with
  | raw printable noQuote noEscape =>
      refine ⟨position + 1, .body, .body, run_of_ok ?_ rest⟩
      rw [step_of_resting resting, Machine.stepBody, if_neg noQuote, if_neg noEscape,
        if_neg (Nat.not_lt.mpr printable)]
      rfl
  | @short c meant form =>
      refine ⟨position + 2, .body, .body, (run_escape resting c).trans (run_of_ok ?_ rest)⟩
      simp only [List.mem_cons, Prod.mk.injEq, List.not_mem_nil, or_false] at form
      rcases form with ⟨rfl, rfl⟩ | ⟨rfl, rfl⟩ | ⟨rfl, rfl⟩ | ⟨rfl, rfl⟩ | ⟨rfl, rfl⟩ | ⟨rfl, rfl⟩ |
        ⟨rfl, rfl⟩ | ⟨rfl, rfl⟩ <;> rfl
  | unit hex =>
      obtain ⟨next, letter, read⟩ := run_unit resting hex
      rw [pushUnit_of_apart apart] at read
      exact ⟨next, .afterUnicode letter, .afterUnicode letter, read⟩
  | @pair code high low beyond bounded first second =>
      have isHigh : 0xD800 ≤ 0xD800 + (code - 0x10000) / 0x400 ∧
          0xD800 + (code - 0x10000) / 0x400 < 0xDC00 := by
        omega
      have isLow : 0xDC00 ≤ 0xDC00 + (code - 0x10000) % 0x400 ∧
          0xDC00 + (code - 0x10000) % 0x400 < 0xE000 := by
        omega
      have rejoined : 0x10000 + (0xD800 + (code - 0x10000) / 0x400 - 0xD800) * 0x400 +
          (0xDC00 + (code - 0x10000) % 0x400 - 0xDC00) = code := by
        omega
      obtain ⟨between, letter, one⟩ := run_unit resting first
      rw [pushUnit_of_apart fun last _ => apart_high bounded last] at one
      obtain ⟨next, last, two⟩ := run_unit (.afterUnicode letter) second
      rw [pushUnit_halves isHigh isLow, rejoined] at two
      refine ⟨next, .afterUnicode last, .afterUnicode last, ?_⟩
      simp only [List.cons_append, List.append_assoc]
      exact one.trans two

theorem Spells.run {points : Text} {text : List Char} (spells : Spells points text) {before : Text}
    (resting : Resting part) (apart : (before.reverse ++ points).IsChain Apart) :
    ∃ next after, Resting after ∧
      (inString position stack purpose opened before part).run (text ++ rest) =
        (inString next stack purpose opened (points.reverse ++ before) after).run rest := by
  induction spells generalizing position before part with
  | nil => exact ⟨position, part, resting, rfl⟩
  | @cons point points text others one _ ih =>
      -- The code points before stand newest first, so their head is the one just before `point`.
      have first : ∀ last ∈ before.head?, Apart last point := by
        intro last newest
        obtain ⟨older, rfl⟩ := List.head?_eq_some_iff.mp newest
        rw [List.reverse_cons, List.append_assoc] at apart
        exact (List.isChain_append_cons_cons.mp apart).2.1
      have later : ((point :: before).reverse ++ points).IsChain Apart := by
        rwa [List.reverse_cons, List.append_assoc]
      obtain ⟨between, middle, resting, read⟩ := one.run resting first
      obtain ⟨next, after, resting, readOthers⟩ := ih resting later
      refine ⟨next, after, resting, ?_⟩
      rw [List.append_assoc, read, readOthers, List.reverse_cons, List.append_assoc]
      rfl

end Strings

/-- What is to come after a string. -/
def closed : Purpose → Text → State
  | .value, points => .done (.text points)
  | .name fields, points => .colon fields points

theorem takes_quoted {stack : List Frame} {state : State} {purpose : Purpose}
    (opens : ∀ position, (⟨position, stack, state⟩ : Machine).step '"' =
      .ok (inString (position + 1) stack purpose position [] .body))
    {value : Passage} {body : List Char} (spells : Spells value.points body) (rest : List Char) :
    Takes (stack, state) ('"' :: (body ++ ['"'])) rest (stack, closed purpose value.points) := by
  intro position
  obtain ⟨next, part, resting, read⟩ :=
    @Spells.run (position + 1) stack purpose position .body ('"' :: rest) _ _ spells [] .body
      value.apart
  refine ⟨next + 1, ?_⟩
  rw [List.cons_append, List.append_assoc, run_of_ok (opens position)]
  refine read.trans (run_of_ok ?_ rest)
  rw [step_of_resting resting, List.append_nil]
  cases purpose <;> simp [Machine.stepBody, Machine.closeString, Machine.goto, closed]

theorem takes_text {stack : List Frame} (mayClose : Bool) {value : Passage} {body : List Char}
    (spells : Spells value.points body) (rest : List Char) :
    Takes (stack, .value mayClose) ('"' :: (body ++ ['"'])) rest
      (stack, .done (.text value.points)) := by
  have opens : ∀ position, (⟨position, stack, .value mayClose⟩ : Machine).step '"' =
      .ok ⟨position + 1, stack, .quoted ⟨.value, position, [], .body⟩⟩ := by
    cases mayClose <;> exact fun _ => rfl
  exact takes_quoted opens spells rest

/-! Numbers. -/

/-- The characters that can come after a value. -/
def delimiters : List Char :=
  [' ', '\t', '\n', '\r', ',', ']', '}']

/-- The text goes on, if it does, with such a character. -/
def Delimits (rest : List Char) : Prop :=
  ∀ c ∈ rest.head?, c ∈ delimiters

theorem delimits_cons {c : Char} (delimiter : c ∈ delimiters) (rest : List Char) :
    Delimits (c :: rest) := by
  intro first same
  cases same
  exact delimiter

theorem Delimits.blank_append {space rest : List Char} (delimits : Delimits rest)
    (blank : Blank space) : Delimits (space ++ rest) := by
  cases space with
  | nil => exact delimits
  | cons c space =>
      refine delimits_cons ?_ (space ++ rest)
      rcases blank c (List.mem_cons_self ..) with rfl | rfl | rfl | rfl <;> decide

/-- The numeral after all digits of a number. -/
def whole (start : Nat) (negative : Bool) (value : Nat) : Numeral :=
  ⟨start, negative, if value = 0 then .zero else .whole, value, (Nat.toDigits 10 value).length,
    0, 0, false⟩

theorem digit?_digitChar {d : Nat} (small : d < 10) : digit? (Nat.digitChar d) = some d := by
  have all : ∀ d < 10, digit? (Nat.digitChar d) = some d := by decide
  exact all d small

section Numbers

variable {position : Nat} {stack : List Frame} {start : Nat} {negative : Bool} {rest : List Char}

theorem step_first_digit (mayClose : Bool) {d : Nat} (small : d < 10) :
    (⟨position, stack, .value mayClose⟩ : Machine).step (Nat.digitChar d) =
      .ok ⟨position + 1, stack, .numeral (whole position false d)⟩ := by
  have cases : d = 0 ∨ d = 1 ∨ d = 2 ∨ d = 3 ∨ d = 4 ∨ d = 5 ∨ d = 6 ∨ d = 7 ∨ d = 8 ∨ d = 9 := by
    omega
  rcases cases with rfl | rfl | rfl | rfl | rfl | rfl | rfl | rfl | rfl | rfl <;>
    cases mayClose <;> rfl

theorem step_signed_digit {d : Nat} (small : d < 10) :
    (⟨position, stack, .numeral ⟨start, true, .sign, 0, 0, 0, 0, false⟩⟩ : Machine).step
        (Nat.digitChar d) =
      .ok ⟨position + 1, stack, .numeral (whole start true d)⟩ := by
  simp only [Machine.step, Machine.stepNumeral, Numeral.extend, digit?_digitChar small, whole,
    Nat.toDigits_of_lt_base small]
  rfl

theorem step_further_digit {value : Nat} (large : 10 ≤ value) :
    (⟨position, stack, .numeral (whole start negative (value / 10))⟩ : Machine).step
        (Nat.digitChar (value % 10)) =
      .ok ⟨position + 1, stack, .numeral (whole start negative value)⟩ := by
  have digit : digit? (Nat.digitChar (value % 10)) = some (value % 10) :=
    digit?_digitChar (Nat.mod_lt value (by decide))
  have before : ¬ value / 10 = 0 := by omega
  have after : ¬ value = 0 := by omega
  have length : (Nat.toDigits 10 value).length = (Nat.toDigits 10 (value / 10)).length + 1 := by
    rw [Nat.toDigits_of_base_le (by decide) large, List.length_append]
    rfl
  have sum : value / 10 * 10 + value % 10 = value := Nat.div_add_mod' value 10
  simp only [Machine.step, Machine.stepNumeral, Numeral.extend, whole, if_neg before, if_neg after,
    digit, sum, length]
  rfl

/-- By induction on the number: its digits are those of its tenth with one more. -/
theorem run_digits {m : Machine}
    (first : ∀ d < 10, m.step (Nat.digitChar d) =
      .ok ⟨m.position + 1, m.stack, .numeral (whole start negative d)⟩)
    (value : Nat) (rest : List Char) :
    ∃ next, m.run (Nat.toDigits 10 value ++ rest) =
      (⟨next, m.stack, .numeral (whole start negative value)⟩ : Machine).run rest := by
  induction value using Nat.strongRecOn generalizing rest with
  | ind value ih =>
      by_cases small : value < 10
      · rw [Nat.toDigits_of_lt_base small]
        exact ⟨m.position + 1, run_of_ok (first value small) rest⟩
      · have large : 10 ≤ value := Nat.le_of_not_lt small
        obtain ⟨between, read⟩ := ih (value / 10) (by omega) (Nat.digitChar (value % 10) :: rest)
        refine ⟨between + 1, ?_⟩
        rw [Nat.toDigits_of_base_le (by decide) large, List.append_assoc]
        exact read.trans (run_of_ok (step_further_digit large) rest)

theorem endNumeral_whole (m : Machine) {value : Nat}
    (short : (Nat.toDigits 10 value).length ≤ maxDigits) :
    m.endNumeral (whole start negative value) =
      .ok (.int (whole start negative value).toInt) := by
  by_cases zero : value = 0
  · rw [zero]
    rfl
  · simp [Machine.endNumeral, Numeral.value, Numeral.mark?, Numeral.hasExponent, whole, zero,
      Nat.not_lt.mpr short]

theorem part_whole_ne_sign (value : Nat) : (whole start negative value).part ≠ .sign := by
  unfold whole
  split <;> nofun

theorem extend_whole_of_delimiter {c : Char} (delimiter : c ∈ delimiters) (value : Nat) :
    (whole start negative value).extend position c = none := by
  simp only [delimiters, List.mem_cons, List.not_mem_nil, or_false] at delimiter
  by_cases zero : value = 0 <;>
    rcases delimiter with rfl | rfl | rfl | rfl | rfl | rfl | rfl <;>
      simp [Numeral.extend, Numeral.extend.mark, whole, zero, digit?]

/-- Before a delimiter, the digits read so far are a value. -/
theorem run_whole {value : Nat} (short : (Nat.toDigits 10 value).length ≤ maxDigits)
    (delimits : Delimits rest) :
    (⟨position, stack, .numeral (whole start negative value)⟩ : Machine).run rest =
      (⟨position, stack, .done (.int (whole start negative value).toInt)⟩ : Machine).run rest := by
  cases rest with
  | nil => simp only [Machine.run, Machine.finish, endNumeral_whole _ short]; rfl
  | cons c rest =>
      have ends := @extend_whole_of_delimiter position start negative c (delimits c rfl) value
      have same :
          (⟨position, stack, .numeral (whole start negative value)⟩ : Machine).step c =
            (⟨position, stack, .done (.int (whole start negative value).toInt)⟩ : Machine).step
              c := by
        simp only [Machine.step, Machine.stepNumeral, ends, endNumeral_whole _ short]
        split
        next sign => exact absurd sign (part_whole_ne_sign value)
        next => rfl
      rw [Machine.run, Machine.run, same]

theorem takes_whole {value : Int} (short : (Nat.toDigits 10 value.natAbs).length ≤ maxDigits)
    (nonneg : 0 ≤ value) (mayClose : Bool) (delimits : Delimits rest) :
    Takes (stack, .value mayClose) (Nat.toDigits 10 value.natAbs) rest
      (stack, .done (.int value)) := by
  intro position
  obtain ⟨next, read⟩ := @run_digits position false ⟨position, stack, .value mayClose⟩
    (fun _ small => step_first_digit mayClose small) value.natAbs rest
  have meant : (whole position false value.natAbs).toInt = value := Int.natAbs_of_nonneg nonneg
  exact ⟨next, by rw [read, run_whole short delimits, meant]⟩

theorem takes_negative {value : Int} (short : (Nat.toDigits 10 value.natAbs).length ≤ maxDigits)
    (nonpos : value ≤ 0) (mayClose : Bool) (delimits : Delimits rest) :
    Takes (stack, .value mayClose) ('-' :: Nat.toDigits 10 value.natAbs) rest
      (stack, .done (.int value)) := by
  intro position
  have sign : (⟨position, stack, .value mayClose⟩ : Machine).step '-' =
      .ok ⟨position + 1, stack, .numeral ⟨position, true, .sign, 0, 0, 0, 0, false⟩⟩ := by
    cases mayClose <;> rfl
  obtain ⟨next, read⟩ := @run_digits position true
    ⟨position + 1, stack, .numeral ⟨position, true, .sign, 0, 0, 0, 0, false⟩⟩
    (fun _ small => step_signed_digit small) value.natAbs rest
  have meant : (whole position true value.natAbs).toInt = value := by
    change -(value.natAbs : Int) = value
    rw [Int.ofNat_natAbs_of_nonpos nonpos, Int.neg_neg]
  refine ⟨next, (run_of_ok sign _).trans (read.trans ?_)⟩
  rw [run_whole short delimits, meant]

end Numbers

/-! Lists and objects. -/

section Containers

variable {position : Nat} {stack : List Frame}

theorem step_open_list (room : stack.length < maxDepth) (mayClose : Bool) :
    (⟨position, stack, .value mayClose⟩ : Machine).step '[' =
      .ok ⟨position + 1, .array [] :: stack, .value true⟩ := by
  have opened : (⟨position, stack, .value mayClose⟩ : Machine).openArray =
      .ok ⟨position + 1, .array [] :: stack, .value true⟩ := if_neg (Nat.not_le.mpr room)
  cases mayClose <;> exact opened

theorem step_open_object (room : stack.length < maxDepth) (mayClose : Bool) :
    (⟨position, stack, .value mayClose⟩ : Machine).step '{' =
      .ok ⟨position + 1, stack, .name [] true⟩ := by
  have opened : (⟨position, stack, .value mayClose⟩ : Machine).openObject =
      .ok ⟨position + 1, stack, .name [] true⟩ := if_neg (Nat.not_le.mpr room)
  cases mayClose <;> exact opened

theorem takes_name {fields : List (Key × Datum)} (mayClose : Bool) {name : Passage}
    {label : List Char} (named : Names name label) (rest : List Char) :
    Takes (stack, .name fields mayClose) (label ++ [':']) rest
      (.object fields name.points :: stack, .value false) := by
  cases named with
  | quoted leading spells trailing =>
      rw [List.append_assoc, List.append_assoc]
      exact (takes_blank (.name fields mayClose) leading _).trans
        ((takes_quoted (fun _ => rfl) spells _).trans
          ((takes_blank (.colon fields name.points) trailing _).trans
            (.of_step (fun _ => rfl) rest)))

theorem takes_empty_list (room : stack.length < maxDepth) (mayClose : Bool) {space : List Char}
    (blank : Blank space) (rest : List Char) :
    Takes (stack, .value mayClose) ('[' :: (space ++ [']'])) rest (stack, .done (.list [])) :=
  .cons (fun _ => step_open_list room mayClose)
    ((takes_blank (.value true) blank _).trans (.of_step (fun _ => rfl) rest))

theorem takes_empty_object (room : stack.length < maxDepth) (mayClose : Bool) {space : List Char}
    (blank : Blank space) (rest : List Char) :
    Takes (stack, .value mayClose) ('{' :: (space ++ ['}'])) rest (stack, .done (.map [])) :=
  .cons (fun _ => step_open_object room mayClose)
    ((takes_blank (.name [] true) blank _).trans (.of_step (fun _ => rfl) rest))

end Containers

-- By recursion on the rendering. As many levels may still be opened as the tree needs: an object
-- takes up its level of the stack at the colon only, and a list at once.
mutual
theorem Renders.takes : ∀ {tree : Tree} {text : List Char}, Renders tree text →
    ∀ {stack : List Frame}, stack.length + tree.depth ≤ maxDepth → ∀ (mayClose : Bool)
      {rest : List Char}, Delimits rest →
        Takes (stack, .value mayClose) text rest (stack, .done tree.datum)
  | _, _, .null, _, _, mayClose, _, _ => fun position =>
      ⟨position + 4, by cases mayClose <;> rfl⟩
  | _, _, .yes, _, _, mayClose, _, _ => fun position =>
      ⟨position + 4, by cases mayClose <;> rfl⟩
  | _, _, .no, _, _, mayClose, _, _ => fun position =>
      ⟨position + 5, by cases mayClose <;> rfl⟩
  | .int _ short, _, .whole nonneg, _, _, mayClose, _, delimits =>
      takes_whole short nonneg mayClose delimits
  | .int _ short, _, .negative nonpos, _, _, mayClose, _, delimits =>
      takes_negative short nonpos mayClose delimits
  | _, _, .text spells, _, _, mayClose, rest, _ => takes_text mayClose spells rest
  | _, _, .emptyList blank, _, room, mayClose, rest, _ =>
      takes_empty_list room mayClose blank rest
  | _, _, .list inside, _, room, mayClose, rest, _ => by
      rw [Tree.depth] at room
      exact .cons (fun _ => step_open_list (by omega) mayClose)
        (inside.takes (by omega) true rest)
  | _, _, .emptyObject blank, _, room, mayClose, rest, _ =>
      takes_empty_object room mayClose blank rest
  | _, _, .object inside, _, room, mayClose, rest, _ => by
      rw [Tree.depth] at room
      exact .cons (fun _ => step_open_object (by omega) mayClose)
        (inside.takes (by omega) true rest)

theorem RendersPadded.takes : ∀ {tree : Tree} {text : List Char}, RendersPadded tree text →
    ∀ {stack : List Frame}, stack.length + tree.depth ≤ maxDepth → ∀ (mayClose : Bool)
      {rest : List Char}, Delimits rest →
        Takes (stack, .value mayClose) text rest (stack, .done tree.datum)
  | tree, _, .padded leading renders trailing, _, room, mayClose, rest, delimits =>
      (takes_blank (.value mayClose) leading _).trans
        ((renders.takes room mayClose (delimits.blank_append trailing)).trans
          (takes_blank (.done tree.datum) trailing rest))

theorem RendersItems.takes : ∀ {items : List Tree} {text : List Char}, RendersItems items text →
    ∀ {stack : List Frame} {before : List Datum}, stack.length + 1 + itemDepth items ≤ maxDepth →
      ∀ (mayClose : Bool) (rest : List Char),
        Takes (.array before :: stack, .value mayClose) (text ++ [']']) rest
          (stack, .done (.list (before.reverse ++ itemData items)))
  | [item], _, .last one, stack, before, room, mayClose, rest => by
      have fits : (Frame.array before :: stack).length + item.depth ≤ maxDepth := by
        rwa [itemDepth, itemDepth, Nat.max_zero] at room
      have close : ∀ position,
          (⟨position, .array before :: stack, .done item.datum⟩ : Machine).step ']' =
            .ok ⟨position + 1, stack, .done (.list (before.reverse ++ [item.datum]))⟩ := by
        rw [← List.reverse_cons]
        exact fun _ => rfl
      exact (one.takes fits mayClose (delimits_cons (by decide) _)).trans (.of_step close rest)
  | item :: items, _, .more one others, stack, before, room, mayClose, rest => by
      rw [itemDepth] at room
      have fits : (Frame.array before :: stack).length + item.depth ≤ maxDepth := by
        rw [List.length_cons]
        omega
      have later :=
        @RendersItems.takes _ _ others stack (item.datum :: before) (by omega) false rest
      rw [List.reverse_cons, List.append_assoc] at later
      rw [List.append_assoc]
      exact (one.takes fits mayClose (delimits_cons (by decide) _)).trans
        (.cons (fun _ => rfl) later)

theorem RendersMembers.takes : ∀ {members : List (Passage × Tree)} {text : List Char},
    RendersMembers members text → ∀ {stack : List Frame} {before : List (Key × Datum)},
      stack.length + 1 + memberDepth members ≤ maxDepth → ∀ (mayClose : Bool) (rest : List Char),
        Takes (stack, .name before mayClose) (text ++ ['}']) rest
          (stack, .done (.map (bindings before members)))
  | [(name, value)], _, @RendersMembers.last _ _ label text named one, stack, before, room,
      mayClose, rest => by
      have fits : (Frame.object before name.points :: stack).length + value.depth ≤ maxDepth := by
        rwa [memberDepth, memberDepth, Nat.max_zero] at room
      have shape : label ++ ':' :: text ++ ['}'] = label ++ [':'] ++ (text ++ ['}']) := by simp
      rw [shape]
      exact (takes_name mayClose named _).trans
        ((one.takes fits false (delimits_cons (by decide) _)).trans (.of_step (fun _ => rfl) rest))
  | (name, value) :: members, _, @RendersMembers.more _ _ _ label text more named one others,
      stack, before, room, mayClose, rest => by
      rw [memberDepth] at room
      have fits : (Frame.object before name.points :: stack).length + value.depth ≤ maxDepth := by
        rw [List.length_cons]
        omega
      -- The label goes as far as the colon.
      have shape : label ++ ':' :: (text ++ ',' :: more) ++ ['}'] =
          label ++ [':'] ++ (text ++ ',' :: (more ++ ['}'])) := by simp
      rw [shape]
      exact (takes_name mayClose named _).trans
        ((one.takes fits false (delimits_cons (by decide) _)).trans
          (.cons (fun _ => rfl) (others.takes (by omega) false rest)))
end

end ForeignCall.Json

namespace ForeignCall.Codec

open Json

/-- However a tree is written, it is read as that tree, if no more lists and objects are open in it
at once than may be. Of the members of one name in an object the last one counts, here as in every
object inside. -/
theorem decode_of_renders {tree : Tree} {text : List Char} (renders : RendersPadded tree text)
    (shallow : tree.depth ≤ maxDepth) :
    decode (Utf8.encode text) .json = .ok tree.datum ∧
    ∀ members more name value, (∀ member ∈ more, member.1.points ≠ name.points) → ∃ fields,
      (Tree.object (members ++ (name, value) :: more)).datum = .map fields ∧
        Table.get? (.text name.points) fields = some value.datum := by
  refine ⟨?_, fun members more name value last => ⟨_, rfl, get?_bindings_of_last last []⟩⟩
  have room : ([] : List Frame).length + tree.depth ≤ maxDepth := by
    rwa [List.length_nil, Nat.zero_add]
  have ends : Delimits [] := nofun
  obtain ⟨next, read⟩ := renders.takes room false ends 0
  rw [decode_json_eq_ok]
  rw [List.append_nil] at read
  exact read

def twice : List Char :=
  [' ', '{', '"', 'a', '"', ':', '1', ',', '"', '\\', 'u', '0', '0', '6', '1', '"', ':',
    '"', '\\', 'u', 'd', '8', '3', 'D', '\\', 'u', 'D', 'E', '0', '0', '"', '}']

def letter : Passage :=
  ⟨[.ofNat 0x61], by decide⟩

def face : Passage :=
  ⟨[.ofNat 0x1F600], by decide⟩

def twiceTree : Tree :=
  .object [(letter, .int 1 (by decide)), (letter, .text face)]

theorem renders_twice : RendersPadded twiceTree twice :=
  have plain : Spells letter.points ['a'] :=
    .cons (@Spelling.raw 'a' (by decide) (by decide) (by decide)) .nil
  have escaped : Spells letter.points ['\\', 'u', '0', '0', '6', '1'] :=
    .cons (.unit (@Hex.four 0 0 6 1 _ _ _ _ ⟨by decide, .inl rfl⟩ ⟨by decide, .inl rfl⟩
      ⟨by decide, .inl rfl⟩ ⟨by decide, .inl rfl⟩)) .nil
  have halves : Spells face.points
      ['\\', 'u', 'd', '8', '3', 'D', '\\', 'u', 'D', 'E', '0', '0'] :=
    .cons (@Spelling.pair 0x1F600 ['d', '8', '3', 'D'] ['D', 'E', '0', '0'] (by decide) (by decide)
      (@Hex.four 13 8 3 13 _ _ _ _ ⟨by decide, .inl rfl⟩ ⟨by decide, .inl rfl⟩
        ⟨by decide, .inl rfl⟩ ⟨by decide, .inr rfl⟩)
      (@Hex.four 13 14 0 0 _ _ _ _ ⟨by decide, .inr rfl⟩ ⟨by decide, .inr rfl⟩
        ⟨by decide, .inl rfl⟩ ⟨by decide, .inl rfl⟩)) .nil
  have one : RendersPadded (.int 1 (by decide)) ['1'] :=
    @RendersPadded.padded _ [] ['1'] [] nofun (.whole (by decide)) nofun
  have two : RendersPadded (.text face) _ :=
    @RendersPadded.padded _ [] _ [] nofun (.text halves) nofun
  have first : Names letter ['"', 'a', '"'] := @Names.quoted letter [] ['a'] [] nofun plain nofun
  have second : Names letter _ := @Names.quoted letter [] _ [] nofun escaped nofun
  @RendersPadded.padded twiceTree [' '] _ [] (by simp [Blank])
    (.object (.more first one (.last second two))) nofun

/-- The second member of a name stands in the place of the first. -/
theorem decode_of_renders_twice :
    RendersPadded twiceTree twice ∧ twiceTree.depth ≤ maxDepth ∧
      decode (Utf8.encode twice) .json =
        .ok (.map [(.text letter.points, .text face.points)]) :=
  ⟨renders_twice, by decide, (decode_of_renders renders_twice (by decide)).1⟩

end ForeignCall.Codec
