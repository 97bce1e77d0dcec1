import ForeignCall.Proofs.Json.Reading

/-! A text whose value is no number is read to its end and no further: without its end it is not
read, and nothing but blanks may follow it. -/

namespace ForeignCall

def Datum.IsNumber : Datum → Prop
  | .int _ => True
  | .float _ => True
  | _ => False

namespace Json

/-- The machine with some characters read. -/
def Machine.feed (m : Machine) : List Char → Except Stop Machine
  | [] => .ok m
  | c :: rest =>
      match m.step c with
      | .error stop => .error stop
      | .ok next => next.feed rest

section Steps

variable {m next : Machine} {position : Nat} {state : State} {c : Char} {text : List Char}
  {value result : Datum}

theorem exists_feed_of_run {front back : List Char} (ran : m.run (front ++ back) = .ok value) :
    ∃ next, m.feed front = .ok next ∧ next.run back = .ok value := by
  induction front generalizing m with
  | nil => exact ⟨m, rfl, ran⟩
  | cons c front ih =>
      obtain ⟨next, step, ran⟩ := exists_step_of_run ran
      obtain ⟨last, fed, ran⟩ := ih ran
      refine ⟨last, ?_, ran⟩
      rw [Machine.feed, step]
      exact fed

/-! A machine that has read a value, and has nothing open around it. -/

theorem stepDone_eq_ok
    (stepped : (⟨position, [], state⟩ : Machine).stepDone value c = .ok next) :
    isSpace c = true ∧ next = ⟨position + 1, [], .done value⟩ := by
  unfold Machine.stepDone at stepped
  split at stepped
  next space => exact ⟨space, (Except.ok.inj stepped).symm⟩
  next => cases stepped

theorem blank_of_run_done
    (ran : (⟨position, [], .done value⟩ : Machine).run text = .ok result) :
    ∀ c ∈ text, isSpace c = true := by
  induction text generalizing position with
  | nil => nofun
  | cons c text ih =>
      obtain ⟨next, stepped, ran⟩ := exists_step_of_run ran
      obtain ⟨space, rfl⟩ := stepDone_eq_ok stepped
      exact List.forall_mem_cons.mpr ⟨space, ih ran⟩

/-! A machine that has read part of a number, and has nothing open around it. -/

theorem value_isNumber {number : Numeral} (valued : number.value = .ok value) :
    value.IsNumber := by
  unfold Numeral.value at valued
  split at valued
  next => cases valued
  next =>
    split at valued
    next =>
      split at valued
      next => cases valued
      next =>
        cases valued
        trivial
    next =>
      cases valued
      trivial

theorem endNumeral_isNumber {number : Numeral} (ended : m.endNumeral number = .ok value) :
    value.IsNumber := by
  unfold Machine.endNumeral at ended
  split at ended
  next => cases ended
  next valued =>
    split at ended
    next => cases ended
    next =>
      cases ended
      exact value_isNumber valued

/-- What the first characters of a number can grow into. The word is the one after a minus sign. -/
inductive Numeric : Machine → Prop where
  | numeral (position : Nat) (number : Numeral) : Numeric ⟨position, [], .numeral number⟩
  | word (position start : Nat) (rest : List Char) {meaning : Datum}
      (isNumber : meaning.IsNumber) : Numeric ⟨position, [], .word start rest meaning⟩
  | done (position : Nat) {value : Datum} (isNumber : value.IsNumber) :
      Numeric ⟨position, [], .done value⟩

theorem Numeric.step (numeric : Numeric m) (stepped : m.step c = .ok next) : Numeric next := by
  cases numeric with
  | numeral position number =>
      change Machine.stepNumeral _ number c = _ at stepped
      unfold Machine.stepNumeral at stepped
      split at stepped
      next longer _ =>
        cases stepped
        exact .numeral (position + 1) longer
      next =>
        split at stepped
        next =>
          split at stepped
          next =>
            cases stepped
            exact .word (position + 1) number.start _ trivial
          next => cases stepped
        next =>
          split at stepped
          next => cases stepped
          next ended =>
            obtain ⟨_, rfl⟩ := stepDone_eq_ok stepped
            exact .done (position + 1) (endNumeral_isNumber ended)
  | word position start rest isNumber =>
      change Machine.stepWord _ start rest _ c = _ at stepped
      unfold Machine.stepWord at stepped
      split at stepped
      next => cases stepped
      next =>
        split at stepped
        next =>
          cases stepped
          exact .done (position + 1) isNumber
        next => cases stepped
      next more _ =>
        split at stepped
        next =>
          cases stepped
          exact .word (position + 1) start more isNumber
        next => cases stepped
  | done position isNumber =>
      obtain ⟨_, rfl⟩ := stepDone_eq_ok stepped
      exact .done (position + 1) isNumber

theorem finishDone_eq_ok (finished : m.finishDone value = .ok result) :
    m.stack = [] ∧ value = result := by
  unfold Machine.finishDone at finished
  split at finished
  next empty => exact ⟨empty, Except.ok.inj finished⟩
  next => cases finished

theorem finish_eq_ok (finished : m.finish = .ok value) :
    m = ⟨m.position, [], .done value⟩ ∨
      (∃ number, m = ⟨m.position, [], .numeral number⟩) ∧ value.IsNumber := by
  obtain ⟨position, stack, state⟩ := m
  cases state with
  | value | name | colon | word => cases finished
  | quoted string =>
      change Machine.finishQuoted string = _ at finished
      unfold Machine.finishQuoted at finished
      split at finished <;> cases finished
  | numeral number =>
      simp only [Machine.finish] at finished
      split at finished
      next => cases finished
      next ended =>
        obtain ⟨rfl, rfl⟩ := finishDone_eq_ok finished
        exact .inr ⟨⟨number, rfl⟩, endNumeral_isNumber ended⟩
  | done read =>
      obtain ⟨rfl, rfl⟩ := finishDone_eq_ok finished
      exact .inl rfl

theorem Numeric.finish (numeric : Numeric m) (finished : m.finish = .ok value) :
    value.IsNumber := by
  rcases finish_eq_ok finished with done | ⟨_, isNumber⟩
  · rw [done] at numeric
    cases numeric with
    | done _ isNumber => exact isNumber
  · exact isNumber

theorem Numeric.run (numeric : Numeric m) (ran : m.run text = .ok value) : value.IsNumber := by
  induction text generalizing m with
  | nil => exact numeric.finish ran
  | cons c text ih =>
      obtain ⟨next, stepped, ran⟩ := exists_step_of_run ran
      exact ih (numeric.step stepped) ran

/-- If a text is read and so is a beginning of it, only blanks follow the beginning, or both are
read as numbers. -/
theorem blank_of_run_append {front back : List Char} {shorter longer : Datum}
    (short : m.run front = .ok shorter) (long : m.run (front ++ back) = .ok longer)
    (noNumbers : shorter.IsNumber → ¬ longer.IsNumber) : ∀ c ∈ back, isSpace c = true := by
  rw [← List.append_nil front] at short
  obtain ⟨next, fed, ended⟩ := exists_feed_of_run short
  obtain ⟨same, again, ran⟩ := exists_feed_of_run long
  cases fed.symm.trans again
  rcases finish_eq_ok ended with done | ⟨⟨number, numeral⟩, isNumber⟩
  · rw [done] at ran
    exact blank_of_run_done ran
  · rw [numeral] at ran
    exact absurd (Numeric.run (.numeral _ number) ran) (noNumbers isNumber)

end Steps

end Json

namespace Codec

/-- The bytes of the blanks between tokens. -/
def IsBlank (byte : UInt8) : Prop :=
  byte ∈ [0x20, 0x09, 0x0A, 0x0D]

theorem isBlank_of_mem_encode {chars : List Char} (spaces : ∀ c ∈ chars, Json.isSpace c = true)
    {byte : UInt8} (member : byte ∈ Utf8.encode chars) : IsBlank byte := by
  obtain ⟨c, member, encoded⟩ := List.mem_flatMap.mp member
  have space := spaces c member
  simp only [Json.isSpace, Bool.or_eq_true, decide_eq_true_eq, or_assoc] at space
  rcases space with rfl | rfl | rfl | rfl <;> obtain rfl := List.mem_singleton.mp encoded <;>
    simp [IsBlank]

theorem isBlank_of_decode_append {part lost : List UInt8} {shorter longer : Datum}
    (short : decode part .json = .ok shorter) (long : decode (part ++ lost) .json = .ok longer)
    (noNumbers : shorter.IsNumber → ¬ longer.IsNumber) : ∀ byte ∈ lost, IsBlank byte := by
  obtain ⟨front, rfl, shortRun⟩ := exists_run_of_decode_json short
  obtain ⟨all, same, longRun⟩ := exists_run_of_decode_json long
  obtain ⟨back, rfl, rfl⟩ := Utf8.exists_of_encode_append same
  have spaces := Json.blank_of_run_append shortRun longRun noNumbers
  exact fun _ => isBlank_of_mem_encode spaces

/-- A payload that is read as anything but a number is no longer read when more than blanks is cut
off its end, nor when anything that starts with no blank follows it. Wherever a payload is not
UTF-8, that is why it is refused. -/
theorem json_selfDelimiting (payload : List UInt8) :
    (∀ value, decode payload .json = .ok value → ¬ value.IsNumber →
      (∀ part lost, payload = part ++ lost → (∃ byte ∈ lost, ¬ IsBlank byte) →
        ∃ fault, decode part .json = .error fault) ∧
      ∀ byte more, ¬ IsBlank byte →
        ∃ fault, decode (payload ++ byte :: more) .json = .error fault) ∧
    ((∀ chars, payload ≠ Utf8.encode chars) →
      ∃ flaw, decode payload .json = .error (.utf8 flaw) ∧
        (Fault.utf8 flaw).kind = .undecodable) := by
  refine ⟨fun value whole noNumber => ⟨?_, ?_⟩, fun foreign => ?_⟩
  · rintro part lost rfl ⟨byte, member, solid⟩
    cases short : decode part .json with
    | error fault => exact ⟨fault, rfl⟩
    | ok shorter =>
        exact absurd (isBlank_of_decode_append short whole (fun _ => noNumber) byte member) solid
  · intro byte more solid
    cases long : decode (payload ++ byte :: more) .json with
    | error fault => exact ⟨fault, rfl⟩
    | ok longer =>
        have blank := isBlank_of_decode_append whole long (fun isNumber => absurd isNumber noNumber)
        exact absurd (blank byte (List.mem_cons_self ..)) solid
  · obtain ⟨flaw, refused⟩ := decode_json_of_not_encode foreign
    exact ⟨flaw, refused, rfl⟩

/-- A list of one string of one letter, which has two bytes. -/
def accented : List UInt8 :=
  [0x5B, 0x22, 0xC3, 0xA9, 0x22, 0x5D]

theorem not_encode_accented (chars : List Char) : accented ++ [0xFF] ≠ Utf8.encode chars := by
  intro same
  have flawed : Utf8.decode (accented ++ [0xFF]) = .error ⟨6, .invalidStart, [0xFF]⟩ := rfl
  cases flawed.symm.trans (Utf8.decode_eq_ok_iff.mpr same)

/-- Cut within its letter, followed by a comma, and followed by a stray byte. -/
theorem json_selfDelimiting_accented :
    (∃ value, decode accented .json = .ok value ∧ ¬ value.IsNumber) ∧
      (∃ fault, decode [0x5B, 0x22, 0xC3] .json = .error fault) ∧
      (∃ fault, decode (accented ++ [0x2C]) .json = .error fault) ∧
      ∃ flaw, decode (accented ++ [0xFF]) .json = .error (.utf8 flaw) ∧
        (Fault.utf8 flaw).kind = .undecodable := by
  have read : decode accented .json = .ok (.list [.text [.ofNat 0xE9]]) := rfl
  have noNumber : ¬ (Datum.list [.text [.ofNat 0xE9]]).IsNumber := nofun
  obtain ⟨cut, followed⟩ := (json_selfDelimiting accented).1 _ read noNumber
  have solid : ∃ byte ∈ [0xA9, 0x22, 0x5D], ¬ IsBlank byte := ⟨0x5D, by simp, by simp [IsBlank]⟩
  exact ⟨⟨_, read, noNumber⟩, cut [0x5B, 0x22, 0xC3] [0xA9, 0x22, 0x5D] rfl solid,
    followed 0x2C [] (by simp [IsBlank]), (json_selfDelimiting _).2 not_encode_accented⟩

end Codec

end ForeignCall
