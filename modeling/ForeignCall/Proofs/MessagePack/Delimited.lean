import ForeignCall.Proofs.MessagePack.Reader

/-! A payload says itself where it ends: a value that is read from some bytes is read from no fewer,
and not from more. -/

namespace ForeignCall.MessagePack

variable {α β : Type}

/-- The flaws of an input that has been cut short: it ends too early, or announces more than it could
hold. -/
def Flaw.Truncated : Flaw → Prop
  | .incomplete => True
  | .arrayTooLong count limit => limit < count
  | .mapTooLong count limit => limit < count
  | _ => False

theorem Flaw.Truncated.kind {flaw : Flaw} (truncated : flaw.Truncated) :
    (Fault.messagePack flaw).kind = .value := by
  cases flaw with
  | incomplete | arrayTooLong | mapTooLong => rfl
  | _ => exact truncated.elim

/-- What one reader reads from some bytes the other one reads from more of them, and where the one
fails for another reason than that they are too few, so does the other. -/
structure Extends (short long : Reader α) : Prop where
  kept : ∀ {bytes value rest}, short bytes = .ok (value, rest) → ∀ extra,
    long (bytes ++ extra) = .ok (value, rest ++ extra)
  refused : ∀ {bytes flaw}, short bytes = .error flaw → ¬flaw.Truncated → ∀ extra,
    ∃ other, long (bytes ++ extra) = .error other

namespace Extends

protected theorem pure (value : α) : Extends (pure value) (pure value) where
  kept read extra := by
    cases read
    rfl
  refused failed := by cases failed

protected theorem fail (flaw other : Flaw) : Extends (α := α) (fail flaw) (fail other) where
  kept read := by cases read
  refused _ _ _ := ⟨other, rfl⟩

protected theorem bind {short long : Reader α} {next further : α → Reader β}
    (first : Extends short long) (second : ∀ value, Extends (next value) (further value)) :
    Extends (short >>= next) (long >>= further) where
  kept read extra := by
    obtain ⟨value, rest, read, later⟩ := bind_eq_ok read
    rw [bind_of_ok (first.kept read extra)]
    exact (second value).kept later extra
  refused {bytes flaw} failed genuine extra := by
    cases read : short bytes with
    | error flaw' =>
        rw [bind_of_error read] at failed
        cases failed
        obtain ⟨other, refused⟩ := first.refused read genuine extra
        exact ⟨other, bind_of_error refused⟩
    | ok parts =>
        rw [bind_of_ok read] at failed
        rw [bind_of_ok (first.kept read extra)]
        exact (second parts.1).refused failed genuine extra

end Extends

/-- A reader that does not depend on the length of the payload. -/
def Steady (reader : Reader α) : Prop :=
  Extends reader reader

namespace Steady

protected theorem pure (value : α) : Steady (pure value) :=
  Extends.pure value

protected theorem fail (flaw : Flaw) : Steady (α := α) (fail flaw) :=
  Extends.fail flaw flaw

protected theorem bind {reader : Reader α} {next : α → Reader β} (first : Steady reader)
    (second : ∀ value, Steady (next value)) : Steady (reader >>= next) :=
  Extends.bind first second

protected theorem take (count : Nat) : Steady (take count) where
  kept {bytes value rest} read extra := by
    unfold MessagePack.take at read ⊢
    cases split : split? count bytes with
    | none =>
        rw [split] at read
        cases read
    | some parts =>
        rw [split] at read
        cases read
        rw [split?_append split]
  refused {bytes flaw} failed genuine := by
    unfold MessagePack.take at failed
    cases split : split? count bytes with
    | none =>
        rw [split] at failed
        cases failed
        exact absurd trivial genuine
    | some parts =>
        rw [split] at failed
        cases failed

protected theorem unsigned (width : Nat) : Steady (unsigned width) :=
  (Steady.take width).bind fun _ => .pure _

protected theorem signed (width : Nat) : Steady (signed width) :=
  (Steady.take width).bind fun _ => .pure _

protected theorem headOf (first : UInt8) : Steady (headOf first) := by
  unfold MessagePack.headOf
  simp only
  repeat' split
  all_goals
    first
    | exact .pure _
    | exact (Steady.unsigned _).bind fun _ => .pure _
    | exact (Steady.signed _).bind fun _ => .pure _
    | exact .fail _

protected theorem head : Steady head := by
  refine (Steady.take 1).bind fun taken => ?_
  split
  · exact .headOf _
  · exact .fail _

protected theorem text (length : Nat) : Steady (text length) := by
  refine (Steady.take length).bind fun taken => ?_
  split
  · exact .pure _
  · exact .fail _

protected theorem ext (count : Nat) : Steady (ext count) := by
  refine (Steady.take (count + 1)).bind fun taken => ?_
  split
  · split
    · exact .pure _
    · exact .fail _
  · exact .fail _

end Steady

namespace Extends

variable {short long : Reader Datum}

protected theorem items (element : Extends short long) (count : Nat) :
    Extends (items short count) (items long count) := by
  induction count with
  | zero => exact .pure []
  | succ count ih => exact element.bind fun _ => ih.bind fun _ => .pure _

protected theorem fields (element : Extends short long) (before : List (Key × Datum))
    (count : Nat) : Extends (fields short before count) (fields long before count) := by
  induction count generalizing before with
  | zero => exact .pure before
  | succ count ih =>
      refine element.bind fun key => element.bind fun value => ?_
      cases keyOf key with
      | ok key => exact ih _
      | error form => exact .fail _ _

/-- A longer payload may hold longer arrays and maps; where the shorter one cannot hold them, it has
been cut short. -/
protected theorem counted {shortest longest : Reader α} {limit higher count : Nat}
    {flaw other : Flaw} (room : limit ≤ higher) (cut : limit < count → flaw.Truncated)
    (inside : Extends shortest longest) :
    Extends (if limit < count then fail flaw else shortest)
      (if higher < count then fail other else longest) := by
  by_cases short : limit < count
  · rw [if_pos short]
    exact {
      kept := fun read => by cases read
      refused := fun failed genuine => by
        cases failed
        exact absurd (cut short) genuine }
  · rw [if_neg short, if_neg (by omega)]
    exact inside

protected theorem body {length longer : Nat} (room : length ≤ longer)
    {inside further : Option (Reader Datum)}
    (both : Option.Rel Extends inside further) (head : Head) :
    Extends (body length inside head) (body longer further head) := by
  cases head with
  | value value => exact .pure value
  | text count => exact (Steady.text count).bind fun _ => .pure _
  | bytes count => exact (Steady.take count).bind fun _ => .pure _
  | ext count =>
      by_cases longest : count = 0xFFFFFFFF
      · simp only [MessagePack.body, if_pos longest]
        exact .fail _ _
      · simp only [MessagePack.body, if_neg longest]
        exact Steady.ext count
  | array count =>
      cases both with
      | none => exact .fail _ _
      | some element =>
          exact .counted room id ((element.items count).bind fun _ => .pure _)
  | map count =>
      cases both with
      | none => exact .fail _ _
      | some element =>
          exact .counted (Nat.div_le_div_right room) id
            ((element.fields [] count).bind fun _ => .pure _)

protected theorem value {length longer : Nat} (room : length ≤ longer) (depth : Nat) :
    Extends (value length depth) (value longer depth) := by
  induction depth with
  | zero => exact Extends.bind Steady.head fun head => .body room .none head
  | succ depth ih => exact Extends.bind Steady.head fun head => .body room (.some ih) head

end Extends

theorem decode_append {payload : List UInt8} {result : Datum}
    (decoded : decode payload = .ok result) {extra : List UInt8} (more : extra ≠ []) :
    decode (payload ++ extra) = .error .extraData := by
  have room : payload.length ≤ (payload ++ extra).length := by simp
  have read := (Extends.value room maxDepth).kept (decode_eq_ok.mp decoded) extra
  obtain ⟨byte, rest, rfl⟩ := List.exists_cons_of_ne_nil more
  rw [decode, read]
  rfl

theorem truncated_of_part {part lost : List UInt8} {result : Datum}
    (decoded : decode (part ++ lost) = .ok result) (less : lost ≠ []) :
    ∃ flaw, decode part = .error flaw ∧ flaw.Truncated := by
  have room : part.length ≤ (part ++ lost).length := by simp
  have whole := decode_eq_ok.mp decoded
  cases read : value part.length maxDepth part with
  | error flaw =>
      refine ⟨flaw, by rw [decode, read], ?_⟩
      by_cases truncated : flaw.Truncated
      · exact truncated
      · obtain ⟨other, refused⟩ := (Extends.value room maxDepth).refused read truncated lost
        rw [whole] at refused
        cases refused
  | ok parts =>
      -- A value read from the part would leave what follows it unread.
      have kept := (Extends.value room maxDepth).kept read lost
      rw [whole, Except.ok.injEq, Prod.mk.injEq] at kept
      exact absurd (List.append_eq_nil_iff.mp kept.2.symm).2 less

end ForeignCall.MessagePack

namespace ForeignCall.Codec

/-- What is decoded is decoded from the whole payload. A part of it is refused for having been cut
short, as no value, and more than it for what is left over. -/
theorem msgpack_selfDelimiting {payload : List UInt8} {value : Datum}
    (decoded : decode payload .msgpack = .ok value) :
    (∀ part lost, payload = part ++ lost → lost ≠ [] →
      ∃ flaw : MessagePack.Flaw, decode part .msgpack = .error (.messagePack flaw) ∧
        flaw.Truncated ∧ (Fault.messagePack flaw).kind = .value) ∧
    ∀ extra, extra ≠ [] → decode (payload ++ extra) .msgpack = .error (.messagePack .extraData) ∧
      (Fault.messagePack .extraData).kind = .extraData := by
  have read := decode_msgpack_eq_ok.mp decoded
  constructor
  · rintro part lost rfl less
    obtain ⟨flaw, refused, truncated⟩ := MessagePack.truncated_of_part read less
    exact ⟨flaw, by rw [decode_msgpack, refused], truncated, truncated.kind⟩
  · intro extra more
    exact ⟨by rw [decode_msgpack, MessagePack.decode_append read more], rfl⟩

/-- A map under a key of bytes, with an array and, under a text, a text of two bytes. -/
def nested : List UInt8 :=
  [0x82, 0xC4, 0x01, 0x61, 0x92, 0x01, 0xCD, 0x01, 0x00, 0xA1, 0x62, 0xD9, 0x02, 0xC3, 0xA9]

set_option maxRecDepth 2000 in
theorem msgpack_selfDelimiting_nested :
    decode nested .msgpack =
      .ok (.map [(.bytes [0x61], .list [.int 1, .int 256]),
        (.text (Text.ofString "b"), Datum.ofString "é")]) ∧
    (∀ part lost, nested = part ++ lost → lost ≠ [] →
      ∃ flaw : MessagePack.Flaw, decode part .msgpack = .error (.messagePack flaw) ∧
        flaw.Truncated ∧ (Fault.messagePack flaw).kind = .value) ∧
    ∀ extra, extra ≠ [] →
      decode (nested ++ extra) .msgpack = .error (.messagePack .extraData) ∧
        (Fault.messagePack .extraData).kind = .extraData := by
  have decoded : decode nested .msgpack =
      .ok (.map [(.bytes [0x61], .list [.int 1, .int 256]),
        (.text (Text.ofString "b"), Datum.ofString "é")]) := by
    rfl
  exact ⟨decoded, msgpack_selfDelimiting decoded⟩

end ForeignCall.Codec
