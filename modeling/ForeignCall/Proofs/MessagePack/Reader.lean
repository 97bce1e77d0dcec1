import ForeignCall.Codec

/-! How readers compose, and what they do to an input that goes on. -/

namespace ForeignCall.MessagePack

section Equations

variable {α β : Type} {reader : Reader α} {next : α → Reader β}
  {bytes rest final : List UInt8} {value : α} {result : β} {flaw : Flaw}

@[simp] theorem pure_apply (value : α) (bytes : List UInt8) :
    (pure value : Reader α) bytes = .ok (value, bytes) := rfl

@[simp] theorem fail_apply (flaw : Flaw) (bytes : List UInt8) :
    (fail flaw : Reader α) bytes = .error flaw := rfl

theorem bind_of_ok (read : reader bytes = .ok (value, rest)) :
    (reader >>= next) bytes = next value rest := by
  change Except.bind (reader bytes) _ = _
  rw [read]
  rfl

theorem bind_of_error (failed : reader bytes = .error flaw) :
    (reader >>= next) bytes = .error flaw := by
  change Except.bind (reader bytes) _ = _
  rw [failed]
  rfl

theorem bind_eq_ok (read : (reader >>= next) bytes = .ok (result, final)) :
    ∃ value rest, reader bytes = .ok (value, rest) ∧ next value rest = .ok (result, final) := by
  cases first : reader bytes with
  | error flaw =>
      rw [bind_of_error first] at read
      cases read
  | ok parts =>
      rw [bind_of_ok first] at read
      exact ⟨parts.1, parts.2, rfl, read⟩

end Equations

theorem split?_append {count : Nat} {bytes taken left : List UInt8}
    (split : split? count bytes = some (taken, left)) (extra : List UInt8) :
    split? count (bytes ++ extra) = some (taken, left ++ extra) := by
  induction count generalizing bytes taken with
  | zero =>
      cases split
      rfl
  | succ count ih =>
      cases bytes with
      | nil => cases split
      | cons byte rest =>
          obtain ⟨⟨taken, left⟩, split, same⟩ := Option.map_eq_some_iff.mp split
          cases same
          rw [List.cons_append, split?, ih split]
          rfl

theorem split?_length (bytes : List UInt8) :
    split? bytes.length bytes = some (bytes, []) := by
  induction bytes with
  | nil => rfl
  | cons byte rest ih =>
      rw [List.length_cons, split?, ih]
      rfl

theorem take_append {count : Nat} {taken : List UInt8} (length : taken.length = count)
    (rest : List UInt8) : take count (taken ++ rest) = .ok (taken, rest) := by
  rw [take, ← length, split?_append (split?_length taken)]
  rfl

theorem decode_eq_ok {bytes : List UInt8} {result : Datum} :
    decode bytes = .ok result ↔ value bytes.length maxDepth bytes = .ok (result, []) := by
  unfold decode
  constructor
  · intro decoded
    split at decoded
    next => cases decoded
    next read =>
      cases decoded
      exact read
    next => cases decoded
  · intro read
    rw [read]

end ForeignCall.MessagePack

namespace ForeignCall.Codec

theorem decode_msgpack (payload : List UInt8) :
    decode payload .msgpack =
      match MessagePack.decode payload with
      | .ok value => .ok value
      | .error flaw => .error (.messagePack flaw) := rfl

theorem decode_msgpack_eq_ok {payload : List UInt8} {value : Datum} :
    decode payload .msgpack = .ok value ↔ MessagePack.decode payload = .ok value := by
  rw [decode_msgpack]
  cases MessagePack.decode payload <;> simp

end ForeignCall.Codec
