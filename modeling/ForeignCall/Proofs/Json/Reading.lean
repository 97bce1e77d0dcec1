import ForeignCall.Codec
import ForeignCall.Proofs.Text.Utf8

/-! JSON payloads are read in two stages: the bytes as characters, and the characters by the
machine. -/

namespace ForeignCall.Json

theorem run_of_error {m : Machine} {c : Char} {stop : Stop} (failed : m.step c = .error stop)
    (rest : List Char) : m.run (c :: rest) = .error stop := by
  rw [Machine.run, failed]

theorem run_of_ok {m next : Machine} {c : Char} (taken : m.step c = .ok next)
    (rest : List Char) : m.run (c :: rest) = next.run rest := by
  rw [Machine.run, taken]

theorem exists_step_of_run {m : Machine} {c : Char} {rest : List Char} {value : Datum}
    (ran : m.run (c :: rest) = .ok value) :
    ∃ next, m.step c = .ok next ∧ next.run rest = .ok value := by
  cases step : m.step c with
  | error stop =>
      rw [run_of_error step] at ran
      cases ran
  | ok next =>
      rw [run_of_ok step] at ran
      exact ⟨next, rfl, ran⟩

theorem initial_step_of_mark {c : Char} (mark : c.toNat = 0xFEFF) :
    Machine.initial.step c = .error (.problem .expectingValue 0) := by
  have same : c = '\uFEFF' := Char.toNat_inj.mp mark
  rw [same]
  rfl

/-- A byte order mark is refused before the machine starts, which would refuse it too. -/
theorem read_eq_ok {text : List Char} {value : Datum} :
    read text = .ok value ↔ Machine.initial.run text = .ok value := by
  cases text with
  | nil => rfl
  | cons c rest =>
      rw [read]
      split
      next mark => simp [run_of_error (initial_step_of_mark mark)]
      next => rfl

theorem decode_eq_ok {text : List Char} {value : Datum} :
    decode text = .ok value ↔ Machine.initial.run text = .ok value := by
  rw [← read_eq_ok, decode]
  cases read text <;> simp

end ForeignCall.Json

namespace ForeignCall.Codec

theorem decode_json_of_not_encode {payload : List UInt8}
    (broken : ∀ chars, payload ≠ Utf8.encode chars) :
    ∃ flaw, decode payload .json = .error (.utf8 flaw) := by
  cases decoded : Utf8.decode payload with
  | ok chars => exact absurd (Utf8.decode_eq_ok_iff.mp decoded) (broken chars)
  | error flaw => exact ⟨flaw, by simp only [decode, decodeJson, decodeUtf8, decoded]⟩

theorem decode_json_eq_ok {chars : List Char} {value : Datum} :
    decode (Utf8.encode chars) .json = .ok value ↔ Json.Machine.initial.run chars = .ok value := by
  rw [← Json.decode_eq_ok]
  simp only [decode, decodeJson, decodeUtf8, Utf8.decode_encode]
  cases Json.decode chars <;> simp

theorem exists_run_of_decode_json {payload : List UInt8} {value : Datum}
    (decoded : decode payload .json = .ok value) :
    ∃ chars, payload = Utf8.encode chars ∧ Json.Machine.initial.run chars = .ok value := by
  cases valid : Utf8.decode payload with
  | error flaw => simp [decode, decodeJson, decodeUtf8, valid] at decoded
  | ok chars =>
      have same := Utf8.decode_eq_ok_iff.mp valid
      exact ⟨chars, same, decode_json_eq_ok.mp (same ▸ decoded)⟩

end ForeignCall.Codec
