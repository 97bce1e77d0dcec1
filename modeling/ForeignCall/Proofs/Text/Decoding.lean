import ForeignCall.Codec
import ForeignCall.Proofs.Text.Pieces

/-! Strict decoding. A byte string is the encoding of a text, and then decodes to it, or there is a
first flaw in it. -/

namespace ForeignCall.Utf8

/-- The bytes begin with the encoding of the characters, they begin with no longer one, and the flaw
comes right after it. -/
structure Flaw.Follows (flaw : Flaw) (chars : List Char) (bytes : List UInt8) : Prop where
  position : flaw.position = (encode chars).length
  next : encode chars ++ flaw.bytes <+: bytes
  nonempty : flaw.bytes ≠ []
  longest : ∀ longer, encode longer <+: bytes → longer <+: chars

theorem exists_of_collect_error {position : Nat} {cut : List Piece} {flaw : Flaw}
    (failed : collect position cut = .error flaw) :
    ∃ chars more, cut = chars.map .char ++ .flaw flaw.reason flaw.bytes :: more ∧
      flaw.position = position + (encode chars).length := by
  induction cut generalizing position with
  | nil => cases failed
  | cons piece rest ih =>
      cases piece with
      | flaw reason bytes =>
          cases failed
          exact ⟨[], rest, rfl, rfl⟩
      | char c =>
          rw [collect] at failed
          split at failed
          next => cases failed
          next later =>
            cases failed
            obtain ⟨chars, more, rfl, place⟩ := ih later
            refine ⟨c :: chars, more, rfl, ?_⟩
            rw [place, encode_cons, List.length_append, String.length_utf8EncodeChar,
              Nat.add_assoc]

theorem prefix_of_map_char {chars longer : List Char} {reason : Reason} {used : List UInt8}
    {more rest : List Piece}
    (same : chars.map Piece.char ++ .flaw reason used :: more = longer.map .char ++ rest) :
    longer <+: chars := by
  induction longer generalizing chars with
  | nil => exact List.nil_prefix
  | cons c longer ih =>
      cases chars with
      | nil => cases same
      | cons first chars =>
          simp only [List.map_cons, List.cons_append, List.cons.injEq, Piece.char.injEq] at same
          exact List.cons_prefix_cons.mpr ⟨same.1.symm, ih same.2⟩

theorem exists_follows_of_decode {bytes : List UInt8} {flaw : Flaw}
    (failed : decode bytes = .error flaw) : ∃ chars, flaw.Follows chars bytes := by
  obtain ⟨chars, more, cut, place⟩ := exists_of_collect_error failed
  obtain ⟨rest, rfl, flawed⟩ := exists_of_pieces_append cut
  obtain ⟨rest, rfl, nonempty, -⟩ := exists_of_pieces_flaw flawed.symm
  refine ⟨chars, place.trans (Nat.zero_add _), ⟨rest, List.append_assoc ..⟩, nonempty, ?_⟩
  rintro longer ⟨rest, same⟩
  rw [← same, pieces_encode_append] at cut
  exact prefix_of_map_char cut.symm

end ForeignCall.Utf8

namespace ForeignCall

theorem CodePoint.val_ofChar (c : Char) : (ofChar c).val = c.toNat := by
  refine val_ofNat ?_
  obtain small | ⟨-, small⟩ := c.valid
  · exact Nat.lt_trans small (by decide)
  · exact small

theorem CodePoint.isScalar_ofChar (c : Char) : (ofChar c).isScalar = true := by
  rw [isScalar, val_ofChar, Bool.or_eq_true, decide_eq_true_eq, decide_eq_true_eq]
  exact c.valid.imp id fun large => large.1

theorem CodePoint.toChar_ofChar (c : Char) : (ofChar c).toChar = c := by
  rw [toChar, if_pos (isScalar_ofChar c), val_ofChar, Char.ofNat_toNat]

theorem CodePoint.eq_of_val {p q : CodePoint} (same : p.val = q.val) : p = q := by
  cases p
  cases q
  cases same
  rfl

theorem CodePoint.ofChar_toChar {p : CodePoint} (scalar : p.isScalar = true) :
    ofChar p.toChar = p := by
  have valid : p.val.isValidChar := by
    rw [isScalar, Bool.or_eq_true, decide_eq_true_eq, decide_eq_true_eq] at scalar
    exact scalar.imp id fun large => ⟨large, p.bounded⟩
  have same : (ofChar p.toChar).val = p.val := by
    rw [val_ofChar, toChar, if_pos scalar, Utf8.toNat_ofNat_of_isValidChar valid]
  exact eq_of_val same

theorem Text.map_toChar_ofChars (chars : List Char) :
    (ofChars chars).map CodePoint.toChar = chars := by
  rw [ofChars, List.map_map]
  exact List.map_id'' CodePoint.toChar_ofChar chars

theorem Text.isScalar_ofChars (chars : List Char) :
    (ofChars chars).all CodePoint.isScalar = true := by
  rw [ofChars, List.all_map, List.all_eq_true]
  exact fun c _ => CodePoint.isScalar_ofChar c

theorem Text.ofChars_map_toChar {text : Text} (scalar : text.all CodePoint.isScalar = true) :
    ofChars (text.map CodePoint.toChar) = text := by
  have same : ∀ p ∈ text, CodePoint.ofChar p.toChar = id p :=
    fun p among => CodePoint.ofChar_toChar (List.all_eq_true.mp scalar p among)
  rw [ofChars, List.map_map]
  exact (List.map_congr_left same).trans (List.map_id text)

namespace Codec

variable {payload : List UInt8}

theorem decode_utf8_eq_ok {value : Datum} :
    decode payload .utf8 = .ok value ↔
      ∃ chars, payload = Utf8.encode chars ∧ value = .text (Text.ofChars chars) := by
  simp only [decode, decodeUtf8, ← Utf8.decode_eq_ok_iff]
  cases Utf8.decode payload with
  | ok chars => simp [eq_comm]
  | error flaw => simp

theorem decode_utf8_eq_error {fault : Fault} :
    decode payload .utf8 = .error fault ↔
      ∃ flaw, Utf8.decode payload = .error flaw ∧ fault = .utf8 flaw := by
  simp only [decode, decodeUtf8]
  cases Utf8.decode payload with
  | ok chars => simp
  | error flaw => simp [eq_comm]

/-- The codec returns a text, one without halves of surrogate pairs and encoded by the payload, and it
returns that for every payload that encodes one. In any other payload it finds a flaw. -/
theorem decode_utf8_exact (payload : List UInt8) :
    (∀ value, (ofName "utf8").bind (decode payload) = .ok value ↔
      ∃ text : Text, value = .text text ∧ text.all CodePoint.isScalar = true ∧
        Utf8.encode (text.map CodePoint.toChar) = payload) ∧
    ((∀ chars, Utf8.encode chars ≠ payload) ↔
      ∃ flaw chars, (ofName "utf8").bind (decode payload) = .error (.utf8 flaw) ∧
        flaw.Follows chars payload ∧ (Fault.utf8 flaw).kind = .undecodable) := by
  have named : (ofName "utf8").bind (decode payload) = decode payload .utf8 := rfl
  rw [named]
  constructor
  · intro value
    rw [decode_utf8_eq_ok]
    constructor
    · rintro ⟨chars, rfl, rfl⟩
      exact ⟨Text.ofChars chars, rfl, Text.isScalar_ofChars chars, by rw [Text.map_toChar_ofChars]⟩
    · rintro ⟨text, rfl, scalar, rfl⟩
      exact ⟨_, rfl, by rw [Text.ofChars_map_toChar scalar]⟩
  · constructor
    · intro foreign
      cases read : Utf8.decode payload with
      | ok chars => exact absurd (Utf8.decode_eq_ok_iff.mp read).symm (foreign chars)
      | error flaw =>
          obtain ⟨chars, follows⟩ := Utf8.exists_follows_of_decode read
          exact ⟨flaw, chars, decode_utf8_eq_error.mpr ⟨flaw, read, rfl⟩, follows, rfl⟩
    · rintro ⟨flaw, -, failed, -⟩ chars rfl
      rw [decode_utf8_eq_ok.mpr ⟨chars, rfl, rfl⟩] at failed
      cases failed

/-- A half of a surrogate pair has no encoding. -/
example : decode [0x61, 0xED, 0xA0, 0x80] .utf8 =
    .error (.utf8 ⟨1, .invalidContinuation, [0xED]⟩) := rfl

end Codec

end ForeignCall
