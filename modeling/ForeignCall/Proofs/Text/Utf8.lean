import ForeignCall.Text.Utf8

/-! Decoding takes exactly the encodings of character sequences, each to the sequence it encodes. -/

namespace ForeignCall.Utf8

def Tail (byte : UInt8) : Prop :=
  0x80 ≤ byte.toNat ∧ byte.toNat ≤ 0xBF

/-- The bytes of one code. The bounds on a second byte keep out sequences longer than the code
needs, the halves of surrogate pairs, and codes past the last one. -/
inductive Spells : List UInt8 → Nat → Prop where
  | one {first : UInt8} (small : first.toNat < 0x80) : Spells [first] first.toNat
  | two {first second : UInt8} (lead : 0xC2 ≤ first.toNat ∧ first.toNat < 0xE0)
      (tail : Tail second) :
      Spells [first, second] ((first.toNat - 0xC0) * 0x40 + (second.toNat - 0x80))
  | three {first second third : UInt8} (lead : 0xE0 ≤ first.toNat ∧ first.toNat < 0xF0)
      (tail : Tail second) (low : first.toNat = 0xE0 → 0xA0 ≤ second.toNat)
      (high : first.toNat = 0xED → second.toNat ≤ 0x9F) (last : Tail third) :
      Spells [first, second, third]
        (((first.toNat - 0xE0) * 0x40 + (second.toNat - 0x80)) * 0x40 + (third.toNat - 0x80))
  | four {first second third fourth : UInt8} (lead : 0xF0 ≤ first.toNat ∧ first.toNat < 0xF5)
      (tail : Tail second) (low : first.toNat = 0xF0 → 0x90 ≤ second.toNat)
      (high : first.toNat = 0xF4 → second.toNat ≤ 0x8F) (next : Tail third) (last : Tail fourth) :
      Spells [first, second, third, fourth]
        ((((first.toNat - 0xF0) * 0x40 + (second.toNat - 0x80)) * 0x40 + (third.toNat - 0x80)) *
          0x40 + (fourth.toNat - 0x80))

/-! How a first byte is read, and each byte after it. -/

section Start

variable {first : UInt8}

theorem start_of_one (small : first.toNat < 0x80) :
    start first = ([.char (Char.ofNat first.toNat)], none) := by
  rw [start, if_pos (UInt8.lt_iff_toNat_lt.mpr small)]

theorem start_of_two (lead : 0xC2 ≤ first.toNat ∧ first.toNat < 0xE0) :
    start first = ([], some ⟨[first], first.toNat - 0xC0, 1, 0x80, 0xBF⟩) := by
  simp only [start, UInt8.lt_iff_toNat_lt, UInt8.reduceToNat]
  rw [if_neg (by omega), if_neg (by omega), if_pos (by omega)]

theorem start_of_three (lead : 0xE0 ≤ first.toNat ∧ first.toNat < 0xF0) :
    start first = ([], some ⟨[first], first.toNat - 0xE0, 2,
      if first = 0xE0 then 0xA0 else 0x80, if first = 0xED then 0x9F else 0xBF⟩) := by
  simp only [start, UInt8.lt_iff_toNat_lt, UInt8.reduceToNat]
  rw [if_neg (by omega), if_neg (by omega), if_neg (by omega), if_pos (by omega)]

theorem start_of_four (lead : 0xF0 ≤ first.toNat ∧ first.toNat < 0xF5) :
    start first = ([], some ⟨[first], first.toNat - 0xF0, 3,
      if first = 0xF0 then 0x90 else 0x80, if first = 0xF4 then 0x8F else 0xBF⟩) := by
  simp only [start, UInt8.lt_iff_toNat_lt, UInt8.reduceToNat]
  rw [if_neg (by omega), if_neg (by omega), if_neg (by omega), if_neg (by omega),
    if_pos (by omega)]

theorem start_of_stray
    (stray : 0x80 ≤ first.toNat ∧ first.toNat < 0xC2 ∨ 0xF5 ≤ first.toNat) :
    start first = ([.flaw .invalidStart [first]], none) := by
  simp only [start, UInt8.lt_iff_toNat_lt, UInt8.reduceToNat]
  split
  next => omega
  split
  next => rfl
  rw [if_neg (by omega), if_neg (by omega), if_neg (by omega)]

end Start

theorem pieces_of_start {first : UInt8} {begun : List Piece} {state : Option Pending}
    (started : start first = (begun, state)) (rest : List UInt8) :
    pieces (first :: rest) = begun ++ piecesFrom state rest := by
  simp only [pieces, piecesFrom, step, started]

namespace Pending

variable {read : List UInt8} {value missing : Nat} {byte : UInt8}

def grow (pending : Pending) (byte : UInt8) : Nat :=
  pending.value * 0x40 + (byte.toNat - 0x80)

theorem admits_iff_tail : admits ⟨read, value, missing, 0x80, 0xBF⟩ byte = true ↔ Tail byte := by
  simp [admits, Tail, UInt8.le_iff_toNat_le]

/-- After some first bytes a second one has a narrower range. -/
theorem admits_iff_narrow {first least bottom greatest top : UInt8} (up : 0x80 ≤ bottom.toNat)
    (down : top.toNat ≤ 0xBF) :
    admits ⟨read, value, missing, if first = least then bottom else 0x80,
        if first = greatest then top else 0xBF⟩ byte = true ↔
      Tail byte ∧ (first.toNat = least.toNat → bottom.toNat ≤ byte.toNat) ∧
        (first.toNat = greatest.toNat → byte.toNat ≤ top.toNat) := by
  simp only [admits, Tail, Bool.and_eq_true, decide_eq_true_eq, UInt8.le_iff_toNat_le,
    UInt8.toNat_inj]
  split <;> split <;> simp_all <;> omega

end Pending

theorem piecesFrom_last {pending : Pending} {byte : UInt8}
    (admitted : pending.admits byte = true) (last : pending.missing ≤ 1) (rest : List UInt8) :
    piecesFrom (some pending) (byte :: rest) =
      .char (Char.ofNat (pending.grow byte)) :: pieces rest := by
  rw [piecesFrom, step, if_pos admitted, Pending.extend, if_pos last]
  rfl

theorem piecesFrom_more {pending : Pending} {byte : UInt8}
    (admitted : pending.admits byte = true) (more : 1 < pending.missing) (rest : List UInt8) :
    piecesFrom (some pending) (byte :: rest) =
      piecesFrom (some ⟨pending.read ++ [byte], pending.grow byte, pending.missing - 1, 0x80, 0xBF⟩)
        rest := by
  rw [piecesFrom, step, if_pos admitted, Pending.extend, if_neg (Nat.not_le.mpr more)]
  rfl

/-- A character under way is completed only by bytes that it admits. -/
theorem exists_of_piecesFrom {pending : Pending} {bytes : List UInt8} {c : Char}
    {more : List Piece} (read : piecesFrom (some pending) bytes = .char c :: more) :
    ∃ byte rest, bytes = byte :: rest ∧ pending.admits byte = true := by
  cases bytes with
  | nil => cases read
  | cons byte rest =>
      refine ⟨byte, rest, rfl, ?_⟩
      cases admitted : pending.admits byte with
      | true => rfl
      | false => simp [piecesFrom, step, admitted] at read

theorem Spells.pieces_append {bytes : List UInt8} {code : Nat} (spells : Spells bytes code)
    (rest : List UInt8) : pieces (bytes ++ rest) = .char (Char.ofNat code) :: pieces rest := by
  cases spells with
  | one small => exact pieces_of_start (start_of_one small) rest
  | two lead tail =>
      refine (pieces_of_start (start_of_two lead) _).trans ?_
      exact piecesFrom_last (Pending.admits_iff_tail.mpr tail) (Nat.le_refl 1) rest
  | three lead tail low high last =>
      refine (pieces_of_start (start_of_three lead) _).trans ?_
      refine (piecesFrom_more
        ((Pending.admits_iff_narrow (by decide) (by decide)).mpr ⟨tail, low, high⟩)
        (by simp) _).trans ?_
      exact piecesFrom_last (Pending.admits_iff_tail.mpr last) (Nat.le_refl 1) rest
  | four lead tail low high next last =>
      refine (pieces_of_start (start_of_four lead) _).trans ?_
      refine (piecesFrom_more
        ((Pending.admits_iff_narrow (by decide) (by decide)).mpr ⟨tail, low, high⟩)
        (by simp) _).trans ?_
      refine (piecesFrom_more (Pending.admits_iff_tail.mpr next) (by simp) _).trans ?_
      exact piecesFrom_last (Pending.admits_iff_tail.mpr last) (Nat.le_refl 1) rest

/-- Whatever is read as a character is spelled by the bytes it was read from. -/
theorem exists_spells_of_pieces {bytes : List UInt8} {c : Char} {more : List Piece}
    (read : pieces bytes = .char c :: more) :
    ∃ used code rest, bytes = used ++ rest ∧ Spells used code ∧ c = Char.ofNat code ∧
      more = pieces rest := by
  suffices ∃ used code rest, bytes = used ++ rest ∧ Spells used code by
    obtain ⟨used, code, rest, rfl, spells⟩ := this
    rw [spells.pieces_append, List.cons.injEq, Piece.char.injEq] at read
    exact ⟨used, code, rest, rfl, spells, read.1.symm, read.2.symm⟩
  cases bytes with
  | nil => cases read
  | cons first rest =>
      by_cases small : first.toNat < 0x80
      · exact ⟨[first], _, rest, rfl, .one small⟩
      by_cases stray : first.toNat < 0xC2 ∨ 0xF5 ≤ first.toNat
      · rw [pieces_of_start (start_of_stray (by omega))] at read
        cases read
      by_cases two : first.toNat < 0xE0
      · have lead : 0xC2 ≤ first.toNat ∧ first.toNat < 0xE0 := by omega
        rw [pieces_of_start (start_of_two lead)] at read
        obtain ⟨second, rest, rfl, tail⟩ := exists_of_piecesFrom read
        exact ⟨[first, second], _, rest, rfl, .two lead (Pending.admits_iff_tail.mp tail)⟩
      by_cases three : first.toNat < 0xF0
      · have lead : 0xE0 ≤ first.toNat ∧ first.toNat < 0xF0 := by omega
        rw [pieces_of_start (start_of_three lead)] at read
        obtain ⟨second, rest, rfl, admitted⟩ := exists_of_piecesFrom read
        rw [List.nil_append, piecesFrom_more admitted (by simp)] at read
        obtain ⟨third, rest, rfl, last⟩ := exists_of_piecesFrom read
        obtain ⟨tail, low, high⟩ :=
          (Pending.admits_iff_narrow (by decide) (by decide)).mp admitted
        exact ⟨[first, second, third], _, rest, rfl,
          .three lead tail low high (Pending.admits_iff_tail.mp last)⟩
      · have lead : 0xF0 ≤ first.toNat ∧ first.toNat < 0xF5 := by omega
        rw [pieces_of_start (start_of_four lead)] at read
        obtain ⟨second, rest, rfl, admitted⟩ := exists_of_piecesFrom read
        rw [List.nil_append, piecesFrom_more admitted (by simp)] at read
        obtain ⟨third, rest, rfl, next⟩ := exists_of_piecesFrom read
        rw [piecesFrom_more next (by simp)] at read
        obtain ⟨fourth, rest, rfl, last⟩ := exists_of_piecesFrom read
        obtain ⟨tail, low, high⟩ :=
          (Pending.admits_iff_narrow (by decide) (by decide)).mp admitted
        exact ⟨[first, second, third, fourth], _, rest, rfl,
          .four lead tail low high (Pending.admits_iff_tail.mp next)
            (Pending.admits_iff_tail.mp last)⟩

/-! The bytes of a code are the encoding of its character. -/

theorem toNat_ofNat_of_isValidChar {code : Nat} (valid : code.isValidChar) :
    (Char.ofNat code).toNat = code := by
  rw [Char.ofNat, dif_pos valid]
  exact UInt32.toNat_ofNatLT

theorem ofNat_eq_iff {byte : UInt8} {value : Nat} :
    UInt8.ofNat value = byte ↔ value % 0x100 = byte.toNat := by
  rw [← UInt8.toNat_inj, UInt8.toNat_ofNat']

theorem Spells.isValidChar {bytes : List UInt8} {code : Nat} (spells : Spells bytes code) :
    code.isValidChar := by
  unfold Nat.isValidChar
  cases spells with
  | one small => omega
  | two lead tail =>
      unfold Tail at tail
      omega
  | three lead tail low high last =>
      unfold Tail at tail last
      omega
  | four lead tail low high next last =>
      unfold Tail at tail next last
      omega

theorem Spells.encodeChar {bytes : List UInt8} {code : Nat} (spells : Spells bytes code) :
    String.utf8EncodeChar (Char.ofNat code) = bytes := by
  have same : (Char.ofNat code).val.toNat = code :=
    toNat_ofNat_of_isValidChar spells.isValidChar
  rw [String.utf8EncodeChar, same]
  cases spells with
  | one small => rw [if_pos (by omega), UInt8.ofNat_toNat]
  | two lead tail =>
      unfold Tail at tail
      rw [if_neg (by omega), if_pos (by omega)]
      simp only [List.cons.injEq, ofNat_eq_iff, and_true]
      omega
  | three lead tail low high last =>
      unfold Tail at tail last
      rw [if_neg (by omega), if_neg (by omega), if_pos (by omega)]
      simp only [List.cons.injEq, ofNat_eq_iff, and_true]
      omega
  | four lead tail low high next last =>
      unfold Tail at tail next last
      rw [if_neg (by omega), if_neg (by omega), if_neg (by omega)]
      simp only [List.cons.injEq, ofNat_eq_iff, and_true]
      omega

theorem exists_byte {value : Nat} (small : value ≤ 0xFF) :
    ∃ byte : UInt8, byte.toNat = value :=
  ⟨UInt8.ofNat value, UInt8.toNat_ofNat_of_lt' (Nat.lt_succ_of_le small)⟩

theorem exists_spells {code : Nat} (valid : code.isValidChar) : ∃ bytes, Spells bytes code := by
  unfold Nat.isValidChar at valid
  obtain ⟨last, isLast⟩ := exists_byte (by omega : code % 0x40 + 0x80 ≤ 0xFF)
  obtain ⟨next, isNext⟩ := exists_byte (by omega : code / 0x40 % 0x40 + 0x80 ≤ 0xFF)
  obtain ⟨second, isSecond⟩ := exists_byte (by omega : code / 0x1000 % 0x40 + 0x80 ≤ 0xFF)
  have lastTail : Tail last := by unfold Tail; omega
  have nextTail : Tail next := by unfold Tail; omega
  have secondTail : Tail second := by unfold Tail; omega
  by_cases one : code < 0x80
  · obtain ⟨first, rfl⟩ := exists_byte (by omega : code ≤ 0xFF)
    exact ⟨[first], .one one⟩
  by_cases two : code < 0x800
  · obtain ⟨first, isFirst⟩ := exists_byte (by omega : code / 0x40 + 0xC0 ≤ 0xFF)
    have spells : Spells [first, last] _ := .two (by omega) lastTail
    have total : code = (first.toNat - 0xC0) * 0x40 + (last.toNat - 0x80) := by omega
    exact ⟨_, total ▸ spells⟩
  by_cases three : code < 0x10000
  · obtain ⟨first, isFirst⟩ := exists_byte (by omega : code / 0x1000 + 0xE0 ≤ 0xFF)
    have spells : Spells [first, next, last] _ :=
      .three (by omega) nextTail (by omega) (by omega) lastTail
    have total : code = ((first.toNat - 0xE0) * 0x40 + (next.toNat - 0x80)) * 0x40 +
        (last.toNat - 0x80) := by omega
    exact ⟨_, total ▸ spells⟩
  · obtain ⟨first, isFirst⟩ := exists_byte (by omega : code / 0x40000 + 0xF0 ≤ 0xFF)
    have spells : Spells [first, second, next, last] _ :=
      .four (by omega) secondTail (by omega) (by omega) nextTail lastTail
    have total : code = (((first.toNat - 0xF0) * 0x40 + (second.toNat - 0x80)) * 0x40 +
        (next.toNat - 0x80)) * 0x40 + (last.toNat - 0x80) := by omega
    exact ⟨_, total ▸ spells⟩

theorem spells_encodeChar (c : Char) : Spells (String.utf8EncodeChar c) c.toNat := by
  obtain ⟨bytes, spells⟩ := exists_spells c.valid
  have same := spells.encodeChar
  change String.utf8EncodeChar (Char.ofNat c.toNat) = bytes at same
  rw [Char.ofNat_toNat] at same
  rw [same]
  exact spells

theorem pieces_encode_append (chars : List Char) (rest : List UInt8) :
    pieces (encode chars ++ rest) = chars.map .char ++ pieces rest := by
  induction chars with
  | nil => rfl
  | cons c chars ih =>
      rw [encode_cons, List.append_assoc, (spells_encodeChar c).pieces_append, ih,
        Char.ofNat_toNat]
      rfl

theorem start_ne_nothing (byte : UInt8) : start byte ≠ ([], none) := by
  unfold start
  repeat' split
  all_goals simp

theorem piecesFrom_eq_nil {state : Option Pending} {bytes : List UInt8}
    (silent : piecesFrom state bytes = []) : state = none ∧ bytes = [] := by
  induction bytes generalizing state with
  | nil =>
      cases state with
      | none => exact ⟨rfl, rfl⟩
      | some pending => cases silent
  | cons byte rest ih =>
      obtain ⟨emitted, later⟩ := List.append_eq_nil_iff.mp silent
      have ended := (ih later).1
      cases state with
      | none => exact absurd (Prod.ext emitted ended) (start_ne_nothing byte)
      | some pending =>
          simp only [step, Pending.extend] at emitted ended
          split at emitted
          next admitted =>
            rw [if_pos admitted] at ended
            split at emitted
            next => cases emitted
            next more =>
              rw [if_neg more] at ended
              cases ended
          next => cases emitted

/-- The characters a byte string begins with are encoded at its beginning. -/
theorem exists_of_pieces_append {bytes : List UInt8} {chars : List Char} {more : List Piece}
    (read : pieces bytes = chars.map .char ++ more) :
    ∃ rest, bytes = encode chars ++ rest ∧ more = pieces rest := by
  induction chars generalizing bytes with
  | nil => exact ⟨bytes, rfl, read.symm⟩
  | cons c chars ih =>
      obtain ⟨used, code, rest, rfl, spells, rfl, later⟩ := exists_spells_of_pieces read
      obtain ⟨rest, rfl, cut⟩ := ih later.symm
      exact ⟨rest, by rw [encode_cons, spells.encodeChar, List.append_assoc], cut⟩

theorem eq_encode_of_pieces {bytes : List UInt8} {chars : List Char}
    (read : pieces bytes = chars.map .char) : bytes = encode chars := by
  obtain ⟨rest, rfl, silent⟩ := exists_of_pieces_append (read.trans (List.append_nil _).symm)
  rw [(piecesFrom_eq_nil silent.symm).2, List.append_nil]

theorem collect_eq_ok {position : Nat} {pieces : List Piece} {chars : List Char} :
    collect position pieces = .ok chars ↔ pieces = chars.map .char := by
  induction pieces generalizing position chars with
  | nil => cases chars <;> simp [collect]
  | cons piece rest ih =>
      cases piece with
      | flaw reason bytes => cases chars <;> simp [collect]
      | char c =>
          cases chars with
          | nil =>
              rw [collect]
              cases collect (position + c.utf8Size) rest <;> simp
          | cons first chars =>
              rw [List.map_cons, List.cons.injEq, Piece.char.injEq, ← ih, collect]
              cases collect (position + c.utf8Size) rest <;> simp

theorem decode_eq_ok_iff {bytes : List UInt8} {chars : List Char} :
    decode bytes = .ok chars ↔ bytes = encode chars := by
  rw [decode, collect_eq_ok]
  constructor
  · exact eq_encode_of_pieces
  · rintro rfl
    simpa [pieces, finish] using pieces_encode_append chars []

theorem decode_encode (chars : List Char) : decode (encode chars) = .ok chars :=
  decode_eq_ok_iff.mpr rfl

/-- What follows one encoding within another is an encoding. -/
theorem exists_of_encode_append {chars all : List Char} {rest : List UInt8}
    (same : encode chars ++ rest = encode all) :
    ∃ more, all = chars ++ more ∧ rest = encode more := by
  have read : chars.map Piece.char ++ pieces rest = all.map .char := by
    rw [← pieces_encode_append, same, ← collect_eq_ok]
    exact decode_encode all
  obtain ⟨first, more, rfl, isFirst, isMore⟩ := List.map_eq_append_iff.mp read.symm
  have injective : Function.Injective Piece.char := fun _ _ => Piece.char.inj
  obtain rfl := (List.map_inj_right injective).mp isFirst
  exact ⟨more, rfl, eq_encode_of_pieces isMore.symm⟩

end ForeignCall.Utf8
