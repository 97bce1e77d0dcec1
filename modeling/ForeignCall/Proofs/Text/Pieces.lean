import ForeignCall.Proofs.Text.Utf8

/-! What the pieces of a byte string cover. Together they are its bytes, in order: a character stands
for its encoding, and a flaw for the bytes it could make nothing of. The text with a mark for every
flaw can therefore be put together from the texts of two parts, wherever the second one does not
begin with a byte that goes on with a character. -/

namespace ForeignCall.Utf8

/-- The bytes a piece was read from. -/
def Piece.bytes : Piece → List UInt8
  | .char c => String.utf8EncodeChar c
  | .flaw _ bytes => bytes

/-- A character under way goes on with tail bytes only. -/
def Steady (state : Option Pending) : Prop :=
  ∀ pending ∈ state, ∀ byte, pending.admits byte = true → Tail byte

theorem steady_none : Steady none := by
  rintro pending ⟨⟩

theorem steady_some {read : List UInt8} {value missing : Nat} :
    Steady (some ⟨read, value, missing, 0x80, 0xBF⟩) := by
  rintro pending ⟨⟩ byte admitted
  exact Pending.admits_iff_tail.mp admitted

/-- What a byte can begin. -/
inductive Begins (first : UInt8) : List Piece × Option Pending → Prop where
  | char (c : Char) : Begins first ([.char c], none)
  | flaw : Begins first ([.flaw .invalidStart [first]], none)
  | pending {pending : Pending} (read : pending.read = [first]) (steady : Steady (some pending)) :
      Begins first ([], some pending)

theorem begins_start (first : UInt8) : Begins first (start first) := by
  by_cases small : first.toNat < 0x80
  · rw [start_of_one small]
    exact .char _
  by_cases stray : first.toNat < 0xC2 ∨ 0xF5 ≤ first.toNat
  · rw [start_of_stray (by omega)]
    exact .flaw
  by_cases two : first.toNat < 0xE0
  · rw [start_of_two (by omega)]
    exact .pending rfl steady_some
  by_cases three : first.toNat < 0xF0
  · rw [start_of_three (by omega)]
    refine .pending rfl ?_
    rintro pending ⟨⟩ byte admitted
    exact ((Pending.admits_iff_narrow (by decide) (by decide)).mp admitted).1
  · rw [start_of_four (by omega)]
    refine .pending rfl ?_
    rintro pending ⟨⟩ byte admitted
    exact ((Pending.admits_iff_narrow (by decide) (by decide)).mp admitted).1

theorem Steady.step {state : Option Pending} (byte : UInt8) : Steady (step state byte).2 := by
  have begun : Steady (start byte).2 := by
    have begins := begins_start byte
    generalize start byte = begun at begins
    cases begins with
    | char c => exact steady_none
    | flaw => exact steady_none
    | pending read steady => exact steady
  cases state with
  | none => exact begun
  | some pending =>
      simp only [Utf8.step, Pending.extend]
      split
      next =>
        split
        next => exact steady_none
        next => exact steady_some
      next => exact begun

theorem piecesFrom_refused {pending : Pending} {byte : UInt8}
    (refused : ¬ pending.admits byte = true) (rest : List UInt8) :
    piecesFrom (some pending) (byte :: rest) =
      .flaw .invalidContinuation pending.read :: pieces (byte :: rest) := by
  rw [piecesFrom, step, if_neg refused]
  rfl

/-- A character under way that ends as a flaw leaves what follows to be read afresh. -/
theorem exists_of_piecesFrom_flaw {pending : Pending} {bytes used : List UInt8} {reason : Reason}
    {more : List Piece} (read : piecesFrom (some pending) bytes = .flaw reason used :: more) :
    ∃ taken rest, bytes = taken ++ rest ∧ used = pending.read ++ taken ∧ more = pieces rest := by
  induction bytes generalizing pending with
  | nil =>
      cases read
      exact ⟨[], [], rfl, (List.append_nil _).symm, rfl⟩
  | cons byte rest ih =>
      by_cases admitted : pending.admits byte = true
      · by_cases last : pending.missing ≤ 1
        · rw [piecesFrom_last admitted last] at read
          cases read
        · rw [piecesFrom_more admitted (Nat.lt_of_not_le last)] at read
          obtain ⟨taken, rest, rfl, rfl, rfl⟩ := ih read
          exact ⟨byte :: taken, rest, rfl, List.append_assoc .., rfl⟩
      · rw [piecesFrom_refused admitted] at read
        cases read
        exact ⟨[], byte :: rest, rfl, (List.append_nil _).symm, rfl⟩

theorem exists_of_pieces_flaw {bytes used : List UInt8} {reason : Reason} {more : List Piece}
    (read : pieces bytes = .flaw reason used :: more) :
    ∃ rest, bytes = used ++ rest ∧ used ≠ [] ∧ more = pieces rest := by
  cases bytes with
  | nil => cases read
  | cons first rest =>
      have begins := begins_start first
      generalize started : start first = begun at begins
      rw [pieces_of_start started] at read
      cases begins with
      | char c => cases read
      | flaw =>
          cases read
          exact ⟨rest, rfl, by simp, rfl⟩
      | pending isFirst steady =>
          obtain ⟨taken, rest, rfl, rfl, rfl⟩ := exists_of_piecesFrom_flaw read
          rw [isFirst]
          exact ⟨rest, rfl, by simp, rfl⟩

/-- The pieces of a byte string leave none of its bytes out and share none. -/
theorem flatMap_bytes_pieces (bytes : List UInt8) : (pieces bytes).flatMap Piece.bytes = bytes := by
  generalize read : pieces bytes = cut
  induction cut generalizing bytes with
  | nil => exact (piecesFrom_eq_nil read).2.symm
  | cons piece more ih =>
      cases piece with
      | char c =>
          obtain ⟨used, code, rest, rfl, spells, rfl, rfl⟩ := exists_spells_of_pieces read
          rw [List.flatMap_cons, ih rest rfl, Piece.bytes, spells.encodeChar]
      | flaw reason used =>
          obtain ⟨rest, rfl, -, rfl⟩ := exists_of_pieces_flaw read
          rw [List.flatMap_cons, ih rest rfl, Piece.bytes]

/-! The text with a mark for every flaw. -/

/-- A character of the text is the mark, or its encoding is among the bytes. -/
theorem infix_of_mem_replacing {bytes : List UInt8} {c : Char} (member : c ∈ replacing bytes) :
    c = Char.ofNat 0xFFFD ∨ String.utf8EncodeChar c <:+: bytes := by
  obtain ⟨piece, among, rfl⟩ := List.mem_map.mp member
  cases piece with
  | flaw reason used => exact .inl rfl
  | char c =>
      have within := List.infix_of_mem_flatten (List.mem_map_of_mem (f := Piece.bytes) among)
      rw [← List.flatMap_def, flatMap_bytes_pieces] at within
      exact .inr within

theorem replacing_of_decode {bytes : List UInt8} {chars : List Char}
    (decoded : decode bytes = .ok chars) : replacing bytes = chars := by
  rw [replacing, collect_eq_ok.mp decoded, List.map_map]
  exact List.map_id chars

/-- The end of the first part ends a character under way as the second part's first byte does, up to
the reason. -/
theorem shown_piecesFrom_append {state : Option Pending} (steady : Steady state)
    (part : List UInt8) {rest : List UInt8} (apart : ∀ byte ∈ rest.head?, ¬ Tail byte) :
    (piecesFrom state (part ++ rest)).map Piece.shown =
      (piecesFrom state part).map Piece.shown ++ replacing rest := by
  induction part generalizing state with
  | nil =>
      cases state with
      | none => rfl
      | some pending =>
          cases rest with
          | nil => rfl
          | cons byte rest =>
              have refused : ¬ pending.admits byte = true :=
                fun admitted => apart byte rfl (steady pending rfl byte admitted)
              rw [List.nil_append, piecesFrom_refused refused]
              rfl
  | cons byte part ih =>
      rw [List.cons_append, piecesFrom, piecesFrom, List.map_append, List.map_append,
        ih (.step byte), List.append_assoc]

theorem replacing_append (part : List UInt8) {rest : List UInt8}
    (apart : ∀ byte ∈ rest.head?, ¬ Tail byte) :
    replacing (part ++ rest) = replacing part ++ replacing rest :=
  shown_piecesFrom_append steady_none part apart

theorem head?_encode_apart (chars : List Char) : ∀ byte ∈ (encode chars).head?, ¬ Tail byte := by
  cases chars with
  | nil => simp
  | cons c chars =>
      have spells := spells_encodeChar c
      generalize c.toNat = code at spells
      rw [encode_cons]
      generalize String.utf8EncodeChar c = bytes at spells
      unfold Tail
      cases spells <;> simp <;> omega

/-- Encoded text is read whole, whatever comes before it. -/
theorem replacing_append_encode (part : List UInt8) (chars : List Char) :
    replacing (part ++ encode chars) = replacing part ++ chars := by
  rw [replacing_append part (head?_encode_apart chars), replacing_of_decode (decode_encode chars)]

end ForeignCall.Utf8
