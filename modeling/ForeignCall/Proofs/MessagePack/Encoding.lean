import ForeignCall.Proofs.MessagePack.Reader
import ForeignCall.Proofs.Text.Utf8
import ForeignCall.Proofs.Word.Fields
import Mathlib.Algebra.Group.Nat.Defs

/-! The ways a value may be written, of which there are many, since each number, length and count
may be written in any width that holds it. All of them are read as that value, unless there is an
extension of the greatest length in it: that length and the code together have no four bytes. -/

namespace ForeignCall.MessagePack

/-- A number in so many bytes, highest first. -/
def bigEndianBytes (width value : Nat) : List UInt8 :=
  (Word.toBytes width value).reverse

/-- The ways to write a head. -/
inductive Announces : Head → List UInt8 → Prop where
  | null : Announces (.value .null) [0xC0]
  | no : Announces (.value (.bool false)) [0xC2]
  | yes : Announces (.value (.bool true)) [0xC3]
  | smallInt (value : Nat) (small : value < 0x80) :
      Announces (.value (.int value)) [UInt8.ofNat value]
  | negativeInt (value : Nat) (small : value < 0x20) :
      Announces (.value (.int (value - 0x20))) [UInt8.ofNat (0xE0 + value)]
  | unsigned {width : Nat} {code : UInt8} (value : Nat)
      (form : (width, code) ∈ [(1, 0xCC), (2, 0xCD), (4, 0xCE), (8, 0xCF)])
      (fits : value < 256 ^ width) :
      Announces (.value (.int value)) (code :: bigEndianBytes width value)
  | signed {width : Nat} {code : UInt8} (value : Int)
      (form : (width, code) ∈ [(1, 0xD0), (2, 0xD1), (4, 0xD2), (8, 0xD3)])
      (low : -(256 ^ width : Nat) ≤ value * 2) (high : value * 2 < (256 ^ width : Nat)) :
      Announces (.value (.int value))
        (code :: bigEndianBytes width (value % (256 ^ width : Nat)).toNat)
  | float (bits : UInt64) :
      Announces (.value (.float bits)) (0xCB :: bigEndianBytes 8 bits.toNat)
  | smallText (length : Nat) (small : length < 0x20) :
      Announces (.text length) [UInt8.ofNat (0xA0 + length)]
  | text {width : Nat} {code : UInt8} (length : Nat)
      (form : (width, code) ∈ [(1, 0xD9), (2, 0xDA), (4, 0xDB)]) (fits : length < 256 ^ width) :
      Announces (.text length) (code :: bigEndianBytes width length)
  | bytes {width : Nat} {code : UInt8} (length : Nat)
      (form : (width, code) ∈ [(1, 0xC4), (2, 0xC5), (4, 0xC6)]) (fits : length < 256 ^ width) :
      Announces (.bytes length) (code :: bigEndianBytes width length)
  | fixedExt {length : Nat} {code : UInt8}
      (form : (length, code) ∈ [(1, 0xD4), (2, 0xD5), (4, 0xD6), (8, 0xD7), (16, 0xD8)]) :
      Announces (.ext length) [code]
  | ext {width : Nat} {code : UInt8} (length : Nat)
      (form : (width, code) ∈ [(1, 0xC7), (2, 0xC8), (4, 0xC9)]) (fits : length < 256 ^ width) :
      Announces (.ext length) (code :: bigEndianBytes width length)
  | smallArray (count : Nat) (small : count < 0x10) :
      Announces (.array count) [UInt8.ofNat (0x90 + count)]
  | array {width : Nat} {code : UInt8} (count : Nat)
      (form : (width, code) ∈ [(2, 0xDC), (4, 0xDD)]) (fits : count < 256 ^ width) :
      Announces (.array count) (code :: bigEndianBytes width count)
  | smallMap (count : Nat) (small : count < 0x10) :
      Announces (.map count) [UInt8.ofNat (0x80 + count)]
  | map {width : Nat} {code : UInt8} (count : Nat)
      (form : (width, code) ∈ [(2, 0xDE), (4, 0xDF)]) (fits : count < 256 ^ width) :
      Announces (.map count) (code :: bigEndianBytes width count)

def keyDatum : Key → Datum
  | .text value => .text value
  | .bytes value => .bytes value

mutual
/-- The ways to write a value. -/
inductive Encodes : Datum → List UInt8 → Prop where
  | scalar {value : Datum} {head : List UInt8} (announced : Announces (.value value) head) :
      Encodes value head
  | text {head : List UInt8} (chars : List Char)
      (announced : Announces (.text (Utf8.encode chars).length) head) :
      Encodes (.text (Text.ofChars chars)) (head ++ Utf8.encode chars)
  | bytes {head : List UInt8} (data : List UInt8)
      (announced : Announces (.bytes data.length) head) : Encodes (.bytes data) (head ++ data)
  | ext {head : List UInt8} (code : UInt8) (data : List UInt8) (assigned : code < 0x80)
      (announced : Announces (.ext data.length) head) :
      Encodes (.ext code.toNat data) (head ++ code :: data)
  | list {items : List Datum} {head body : List UInt8}
      (announced : Announces (.array items.length) head) (inside : EncodesItems items body) :
      Encodes (.list items) (head ++ body)
  | map {fields : List (Key × Datum)} {head body : List UInt8}
      (announced : Announces (.map fields.length) head) (distinct : (Table.keys fields).Nodup)
      (inside : EncodesFields fields body) : Encodes (.map fields) (head ++ body)

inductive EncodesItems : List Datum → List UInt8 → Prop where
  | nil : EncodesItems [] []
  | cons {item : Datum} {items : List Datum} {first rest : List UInt8}
      (one : Encodes item first) (others : EncodesItems items rest) :
      EncodesItems (item :: items) (first ++ rest)

inductive EncodesFields : List (Key × Datum) → List UInt8 → Prop where
  | nil : EncodesFields [] []
  | cons {key : Key} {value : Datum} {fields : List (Key × Datum)}
      {name first rest : List UInt8} (named : Encodes (keyDatum key) name)
      (one : Encodes value first) (others : EncodesFields fields rest) :
      EncodesFields ((key, value) :: fields) (name ++ (first ++ rest))
end

mutual
/-- How many lists and maps are at most inside one another. -/
def depth : Datum → Nat
  | .list items => depthOfItems items + 1
  | .map fields => depthOfFields fields + 1
  | _ => 0

def depthOfItems : List Datum → Nat
  | [] => 0
  | item :: rest => max (depth item) (depthOfItems rest)

def depthOfFields : List (Key × Datum) → Nat
  | [] => 0
  | (_, value) :: rest => max (depth value) (depthOfFields rest)
end

mutual
/-- There is an extension of the greatest length in the value. -/
def hasLongest : Datum → Bool
  | .ext _ data => data.length = 0xFFFFFFFF
  | .list items => itemsHaveLongest items
  | .map fields => fieldsHaveLongest fields
  | _ => false

def itemsHaveLongest : List Datum → Bool
  | [] => false
  | item :: rest => hasLongest item || itemsHaveLongest rest

def fieldsHaveLongest : List (Key × Datum) → Bool
  | [] => false
  | (_, value) :: rest => hasLongest value || fieldsHaveLongest rest
end

/-! Numbers. -/

theorem bigEndian_reverse (bytes : List UInt8) :
    bigEndian bytes.reverse = Word.ofBytes bytes := by
  induction bytes with
  | nil => rfl
  | cons byte rest ih =>
      rw [bigEndian] at ih ⊢
      rw [List.reverse_cons, List.foldl_append, ih, Word.ofBytes, Nat.add_comm, Nat.mul_comm]
      rfl

@[simp] theorem length_bigEndianBytes (width value : Nat) :
    (bigEndianBytes width value).length = width := by
  simp [bigEndianBytes]

theorem bigEndian_bigEndianBytes {width value : Nat} (fits : value < 256 ^ width) :
    bigEndian (bigEndianBytes width value) = value := by
  rw [bigEndianBytes, bigEndian_reverse, Word.ofBytes_toBytes fits]

theorem unsigned_append {width value : Nat} (fits : value < 256 ^ width) (rest : List UInt8) :
    unsigned width (bigEndianBytes width value ++ rest) = .ok (value, rest) := by
  refine (bind_of_ok (take_append (length_bigEndianBytes width value) rest)).trans ?_
  rw [bigEndian_bigEndianBytes fits]
  rfl

theorem signed_append {width : Nat} {value : Int} (low : -(256 ^ width : Nat) ≤ value * 2)
    (high : value * 2 < (256 ^ width : Nat)) (rest : List UInt8) :
    signed width (bigEndianBytes width (value % (256 ^ width : Nat)).toNat ++ rest) =
      .ok (value, rest) := by
  have positive : 0 < 256 ^ width := Nat.pow_pos (by decide)
  have nonneg : 0 ≤ value % (256 ^ width : Nat) := Int.emod_nonneg value (by omega)
  have fits : (value % (256 ^ width : Nat)).toNat < 256 ^ width :=
    (Int.toNat_lt nonneg).mpr (Int.emod_lt_of_pos value (by omega))
  have same :
      signedBigEndian (bigEndianBytes width (value % (256 ^ width : Nat)).toNat) = value := by
    rw [signedBigEndian, bigEndian_bigEndianBytes fits, length_bigEndianBytes,
      Int.ofNat_eq_natCast, Int.toNat_of_nonneg nonneg]
    exact (Int.emod_bmod value (256 ^ width)).trans (Int.bmod_eq_of_le_mul_two low high)
  refine (bind_of_ok (take_append (length_bigEndianBytes width _) rest)).trans ?_
  rw [same]
  rfl

/-! Heads. -/

theorem head_cons (first : UInt8) (rest : List UInt8) :
    head (first :: rest) = headOf first rest := rfl

theorem headOf_smallInt {value : Nat} (small : value < 0x80) :
    headOf (UInt8.ofNat value) = pure (.value (.int value)) := by
  have byte := UInt8.toNat_ofNat_of_lt' (show value < 256 by omega)
  simp only [headOf, byte]
  exact if_pos small

theorem headOf_smallMap {count : Nat} (small : count < 0x10) :
    headOf (UInt8.ofNat (0x80 + count)) = pure (.map count) := by
  have byte := UInt8.toNat_ofNat_of_lt' (show 0x80 + count < 256 by omega)
  simp only [headOf, byte, Nat.add_sub_cancel_left]
  rw [if_neg (by omega), if_pos (by omega)]

theorem headOf_smallArray {count : Nat} (small : count < 0x10) :
    headOf (UInt8.ofNat (0x90 + count)) = pure (.array count) := by
  have byte := UInt8.toNat_ofNat_of_lt' (show 0x90 + count < 256 by omega)
  simp only [headOf, byte, Nat.add_sub_cancel_left]
  rw [if_neg (by omega), if_neg (by omega), if_pos (by omega)]

theorem headOf_smallText {length : Nat} (small : length < 0x20) :
    headOf (UInt8.ofNat (0xA0 + length)) = pure (.text length) := by
  have byte := UInt8.toNat_ofNat_of_lt' (show 0xA0 + length < 256 by omega)
  simp only [headOf, byte, Nat.add_sub_cancel_left]
  rw [if_neg (by omega), if_neg (by omega), if_neg (by omega), if_pos (by omega)]

theorem headOf_negativeInt {value : Nat} (small : value < 0x20) :
    headOf (UInt8.ofNat (0xE0 + value)) = pure (.value (.int (value - 0x20))) := by
  have byte := UInt8.toNat_ofNat_of_lt' (show 0xE0 + value < 256 by omega)
  have same : Int.ofNat (0xE0 + value) - 256 = value - 0x20 := by
    rw [Int.ofNat_eq_natCast]
    omega
  simp only [headOf, byte, same]
  rw [if_neg (by omega), if_neg (by omega), if_neg (by omega), if_neg (by omega),
    if_pos (by omega)]

/-- A head of a format that goes on with a number in some width. -/
theorem headOf_counted (make : Nat → Head) {forms : List (Nat × UInt8)} {width : Nat}
    {code : UInt8} (reads : ∀ form ∈ forms, headOf form.2 = do return make (← unsigned form.1))
    (form : (width, code) ∈ forms) {value : Nat} (fits : value < 256 ^ width) (rest : List UInt8) :
    head (code :: bigEndianBytes width value ++ rest) = .ok (make value, rest) := by
  refine (head_cons code _).trans ?_
  rw [reads _ form]
  exact bind_of_ok (unsigned_append fits rest)

theorem Announces.read {announced : Head} {bytes : List UInt8}
    (announces : Announces announced bytes) (rest : List UInt8) :
    head (bytes ++ rest) = .ok (announced, rest) := by
  cases announces with
  | null => rfl
  | no => rfl
  | yes => rfl
  | smallInt value small => exact congrFun (headOf_smallInt small) rest
  | negativeInt value small => exact congrFun (headOf_negativeInt small) rest
  | unsigned value form fits =>
      exact headOf_counted (fun value => .value (.int value))
        (by simp only [List.forall_mem_cons]; exact ⟨rfl, rfl, rfl, rfl, nofun⟩) form fits rest
  | @signed width code value form low high =>
      have reads : ∀ form ∈ [(1, (0xD0 : UInt8)), (2, 0xD1), (4, 0xD2), (8, 0xD3)],
          headOf form.2 = do return .value (.int (← MessagePack.signed form.1)) := by
        simp only [List.forall_mem_cons]
        exact ⟨rfl, rfl, rfl, rfl, nofun⟩
      refine (congrFun (reads _ form) _).trans ?_
      exact bind_of_ok (signed_append low high rest)
  | float bits =>
      have reads : ∀ form ∈ [(8, (0xCB : UInt8))],
          headOf form.2 = do
            return .value (.float (UInt64.ofNat (← MessagePack.unsigned form.1))) := by
        simp only [List.forall_mem_cons]
        exact ⟨rfl, nofun⟩
      have read := headOf_counted _ reads (List.mem_singleton.mpr rfl) bits.toNat_lt rest
      rwa [UInt64.ofNat_toNat] at read
  | smallText length small => exact congrFun (headOf_smallText small) rest
  | text length form fits =>
      exact headOf_counted .text
        (by simp only [List.forall_mem_cons]; exact ⟨rfl, rfl, rfl, nofun⟩) form fits rest
  | bytes length form fits =>
      exact headOf_counted .bytes
        (by simp only [List.forall_mem_cons]; exact ⟨rfl, rfl, rfl, nofun⟩) form fits rest
  | @fixedExt length code form =>
      have reads : ∀ form ∈ [(1, (0xD4 : UInt8)), (2, 0xD5), (4, 0xD6), (8, 0xD7), (16, 0xD8)],
          headOf form.2 = pure (.ext form.1) := by
        simp only [List.forall_mem_cons]
        exact ⟨rfl, rfl, rfl, rfl, rfl, nofun⟩
      exact congrFun (reads _ form) rest
  | ext length form fits =>
      exact headOf_counted .ext
        (by simp only [List.forall_mem_cons]; exact ⟨rfl, rfl, rfl, nofun⟩) form fits rest
  | smallArray count small => exact congrFun (headOf_smallArray small) rest
  | array count form fits =>
      exact headOf_counted .array
        (by simp only [List.forall_mem_cons]; exact ⟨rfl, rfl, nofun⟩) form fits rest
  | smallMap count small => exact congrFun (headOf_smallMap small) rest
  | map count form fits =>
      exact headOf_counted .map
        (by simp only [List.forall_mem_cons]; exact ⟨rfl, rfl, nofun⟩) form fits rest

/-! Values. -/

theorem Announces.length_pos {announced : Head} {bytes : List UInt8}
    (announces : Announces announced bytes) : 0 < bytes.length := by
  cases announces <;> exact Nat.succ_pos _

theorem Encodes.length_pos {value : Datum} {bytes : List UInt8} (encodes : Encodes value bytes) :
    0 < bytes.length := by
  cases encodes with
  | scalar announced => exact announced.length_pos
  | text _ announced | bytes _ announced | ext _ _ _ announced | list announced _
  | map announced _ _ =>
      rw [List.length_append]
      exact Nat.add_pos_left announced.length_pos _

theorem EncodesItems.length_le {items : List Datum} {bytes : List UInt8}
    (encodes : EncodesItems items bytes) : items.length ≤ bytes.length := by
  induction items generalizing bytes with
  | nil => exact Nat.zero_le _
  | cons item items ih =>
      cases encodes with
      | cons one others =>
          rw [List.length_cons, List.length_append]
          have := one.length_pos
          have := ih others
          omega

theorem EncodesFields.length_le {fields : List (Key × Datum)} {bytes : List UInt8}
    (encodes : EncodesFields fields bytes) : fields.length ≤ bytes.length / 2 := by
  induction fields generalizing bytes with
  | nil => exact Nat.zero_le _
  | cons field fields ih =>
      cases encodes with
      | cons named one others =>
          rw [List.length_cons, List.length_append, List.length_append]
          have := named.length_pos
          have := one.length_pos
          have := ih others
          omega

def inside? (length : Nat) : Nat → Option (Reader Datum)
  | 0 => none
  | depth + 1 => some (value length depth)

theorem value_append {length depth : Nat} {announced : Head} {head : List UInt8}
    (announces : Announces announced head) (rest : List UInt8) :
    value length depth (head ++ rest) = body length (inside? length depth) announced rest := by
  cases depth <;> exact bind_of_ok (announces.read rest)

theorem keyOf_keyDatum (key : Key) : keyOf (keyDatum key) = .ok key := by
  cases key <;> rfl

theorem depth_keyDatum (key : Key) : depth (keyDatum key) = 0 := by
  cases key <;> rfl

theorem hasLongest_ext {code : Nat} {data : List UInt8} :
    hasLongest (.ext code data) = true ↔ data.length = 0xFFFFFFFF :=
  decide_eq_true_iff

theorem hasLongest_keyDatum (key : Key) : hasLongest (keyDatum key) = false := by
  cases key <;> rfl

theorem Announces.hasLongest {value : Datum} {head : List UInt8}
    (announces : Announces (.value value) head) : MessagePack.hasLongest value = false := by
  cases announces <;> rfl

theorem set_of_new {key : Key} {value : Datum} {table : List (Key × Datum)}
    (absent : key ∉ Table.keys table) : Table.set key value table = table ++ [(key, value)] := by
  induction table with
  | nil => rfl
  | cons binding rest ih =>
      simp only [Table.keys_cons, List.mem_cons, not_or] at absent
      rw [Table.set, if_neg (Ne.symm absent.1), ih absent.2, List.cons_append]

/-- What comes of reading what has been written: the longest extensions are refused whatever comes
after their head. `length` is that of the whole payload. -/
def readAs {α : Type} (length : Nat) (longest : Bool) (result : α) (rest : List UInt8) :
    Except Flaw (α × List UInt8) :=
  if longest then .error (longExt length 0xFFFFFFFF) else .ok (result, rest)

theorem bind_readAs {α β : Type} {reader : Reader α} {next : α → Reader β} {length : Nat}
    {longest more : Bool} {bytes rest final : List UInt8} {first : α} {result : β}
    (read : reader bytes = readAs length longest first rest)
    (further : next first rest = readAs length more result final) :
    (reader >>= next) bytes = readAs length (longest || more) result final := by
  cases longest with
  | true => exact bind_of_error read
  | false => exact (bind_of_ok read).trans further

/-- What is made of a result changes nothing in whether it is come to. -/
theorem map_readAs {α β : Type} {reader : Reader α} {make : α → β} {length : Nat} {longest : Bool}
    {bytes rest : List UInt8} {result : α}
    (read : reader bytes = readAs length longest result rest) :
    (do return make (← reader)) bytes = readAs length longest (make result) rest := by
  rw [← Bool.or_false longest]
  exact bind_readAs read rfl

section Read

variable {length limit : Nat} {head : List UInt8}

theorem value_text {chars : List Char}
    (announced : Announces (.text (Utf8.encode chars).length) head) (rest : List UInt8) :
    value length limit (head ++ Utf8.encode chars ++ rest) =
      .ok (.text (Text.ofChars chars), rest) := by
  rw [List.append_assoc, value_append announced]
  refine bind_of_ok ((bind_of_ok (take_append rfl rest)).trans ?_)
  rw [Utf8.decode_encode]
  rfl

theorem value_bytes {data : List UInt8} (announced : Announces (.bytes data.length) head)
    (rest : List UInt8) :
    value length limit (head ++ data ++ rest) = .ok (.bytes data, rest) := by
  rw [List.append_assoc, value_append announced]
  exact bind_of_ok (take_append rfl rest)

theorem value_longest (announced : Announces (.ext 0xFFFFFFFF) head) (rest : List UInt8) :
    value length limit (head ++ rest) = .error (longExt length 0xFFFFFFFF) := by
  rw [value_append announced, body, if_pos rfl]
  rfl

theorem value_ext {code : UInt8} {data : List UInt8} (assigned : code < 0x80)
    (announced : Announces (.ext data.length) head) (rest : List UInt8) :
    value length limit (head ++ code :: data ++ rest) =
      readAs length (hasLongest (.ext code.toNat data)) (.ext code.toNat data) rest := by
  rw [List.append_assoc]
  by_cases longest : data.length = 0xFFFFFFFF
  · rw [readAs, if_pos (hasLongest_ext.mpr longest)]
    exact value_longest (longest ▸ announced) _
  · have taken : take (data.length + 1) (code :: data ++ rest) = .ok (code :: data, rest) :=
      @take_append _ (code :: data) rfl rest
    have genuine : code ≠ 0xFF := by
      rintro rfl
      exact absurd assigned (by decide)
    rw [readAs, if_neg (mt hasLongest_ext.mp longest), value_append announced, body, if_neg longest]
    refine (bind_of_ok taken).trans ?_
    simp only [extension, if_neg genuine, if_pos assigned]
    rfl

theorem value_list {result : List Datum} {longest : Bool} {inside rest : List UInt8}
    (announced : Announces (.array result.length) head) (room : result.length ≤ length)
    (read : items (value length limit) result.length (inside ++ rest) =
      readAs length longest result rest) :
    value length (limit + 1) (head ++ inside ++ rest) =
      readAs length longest (.list result) rest := by
  rw [List.append_assoc, value_append announced, inside?, body, if_neg (Nat.not_lt.mpr room)]
  exact map_readAs read

theorem value_map {result : List (Key × Datum)} {longest : Bool} {inside rest : List UInt8}
    (announced : Announces (.map result.length) head) (room : result.length ≤ length / 2)
    (read : fields (value length limit) [] result.length (inside ++ rest) =
      readAs length longest result rest) :
    value length (limit + 1) (head ++ inside ++ rest) =
      readAs length longest (.map result) rest := by
  rw [List.append_assoc, value_append announced, inside?, body, if_neg (Nat.not_lt.mpr room)]
  exact map_readAs read

theorem fields_cons {element : Reader Datum} {before fields : List (Key × Datum)} {key : Key}
    {item : Datum} {longest more : Bool} {bytes middle inside rest : List UInt8}
    (named : element bytes = .ok (keyDatum key, middle))
    (one : element middle = readAs length longest item inside)
    (distinct : (Table.keys (before ++ (key, item) :: fields)).Nodup)
    (others : MessagePack.fields element (before ++ [(key, item)]) fields.length inside =
      readAs length more (before ++ [(key, item)] ++ fields) rest) :
    MessagePack.fields element before (fields.length + 1) bytes =
      readAs length (longest || more) (before ++ (key, item) :: fields) rest := by
  have absent : key ∉ Table.keys before := by
    rw [Table.keys, List.map_append] at distinct
    have apart := (List.nodup_append.mp distinct).2.2
    exact fun member => apart _ member _ (List.mem_cons_self ..) rfl
  refine (bind_of_ok named).trans (bind_readAs one ?_)
  simp only [keyOf_keyDatum, set_of_new absent]
  rw [others, List.append_cons before (key, item) fields]

end Read

-- By recursion on the encoding. The length of the whole payload bounds every count.
mutual
theorem Encodes.read : ∀ {result : Datum} {bytes : List UInt8}, Encodes result bytes →
    ∀ {length limit : Nat}, depth result ≤ limit → bytes.length ≤ length →
      ∀ rest, value length limit (bytes ++ rest) = readAs length (hasLongest result) result rest
  | _, _, .scalar announced, _, _, _, _, rest => by
      rw [announced.hasLongest]
      exact value_append announced rest
  | _, _, .text _ announced, _, _, _, _, rest => value_text announced rest
  | _, _, .bytes _ announced, _, _, _, _, rest => value_bytes announced rest
  | _, _, .ext _ _ assigned announced, _, _, _, _, rest => value_ext assigned announced rest
  | _, _, .list announced inside, length, limit + 1, shallow, room, rest => by
      rw [List.length_append] at room
      have fits : _ ≤ length := Nat.le_trans inside.length_le (by omega)
      exact value_list announced fits
        (inside.read (Nat.le_of_succ_le_succ shallow) (by omega) rest)
  | _, _, .map announced distinct inside, length, limit + 1, shallow, room, rest => by
      rw [List.length_append] at room
      have fits : _ ≤ length / 2 :=
        Nat.le_trans inside.length_le (Nat.div_le_div_right (by omega))
      exact value_map announced fits
        (inside.read (Nat.le_of_succ_le_succ shallow) (by omega) [] distinct rest)

theorem EncodesItems.read : ∀ {result : List Datum} {bytes : List UInt8},
    EncodesItems result bytes → ∀ {length limit : Nat}, depthOfItems result ≤ limit →
      bytes.length ≤ length → ∀ rest,
        items (value length limit) result.length (bytes ++ rest) =
          readAs length (itemsHaveLongest result) result rest
  | _, _, .nil, _, _, _, _, _ => rfl
  | _, _, .cons one others, _, _, shallow, room, rest => by
      rw [depthOfItems, Nat.max_le] at shallow
      rw [List.length_append] at room
      rw [List.append_assoc]
      exact bind_readAs (one.read shallow.1 (by omega) _)
        (map_readAs (others.read shallow.2 (by omega) rest))

theorem EncodesFields.read : ∀ {result : List (Key × Datum)} {bytes : List UInt8},
    EncodesFields result bytes → ∀ {length limit : Nat}, depthOfFields result ≤ limit →
      bytes.length ≤ length → ∀ (before : List (Key × Datum)),
        (Table.keys (before ++ result)).Nodup → ∀ rest,
          fields (value length limit) before result.length (bytes ++ rest) =
            readAs length (fieldsHaveLongest result) (before ++ result) rest
  | _, _, .nil, _, _, _, _, before, _, _ => by
      rw [List.append_nil]
      rfl
  | _, _, @EncodesFields.cons key _ _ _ _ _ named one others, _, limit, shallow, room, before,
      distinct, rest => by
      rw [depthOfFields, Nat.max_le] at shallow
      rw [List.length_append, List.length_append] at room
      rw [List.append_assoc, List.append_assoc]
      have flat : depth (keyDatum key) ≤ limit := by
        rw [depth_keyDatum]
        exact Nat.zero_le _
      have name := named.read flat (Nat.le_trans (by omega) room)
      rw [hasLongest_keyDatum] at name
      exact fields_cons (name _) (one.read shallow.1 (by omega) _) distinct
        (others.read shallow.2 (by omega) _ (by rwa [← List.append_cons]) rest)
end

theorem kind_longExt (length count : Nat) :
    (Fault.messagePack (longExt length count)).kind = .value := by
  unfold longExt
  split <;> rfl

def longestHead : List UInt8 := [0xC9, 0xFF, 0xFF, 0xFF, 0xFF]

theorem announces_longest : Announces (.ext 0xFFFFFFFF) longestHead :=
  @Announces.ext 4 0xC9 0xFFFFFFFF (by simp) (by decide)

theorem decode_longest {payload rest : List UInt8} (starts : payload = longestHead ++ rest) :
    decode payload = .error (longExt payload.length 0xFFFFFFFF) := by
  have refused : value payload.length maxDepth payload =
      .error (longExt payload.length 0xFFFFFFFF) := by
    nth_rewrite 2 [starts]
    exact value_longest announces_longest rest
  rw [decode, refused]

theorem length_copies (unit : List UInt8) (count : Nat) :
    (List.replicate count unit).flatten.length = count * unit.length := by
  simp

theorem decodeCopies_eq (unit : List UInt8) (count : Nat) :
    decodeCopies unit count = decode (List.replicate count unit).flatten := by
  unfold decodeCopies
  split
  next more count =>
      change .error (longExt ((count + 1) * (longestHead ++ more).length) 0xFFFFFFFF) =
        decode (List.replicate (count + 1) (longestHead ++ more)).flatten
      have starts : (List.replicate (count + 1) (longestHead ++ more)).flatten =
          longestHead ++ (more ++ (List.replicate count (longestHead ++ more)).flatten) := by
        rw [List.replicate_succ, List.flatten_cons, List.append_assoc]
      rw [decode_longest starts, length_copies]
  next => rfl

end ForeignCall.MessagePack

namespace ForeignCall.Codec

open MessagePack

theorem decodeCopies_eq (unit : List UInt8) (count : Nat) (name : String) :
    decodeCopies unit count name = decodeNamed (List.replicate count unit).flatten name := by
  unfold decodeCopies decodeNamed
  cases ofName name with
  | error fault => rfl
  | ok codec =>
      cases codec with
      | msgpack =>
          simp only [MessagePack.decodeCopies_eq]
          rfl
      | _ => rfl

/-- However a value is written, it is read as that value, if no more lists and maps are open in it
at once than may be, and no extension in it is of the greatest length; and if one is, the payload is
refused. A float is told by its bits, and so is a NaN by its own. -/
theorem decode_of_encodes {value : Datum} {payload : List UInt8} (encodes : Encodes value payload)
    (shallow : depth value ≤ maxDepth) :
    (hasLongest value = false → decode payload .msgpack = .ok value) ∧
    (hasLongest value = true → ∃ fault, decode payload .msgpack = .error fault ∧
      fault.kind = .value) := by
  have read := encodes.read shallow (Nat.le_refl payload.length) []
  rw [List.append_nil] at read
  constructor
  · intro short
    rw [decode_msgpack_eq_ok, decode_eq_ok, read, short]
    rfl
  · intro longest
    rw [longest] at read
    exact ⟨_, by rw [decode_msgpack, MessagePack.decode, read]; rfl, kind_longExt _ _⟩

/-- The head of a longest extension, its code, and three bytes. -/
def repeating : List UInt8 := longestHead ++ 0x05 :: [0x61, 0x62, 0x63]

/-- All that comes after the head and the code in so many copies and one. -/
def dataOf (count : Nat) : List UInt8 :=
  [0x61, 0x62, 0x63] ++ (List.replicate count repeating).flatten

theorem shape_copies (count : Nat) :
    (List.replicate (count + 1) repeating).flatten = longestHead ++ 0x05 :: dataOf count := by
  rw [List.replicate_succ, List.flatten_cons]
  rfl

theorem encodes_copies {count : Nat} (longest : (dataOf count).length = 0xFFFFFFFF) :
    Encodes (.ext 5 (dataOf count)) (List.replicate (count + 1) repeating).flatten := by
  rw [shape_copies]
  exact .ext 5 (dataOf count) (by decide) (longest ▸ announces_longest)

/-- A payload of 2^32 + 5 bytes, whose data of the greatest length are taken for a timestamp. -/
theorem misread_longest :
    Encodes (.ext 5 (dataOf 477218588)) (List.replicate 477218589 repeating).flatten ∧
      depth (.ext 5 (dataOf 477218588)) ≤ maxDepth ∧
      decode (List.replicate 477218589 repeating).flatten .msgpack =
        .error (.messagePack (.timestampLength 0xFFFFFFFF)) := by
  have longest : (dataOf 477218588).length = 0xFFFFFFFF := by
    rw [dataOf, List.length_append, length_copies]
    rfl
  have encodes := encodes_copies longest
  refine ⟨encodes, Nat.zero_le _, ?_⟩
  have refused := decode_longest (shape_copies 477218588)
  have enough : ¬(List.replicate 477218589 repeating).flatten.length < 0xFFFFFFFF := by
    rw [length_copies]
    decide
  rw [longExt, if_neg enough] at refused
  rw [decode_msgpack, refused]

def wide : List UInt8 :=
  [0xDE, 0x00, 0x02,
    0xC5, 0x00, 0x01, 0x6B, 0x92, 0xD1, 0xFF, 0xFF, 0xCF, 0x80, 0, 0, 0, 0, 0, 0, 0,
    0xD9, 0x02, 0xC3, 0xA9, 0xD4, 0x05, 0xFF]

def wideItems : List Datum :=
  [.int (-1), .int (0x8000000000000000 : Nat)]

def wideFields : List (Key × Datum) :=
  [(.bytes [0x6B], .list wideItems), (.text (Text.ofChars ['é']), .ext 5 [0xFF])]

theorem encodes_wide : Encodes (.map wideFields) wide :=
  have items : EncodesItems wideItems [0xD1, 0xFF, 0xFF, 0xCF, 0x80, 0, 0, 0, 0, 0, 0, 0] :=
    .cons (.scalar (@Announces.signed 2 0xD1 (-1) (by simp) (by decide) (by decide)))
      (.cons (.scalar (@Announces.unsigned 8 0xCF 0x8000000000000000 (by simp) (by decide))) .nil)
  have name : Encodes (.bytes [0x6B]) [0xC5, 0x00, 0x01, 0x6B] :=
    .bytes [0x6B] (@Announces.bytes 2 0xC5 1 (by simp) (by decide))
  have list : Encodes (.list wideItems)
      ([0x92] ++ [0xD1, 0xFF, 0xFF, 0xCF, 0x80, 0, 0, 0, 0, 0, 0, 0]) :=
    @Encodes.list wideItems [0x92] _ (.smallArray 2 (by decide)) items
  have text : Encodes (.text (Text.ofChars ['é'])) [0xD9, 0x02, 0xC3, 0xA9] :=
    .text ['é'] (@Announces.text 1 0xD9 2 (by simp) (by decide))
  have ext : Encodes (.ext 5 [0xFF]) [0xD4, 0x05, 0xFF] :=
    .ext 5 [0xFF] (by decide) (@Announces.fixedExt 1 0xD4 (by simp))
  @Encodes.map wideFields [0xDE, 0x00, 0x02] _ (@Announces.map 2 0xDE 2 (by simp) (by decide))
    (by decide)
    (@EncodesFields.cons (.bytes [0x6B]) _ _ _ _ _ name list
      (@EncodesFields.cons (.text (Text.ofChars ['é'])) _ _ _ _ _ text ext .nil))

/-- Widths are chosen anew for each number, length and count. -/
theorem decode_of_encodes_wide :
    Encodes (.map wideFields) wide ∧ depth (.map wideFields) ≤ maxDepth ∧
      decode wide .msgpack = .ok (.map wideFields) :=
  ⟨encodes_wide, by decide, (decode_of_encodes encodes_wide (by decide)).1 (by decide)⟩

end ForeignCall.Codec
