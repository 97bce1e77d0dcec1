import ForeignCall.Word
import Mathlib.Algebra.Group.Nat.Defs
import Mathlib.Data.List.Forall2

/-! Words in byte buffers. Writing and reading undo each other, word by word and over whole runs of
words, whatever stands before and behind them. -/

namespace ForeignCall.Word

theorem ofBytes_toBytes {width value : Nat} (fits : value < 256 ^ width) :
    ofBytes (toBytes width value) = value := by
  induction width generalizing value with
  | zero =>
      rw [Nat.pow_zero, Nat.lt_one_iff] at fits
      exact fits.symm
  | succ width ih =>
      have rest : value / 256 < 256 ^ width := Nat.div_lt_of_lt_mul (by rwa [← Nat.pow_succ'])
      rw [toBytes, ofBytes, ih rest, UInt8.toNat_ofNat', Nat.mod_mod]
      exact Nat.mod_add_div value 256

theorem ofBytes_lt (bytes : List UInt8) : ofBytes bytes < 256 ^ bytes.length := by
  induction bytes with
  | nil => exact Nat.one_pos
  | cons byte rest ih =>
      have small : byte.toNat < 256 := byte.toNat_lt
      rw [ofBytes, List.length_cons, Nat.pow_succ]
      omega

theorem toBytes_ofBytes (bytes : List UInt8) : toBytes bytes.length (ofBytes bytes) = bytes := by
  induction bytes with
  | nil => rfl
  | cons byte rest ih =>
      have small : byte.toNat < 256 := byte.toNat_lt
      have low : (byte.toNat + 256 * ofBytes rest) % 256 = byte.toNat := by omega
      have high : (byte.toNat + 256 * ofBytes rest) / 256 = ofBytes rest := by omega
      rw [ofBytes, List.length_cons, toBytes, low, high, ih, UInt8.ofNat_toNat]

/-- So many words from an offset on, each behind the one before it, and the offset past the last. -/
def readEach (width : Int) (buffer : List UInt8) : Nat → Int → Except Fault (List Nat × Int)
  | 0, offset => .ok ([], offset)
  | count + 1, offset =>
      match read width buffer offset with
      | .error fault => .error fault
      | .ok (value, past) =>
          (readEach width buffer count past).map fun (values, last) => (value :: values, last)

theorem limit_natCast (size : Nat) : limit size = 256 ^ size := rfl

theorem fieldWidth_of_wide {size : Nat} (wide : size = 4 ∨ size = 8) :
    fieldWidth size = .ok size := by
  obtain rfl | rfl := wide <;> rfl

section Write

theorem write_of_fits {size : Nat} (wide : size = 4 ∨ size = 8) {value : Nat}
    (fits : value < 256 ^ size) (buffer : List UInt8) :
    write size value buffer = (.ok (), buffer ++ toBytes size value) := by
  have found : Action.ofExcept (fieldWidth size) buffer = (.ok size, buffer) := by
    rw [fieldWidth_of_wide wide, Action.ofExcept_apply]
  rw [write, Action.bind_of_ok found, limit_natCast, if_neg (Nat.not_le.mpr fits)]
  rfl

/-- A write fails by its width, or by a word that is too large for it, and then writes nothing. -/
theorem write_cases (width : Int) (value : Nat) (buffer : List UInt8) :
    ((width ≠ 4 ∧ width ≠ 8 ∨ limit width ≤ value) ∧
        ∃ fault, write width value buffer = (.error fault, buffer)) ∨
      ((width = 4 ∨ width = 8) ∧ value < limit width ∧
        write width value buffer = (.ok (), buffer ++ toBytes width.toNat value)) := by
  by_cases wide : width = 4 ∨ width = 8
  · obtain ⟨size, rfl⟩ : ∃ size : Nat, width = size := ⟨width.toNat, by omega⟩
    have wide' : size = 4 ∨ size = 8 := by omega
    by_cases fits : value < limit size
    · exact .inr ⟨wide, fits, write_of_fits wide' fits buffer⟩
    · have found : Action.ofExcept (fieldWidth size) buffer = (.ok size, buffer) := by
        rw [fieldWidth_of_wide wide', Action.ofExcept_apply]
      refine .inl ⟨.inr (Nat.le_of_not_lt fits), .wordField value size, ?_⟩
      rw [write, Action.bind_of_ok found, if_pos (Nat.le_of_not_lt fits), Action.fail_apply]
  · rw [not_or] at wide
    have refused : Action.ofExcept (fieldWidth width) buffer = (.error (.wordWidth width), buffer) := by
      rw [fieldWidth, if_neg wide.1, if_neg wide.2, Action.ofExcept_apply]
    exact .inl ⟨.inl wide, .wordWidth width, Action.bind_of_error refused _⟩

theorem writeEach_of_fits {size : Nat} (wide : size = 4 ∨ size = 8) {values : List Nat}
    (fit : ∀ value ∈ values, value < 256 ^ size) (buffer : List UInt8) :
    writeEach size (values.map Int.ofNat) buffer =
      (.ok (), buffer ++ (values.map (toBytes size)).flatten) := by
  induction values generalizing buffer with
  | nil => simp [writeEach]
  | cons value rest ih =>
      have fits := fit value (List.mem_cons_self ..)
      have made : Action.ofExcept (ofInt size (Int.ofNat value)) buffer = (.ok value, buffer) := by
        rw [Action.ofExcept_apply]
        exact congrArg (·, buffer) (ofInt_natCast (Int.natCast_nonneg size) fits)
      rw [List.map_cons, writeEach, Action.bind_of_ok made,
        Action.bind_of_ok (write_of_fits wide fits buffer),
        ih (fun later member => fit later (List.mem_cons_of_mem _ member)), List.append_assoc]
      rfl

end Write

section Read

variable {size : Nat}

theorem read_of_within (wide : size = 4 ∨ size = 8) {buffer : List UInt8} {offset : Nat}
    (within : offset + size ≤ buffer.length) :
    read size buffer offset =
      .ok (ofBytes ((buffer.drop offset).take size), ((offset + size : Nat) : Int)) := by
  have start : fieldStart size offset buffer.length = .ok offset := by
    have inside : ¬ Int.ofNat buffer.length < (offset : Int) + size := by
      simp only [Int.ofNat_eq_natCast]
      omega
    rw [fieldStart, if_neg inside, if_pos (Int.natCast_nonneg offset), Int.toNat_natCast]
  simp only [read, fieldWidth_of_wide wide, start]
  rfl

/-- The text of a word is found behind what comes before it. -/
theorem read_append (wide : size = 4 ∨ size = 8) {value : Nat} (fits : value < 256 ^ size)
    (before after : List UInt8) :
    read size (before ++ toBytes size value ++ after) before.length =
      .ok (value, ((before ++ toBytes size value).length : Int)) := by
  have within : before.length + size ≤ (before ++ toBytes size value ++ after).length := by
    simp only [List.length_append, length_toBytes]
    omega
  have text : ((before ++ toBytes size value ++ after).drop before.length).take size =
      toBytes size value := by
    rw [List.append_assoc, List.drop_left, List.take_left' (length_toBytes size value)]
  rw [read_of_within wide within, text, ofBytes_toBytes fits, List.length_append, length_toBytes]

theorem readEach_append (wide : size = 4 ∨ size = 8) {values : List Nat}
    (fit : ∀ value ∈ values, value < 256 ^ size) (before after : List UInt8) :
    readEach size (before ++ (values.map (toBytes size)).flatten ++ after) values.length
        before.length =
      .ok (values, ((before ++ (values.map (toBytes size)).flatten).length : Int)) := by
  induction values generalizing before with
  | nil => simp [readEach]
  | cons value rest ih =>
      have first := read_append wide (fit value (List.mem_cons_self ..)) before
        ((rest.map (toBytes size)).flatten ++ after)
      -- The words that follow stand behind this one and what comes before it.
      have further := ih (fun later member => fit later (List.mem_cons_of_mem _ member))
        (before ++ toBytes size value)
      simp only [List.append_assoc] at first further
      simp only [List.map_cons, List.flatten_cons, List.length_cons, List.append_assoc, readEach,
        first, further]
      rfl

end Read

/-- Words written one after another are each so many bytes, lowest first, behind what was there, and
are read back one after another. What is read anywhere is written as it was. A write that fails
leaves its buffer alone. -/
theorem words_reversible (size : Nat) (wide : size = 4 ∨ size = 8) :
    (∀ (buffer suffix : List UInt8) (values : List Nat), (∀ value ∈ values, value < 256 ^ size) →
      ∃ texts : List (List UInt8),
        List.Forall₂ (fun value text => text.length = size ∧ ofBytes text = value) values texts ∧
        writeEach size (values.map Int.ofNat) buffer = (.ok (), buffer ++ texts.flatten) ∧
        readEach size (buffer ++ texts.flatten ++ suffix) values.length buffer.length =
          .ok (values, ((buffer ++ texts.flatten).length : Int))) ∧
    (∀ (buffer : List UInt8) (offset : Nat), offset + size ≤ buffer.length →
      ∃ value, read size buffer offset = .ok (value, ((offset + size : Nat) : Int)) ∧
        value < 256 ^ size ∧
        ∀ other, write size value other = (.ok (), other ++ (buffer.drop offset).take size)) ∧
    ∀ (width : Int) (value : Nat) (buffer : List UInt8),
      ((∃ fault after, write width value buffer = (.error fault, after)) ↔
        width ≠ 4 ∧ width ≠ 8 ∨ limit width ≤ value) ∧
      ∀ fault after, write width value buffer = (.error fault, after) → after = buffer := by
  refine ⟨fun buffer suffix values fit => ?_, fun buffer offset within => ?_,
    fun width value buffer => ?_⟩
  · refine ⟨values.map (toBytes size), ?_, writeEach_of_fits wide fit buffer,
      readEach_append wide fit buffer suffix⟩
    rw [List.forall₂_map_right_iff, List.forall₂_same]
    exact fun value member => ⟨length_toBytes size value, ofBytes_toBytes (fit value member)⟩
  · have length : ((buffer.drop offset).take size).length = size := by
      rw [List.length_take, List.length_drop]
      omega
    have small := ofBytes_lt ((buffer.drop offset).take size)
    have text := toBytes_ofBytes ((buffer.drop offset).take size)
    rw [length] at small text
    refine ⟨_, read_of_within wide within, small, fun other => ?_⟩
    rw [write_of_fits wide small, text]
  · obtain ⟨bad, fault, failed⟩ | ⟨wide, fits, written⟩ := write_cases width value buffer
    · rw [failed]
      exact ⟨⟨fun _ => bad, fun _ => ⟨fault, buffer, rfl⟩⟩, fun _ _ same => (Prod.mk.inj same).2.symm⟩
    · rw [written]
      have good : ¬ (width ≠ 4 ∧ width ≠ 8 ∨ limit width ≤ value) := by omega
      refine ⟨⟨?_, fun bad => absurd bad good⟩, ?_⟩
      · rintro ⟨fault, after, same⟩
        cases same
      · intro fault after same
        cases same

theorem words_reversible_four :
    (4 = 4 ∨ 4 = 8) ∧ (∀ value ∈ [0, 0xffffffff], value < 256 ^ 4) ∧
      ∃ texts : List (List UInt8),
        List.Forall₂ (fun value text => text.length = 4 ∧ ofBytes text = value)
          [0, 0xffffffff] texts ∧
        writeEach 4 ([0, 0xffffffff].map Int.ofNat) [7] = (.ok (), [7] ++ texts.flatten) ∧
        readEach 4 ([7] ++ texts.flatten ++ [9]) 2 1 =
          .ok ([0, 0xffffffff], (([7] ++ texts.flatten).length : Int)) :=
  have fit : ∀ value ∈ [0, 0xffffffff], value < 256 ^ 4 := by decide
  ⟨.inl rfl, fit, (words_reversible 4 (.inl rfl)).1 [7] [9] [0, 0xffffffff] fit⟩

end ForeignCall.Word
