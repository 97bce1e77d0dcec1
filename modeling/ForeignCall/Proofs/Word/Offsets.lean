import ForeignCall.Proofs.Word.Fields

/-! Reading a word at an offset of either sign. The length of the buffer is checked as if the offset
counted from its beginning; a negative offset that passes the check counts from the end, while the
cursor it leads to is still counted from the beginning. -/

namespace ForeignCall.Word

/-- A read as it should be: either the field does not lie in the buffer and the input is reported as
too short, or what is read stands just before the cursor. -/
inductive InPlace (size : Nat) (buffer : List UInt8) (offset : Int) :
    Except Fault (Nat × Int) → Prop
  | short (outside : offset < 0 ∨ (buffer.length : Int) < offset + size) :
      InPlace size buffer offset (.error (.shortInput size offset buffer.length))
  | within {start : Nat} (inside : start + size ≤ buffer.length) :
      InPlace size buffer offset
        (.ok (ofBytes ((buffer.drop start).take size), ((start + size : Nat) : Int)))

/-- What comes of a negative offset that is not too close to the end of the buffer. -/
inductive FromEnd (size : Nat) (buffer : List UInt8) (offset : Int) :
    Except Fault (Nat × Int) → Prop
  | tooFar (far : offset < minOffset) : FromEnd size buffer offset (.error .offsetWidth)
  | split (near : minOffset ≤ offset) (across : 0 < offset + size) :
      FromEnd size buffer offset (.error (.splitInput size offset))
  | outside (near : minOffset ≤ offset) (clear : offset + size ≤ 0)
      (before : offset + buffer.length < 0) :
      FromEnd size buffer offset (.error (.offsetRange offset buffer.length))
  /-- The cursor is as many bytes before the place behind the field as the buffer is long. -/
  | behind (near : minOffset ≤ offset) {start : Nat}
      (place : (start : Int) = offset + buffer.length)
      (inside : start + size ≤ buffer.length) :
      FromEnd size buffer offset
        (.ok (ofBytes ((buffer.drop start).take size),
          ((start + size : Nat) : Int) - buffer.length))

variable {size : Nat} {buffer : List UInt8} {offset : Int}

theorem read_of_fault (wide : size = 4 ∨ size = 8) {fault : Fault}
    (refused : fieldStart size offset buffer.length = .error fault) :
    read size buffer offset = .error fault := by
  simp only [read, fieldWidth_of_wide wide, refused]

theorem read_of_start (wide : size = 4 ∨ size = 8) {start : Nat}
    (found : fieldStart size offset buffer.length = .ok start) :
    read size buffer offset = .ok (ofBytes ((buffer.drop start).take size), offset + size) := by
  simp only [read, fieldWidth_of_wide wide, found]

theorem fieldStart_of_long {length : Nat} (long : (length : Int) < offset + size) :
    fieldStart size offset length = .error (.shortInput size offset length) :=
  if_pos long

theorem read_of_long (wide : size = 4 ∨ size = 8) (long : (buffer.length : Int) < offset + size) :
    read size buffer offset = .error (.shortInput size offset buffer.length) :=
  read_of_fault wide (fieldStart_of_long long)

theorem inPlace_of_nonneg (wide : size = 4 ∨ size = 8) (nonneg : 0 ≤ offset) :
    InPlace size buffer offset (read size buffer offset) := by
  obtain ⟨start, rfl⟩ := Int.eq_ofNat_of_zero_le nonneg
  by_cases inside : start + size ≤ buffer.length
  · rw [read_of_within wide inside]
    exact .within inside
  · have long : (buffer.length : Int) < (start : Int) + size := by omega
    rw [read_of_long wide long]
    exact .short (.inr long)

theorem fromEnd_of_negative (wide : size = 4 ∨ size = 8) (negative : offset < 0)
    (passes : offset + size ≤ buffer.length) :
    FromEnd size buffer offset (read size buffer offset) := by
  have start : fieldStart size offset buffer.length =
      if offset < minOffset then .error .offsetWidth
      else if 0 < offset + size then .error (.splitInput size offset)
      else if offset + buffer.length < 0 then .error (.offsetRange offset buffer.length)
      else .ok (offset + buffer.length).toNat := by
    have short : ¬ Int.ofNat buffer.length < offset + size := Int.not_lt.mpr passes
    rw [fieldStart, if_neg short, if_neg (Int.not_le.mpr negative)]
  by_cases far : offset < minOffset
  · rw [if_pos far] at start
    rw [read_of_fault wide start]
    exact .tooFar far
  · have near := Int.not_lt.mp far
    rw [if_neg far] at start
    by_cases across : 0 < offset + size
    · rw [if_pos across] at start
      rw [read_of_fault wide start]
      exact .split near across
    · have clear := Int.not_lt.mp across
      rw [if_neg across] at start
      by_cases before : offset + buffer.length < 0
      · rw [if_pos before] at start
        rw [read_of_fault wide start]
        exact .outside near clear before
      · obtain ⟨place, there⟩ := Int.eq_ofNat_of_zero_le (Int.not_lt.mp before)
        rw [if_neg before, there, Int.toNat_natCast] at start
        have cursor : offset + size = ((place + size : Nat) : Int) - buffer.length := by omega
        rw [read_of_start wide start, cursor]
        exact .behind near there.symm (by omega)

theorem InPlace.size_le {value : Nat} {past : Int}
    (inPlace : InPlace size buffer offset (.ok (value, past))) : (size : Int) ≤ past := by
  generalize ran : (.ok (value, past) : Except Fault (Nat × Int)) = result at inPlace
  cases inPlace with
  | short outside => cases ran
  | within inside =>
      cases ran
      omega

/-- Nothing that a negative offset leads to, once past the check, is a read as it should be. -/
theorem FromEnd.not_inPlace {result : Except Fault (Nat × Int)}
    (fromEnd : FromEnd size buffer offset result) (wide : 0 < size) :
    ¬ InPlace size buffer offset result := by
  intro inPlace
  cases fromEnd with
  | tooFar far => cases inPlace
  | split near across => cases inPlace
  | outside near clear before => cases inPlace
  | behind near place inside =>
      have past := inPlace.size_le
      omega

theorem InPlace.kind_eq {fault : Fault} (inPlace : InPlace size buffer offset (.error fault)) :
    fault.kind = .value := by
  cases inPlace with
  | short => rfl

theorem FromEnd.kind_ne {fault : Fault} (fromEnd : FromEnd size buffer offset (.error fault)) :
    fault.kind ≠ .value := by
  cases fromEnd with
  | tooFar | split | outside => nofun

theorem read_cases (wide : size = 4 ∨ size = 8) (buffer : List UInt8) (offset : Int) :
    (0 ≤ offset ∨ (buffer.length : Int) < offset + size) ∧
        InPlace size buffer offset (read size buffer offset) ∨
      ¬(0 ≤ offset ∨ (buffer.length : Int) < offset + size) ∧
        FromEnd size buffer offset (read size buffer offset) := by
  by_cases regular : 0 ≤ offset ∨ (buffer.length : Int) < offset + size
  · refine .inl ⟨regular, ?_⟩
    obtain nonneg | long := regular
    · exact inPlace_of_nonneg wide nonneg
    · rw [read_of_long wide long]
      exact .short (.inr long)
  · obtain ⟨negative, passes⟩ := not_or.mp regular
    exact .inr ⟨regular,
      fromEnd_of_negative wide (Int.not_le.mp negative) (Int.not_lt.mp passes)⟩

/-- Reads are as they should be where the offset is not negative or the field would end behind the
buffer, and nowhere else. A negative offset that is let through is refused for one of three other
reasons, none of them a matter of the value, or gives the field that starts so many bytes before the
end, with a cursor that is short of the place behind the field by the length of the buffer. -/
theorem read_by_offset (wide : size = 4 ∨ size = 8) (buffer : List UInt8) (offset : Int) :
    (InPlace size buffer offset (read size buffer offset) ↔
      0 ≤ offset ∨ (buffer.length : Int) < offset + size) ∧
    (offset < 0 → offset + size ≤ buffer.length →
      FromEnd size buffer offset (read size buffer offset)) ∧
    ∀ fault, read size buffer offset = .error fault →
      (fault.kind = .value ↔ InPlace size buffer offset (.error fault)) := by
  obtain ⟨regular, inPlace⟩ | ⟨amiss, fromEnd⟩ := read_cases wide buffer offset
  · refine ⟨iff_of_true inPlace regular, fromEnd_of_negative wide, fun fault failed => ?_⟩
    rw [failed] at inPlace
    exact iff_of_true inPlace.kind_eq inPlace
  · have apart := fromEnd.not_inPlace (by omega)
    refine ⟨iff_of_false apart amiss, fromEnd_of_negative wide, fun fault failed => ?_⟩
    rw [failed] at fromEnd apart
    exact iff_of_false fromEnd.kind_ne apart

/-- The first of two words in a buffer, by an offset from its end. -/
theorem read_by_offset_fromEnd :
    (4 = 4 ∨ 4 = 8) ∧ (-8 : Int) < 0 ∧
      (-8 : Int) + (4 : Nat) ≤ [1, 0, 0, 0, 2, 0, 0, 0].length ∧
      FromEnd 4 [1, 0, 0, 0, 2, 0, 0, 0] (-8) (.ok (1, -4)) :=
  have passes : (-8 : Int) + (4 : Nat) ≤ [1, 0, 0, 0, 2, 0, 0, 0].length := by decide
  ⟨.inl rfl, by decide, passes,
    (read_by_offset (.inl rfl) [1, 0, 0, 0, 2, 0, 0, 0] (-8)).2.1 (by decide) passes⟩

/-- A whole word is read, and the cursor goes back to the beginning; half a word from the end is no
short input. -/
theorem read_amiss_fromEnd :
    read 8 [1, 0, 0, 0, 0, 0, 0, 0] (-8) = .ok (1, 0) ∧
      ¬ InPlace 8 [1, 0, 0, 0, 0, 0, 0, 0] (-8) (read 8 [1, 0, 0, 0, 0, 0, 0, 0] (-8)) ∧
      ¬ InPlace 8 [1, 0, 0, 0, 0, 0, 0, 0] (-4) (read 8 [1, 0, 0, 0, 0, 0, 0, 0] (-4)) := by
  have whole : FromEnd 8 [1, 0, 0, 0, 0, 0, 0, 0] (-8) (read 8 [1, 0, 0, 0, 0, 0, 0, 0] (-8)) :=
    fromEnd_of_negative (.inr rfl) (by decide) (by decide)
  have half : FromEnd 8 [1, 0, 0, 0, 0, 0, 0, 0] (-4) (read 8 [1, 0, 0, 0, 0, 0, 0, 0] (-4)) :=
    fromEnd_of_negative (.inr rfl) (by decide) (by decide)
  exact ⟨rfl, whole.not_inPlace (by decide), half.not_inPlace (by decide)⟩

end ForeignCall.Word
