import ForeignCall.Caller
import Mathlib.Data.List.GetD
import Mathlib.Tactic.ByContra

/-! The blocks of the arenas. Two arenas never have a block at one address, so that what is read
through a buffer is the block that its allocator handed out, and releasing it touches no other. -/

namespace ForeignCall.Heap

def blockIn (heap : Heap) (index address : Nat) : Option (List UInt8) :=
  Table.get? address (heap.arena index).blocks

structure Sound (heap : Heap) : Prop where
  below : ∀ index address bytes, heap.blockIn index address = some bytes →
    address < heap.nextAddress
  apart : ∀ index other address bytes bytes', heap.blockIn index address = some bytes →
    heap.blockIn other address = some bytes' → index = other

/-- A buffer as an allocator gave it out for some bytes, and which has not been released. -/
inductive Holds (heap : Heap) (index : Nat) : Buffer → List UInt8 → Prop
  | null : Holds heap index .null []
  | block {address : Nat} {bytes : List UInt8} (nonempty : bytes ≠ [])
      (fits : bytes.length ≤ Buffer.maxLength) (live : heap.blockIn index address = some bytes) :
      Holds heap index ⟨Int32.ofNat bytes.length, some address⟩ bytes

/-- The block that a buffer names is taken back once, and all else stays as it is. -/
structure Released (index : Nat) (buffer : Buffer) (before after : Heap) : Prop where
  gone : ∀ address, buffer.address = some address → after.blockIn index address = none
  others : ∀ other address, (other = index → buffer.address ≠ some address) →
    after.blockIn other address = before.blockIn other address
  frees : (after.arena index).frees =
    (before.arena index).frees + if buffer.address.isSome then 1 else 0
  otherFrees : ∀ other, other ≠ index → (after.arena other).frees = (before.arena other).frees
  allocs : ∀ other, (after.arena other).allocs = (before.arena other).allocs
  arenas : after.arenas.length = before.arenas.length
  nextAddress : after.nextAddress = before.nextAddress

theorem arena_of_beyond {heap : Heap} {index : Nat} (beyond : heap.arenas.length ≤ index) :
    heap.arena index = .empty := by
  simp [arena, beyond]

theorem bound_of_blockIn {heap : Heap} {index address : Nat} {bytes : List UInt8}
    (live : heap.blockIn index address = some bytes) : index < heap.arenas.length := by
  by_contra beyond
  simp [blockIn, arena_of_beyond (Nat.le_of_not_lt beyond), Arena.empty] at live

theorem arena_set {heap : Heap} {index : Nat} (bound : index < heap.arenas.length)
    (changed : Arena) (nextAddress other : Nat) :
    Heap.arena ⟨heap.arenas.set index changed, nextAddress⟩ other =
      if other = index then changed else heap.arena other := by
  by_cases same : other = index
  · subst same
    simp [arena, bound]
  · simp [arena, same, Ne.symm same]

theorem arena_modify {heap : Heap} {index : Nat} (bound : index < heap.arenas.length)
    (change : Arena → Arena) (nextAddress other : Nat) :
    Heap.arena ⟨heap.arenas.modify index change, nextAddress⟩ other =
      if other = index then change (heap.arena other) else heap.arena other := by
  by_cases same : other = index
  · subst same
    simp [arena, bound]
  · simp [arena, same, Ne.symm same]

theorem Sound.initial (host : Host) (width : Int) : (Caller.initial host width).heap.Sound := by
  have empty : ∀ index, (Caller.initial host width).heap.arena index = .empty := by
    intro index
    cases index <;> rfl
  constructor <;> simp [blockIn, empty, Arena.empty]

theorem arena_addArena (heap : Heap) (index : Nat) :
    heap.addArena.2.arena index = heap.arena index := by
  simp only [Heap.addArena, arena, List.getD_eq_getElem?_getD, List.getElem?_append,
    List.getElem?_singleton]
  split
  next => rfl
  next beyond =>
    rw [List.getElem?_eq_none (Nat.le_of_not_lt beyond)]
    split <;> rfl

theorem Sound.addArena {heap : Heap} (sound : heap.Sound) : heap.addArena.2.Sound := by
  have same : ∀ index address, heap.addArena.2.blockIn index address = heap.blockIn index address :=
    fun index address => by rw [blockIn, arena_addArena, blockIn]
  refine ⟨?_, ?_⟩
  · intro index address bytes live
    exact sound.below index address bytes (same index address ▸ live)
  · intro index other address bytes bytes' live again
    rw [same] at live again
    exact sound.apart index other address bytes bytes' live again

theorem Sound.block?_eq {heap : Heap} (sound : heap.Sound) {index address : Nat}
    {bytes : List UInt8} (live : heap.blockIn index address = some bytes) :
    heap.block? address = some bytes := by
  have bound := bound_of_blockIn live
  cases found : heap.block? address with
  | none =>
      have none := List.findSome?_eq_none_iff.mp found _ (List.getElem_mem bound)
      rw [blockIn, arena, List.getD_eq_getElem _ _ bound, none] at live
      cases live
  | some other =>
      -- Some arena has the bytes that were found; it can be no other than the one at hand.
      obtain ⟨arena, member, there⟩ := List.exists_of_findSome?_eq_some found
      obtain ⟨place, within, rfl⟩ := List.getElem_of_mem member
      have live' : heap.blockIn place address = some other := by
        rwa [blockIn, Heap.arena, List.getD_eq_getElem _ _ within]
      obtain rfl := sound.apart place index address _ _ live' live
      exact live'.symm.trans live

theorem toInt_of_fits {length : Nat} (fits : length ≤ Buffer.maxLength) :
    (Int32.ofNat length).toInt = length := by
  apply Int32.toInt_ofNat_of_lt
  unfold Buffer.maxLength at fits
  omega

theorem Holds.length_pos_iff {heap : Heap} {index : Nat} {buffer : Buffer} {bytes : List UInt8}
    (held : heap.Holds index buffer bytes) : 0 < buffer.length ↔ bytes ≠ [] := by
  cases held with
  | null => simp [Buffer.null]
  | block nonempty fits live =>
      rw [Int32.lt_iff_toInt_lt, toInt_of_fits fits, iff_true_right nonempty]
      exact Int.natCast_pos.mpr (List.length_pos_iff.mpr nonempty)

theorem Holds.address_eq_none_iff {heap : Heap} {index : Nat} {buffer : Buffer}
    {bytes : List UInt8} (held : heap.Holds index buffer bytes) :
    buffer.address = none ↔ bytes = [] := by
  cases held with
  | null => simp [Buffer.null]
  | block nonempty fits live => simp [nonempty]

theorem read_null (heap : Heap) (length : Int32) : heap.read ⟨length, none⟩ = [] := by
  simp [read, Buffer.isEmpty]

/-- A block is read as far as the length of the buffer goes. -/
theorem Sound.read_block {heap : Heap} (sound : heap.Sound) {index address : Nat}
    {bytes : List UInt8} (live : heap.blockIn index address = some bytes) (length : Int32) :
    heap.read ⟨length, some address⟩ = bytes.take length.toInt.toNat := by
  by_cases positive : length ≤ 0
  · have none : length.toInt.toNat = 0 := by
      rw [Int32.le_iff_toInt_le] at positive
      exact Int.toNat_of_nonpos positive
    simp [read, Buffer.isEmpty, positive, none]
  · simp [read, Buffer.isEmpty, positive, sound.block?_eq live]

/-- What is read through a buffer as it was given out are its bytes. -/
theorem Sound.read_eq {heap : Heap} (sound : heap.Sound) {index : Nat} {buffer : Buffer}
    {bytes : List UInt8} (held : heap.Holds index buffer bytes) : heap.read buffer = bytes := by
  cases held with
  | null => exact read_null heap 0
  | block nonempty fits live =>
      rw [sound.read_block live, toInt_of_fits fits, Int.toNat_natCast, List.take_length]

theorem release_of_null {heap : Heap} {index : Nat} {buffer : Buffer}
    (null : buffer.address = none) : heap.release index buffer = .ok heap := by
  rw [release, null]

theorem release_of_dead {heap : Heap} {index address : Nat} {buffer : Buffer}
    (named : buffer.address = some address) (dead : heap.blockIn index address = none) :
    heap.release index buffer = .error (.notLive address) := by
  have absent : Table.contains address (heap.arena index).blocks = false := by
    rw [Table.contains, ← blockIn, dead]
    rfl
  simp [release, named, Arena.release?, absent]

theorem arena_of_release {heap after : Heap} {index address : Nat} {buffer : Buffer}
    (named : buffer.address = some address) (released : heap.release index buffer = .ok after) :
    address ∈ Table.keys (heap.arena index).blocks ∧ after.arenas.length = heap.arenas.length ∧
      after.nextAddress = heap.nextAddress ∧
      ∀ other, after.arena other =
        if other = index then
          { heap.arena index with
            blocks := Table.erase address (heap.arena index).blocks
            frees := (heap.arena index).frees + 1 }
        else heap.arena other := by
  simp only [release, named, Arena.release?] at released
  split at released
  next => cases released
  next changed =>
    split at changed
    next contained =>
      cases changed
      cases released
      have bound : index < heap.arenas.length := by
        obtain ⟨bytes, live⟩ := Option.isSome_iff_exists.mp contained
        exact bound_of_blockIn live
      exact ⟨Table.contains_iff.mp contained, List.length_set, rfl, arena_set bound _ _⟩
    next => cases changed

theorem release_of_live {heap : Heap} {index address : Nat} {bytes : List UInt8} {buffer : Buffer}
    (named : buffer.address = some address) (live : heap.blockIn index address = some bytes) :
    ∃ after, heap.release index buffer = .ok after ∧ Released index buffer heap after := by
  have contained : Table.contains address (heap.arena index).blocks = true := by
    rw [Table.contains, ← blockIn, live]
    rfl
  obtain ⟨after, released⟩ : ∃ after, heap.release index buffer = .ok after := by
    simp [release, named, Arena.release?, contained]
  obtain ⟨-, arenas, nextAddress, changed⟩ := arena_of_release named released
  refine ⟨after, released, ?_, ?_, ?_, ?_, ?_, arenas, nextAddress⟩
  · intro address' named'
    obtain rfl : address = address' := Option.some.inj (named.symm.trans named')
    simp [blockIn, changed]
  · intro other address' spared
    rw [blockIn, changed]
    split
    next same =>
      have different : address' ≠ address := fun meets => spared same (meets ▸ named)
      rw [Table.get?_erase_of_ne different, blockIn, same]
    next => rfl
  · simp [changed, named]
  · intro other different
    rw [changed, if_neg different]
  · intro other
    rw [changed]
    split
    next same => rw [same]
    next => rfl

theorem Released.of_null {heap : Heap} {index : Nat} {buffer : Buffer}
    (null : buffer.address = none) : Released index buffer heap heap := by
  constructor <;> simp [null]

theorem release_of_holds {heap : Heap} {index : Nat} {buffer : Buffer} {bytes : List UInt8}
    (held : heap.Holds index buffer bytes) :
    ∃ after, heap.release index buffer = .ok after ∧ Released index buffer heap after := by
  cases held with
  | null => exact ⟨heap, rfl, .of_null rfl⟩
  | block nonempty fits live => exact release_of_live rfl live

theorem Sound.released {before after : Heap} {index : Nat} {buffer : Buffer} (sound : before.Sound)
    (released : Released index buffer before after) : after.Sound := by
  have kept : ∀ other address bytes, after.blockIn other address = some bytes →
      before.blockIn other address = some bytes := by
    intro other address bytes live
    rw [← released.others, live]
    rintro rfl there
    simp [released.gone address there] at live
  refine ⟨?_, ?_⟩
  · intro other address bytes live
    rw [released.nextAddress]
    exact sound.below other address bytes (kept other address bytes live)
  · intro first second address bytes bytes' live again
    exact sound.apart first second address _ _ (kept _ _ _ live) (kept _ _ _ again)

theorem arena_of_alloc {heap after : Heap} {index : Nat} {bytes : List UInt8} {buffer : Buffer}
    (bound : index < heap.arenas.length)
    (allocated : heap.alloc index bytes = .ok (buffer, after)) :
    (bytes = [] ∧ buffer = .null ∧ after = heap) ∨
      bytes ≠ [] ∧ bytes.length ≤ Buffer.maxLength ∧
        buffer = ⟨Int32.ofNat bytes.length, some heap.nextAddress⟩ ∧
        after.arenas.length = heap.arenas.length ∧ after.nextAddress = heap.nextAddress + 1 ∧
        ∀ other, after.arena other =
          if other = index then (heap.arena other).insert heap.nextAddress bytes
          else heap.arena other := by
  unfold alloc at allocated
  split at allocated
  next => cases allocated
  next fits =>
    split at allocated
    next empty =>
      cases allocated
      exact .inl ⟨List.isEmpty_iff.mp empty, rfl, rfl⟩
    next full =>
      cases allocated
      exact .inr ⟨by simpa using full, Nat.le_of_not_lt fits, rfl, List.length_modify .., rfl,
        arena_modify bound _ _⟩

theorem blockIn_of_alloc {heap after : Heap} {index : Nat} {bytes : List UInt8} {buffer : Buffer}
    (bound : index < heap.arenas.length)
    (allocated : heap.alloc index bytes = .ok (buffer, after)) :
    (bytes = [] ∧ buffer = .null ∧ after = heap) ∨
      bytes ≠ [] ∧ bytes.length ≤ Buffer.maxLength ∧
        buffer = ⟨Int32.ofNat bytes.length, some heap.nextAddress⟩ ∧
        after.nextAddress = heap.nextAddress + 1 ∧
        ∀ other address, after.blockIn other address =
          if other = index ∧ address = heap.nextAddress then some bytes
          else heap.blockIn other address := by
  obtain unchanged | ⟨nonempty, fits, made, -, next, changed⟩ := arena_of_alloc bound allocated
  · exact .inl unchanged
  · refine .inr ⟨nonempty, fits, made, next, ?_⟩
    intro other address
    rw [blockIn, changed]
    by_cases there : other = index
    · rw [if_pos there, Arena.insert]
      by_cases new : address = heap.nextAddress
      · rw [new, Table.get?_set_self, if_pos ⟨there, rfl⟩]
      · rw [Table.get?_set_of_ne new, if_neg fun both => new both.2, blockIn]
    · rw [if_neg there, if_neg fun both => there both.1, blockIn]

theorem holds_of_alloc {heap after : Heap} {index : Nat} {bytes : List UInt8} {buffer : Buffer}
    (bound : index < heap.arenas.length)
    (allocated : heap.alloc index bytes = .ok (buffer, after)) :
    after.Holds index buffer bytes := by
  obtain ⟨rfl, rfl, rfl⟩ | ⟨nonempty, fits, rfl, -, blocks⟩ := blockIn_of_alloc bound allocated
  · exact .null
  · exact .block nonempty fits (by rw [blocks, if_pos ⟨rfl, rfl⟩])

theorem Sound.alloc {heap after : Heap} (sound : heap.Sound) {index : Nat} {bytes : List UInt8}
    {buffer : Buffer} (bound : index < heap.arenas.length)
    (allocated : heap.alloc index bytes = .ok (buffer, after)) : after.Sound := by
  obtain ⟨-, -, rfl⟩ | ⟨-, -, -, next, blocks⟩ := blockIn_of_alloc bound allocated
  · exact sound
  · -- No arena has a block at the next address yet.
    have fresh : ∀ other bytes', heap.blockIn other heap.nextAddress ≠ some bytes' :=
      fun other bytes' live => Nat.lt_irrefl _ (sound.below other _ bytes' live)
    refine ⟨?_, ?_⟩
    · intro other address bytes' live
      rw [blocks] at live
      rw [next]
      split at live
      next new => omega
      next => exact Nat.lt_succ_of_lt (sound.below other address bytes' live)
    · intro first second address bytes' bytes'' live again
      rw [blocks] at live again
      split at live <;> split at again
      next new new' => exact new.1.trans new'.1.symm
      next new _ => exact absurd (new.2 ▸ again) (fresh second bytes'')
      next _ new' => exact absurd (new'.2 ▸ live) (fresh first bytes')
      next => exact sound.apart first second address bytes' bytes'' live again

end ForeignCall.Heap
