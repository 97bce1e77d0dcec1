import ForeignCall.Notice
import ForeignCall.Word

/-! Objects behind handles. Handles are minted in order, modulo `2 ^ bits`; minting one that is
still live replaces its object. -/

namespace ForeignCall

structure HandleMap (α : Type u) where
  bits : Nat
  counter : Int
  entries : List (Nat × α)

namespace HandleMap

variable {α : Type u}

def empty (bits : Nat) : HandleMap α :=
  ⟨bits, 0, []⟩

/-- A map of handles with at most as many bits as a word of the given width, which is the number
without a choice. -/
def ofBits (width : Int) (bits : Option Int) : Except Fault (HandleMap α) :=
  let chosen := bits.getD (8 * width)
  if chosen ≤ 0 ∨ 8 * width < chosen then .error (.handleBits (8 * width))
  else .ok (empty chosen.toNat)

def size (map : HandleMap α) : Nat :=
  map.entries.length

def get? (map : HandleMap α) (handle : Int) : Option α :=
  if 0 ≤ handle then Table.get? handle.toNat map.entries else none

def contains (map : HandleMap α) (handle : Int) : Bool :=
  (map.get? handle).isSome

def handles (map : HandleMap α) : List Nat :=
  Table.keys map.entries

/-- A handle just minted, what is to be logged about it, and the map that holds it. -/
structure Minted (α : Type u) where
  handle : Nat
  notices : List Notice
  map : HandleMap α

/-- Binds the object to the handle that the counter stands at, provided it is a word. -/
def insert (width : Int) (map : HandleMap α) (object : α) : Except Fault (Minted α) :=
  match Word.ofInt width map.counter with
  | .error fault => .error fault
  | .ok handle =>
      .ok {
        handle
        notices := if Table.contains handle map.entries then [.handleReused handle] else []
        map := {
          map with
          counter := (map.counter + 1) % Int.ofNat (Nat.pow 2 map.bits)
          entries := Table.set handle object map.entries } }

theorem get?_natCast (map : HandleMap α) (handle : Nat) :
    map.get? handle = Table.get? handle map.entries := by
  simp [get?]

theorem get?_of_neg (map : HandleMap α) {handle : Int} (negative : handle < 0) :
    map.get? handle = none :=
  if_neg (Int.not_le.mpr negative)

theorem handle_of_insert {width : Int} {map : HandleMap α} {object : α} {minted : Minted α}
    (inserted : map.insert width object = .ok minted) : (minted.handle : Int) = map.counter := by
  unfold insert at inserted
  split at inserted
  · cases inserted
  next made =>
    cases inserted
    exact (Word.ofInt_eq_ok made).2.2

theorem insert_eq_error {width : Int} {map : HandleMap α} {object : α} {fault : Fault}
    (refused : map.insert width object = .error fault) :
    Word.ofInt width map.counter = .error fault := by
  unfold insert at refused
  split at refused
  next unmade =>
    cases refused
    exact unmade
  next => cases refused

theorem counter_of_insert {width : Int} {map : HandleMap α} {object : α} {minted : Minted α}
    (inserted : map.insert width object = .ok minted) :
    minted.map.bits = map.bits ∧
      minted.map.counter = (map.counter + 1) % Int.ofNat (Nat.pow 2 map.bits) := by
  unfold insert at inserted
  split at inserted
  · cases inserted
  · cases inserted
    simp

theorem get?_of_insert {width : Int} {map : HandleMap α} {object : α} {minted : Minted α}
    (inserted : map.insert width object = .ok minted) (handle : Int) :
    minted.map.get? handle =
      if handle = map.counter then some object else map.get? handle := by
  have counter := handle_of_insert inserted
  unfold insert at inserted
  split at inserted
  · cases inserted
  · cases inserted
    dsimp only at counter
    by_cases same : handle = map.counter
    · subst same
      rw [if_pos rfl, ← counter, get?_natCast, Table.get?_set_self]
    · rw [if_neg same]
      unfold get?
      split
      · exact Table.get?_set_of_ne (by omega) _ _
      · rfl

def remove (map : HandleMap α) (handle : Int) : Option α × HandleMap α :=
  if 0 ≤ handle then
    (map.get? handle, { map with entries := Table.erase handle.toNat map.entries })
  else (none, map)

@[simp] theorem remove_fst (map : HandleMap α) (handle : Int) :
    (map.remove handle).1 = map.get? handle := by
  unfold remove get?
  split <;> rfl

theorem get?_remove (map : HandleMap α) (handle other : Int) :
    (map.remove handle).2.get? other = if other = handle then none else map.get? other := by
  unfold remove
  split
  · unfold get?
    by_cases same : other = handle
    · subst same
      simp
    · rw [if_neg same]
      split
      · exact Table.get?_erase_of_ne (by omega) _
      · rfl
  · split
    · exact get?_of_neg _ (by omega)
    · rfl

@[simp] theorem remove_bits (map : HandleMap α) (handle : Int) :
    (map.remove handle).2.bits = map.bits := by
  unfold remove
  split <;> rfl

@[simp] theorem remove_counter (map : HandleMap α) (handle : Int) :
    (map.remove handle).2.counter = map.counter := by
  unfold remove
  split <;> rfl

theorem contains_natCast {map : HandleMap α} {handle : Nat} :
    map.contains handle = true ↔ handle ∈ map.handles := by
  rw [contains, get?_natCast]
  exact Table.contains_iff

theorem remove_of_absent {map : HandleMap α} {handle : Int} (absent : map.get? handle = none) :
    (map.remove handle).2 = map := by
  unfold remove
  split
  next positive =>
    obtain ⟨number, rfl⟩ := Int.eq_ofNat_of_zero_le positive
    have unbound : number ∉ map.handles := by
      rw [← contains_natCast, contains, absent]
      simp
    exact congrArg (HandleMap.mk map.bits map.counter) (Table.erase_of_not_mem unbound)
  next => rfl

theorem handles_remove (map : HandleMap α) (handle : Int) :
    (map.remove handle).2.handles = map.handles.filter fun other : Nat => (other : Int) ≠ handle := by
  unfold remove
  split
  · rw [handles, Table.keys_erase]
    refine List.filter_congr fun other _ => ?_
    simp only [decide_eq_decide]
    omega
  next negative =>
    symm
    rw [List.filter_eq_self]
    intro other _
    simp only [decide_eq_true_eq]
    omega

theorem size_remove {map : HandleMap α} (distinct : map.handles.Nodup) (handle : Int) :
    (map.remove handle).2.size + (map.contains handle).toNat = map.size := by
  cases held : map.get? handle with
  | none => simp [contains, held, remove_of_absent held]
  | some object =>
      have positive : 0 ≤ handle := Int.not_lt.mp fun negative => by
        simp [get?_of_neg map negative] at held
      obtain ⟨number, rfl⟩ := Int.eq_ofNat_of_zero_le positive
      have present : map.contains number = true := by simp [contains, held]
      rw [remove, if_pos positive, Int.toNat_natCast, present]
      exact Table.length_erase_of_mem distinct (contains_natCast.mp present)

def withCounter (map : HandleMap α) (counter : Int) : HandleMap α :=
  { map with counter }

end HandleMap

end ForeignCall
