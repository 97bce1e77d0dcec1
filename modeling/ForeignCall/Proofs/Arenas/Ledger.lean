import ForeignCall.Proofs.Payload.Blocks
import Mathlib.Data.List.Nodup

/-! The ledger of the arenas: which addresses each has handed out and taken back, against the blocks
it holds and the counts it keeps. -/

namespace ForeignCall

/-- An arena that has handed out and taken back blocks at these addresses. -/
structure Arena.Kept (arena : Arena) (given taken : List Nat) : Prop where
  allocs : arena.allocs = given.length
  frees : arena.frees = taken.length
  balance : arena.live + arena.frees = arena.allocs
  live : ∀ address, address ∈ Table.keys arena.blocks ↔ address ∈ given ∧ address ∉ taken
  owned : ∀ address ∈ taken, address ∈ given
  distinct : (Table.keys arena.blocks).Nodup

namespace Arena.Kept

variable {arena : Arena} {given taken : List Nat} {address : Nat}

theorem empty : Arena.empty.Kept [] [] := by
  constructor <;> simp [Arena.empty, Arena.live]

theorem insert (kept : arena.Kept given taken) (fresh : address ∉ given) (bytes : List UInt8) :
    (arena.insert address bytes).Kept (given ++ [address]) taken := by
  have absent : address ∉ Table.keys arena.blocks := fun member =>
    fresh ((kept.live address).mp member).1
  have untaken : address ∉ taken := fun member => fresh (kept.owned address member)
  have keys : Table.keys (arena.insert address bytes).blocks =
      Table.keys arena.blocks ++ [address] := by
    rw [Arena.insert, Table.keys_set, if_neg absent]
  refine ⟨?_, kept.frees, ?_, ?_, ?_, ?_⟩
  · rw [List.length_append, ← kept.allocs]
    rfl
  · have balance := kept.balance
    simp only [Arena.live, Arena.insert, Table.length_set, if_neg absent] at balance ⊢
    omega
  · intro other
    rw [keys, List.mem_append, List.mem_append, kept.live, List.mem_singleton]
    constructor
    · rintro (⟨earlier, kept⟩ | rfl)
      · exact ⟨.inl earlier, kept⟩
      · exact ⟨.inr rfl, untaken⟩
    · rintro ⟨earlier | rfl, kept⟩
      · exact .inl ⟨earlier, kept⟩
      · exact .inr rfl
  · exact fun other member => List.mem_append_left _ (kept.owned other member)
  · rw [keys]
    simpa using kept.distinct.concat absent

theorem erase (kept : arena.Kept given taken) (member : address ∈ Table.keys arena.blocks) :
    Arena.Kept
      { arena with blocks := Table.erase address arena.blocks, frees := arena.frees + 1 }
      given (taken ++ [address]) := by
  have keys := Table.keys_erase address arena.blocks
  refine ⟨kept.allocs, ?_, ?_, ?_, ?_, ?_⟩
  · rw [List.length_append, ← kept.frees]
    rfl
  · have balance := kept.balance
    have erased := Table.length_erase_of_mem kept.distinct member
    simp only [Arena.live] at balance ⊢
    omega
  · intro other
    rw [keys, List.mem_filter, kept.live, List.mem_append, List.mem_singleton, not_or,
      decide_eq_true_eq, and_assoc]
  · intro other taken
    rcases List.mem_append.mp taken with earlier | now
    · exact kept.owned other earlier
    · rw [List.mem_singleton.mp now]
      exact ((kept.live address).mp member).1
  · rw [keys]
    exact kept.distinct.filter _

end Arena.Kept

namespace Heap

inductive Deed where
  | gave (arena address : Nat)
  | took (arena address : Nat)
  deriving DecidableEq

def Deed.given? (index : Nat) : Deed → Option Nat
  | .gave arena address => if arena = index then some address else none
  | .took .. => none

def Deed.taken? (index : Nat) : Deed → Option Nat
  | .gave .. => none
  | .took arena address => if arena = index then some address else none

def Deed.released? : Deed → Option Nat
  | .gave .. => none
  | .took _ address => some address

def handedOut (index : Nat) (past : List Deed) : List Nat :=
  past.filterMap (Deed.given? index)

def takenBack (index : Nat) (past : List Deed) : List Nat :=
  past.filterMap (Deed.taken? index)

/-- The addresses taken back by any arena. -/
def released (past : List Deed) : List Nat :=
  past.filterMap Deed.released?

structure Accounted (past : List Deed) (heap : Heap) : Prop where
  kept : ∀ index, (heap.arena index).Kept (handedOut index past) (takenBack index past)
  apart : ∀ index other address, address ∈ handedOut index past →
    address ∈ handedOut other past → index = other
  once : (released past).Nodup
  below : ∀ index, ∀ address ∈ handedOut index past, address < heap.nextAddress

@[simp] theorem handedOut_gave (index arena address : Nat) (past : List Deed) :
    handedOut index (past ++ [.gave arena address]) =
      if arena = index then handedOut index past ++ [address] else handedOut index past := by
  by_cases same : arena = index <;> simp [handedOut, Deed.given?, same]

theorem mem_handedOut_gave {index arena address other : Nat} {past : List Deed} :
    address ∈ handedOut index (past ++ [.gave arena other]) ↔
      address ∈ handedOut index past ∨ arena = index ∧ address = other := by
  by_cases same : arena = index <;> simp [same]

@[simp] theorem handedOut_took (index arena address : Nat) (past : List Deed) :
    handedOut index (past ++ [.took arena address]) = handedOut index past := by
  simp [handedOut, Deed.given?]

@[simp] theorem takenBack_gave (index arena address : Nat) (past : List Deed) :
    takenBack index (past ++ [.gave arena address]) = takenBack index past := by
  simp [takenBack, Deed.taken?]

@[simp] theorem takenBack_took (index arena address : Nat) (past : List Deed) :
    takenBack index (past ++ [.took arena address]) =
      if arena = index then takenBack index past ++ [address] else takenBack index past := by
  by_cases same : arena = index <;> simp [takenBack, Deed.taken?, same]

@[simp] theorem released_gave (arena address : Nat) (past : List Deed) :
    released (past ++ [.gave arena address]) = released past := by
  simp [released, Deed.released?]

@[simp] theorem released_took (arena address : Nat) (past : List Deed) :
    released (past ++ [.took arena address]) = released past ++ [address] := by
  simp [released, Deed.released?]

/-- What was taken back was taken back by some arena. -/
theorem exists_taken {past : List Deed} {address : Nat} (member : address ∈ released past) :
    ∃ index, address ∈ takenBack index past := by
  obtain ⟨deed, happened, found⟩ := List.mem_filterMap.mp member
  cases deed with
  | gave => cases found
  | took arena other =>
      obtain rfl : other = address := Option.some.inj found
      exact ⟨arena, List.mem_filterMap.mpr ⟨_, happened, if_pos rfl⟩⟩

namespace Accounted

variable {past : List Deed} {heap after : Heap} {index : Nat}

theorem initial (host : Host) (width : Int) : Accounted [] (Caller.initial host width).heap := by
  have empty : ∀ index, (Caller.initial host width).heap.arena index = .empty := by
    intro index
    cases index <;> rfl
  refine ⟨fun index => ?_, by simp [handedOut], by simp [released], by simp [handedOut]⟩
  rw [empty]
  exact .empty

theorem addArena (accounted : Accounted past heap) : Accounted past heap.addArena.2 :=
  ⟨fun index => by rw [arena_addArena]; exact accounted.kept index, accounted.apart,
    accounted.once, accounted.below⟩

theorem gave (accounted : Accounted past heap) {bytes : List UInt8} {buffer : Buffer}
    (bound : index < heap.arenas.length) (allocated : heap.alloc index bytes = .ok (buffer, after)) :
    Accounted (past ++ buffer.address.toList.map (.gave index)) after := by
  obtain ⟨-, rfl, rfl⟩ | ⟨-, -, rfl, -, next, changed⟩ := arena_of_alloc bound allocated
  · simpa [Buffer.null] using accounted
  · -- No arena has handed the next address out.
    have fresh : ∀ other, heap.nextAddress ∉ handedOut other past := fun other given =>
      Nat.lt_irrefl _ (accounted.below other _ given)
    rw [Option.toList_some, List.map_singleton]
    refine ⟨?_, ?_, ?_, ?_⟩
    · intro other
      rw [changed, handedOut_gave, takenBack_gave]
      by_cases same : other = index
      · rw [if_pos same, if_pos same.symm]
        exact (accounted.kept other).insert (fresh other) bytes
      · rw [if_neg same, if_neg (Ne.symm same)]
        exact accounted.kept other
    · intro first second address given given'
      rcases mem_handedOut_gave.mp given with earlier | ⟨mine, rfl⟩
      · rcases mem_handedOut_gave.mp given' with earlier' | ⟨-, rfl⟩
        · exact accounted.apart first second address earlier earlier'
        · exact absurd earlier (fresh first)
      · rcases mem_handedOut_gave.mp given' with earlier' | ⟨theirs, -⟩
        · exact absurd earlier' (fresh second)
        · exact mine.symm.trans theirs
    · rw [released_gave]
      exact accounted.once
    · intro other address given
      rw [next]
      rcases mem_handedOut_gave.mp given with earlier | ⟨-, rfl⟩
      · exact Nat.lt_succ_of_lt (accounted.below other address earlier)
      · exact Nat.lt_succ_self _

theorem took (accounted : Accounted past heap) {buffer : Buffer}
    (done : heap.release index buffer = .ok after) :
    Accounted (past ++ buffer.address.toList.map (.took index)) after := by
  cases named : buffer.address with
  | none =>
      rw [release_of_null named] at done
      cases done
      simpa using accounted
  | some address =>
      obtain ⟨member, -, next, changed⟩ := arena_of_release named done
      have mine := ((accounted.kept index).live address).mp member
      rw [Option.toList_some, List.map_singleton]
      refine ⟨?_, ?_, ?_, ?_⟩
      · intro other
        rw [changed, handedOut_took, takenBack_took]
        by_cases same : other = index
        · rw [if_pos same, if_pos same.symm, same]
          exact (accounted.kept index).erase member
        · rw [if_neg same, if_neg (Ne.symm same)]
          exact accounted.kept other
      · simpa only [handedOut_took] using accounted.apart
      · -- Had another arena taken it back, it would have handed it out.
        have untaken : address ∉ released past := by
          intro again
          obtain ⟨other, taken⟩ := exists_taken again
          have theirs := (accounted.kept other).owned address taken
          obtain rfl := accounted.apart index other address mine.1 theirs
          exact mine.2 taken
        rw [released_took]
        simpa using accounted.once.concat untaken
      · simpa only [handedOut_took, next] using accounted.below

end Accounted

end Heap

end ForeignCall
