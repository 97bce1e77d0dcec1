import ForeignCall.HandleMap
import Mathlib.Algebra.Group.Nat.Defs
import Mathlib.Data.List.Basic
import Mathlib.Data.List.Nodup

/-! Histories of a map of handles. However long it is used, and however often its counter wraps, each
answer is the last word on the handle asked for, and handles, removals and warnings add up. -/

namespace ForeignCall.HandleMap

variable {α : Type u}

/-- Every handle of the map is a word of the given width. -/
def Fits (map : HandleMap α) (width : Int) : Prop :=
  0 ≤ width ∧ 2 ^ map.bits ≤ Word.limit width

theorem ofBits_eq_ok {width : Int} {bits : Option Int} {map : HandleMap α}
    (accepted : ofBits width bits = .ok map) :
    map = empty map.bits ∧ (map.bits : Int) = bits.getD (8 * width) ∧ map.Fits width := by
  unfold ofBits at accepted
  dsimp only at accepted
  split at accepted
  · cases accepted
  next within =>
    cases accepted
    have small : (bits.getD (8 * width)).toNat ≤ 8 * width.toNat := by omega
    refine ⟨rfl, Int.toNat_of_nonneg (by omega), by omega, ?_⟩
    calc 2 ^ (bits.getD (8 * width)).toNat ≤ 2 ^ (8 * width.toNat) :=
          Nat.pow_le_pow_right (by omega) small
      _ = Word.limit width := Nat.pow_mul 2 8 width.toNat

theorem insert_of_fits {width : Int} {map : HandleMap α} (fits : map.Fits width) {number : Nat}
    (counter : map.counter = (number % 2 ^ map.bits : Nat)) (object : α) :
    map.insert width object = .ok {
      handle := number % 2 ^ map.bits
      notices := if Table.contains (number % 2 ^ map.bits) map.entries then
        [.handleReused (number % 2 ^ map.bits)] else []
      map := {
        map with
        counter := ((number + 1) % 2 ^ map.bits : Nat)
        entries := Table.set (number % 2 ^ map.bits) object map.entries } } := by
  have made : Word.ofInt width map.counter = .ok (number % 2 ^ map.bits) := by
    rw [counter]
    exact Word.ofInt_natCast fits.1
      (Nat.lt_of_lt_of_le (Nat.mod_lt _ (Nat.two_pow_pos _)) fits.2)
  have next : (map.counter + 1) % Int.ofNat (Nat.pow 2 map.bits) =
      ((number + 1) % 2 ^ map.bits : Nat) := by
    rw [counter, ← Nat.mod_add_mod]
    rfl
  rw [insert, made]
  simp only [next]

theorem exists_insert_of_fits {width : Int} {map : HandleMap α} (fits : map.Fits width)
    {number : Nat} (counter : map.counter = (number % 2 ^ map.bits : Nat)) (object : α) :
    ∃ minted, map.insert width object = .ok minted ∧ minted.handle = number % 2 ^ map.bits ∧
      minted.map.bits = map.bits ∧
      minted.map.counter = ((number + 1) % 2 ^ map.bits : Nat) ∧
      ∀ handle, minted.map.get? handle =
        if handle = (number % 2 ^ map.bits : Nat) then some object else map.get? handle := by
  have inserted := insert_of_fits fits counter object
  exact ⟨_, inserted, rfl, rfl, rfl, counter ▸ get?_of_insert inserted⟩

inductive Operation (α : Type u) where
  | insert (object : α)
  | get (handle : Int)
  | remove (handle : Int)
  | contains (handle : Int)

/-- An operation and what came of it. -/
inductive Deed (α : Type u) where
  | inserted (object : α) (handle : Nat) (notices : List Notice)
  | got (handle : Int) (found : Option α)
  | removed (handle : Int) (found : Option α)
  | tested (handle : Int) (held : Bool)

def Deed.operation : Deed α → Operation α
  | .inserted object _ _ => .insert object
  | .got handle _ => .get handle
  | .removed handle _ => .remove handle
  | .tested handle _ => .contains handle

def Operation.perform (width : Int) (operation : Operation α) (map : HandleMap α) :
    Except Fault (Deed α × HandleMap α) :=
  match operation with
  | .insert object =>
      match map.insert width object with
      | .ok minted => .ok (.inserted object minted.handle minted.notices, minted.map)
      | .error fault => .error fault
  | .get handle => .ok (.got handle (map.get? handle), map)
  | .remove handle => .ok (.removed handle (map.remove handle).1, (map.remove handle).2)
  | .contains handle => .ok (.tested handle (map.contains handle), map)

def run (width : Int) : List (Operation α) → HandleMap α →
    Except Fault (List (Deed α) × HandleMap α)
  | [], map => .ok ([], map)
  | operation :: rest, map =>
      match operation.perform width map with
      | .error fault => .error fault
      | .ok (deed, map) =>
          match run width rest map with
          | .error fault => .error fault
          | .ok (deeds, map) => .ok (deed :: deeds, map)

/-- Whether a deed settles what is behind a handle from then on. -/
def Deed.Settles (handle : Int) : Deed α → Prop
  | .inserted _ minted _ => (minted : Int) = handle
  | .removed other _ => other = handle
  | .got .. | .tested .. => False

/-- The last word on a handle was the minting of it for an object. -/
def Stands (past : List (Deed α)) (handle : Int) (object : α) : Prop :=
  ∃ (before : List (Deed α)) (minted : Nat) (notices : List Notice) (after : List (Deed α)),
    past = before ++ .inserted object minted notices :: after ∧
      (minted : Int) = handle ∧ ∀ deed ∈ after, ¬ deed.Settles handle

def Live (past : List (Deed α)) (handle : Int) : Prop :=
  ∃ object, Stands past handle object

/-- A deed answers as the deeds before it demand. -/
def Deed.Answers (past : List (Deed α)) : Deed α → Prop
  | .inserted _ handle notices =>
      Live past handle ∧ notices = [.handleReused handle] ∨ ¬ Live past handle ∧ notices = []
  | .got handle found => ∀ object, found = some object ↔ Stands past handle object
  | .removed handle found => ∀ object, found = some object ↔ Stands past handle object
  | .tested handle held => held = true ↔ Live past handle

def Deed.minted? : Deed α → Option Nat
  | .inserted _ handle _ => some handle
  | .got .. | .removed .. | .tested .. => none

def Deed.notices : Deed α → List Notice
  | .inserted _ _ notices => notices
  | .got .. | .removed .. | .tested .. => []

def Deed.takesOut : Deed α → Bool
  | .removed _ found => found.isSome
  | .inserted .. | .got .. | .tested .. => false

def minted (past : List (Deed α)) : List Nat :=
  past.filterMap Deed.minted?

def warnings (past : List (Deed α)) : List Notice :=
  past.flatMap Deed.notices

def removals (past : List (Deed α)) : Nat :=
  past.countP Deed.takesOut

@[simp] theorem minted_concat (past : List (Deed α)) (deed : Deed α) :
    minted (past ++ [deed]) = minted past ++ deed.minted?.toList := by
  rw [minted, List.filterMap_append]
  cases deed <;> rfl

@[simp] theorem warnings_concat (past : List (Deed α)) (deed : Deed α) :
    warnings (past ++ [deed]) = warnings past ++ deed.notices := by
  simp [warnings]

@[simp] theorem removals_concat (past : List (Deed α)) (deed : Deed α) :
    removals (past ++ [deed]) = removals past + deed.takesOut.toNat := by
  rw [removals, List.countP_append, List.countP_singleton]
  cases deed.takesOut <;> rfl

/-- What was inserted goes by its own removal, or with one warning as its handle is minted again. -/
def OwnLosses (past : List (Deed α)) : Prop :=
  ∀ (before : List (Deed α)) (object : α) (handle : Nat) (notices : List Notice)
      (between : List (Deed α)) (deed : Deed α) (after : List (Deed α)),
    past = before ++ .inserted object handle notices :: (between ++ deed :: after) →
    (∀ other ∈ between, ¬ other.Settles handle) → deed.Settles handle →
    deed = .removed handle (some object) ∨
      ∃ other, deed = .inserted other handle [.handleReused handle]

structure Accounted (past : List (Deed α)) (map : HandleMap α) : Prop where
  counter : map.counter = ((minted past).length % 2 ^ map.bits : Nat)
  counted : ∀ (number handle : Nat), (minted past)[number]? = some handle →
    handle = number % 2 ^ map.bits
  bounded : ∀ handle ∈ map.handles, handle < 2 ^ map.bits
  distinct : map.handles.Nodup
  stands : ∀ handle object, map.get? handle = some object ↔ Stands past handle object
  answered : ∀ before deed after, past = before ++ deed :: after → deed.Answers before
  size : map.size + removals past + (warnings past).length = (minted past).length

theorem Stands.intro (past : List (Deed α)) (object : α) (minted : Nat) (notices : List Notice) :
    Stands (past ++ [.inserted object minted notices]) minted object :=
  ⟨past, minted, notices, [], rfl, rfl, by simp⟩

/-- A further deed either settles the handle or leaves things as they stood. -/
theorem stands_concat {past : List (Deed α)} {deed : Deed α} {handle : Int} {object : α} :
    Stands (past ++ [deed]) handle object ↔
      (∃ (minted : Nat) (notices : List Notice),
          deed = .inserted object minted notices ∧ (minted : Int) = handle) ∨
        ¬ deed.Settles handle ∧ Stands past handle object := by
  constructor
  · rintro ⟨before, minted, notices, after, split, same, later⟩
    rcases List.eq_nil_or_concat' after with rfl | ⟨init, last, rfl⟩
    · obtain ⟨rfl, ends⟩ := List.append_inj' split rfl
      exact .inl ⟨minted, notices, by simpa using ends, same⟩
    · rw [← List.cons_append, ← List.append_assoc] at split
      obtain ⟨rfl, ends⟩ := List.append_inj' split rfl
      obtain rfl : deed = last := by simpa using ends
      refine .inr ⟨later deed (by simp), before, minted, notices, init, rfl, same, ?_⟩
      exact fun other member => later other (List.mem_append_left _ member)
  · rintro (⟨minted, notices, rfl, rfl⟩ | ⟨silent, before, minted, notices, after, rfl, same, later⟩)
    · exact .intro past object minted notices
    · refine ⟨before, minted, notices, after ++ [deed], by simp, same, ?_⟩
      simpa [or_imp, forall_and] using ⟨later, silent⟩

theorem OwnLosses.of_answers {past : List (Deed α)}
    (answered : ∀ before deed after, past = before ++ deed :: after → deed.Answers before) :
    OwnLosses past := by
  intro before object handle notices between deed after split silent settles
  have stands : Stands (before ++ .inserted object handle notices :: between) handle object :=
    ⟨before, handle, notices, between, rfl, rfl, silent⟩
  have answers := answered (before ++ .inserted object handle notices :: between) deed after
    (by simp [split])
  cases deed with
  | inserted other minted again =>
      obtain rfl : minted = handle := Int.ofNat.inj settles
      rcases answers with ⟨-, warned⟩ | ⟨dead, -⟩
      · exact .inr ⟨other, by rw [warned]⟩
      · exact absurd ⟨object, stands⟩ dead
  | removed other found =>
      obtain rfl : other = handle := settles
      exact .inl (by rw [(answers object).mpr stands])
  | got => exact settles.elim
  | tested => exact settles.elim

theorem answers_concat {past : List (Deed α)} {deed : Deed α}
    (answered : ∀ before earlier after, past = before ++ earlier :: after →
      earlier.Answers before) (answers : deed.Answers past) :
    ∀ before earlier after, past ++ [deed] = before ++ earlier :: after →
      earlier.Answers before := by
  intro before earlier after split
  rcases List.eq_nil_or_concat' after with rfl | ⟨init, last, rfl⟩
  · obtain ⟨rfl, ends⟩ := List.append_inj' split rfl
    obtain rfl : deed = earlier := by simpa using ends
    exact answers
  · rw [← List.cons_append, ← List.append_assoc] at split
    exact answered before earlier init (List.append_inj' split rfl).1

namespace Accounted

variable {past : List (Deed α)} {map : HandleMap α}

theorem empty (bits : Nat) : Accounted ([] : List (Deed α)) (empty bits) where
  counter := by simp [HandleMap.empty, minted]
  counted := by simp [minted]
  bounded := by simp [HandleMap.empty, handles]
  distinct := by simp [HandleMap.empty, handles]
  stands := by simp [Stands, HandleMap.empty, get?]
  answered := by simp
  size := by simp [HandleMap.empty, HandleMap.size, removals, warnings, minted]

theorem live_iff (accounted : Accounted past map) (handle : Int) :
    Live past handle ↔ map.contains handle = true := by
  simp only [Live, contains, Option.isSome_iff_exists, accounted.stands]

/-- An operation that leaves the map alone. -/
theorem concat_answer (accounted : Accounted past map) {deed : Deed α}
    (answers : deed.Answers past) (mints : deed.minted? = none) (silent : deed.notices = [])
    (keeps : deed.takesOut = false) (settles : ∀ handle, ¬ deed.Settles handle) :
    Accounted (past ++ [deed]) map where
  counter := by simpa only [minted_concat, mints, Option.toList_none, List.append_nil] using
    accounted.counter
  counted := by simpa only [minted_concat, mints, Option.toList_none, List.append_nil] using
    accounted.counted
  bounded := accounted.bounded
  distinct := accounted.distinct
  stands handle object := by
    rw [accounted.stands, stands_concat]
    constructor
    · exact fun stands => .inr ⟨settles handle, stands⟩
    · rintro (⟨minted, notices, rfl, same⟩ | ⟨-, stands⟩)
      · exact absurd same (settles handle)
      · exact stands
  answered := answers_concat accounted.answered answers
  size := by
    rw [minted_concat, warnings_concat, removals_concat, mints, silent, keeps]
    simpa using accounted.size

theorem concat_got (accounted : Accounted past map) (handle : Int) :
    Accounted (past ++ [.got handle (map.get? handle)]) map :=
  accounted.concat_answer (accounted.stands handle) rfl rfl rfl fun _ => id

theorem concat_tested (accounted : Accounted past map) (handle : Int) :
    Accounted (past ++ [.tested handle (map.contains handle)]) map :=
  accounted.concat_answer (accounted.live_iff handle).symm rfl rfl rfl fun _ => id

theorem concat_removed (accounted : Accounted past map) (handle : Int) :
    Accounted (past ++ [.removed handle (map.remove handle).1]) (map.remove handle).2 where
  counter := by simpa [Deed.minted?] using accounted.counter
  counted := by simpa [Deed.minted?] using accounted.counted
  bounded other member := by
    rw [remove_bits]
    rw [handles_remove] at member
    exact accounted.bounded other (List.mem_filter.mp member).1
  distinct := by
    rw [handles_remove]
    exact accounted.distinct.filter _
  stands other object := by
    rw [get?_remove, stands_concat, ← accounted.stands]
    by_cases same : other = handle
    · simp [same, Deed.Settles]
    · simp [same, Ne.symm same, Deed.Settles]
  answered := answers_concat accounted.answered (by
    rw [remove_fst]
    exact accounted.stands handle)
  size := by
    have size := accounted.size
    have taken := size_remove accounted.distinct handle
    simp only [removals_concat, warnings_concat, minted_concat, Deed.takesOut, Deed.notices,
      Deed.minted?, remove_fst, Option.toList_none, List.append_nil]
    rw [contains] at taken
    omega

theorem concat_inserted (accounted : Accounted past map) {width : Int} (fits : map.Fits width)
    (object : α) :
    ∃ minted, map.insert width object = .ok minted ∧ minted.map.bits = map.bits ∧
      Accounted (past ++ [.inserted object minted.handle minted.notices]) minted.map := by
  have inserted := insert_of_fits fits accounted.counter object
  have behind := get?_of_insert inserted
  have warned : Table.contains ((minted past).length % 2 ^ map.bits) map.entries = true ↔
      Live past ((minted past).length % 2 ^ map.bits : Nat) := by
    rw [accounted.live_iff, contains_natCast, Table.contains_iff, handles]
  refine ⟨_, inserted, rfl, ?_⟩
  exact {
    counter := by simp [Deed.minted?]
    counted := by
      intro number handle found
      simp only [minted_concat, Deed.minted?, Option.toList_some] at found
      rcases Nat.lt_trichotomy number (minted past).length with earlier | rfl | later
      · rw [List.getElem?_append_left earlier] at found
        exact accounted.counted number handle found
      · simpa using found.symm
      · rw [List.getElem?_eq_none (by simpa using Nat.succ_le_of_lt later)] at found
        cases found
    bounded := by
      intro handle member
      simp only [handles, Table.keys_set] at member
      split at member
      · exact accounted.bounded handle member
      · rcases List.mem_append.mp member with earlier | newest
        · exact accounted.bounded handle earlier
        · rw [List.mem_singleton.mp newest]
          exact Nat.mod_lt _ (Nat.two_pow_pos _)
    distinct := by
      simp only [handles, Table.keys_set]
      split
      · exact accounted.distinct
      next absent => simpa using accounted.distinct.concat absent
    stands := by
      intro handle other
      rw [behind, stands_concat, ← accounted.stands, accounted.counter]
      by_cases same : handle = ((minted past).length % 2 ^ map.bits : Nat)
      · subst same
        simp [Deed.Settles]
      · rw [if_neg same]
        constructor
        · exact fun found => .inr ⟨Ne.symm same, found⟩
        · rintro (⟨newest, notices, equal, at_handle⟩ | ⟨-, found⟩)
          · cases equal
            exact absurd at_handle.symm same
          · exact found
    answered := answers_concat accounted.answered (by
      by_cases live : Live past ((minted past).length % 2 ^ map.bits : Nat)
      · exact .inl ⟨live, if_pos (warned.mpr live)⟩
      · exact .inr ⟨live, if_neg (mt warned.mp live)⟩)
    size := by
      have size := accounted.size
      simp only [minted_concat, removals_concat, warnings_concat, Deed.minted?, Deed.takesOut,
        Deed.notices, HandleMap.size, Table.length_set, Table.contains_iff, List.length_append,
        Option.toList_some, List.length_singleton, Bool.toNat_false] at size ⊢
      split
      · simp only [List.length_singleton]
        omega
      · simp only [List.length_nil]
        omega
  }

end Accounted

/-- Every operation can be performed, and keeps the accounts. -/
theorem Accounted.step {past : List (Deed α)} {map : HandleMap α} (accounted : Accounted past map)
    {width : Int} (fits : map.Fits width) (operation : Operation α) :
    ∃ deed next, operation.perform width map = .ok (deed, next) ∧ deed.operation = operation ∧
      next.bits = map.bits ∧ Accounted (past ++ [deed]) next := by
  cases operation with
  | insert object =>
      obtain ⟨minted, inserted, bits, accounted⟩ := accounted.concat_inserted fits object
      exact ⟨_, _, by rw [Operation.perform, inserted], rfl, bits, accounted⟩
  | get handle => exact ⟨_, _, rfl, rfl, rfl, accounted.concat_got handle⟩
  | remove handle =>
      exact ⟨_, _, rfl, rfl, remove_bits map handle, accounted.concat_removed handle⟩
  | contains handle => exact ⟨_, _, rfl, rfl, rfl, accounted.concat_tested handle⟩

theorem Accounted.run {past : List (Deed α)} {map : HandleMap α} (accounted : Accounted past map)
    {width : Int} (fits : map.Fits width) (operations : List (Operation α)) :
    ∃ deeds final, run width operations map = .ok (deeds, final) ∧
      deeds.map Deed.operation = operations ∧ final.bits = map.bits ∧
      Accounted (past ++ deeds) final := by
  induction operations generalizing past map with
  | nil => exact ⟨[], map, rfl, rfl, rfl, by simpa using accounted⟩
  | cons operation rest ih =>
      obtain ⟨deed, next, performed, same, bits, accounted⟩ := accounted.step fits operation
      obtain ⟨deeds, final, ran, others, kept, accounted⟩ :=
        ih accounted (by rwa [Fits, bits])
      refine ⟨deed :: deeds, final, ?_, by rw [List.map_cons, same, others], kept.trans bits, ?_⟩
      · rw [HandleMap.run, performed]
        simp only [ran]
      · simpa using accounted

/-- A fresh map of any accepted number of bits gives an account of whatever is done with it. -/
theorem accounted_of_run {width : Int} {bits : Option Int} {map : HandleMap α}
    (accepted : ofBits width bits = .ok map) (operations : List (Operation α)) :
    ∃ past final, run width operations map = .ok (past, final) ∧
      past.map Deed.operation = operations ∧ (final.bits : Int) = bits.getD (8 * width) ∧
      Accounted past final ∧ OwnLosses past := by
  obtain ⟨fresh, chosen, fits⟩ := ofBits_eq_ok accepted
  have start : Accounted ([] : List (Deed α)) map := by
    rw [fresh]
    exact .empty map.bits
  obtain ⟨past, final, ran, same, kept, accounted⟩ := start.run fits operations
  rw [List.nil_append] at accounted
  exact ⟨past, final, ran, same, by rw [kept, chosen], accounted,
    .of_answers accounted.answered⟩

example :
    (run 8 [.insert "a", .insert "b", .remove 1, .insert "c", .insert "d", .get 0]
      (empty 1)).toOption.map Prod.fst =
      some [.inserted "a" 0 [], .inserted "b" 1 [], .removed 1 (some "b"),
        .inserted "c" 0 [.handleReused 0], .inserted "d" 1 [], .got 0 (some "c")] := rfl

/-- A map of one bit, whose counter wraps twice: the third object takes the place of the first. -/
theorem accounted_twiceWrapped :
    ofBits 8 (some 1) = .ok (empty 1 : HandleMap String) ∧
      ∃ past final,
        run 8 [.insert "a", .insert "b", .remove 1, .insert "c", .insert "d", .get 0] (empty 1) =
          .ok (past, final) ∧
        past.map Deed.operation =
          [.insert "a", .insert "b", .remove 1, .insert "c", .insert "d", .get 0] ∧
        (final.bits : Int) = 1 ∧ Accounted past final ∧ OwnLosses past :=
  ⟨rfl, @accounted_of_run String 8 (some 1) (empty 1) rfl _⟩

end ForeignCall.HandleMap
