import ForeignCall.Session.Run
import Mathlib.Algebra.Group.Nat.Defs

/-! Minting at any counter and any width. The range of the counter was settled when the map was made,
that of a word is settled when a handle is minted, and either may be the wider one. A handle that does
not fit is refused and stays the next one. -/

namespace ForeignCall

namespace HandleMap

/-- The counter is no word of the given width. -/
def Stuck {α : Type u} (map : HandleMap α) (width : Int) : Prop :=
  map.counter < 0 ∨ ((256 ^ width.toNat : Nat) : Int) ≤ map.counter

/-- The object is behind the handle that the counter stood at, all else is where it was, and the
counter has gone on. -/
structure Binds {α : Type u} (map : HandleMap α) (object : α) (minted : Minted α) : Prop where
  handle : (minted.handle : Int) = map.counter
  entries : ∀ handle,
    minted.map.get? handle = if handle = map.counter then some object else map.get? handle
  bits : minted.map.bits = map.bits
  counter : minted.map.counter = (map.counter + 1) % (2 ^ map.bits : Nat)
  inRange : 0 ≤ minted.map.counter ∧ minted.map.counter < (2 ^ map.bits : Nat)
  notices : minted.notices =
    if map.contains map.counter then [.handleReused minted.handle] else []

section

variable {α : Type u} {map : HandleMap α} {width : Int}

theorem ofInt_of_stuck (positive : 0 ≤ width) (stuck : map.Stuck width) :
    Word.ofInt width map.counter = .error (.wordRange map.counter width) := by
  rw [Word.ofInt, if_neg (Int.not_lt.mpr positive)]
  exact if_pos stuck

theorem insert_of_stuck (positive : 0 ≤ width) (stuck : map.Stuck width) (object : α) :
    map.insert width object = .error (.wordRange map.counter width) := by
  rw [insert, ofInt_of_stuck positive stuck]

theorem binds_of_insert {object : α} {minted : Minted α}
    (inserted : map.insert width object = .ok minted) : map.Binds object minted := by
  obtain ⟨bits, counter⟩ := counter_of_insert inserted
  have handle := handle_of_insert inserted
  have pow : (0 : Int) < (2 ^ map.bits : Nat) := Int.natCast_pos.mpr (Nat.two_pow_pos _)
  refine ⟨handle, get?_of_insert inserted, bits, counter, ?_, ?_⟩
  · rw [counter]
    exact ⟨Int.emod_nonneg _ (Int.ne_of_gt pow), Int.emod_lt_of_pos _ pow⟩
  · rw [← handle, contains, get?_natCast]
    unfold insert at inserted
    split at inserted
    · cases inserted
    · cases inserted
      rfl

theorem exists_insert (positive : 0 ≤ width) (free : ¬ map.Stuck width) (object : α) :
    ∃ minted, map.insert width object = .ok minted ∧ map.Binds object minted := by
  obtain ⟨nonneg, fits⟩ := not_or.mp free
  obtain ⟨number, counter⟩ := Int.eq_ofNat_of_zero_le (Int.not_lt.mp nonneg)
  have made : Word.ofInt width map.counter = .ok number := by
    rw [counter]
    apply Word.ofInt_natCast positive
    rw [counter] at fits
    exact Int.ofNat_lt.mp (Int.not_le.mp fits)
  obtain ⟨minted, inserted⟩ : ∃ minted, map.insert width object = .ok minted := by
    rw [insert, made]
    exact ⟨_, rfl⟩
  exact ⟨minted, inserted, binds_of_insert inserted⟩

end

/-- Handles minted one after the other, from a counter on. -/
def InTurn (bits : Nat) : Int → List Nat → Prop
  | _, [] => True
  | counter, handle :: rest =>
      (handle : Int) = counter ∧ InTurn bits ((counter + 1) % (2 ^ bits : Nat)) rest

end HandleMap

namespace Session

def withWidth (width : Int) (session : Session) : Session :=
  { session with bridge := { session.bridge with caller := { session.caller with width } } }

/-- A named map gives way to the one with the new handle, and the warning is logged. -/
def withMinted (name : String) (minted : HandleMap.Minted Datum) (session : Session) : Session :=
  { session with
    maps := Table.set name minted.map session.maps
    bridge := { session.bridge with caller := session.caller.notify minted.notices } }

variable {session : Session} {name : String} {map : HandleMap Datum} {value : Datum}

theorem perform_setWidth (width : Int) (session : Session) :
    perform (.setWidth width) session = (.ok .nothing, session.withWidth width) := rfl

theorem perform_insert_of_error {fault : Fault} (held : Table.get? name session.maps = some map)
    (refused : map.insert session.caller.width value = .error fault) :
    perform (.insert name value) session = (.error fault, session) := by
  apply Action.bind_of_error
  rw [insertObject, handleMap, Action.bind_of_ok (named_of_some held),
    Action.bind_of_ok (Action.state_apply session)]
  apply Action.bind_of_error
  rw [Action.ofExcept_apply, refused]

theorem perform_insert_of_ok {minted : HandleMap.Minted Datum}
    (held : Table.get? name session.maps = some map)
    (inserted : map.insert session.caller.width value = .ok minted) :
    perform (.insert name value) session =
      (.ok (.minted minted.handle), session.withMinted name minted) := by
  have stored : insertObject name value session =
      (.ok minted.handle, session.withMinted name minted) := by
    rw [insertObject, handleMap, Action.bind_of_ok (named_of_some held),
      Action.bind_of_ok (Action.state_apply session), inserted]
    rfl
  exact Action.bind_of_ok stored _

/-- A refused handle leaves all as it was. -/
theorem perform_insert_of_stuck (held : Table.get? name session.maps = some map)
    (positive : 0 ≤ session.caller.width) (stuck : map.Stuck session.caller.width) (value : Datum) :
    perform (.insert name value) session =
      (.error (.wordRange map.counter session.caller.width), session) :=
  perform_insert_of_error held (HandleMap.insert_of_stuck positive stuck value)

theorem perform_insert_of_free (held : Table.get? name session.maps = some map)
    (positive : 0 ≤ session.caller.width) (free : ¬ map.Stuck session.caller.width)
    (value : Datum) :
    ∃ minted, map.Binds value minted ∧ perform (.insert name value) session =
      (.ok (.minted minted.handle), session.withMinted name minted) := by
  obtain ⟨minted, inserted, binds⟩ := HandleMap.exists_insert positive free value
  exact ⟨minted, binds, perform_insert_of_ok held inserted⟩

/-- Steps that set the width, or insert into the map of that name. -/
inductive Inserting (name : String) : Script → Prop
  | setWidth {width : Int} (nonneg : 0 ≤ width) : Inserting name (.step (.setWidth width))
  | insert (value : Datum) : Inserting name (.step (.insert name value))

/-- The handles minted by steps, in order. -/
def mintedBy (entries : List Entry) : List Nat :=
  entries.filterMap fun entry =>
    match entry.1 with
    | .ok (.minted handle) => some handle
    | _ => none

theorem answers_step (step : Step) (rest : List Script) (session : Session) :
    session.answers (.step step :: rest) =
      ((perform step session).1, (perform step session).2.view) ::
        (perform step session).2.reveal.2.answers rest := by
  have stays : leavesAt false (perform step session).1 = false := by
    cases (perform step session).1 <;> rfl
  rw [answers, runAll, run]
  simp only [Session.reveal, stays, Bool.false_eq_true, if_false]
  rfl

/-- However the width comes and goes, no handle is skipped. -/
theorem mintedBy_inTurn {scripts : List Script} (inserting : ∀ script ∈ scripts, Inserting name script)
    (held : Table.get? name session.maps = some map) (positive : 0 ≤ session.caller.width) :
    HandleMap.InTurn map.bits map.counter (mintedBy (session.answers scripts)) := by
  induction scripts generalizing session map with
  | nil => trivial
  | cons script rest ih =>
      obtain ⟨first, others⟩ := List.forall_mem_cons.mp inserting
      cases first with
      | setWidth nonneg =>
          rw [answers_step, perform_setWidth]
          exact ih others held nonneg
      | insert value =>
          rw [answers_step]
          by_cases stuck : map.Stuck session.caller.width
          · rw [perform_insert_of_stuck held positive stuck]
            exact ih others held positive
          · obtain ⟨minted, binds, performed⟩ :=
              perform_insert_of_free held positive stuck value
            rw [performed]
            refine ⟨binds.handle, ?_⟩
            rw [← binds.counter, ← binds.bits]
            exact ih others (Table.get?_set_self ..) positive

/-- An insertion is refused just when the counter is no word of the width in force. All is then as it
was, and the handle is the next one once the width suffices. Otherwise the object is behind the handle
that the counter stood at, and the counter goes on within its range. Over any run of insertions and
changes of the width the handles follow one another. -/
theorem insert_by_counter (held : Table.get? name session.maps = some map)
    (positive : 0 ≤ session.caller.width) (value : Datum) :
    ((∃ fault after, perform (.insert name value) session = (.error fault, after)) ↔
      map.counter < 0 ∨ ((256 ^ session.caller.width.toNat : Nat) : Int) ≤ map.counter) ∧
    (∀ fault after, perform (.insert name value) session = (.error fault, after) →
      fault = .wordRange map.counter session.caller.width ∧ fault.kind = .overflow ∧
      after = session ∧
      ∀ width other, 0 ≤ map.counter → 0 ≤ width → map.counter < (256 ^ width.toNat : Nat) →
        ∃ handle : Nat, (handle : Int) = map.counter ∧
          (perform (.insert name other) (perform (.setWidth width) after).2).1 =
            .ok (.minted handle)) ∧
    (∀ answer after, perform (.insert name value) session = (.ok answer, after) →
      ∃ minted, answer = .minted minted.handle ∧ map.Binds value minted ∧
        after = session.withMinted name minted) ∧
    ∀ scripts, (∀ script ∈ scripts, Inserting name script) →
      HandleMap.InTurn map.bits map.counter (mintedBy (session.answers scripts)) := by
  have run (scripts : List Script) (inserting : ∀ script ∈ scripts, Inserting name script) :=
    mintedBy_inTurn inserting held positive
  by_cases stuck : map.Stuck session.caller.width
  · rw [perform_insert_of_stuck held positive stuck value]
    refine ⟨iff_of_true ⟨_, _, rfl⟩ stuck, ?_, ?_, run⟩
    · rintro _ _ ⟨⟩
      refine ⟨rfl, rfl, rfl, fun width other nonneg wide fits => ?_⟩
      have free : ¬ map.Stuck width := not_or.mpr ⟨Int.not_lt.mpr nonneg, Int.not_le.mpr fits⟩
      have heldStill : Table.get? name (session.withWidth width).maps = some map := held
      obtain ⟨minted, binds, performed⟩ := perform_insert_of_free heldStill wide free other
      exact ⟨minted.handle, binds.handle, congrArg Prod.fst performed⟩
    · rintro _ _ ⟨⟩
  · obtain ⟨minted, binds, performed⟩ := perform_insert_of_free held positive stuck value
    rw [performed]
    refine ⟨iff_of_false ?_ stuck, ?_, ?_, run⟩
    · rintro ⟨_, _, ⟨⟩⟩
    · rintro _ _ ⟨⟩
    · rintro _ _ ⟨⟩
      exact ⟨minted, rfl, binds, rfl⟩

/-- A map of handles with sixteen bits, where words have come to be of one byte. -/
def narrowed : Session :=
  { initial .bare 1 with maps := [("m", ⟨16, 300, [(7, .null)]⟩)] }

theorem insert_by_counter_narrowed :
    Table.get? "m" narrowed.maps = some ⟨16, 300, [(7, .null)]⟩ ∧ 0 ≤ narrowed.caller.width ∧
      perform (.insert "m" .null) narrowed = (.error (.wordRange 300 1), narrowed) ∧
      ∃ handle : Nat, (handle : Int) = 300 ∧
        (perform (.insert "m" (.int 1)) (perform (.setWidth 2) narrowed).2).1 =
          .ok (.minted handle) := by
  have held : Table.get? "m" narrowed.maps = some ⟨16, 300, [(7, .null)]⟩ := rfl
  have positive : 0 ≤ narrowed.caller.width := by decide
  obtain ⟨refuses, refused, -⟩ := insert_by_counter held positive .null
  obtain ⟨fault, after, performed⟩ := refuses.mpr (.inr (by decide))
  obtain ⟨rfl, -, rfl, next⟩ := refused fault after performed
  exact ⟨held, positive, performed, next 2 (.int 1) (by decide) (by decide) (by decide)⟩

end Session

end ForeignCall
