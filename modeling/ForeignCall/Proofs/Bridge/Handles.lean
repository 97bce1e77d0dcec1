import ForeignCall.Proofs.Bridge.Calls
import ForeignCall.Proofs.Bridge.History

/-! The handles of continuations. As long as fewer registrations are made than there are handles, a
live handle belongs to one registration: to the one that minted it, from then on until the ready
code is brought to it or its task ends. -/

namespace ForeignCall

namespace Bridge

/-- The live handles are those of the pending registrations, each with its own continuation. -/
def LiveHandles (bridge : Bridge) : Prop :=
  ∀ (handle : Int) (continuation : Nat), bridge.handles.get? handle = some continuation ↔
    ∃ owner place, .registered owner place ∈ bridge.events ∧ (place.handle : Int) = handle ∧
      place.continuation = continuation ∧ Pending bridge.events owner place

/-- What a task removes at its end is its own continuation. If the ready code had been brought to
its handle, there is nothing to remove, whatever was registered since. -/
def OwnWithdrawals (events : List Event) : Prop :=
  ∀ past task found, past ++ [.withdrawn task found] <+: events →
    ∃ place, .registered (some task) place ∈ past ∧
      found = if pollReady ∈ broughtSince place past then none else some place.continuation

/-- What arrives behind a handle is what is brought to it, through the ready code; all of it, until
the task, if any, has ended. -/
def Arrived (events : List Event) (owner : Option Nat) (place : Registration) : Prop :=
  delivered place.continuation events <+: throughReady (broughtSince place events) ∧
    ((∀ task, owner = some task → .freed task ∉ events) →
      delivered place.continuation events = throughReady (broughtSince place events))

/-- What the handles, the registrations and the codes brought so far have to do with each other. -/
structure Board (bridge : Bridge) : Prop where
  bits : bridge.handles.bits = 64
  counter : bridge.handles.counter = bridge.owners.length
  placed : ∀ owner place, .registered owner place ∈ bridge.events ↔
    place.handle = place.continuation ∧ bridge.owners[place.continuation]? = some owner
  fresh : ∀ continuation, bridge.owners.length ≤ continuation →
    delivered continuation bridge.events = []
  live : LiveHandles bridge
  arrived : ∀ owner place, .registered owner place ∈ bridge.events →
    Arrived bridge.events owner place
  withdrawn : OwnWithdrawals bridge.events

theorem Board.initial (caller : Caller) : Board (.initial caller) where
  bits := rfl
  counter := rfl
  placed := by simp [Bridge.initial, owners]
  fresh := fun _ _ => rfl
  live := by simp [LiveHandles, Bridge.initial, HandleMap.empty, HandleMap.get?]
  arrived := by simp [Bridge.initial]
  withdrawn := by simp [OwnWithdrawals, Bridge.initial]

section Board

variable {bridge : Bridge}

theorem Board.place_unique (board : Board bridge) {owner other : Option Nat}
    {place place' : Registration} (registered : .registered owner place ∈ bridge.events)
    (again : .registered other place' ∈ bridge.events) (same : place.handle = place'.handle) :
    place = place' := by
  have first := ((board.placed owner place).mp registered).1
  have second := ((board.placed other place').mp again).1
  obtain ⟨continuation, handle⟩ := place
  obtain ⟨continuation', handle'⟩ := place'
  simp_all

theorem Board.owner_unique (board : Board bridge) {owner other : Option Nat}
    {place : Registration} (registered : .registered owner place ∈ bridge.events)
    (again : .registered other place ∈ bridge.events) : owner = other :=
  Option.some.inj (((board.placed owner place).mp registered).2.symm.trans
    ((board.placed other place).mp again).2)

theorem Board.bound (board : Board bridge) {owner : Option Nat}
    {place : Registration} (registered : .registered owner place ∈ bridge.events) :
    place.continuation < bridge.owners.length :=
  (List.getElem?_eq_some_iff.mp ((board.placed owner place).mp registered).2).1

theorem Board.get?_of_pending (board : Board bridge) {owner : Option Nat} {place : Registration}
    (registered : .registered owner place ∈ bridge.events)
    (waits : Pending bridge.events owner place) :
    bridge.handles.get? place.handle = some place.continuation :=
  (board.live _ _).mpr ⟨owner, place, registered, rfl, rfl, waits⟩

theorem Board.get?_of_not_pending (board : Board bridge) {owner : Option Nat}
    {place : Registration} (registered : .registered owner place ∈ bridge.events)
    (settled : ¬ Pending bridge.events owner place) :
    bridge.handles.get? place.handle = none := by
  by_contra found
  obtain ⟨continuation, found⟩ := Option.ne_none_iff_exists'.mp found
  obtain ⟨other, place', again, same, -, waits⟩ := (board.live _ _).mp found
  obtain rfl := board.place_unique again registered (by exact_mod_cast same)
  obtain rfl := board.owner_unique again registered
  exact settled waits

end Board

/-- No registration is made, and the handles that go are those whose registrations are over. -/
structure Change (before after : Bridge) (events : List Event) (gone : Int → Prop) : Prop where
  bits : after.handles.bits = before.handles.bits
  counter : after.handles.counter = before.handles.counter
  owners : after.owners = before.owners
  record : after.events = before.events ++ events
  unregistering : ∀ owner place, .registered owner place ∉ events
  found : ∀ handle continuation, after.handles.get? handle = some continuation ↔
    before.handles.get? handle = some continuation ∧ ¬ gone handle
  ends : ∀ owner place, .registered owner place ∈ before.events →
    (gone place.handle ↔ pollReady ∈ brought place.handle events ∨
      ∃ task, owner = some task ∧ .freed task ∈ events)

section Change

variable {before after : Bridge} {events : List Event} {gone : Int → Prop}

theorem Change.registered (change : Change before after events gone) {owner : Option Nat}
    {place : Registration} :
    .registered owner place ∈ after.events ↔ .registered owner place ∈ before.events := by
  rw [change.record, List.mem_append, or_iff_left (change.unregistering owner place)]

theorem Change.pending (change : Change before after events gone) {owner : Option Nat}
    {place : Registration} (registered : .registered owner place ∈ before.events) :
    Pending after.events owner place ↔
      Pending before.events owner place ∧ ¬ gone place.handle := by
  rw [change.record, pending_append_iff registered, change.ends owner place registered, not_or]
  simp only [not_exists, not_and]

theorem Change.live (change : Change before after events gone) (live : LiveHandles before) :
    LiveHandles after := by
  intro handle continuation
  rw [change.found, live]
  constructor
  · rintro ⟨⟨owner, place, registered, rfl, behind, waits⟩, kept⟩
    exact ⟨owner, place, change.registered.mpr registered, rfl, behind,
      (change.pending registered).mpr ⟨waits, kept⟩⟩
  · rintro ⟨owner, place, registered, rfl, behind, waits⟩
    replace registered := change.registered.mp registered
    obtain ⟨waits, kept⟩ := (change.pending registered).mp waits
    exact ⟨⟨owner, place, registered, rfl, behind, waits⟩, kept⟩

theorem Board.change (board : Board before) (change : Change before after events gone)
    (fresh : ∀ continuation, before.owners.length ≤ continuation →
      delivered continuation events = [])
    (arrived : ∀ owner place, .registered owner place ∈ before.events →
      Arrived (before.events ++ events) owner place)
    (withdrawn : OwnWithdrawals after.events) : Board after := by
  refine ⟨change.bits.trans board.bits, ?_, ?_, ?_, change.live board.live, ?_, withdrawn⟩
  · rw [change.counter, change.owners]
    exact board.counter
  · intro owner place
    rw [change.registered, change.owners]
    exact board.placed owner place
  · intro continuation beyond
    rw [change.owners] at beyond
    rw [change.record, delivered_append, board.fresh _ beyond, fresh _ beyond]
    rfl
  · intro owner place registered
    rw [change.record]
    exact arrived owner place (change.registered.mp registered)

end Change

theorem Arrived.append {events : List Event} {owner : Option Nat} {place : Registration}
    (registered : .registered owner place ∈ events) (arrived : Arrived events owner place)
    {more : List Event} (none : brought place.handle more = [])
    (silent : delivered place.continuation more = []) : Arrived (events ++ more) owner place := by
  obtain ⟨within, whole⟩ := arrived
  rw [Arrived, delivered_append, broughtSince_append registered, none, silent, List.append_nil,
    List.append_nil]
  exact ⟨within, fun goesOn => whole fun task mine early =>
    goesOn task mine (List.mem_append_left _ early)⟩

theorem Board.frame {before after : Bridge} (board : Board before) (events : List Event)
    (handles : after.handles = before.handles) (owners : after.owners = before.owners)
    (record : after.events = before.events ++ events)
    (quiet : ∀ event ∈ events, event.Quiet) : Board after := by
  have change : Change before after events fun _ => False := by
    refine ⟨by rw [handles], by rw [handles], owners, record, ?_, by simp [handles], ?_⟩
    · exact fun owner place registered => quiet _ registered
    · intro owner place registered
      rw [brought_of_quiet quiet]
      refine ⟨False.elim, ?_⟩
      rintro (ready | ⟨task, -, freed⟩)
      · cases ready
      · exact quiet _ freed
  refine board.change change (fun _ _ => delivered_of_quiet quiet _) ?_ ?_
  · intro owner place registered
    exact (board.arrived owner place registered).append registered (brought_of_quiet quiet _)
      (delivered_of_quiet quiet _)
  · intro past task found happened
    rw [record] at happened
    exact board.withdrawn past task found
      (happened_of_append happened fun member => quiet _ member)

def next (bridge : Bridge) : Registration :=
  ⟨bridge.owners.length, bridge.owners.length⟩

section Enrol

variable {bridge : Bridge} {owner : Option Nat} {closed : Bool} {minted : HandleMap.Minted Nat}

private theorem Board.unregistered (board : Board bridge) (owner : Option Nat) :
    .registered owner bridge.next ∉ bridge.events := by
  intro registered
  exact Nat.lt_irrefl _ (board.bound registered)

private theorem Board.enrol_events (board : Board bridge)
    (inserted : bridge.handles.insert bridge.caller.width bridge.continuations.length =
      .ok minted) :
    (bridge.enrol owner closed minted).events =
      bridge.events ++ [.registered owner bridge.next] := by
  have count := length_owners bridge
  have number : minted.handle = bridge.owners.length := by
    have minted := HandleMap.handle_of_insert inserted
    rw [board.counter] at minted
    exact_mod_cast minted
  simp [Bridge.enrol, next, number, count]

private theorem Board.enrol_found (board : Board bridge)
    (inserted : bridge.handles.insert bridge.caller.width bridge.continuations.length =
      .ok minted) (handle : Int) :
    (bridge.enrol owner closed minted).handles.get? handle =
      if handle = bridge.next.handle then some bridge.next.continuation
      else bridge.handles.get? handle := by
  have count := length_owners bridge
  rw [next, ← board.counter, count]
  exact HandleMap.get?_of_insert inserted handle

private theorem Board.enrol_placed (board : Board bridge) (other : Option Nat)
    (place : Registration) :
    .registered other place ∈ bridge.events ++ [.registered owner bridge.next] ↔
      place.handle = place.continuation ∧
        (bridge.owners ++ [owner])[place.continuation]? = some other := by
  rw [List.mem_append, board.placed, List.mem_singleton]
  by_cases old : place.continuation < bridge.owners.length
  · rw [List.getElem?_append_left old]
    have different : place ≠ bridge.next := by
      rintro rfl
      exact Nat.lt_irrefl _ old
    simp [different]
  · rw [List.getElem?_append_right (by omega), List.getElem?_eq_none (by omega)]
    obtain ⟨continuation, handle⟩ := place
    dsimp only at old
    simp only [next, Event.registered.injEq, Registration.mk.injEq, reduceCtorEq, and_false,
      false_or, List.getElem?_singleton]
    constructor
    · rintro ⟨rfl, rfl, rfl⟩
      simp
    · rintro ⟨rfl, last⟩
      split at last
      · exact ⟨(Option.some.inj last).symm, by omega, by omega⟩
      · cases last

private theorem pending_registered {events : List Event} {owner other : Option Nat}
    {place place' : Registration} (registered : .registered owner place ∈ events) :
    Pending (events ++ [.registered other place']) owner place ↔ Pending events owner place := by
  rw [pending_append_iff registered]
  simp [brought, Event.brought?]

private theorem Board.enrol_live (board : Board bridge)
    (inserted : bridge.handles.insert bridge.caller.width bridge.continuations.length =
      .ok minted)
    (unfreed : ∀ task, owner = some task → .freed task ∉ bridge.events) :
    LiveHandles (bridge.enrol owner closed minted) := by
  have begun : Pending (bridge.events ++ [.registered owner bridge.next]) owner bridge.next :=
    ⟨by simp [broughtSince_registered board.unregistered], by simpa using unfreed⟩
  intro handle continuation
  rw [board.enrol_found inserted, board.enrol_events inserted]
  constructor
  · intro behind
    split at behind
    next minted =>
      obtain rfl := Option.some.inj behind
      exact ⟨owner, bridge.next, by simp, minted.symm, rfl, begun⟩
    next =>
      obtain ⟨other, place, old, minted, behind, waits⟩ := (board.live _ _).mp behind
      exact ⟨other, place, List.mem_append_left _ old, minted, behind,
        (pending_registered old).mpr waits⟩
  · rintro ⟨other, place, registered, minted, behind, waits⟩
    rw [List.mem_append, List.mem_singleton] at registered
    rcases registered with old | ⟨rfl, rfl⟩
    · have bound := board.bound old
      have same := ((board.placed other place).mp old).1
      rw [if_neg (by simp only [next]; omega)]
      exact (board.live _ _).mpr
        ⟨other, place, old, minted, behind, (pending_registered old).mp waits⟩
    · rw [if_pos minted.symm]
      exact congrArg some behind

theorem Board.enrol (board : Board bridge)
    (inserted : bridge.handles.insert bridge.caller.width bridge.continuations.length =
      .ok minted)
    (unfreed : ∀ task, owner = some task → .freed task ∉ bridge.events)
    (few : bridge.owners.length + 1 < 0x10000000000000000) :
    Board (bridge.enrol owner closed minted) := by
  have events : (bridge.enrol owner closed minted).events =
      bridge.events ++ [.registered owner bridge.next] := board.enrol_events inserted
  refine ⟨?_, ?_, ?_, ?_, board.enrol_live inserted unfreed, ?_, ?_⟩
  · exact (HandleMap.counter_of_insert inserted).1.trans board.bits
  · have counter := (HandleMap.counter_of_insert inserted).2
    have below : (bridge.owners.length : Int) + 1 < Int.ofNat (Nat.pow 2 64) := by
      have handles : Nat.pow 2 64 = 0x10000000000000000 := rfl
      rw [handles]
      exact Int.ofNat_lt.mpr few
    rw [board.bits, board.counter, Int.emod_eq_of_lt (by omega) below] at counter
    rw [owners_enrol, List.length_append, List.length_singleton]
    exact counter
  · intro other place
    rw [events, owners_enrol]
    exact board.enrol_placed other place
  · intro continuation beyond
    rw [owners_enrol, List.length_append] at beyond
    rw [events, delivered_append, board.fresh continuation (by omega)]
    rfl
  · intro other place registered
    rw [events, List.mem_append, List.mem_singleton] at registered
    rw [events]
    rcases registered with old | ⟨rfl, rfl⟩
    · exact (board.arrived other place old).append old rfl rfl
    · have none : delivered bridge.next.continuation
          (bridge.events ++ [.registered owner bridge.next]) = [] := by
        rw [delivered_append, board.fresh bridge.next.continuation (Nat.le_refl _)]
        rfl
      rw [Arrived, none, broughtSince_registered board.unregistered]
      exact ⟨List.prefix_rfl, fun _ => rfl⟩
  · intro past task found happened
    rw [events] at happened
    exact board.withdrawn past task found (happened_of_append happened (by simp))

end Enrol

theorem get?_handlesAfter (bridge : Bridge) (handle code other : Int) :
    (bridge.handlesAfter handle code).get? other =
      if other = handle ∧ code = pollReady then none else bridge.handles.get? other := by
  unfold handlesAfter
  by_cases ready : code = pollReady
  · simp [ready, HandleMap.get?_remove]
  · simp [ready]

private theorem Board.arrive {bridge : Bridge} (board : Board bridge) {owner : Option Nat}
    {place : Registration} (registered : .registered owner place ∈ bridge.events) (code : Int) :
    Arrived (bridge.events ++ bridge.arrivals place.handle code) owner place := by
  have freed : ∀ task, .freed task ∈ bridge.events ++ bridge.arrivals place.handle code ↔
      .freed task ∈ bridge.events := by
    intro task
    simp [mem_arrivals]
  obtain ⟨within, whole⟩ := board.arrived owner place registered
  simp only [Arrived, freed]
  rw [delivered_append, delivered_arrivals, broughtSince_append registered, brought_arrivals,
    if_pos rfl]
  by_cases waits : Pending bridge.events owner place
  · rw [if_pos (board.get?_of_pending registered waits), throughReady_concat waits.1,
      whole waits.2, throughReady_of_not_mem waits.1]
    exact ⟨List.prefix_rfl, fun _ => rfl⟩
  · -- The handle is dead: what is brought now comes after the ready code or after the end.
    rw [board.get?_of_not_pending registered waits, if_neg (by simp), List.append_nil]
    refine ⟨within.trans (throughReady_prefix_append _ _), fun goesOn => ?_⟩
    have ready : pollReady ∈ broughtSince place bridge.events := by
      by_contra waiting
      exact waits ⟨waiting, goesOn⟩
    rw [throughReady_append_of_mem ready]
    exact whole goesOn

private theorem Board.elsewhere {bridge : Bridge} (board : Board bridge) {owner : Option Nat}
    {place : Registration} (registered : .registered owner place ∈ bridge.events) {handle : Int}
    (different : handle ≠ place.handle) :
    bridge.handles.get? handle ≠ some place.continuation := by
  intro known
  obtain ⟨other, place', again, minted, behind, -⟩ := (board.live _ _).mp known
  have first := ((board.placed owner place).mp registered).1
  have second := ((board.placed other place').mp again).1
  exact different (by omega)

theorem Board.callback {bridge : Bridge} (board : Board bridge) (handle code : Int) :
    Board (bridge.callback handle code) := by
  have record := callback_events bridge handle code
  have handles := callback_handles bridge handle code
  have change : Change bridge (bridge.callback handle code) (bridge.arrivals handle code)
      fun other => other = handle ∧ code = pollReady := by
    refine ⟨?_, ?_, ?_, record, by simp [mem_arrivals], ?_, ?_⟩
    · rw [handles, handlesAfter]
      split
      · exact HandleMap.remove_bits ..
      · rfl
    · rw [handles, handlesAfter]
      split
      · exact HandleMap.remove_counter ..
      · rfl
    · rw [owners, callback_continuations, owners]
    · intro other continuation
      rw [handles, get?_handlesAfter]
      split
      next goes => simp [goes]
      next stays => simp [stays]
    · intro owner place registered
      rw [brought_arrivals]
      by_cases same : handle = place.handle
      · simp [same, mem_arrivals, eq_comm]
      · simp [same, mem_arrivals, Ne.symm same]
  refine board.change change ?_ ?_ ?_
  · intro continuation beyond
    rw [delivered_arrivals, if_neg]
    intro known
    obtain ⟨owner, place, registered, -, rfl, -⟩ := (board.live _ _).mp known
    exact absurd (board.bound registered) (by omega)
  · intro owner place registered
    by_cases same : handle = place.handle
    · rw [same]
      exact board.arrive registered code
    · refine (board.arrived owner place registered).append registered ?_ ?_
      · rw [brought_arrivals, if_neg same]
      · rw [delivered_arrivals, if_neg (board.elsewhere registered same)]
  · intro past task found happened
    rw [record] at happened
    exact board.withdrawn past task found (happened_of_append happened (by simp [mem_arrivals]))

theorem Board.afterFree {bridge : Bridge} (board : Board bridge) {index : Nat}
    {place : Registration} (registered : .registered (some index) place ∈ bridge.events)
    (only : ∀ other, .registered (some index) other ∈ bridge.events → other = place)
    (unfreed : .freed index ∉ bridge.events) : Board (bridge.afterFree index place) := by
  have change : Change bridge (bridge.afterFree index place)
      [.withdrawn index (bridge.handles.get? place.handle), .freed index]
      fun handle => handle = place.handle := by
    refine ⟨HandleMap.remove_bits .., HandleMap.remove_counter .., rfl, rfl, by simp, ?_, ?_⟩
    · intro handle continuation
      change (bridge.handles.remove place.handle).2.get? handle = some continuation ↔ _
      rw [HandleMap.get?_remove]
      split
      next goes => simp [goes]
      next stays => simp [stays]
    · intro owner other member
      have mine : (other.handle : Int) = place.handle ↔ owner = some index := by
        constructor
        · intro same
          obtain rfl := board.place_unique member registered (by exact_mod_cast same)
          exact board.owner_unique member registered
        · rintro rfl
          rw [only other member]
      rw [mine]
      cases owner <;> simp [brought, Event.brought?]
  refine board.change change ?_ ?_ ?_
  · intro continuation beyond
    simp [delivered, Event.delivered?]
  · intro owner other member
    exact (board.arrived owner other member).append member (by simp [brought, Event.brought?])
      (by simp [delivered, Event.delivered?])
  · intro past task found happened
    have whole : (bridge.afterFree index place).events =
        (bridge.events ++ [.withdrawn index (bridge.handles.get? place.handle)]) ++
          [.freed index] := by
      rw [change.record, List.append_assoc]
      rfl
    rw [whole] at happened
    -- Either this is the withdrawal at hand, or it was on the board before.
    rcases List.prefix_concat_iff.mp (happened_of_append happened (by simp)) with now | earlier
    · obtain ⟨rfl, last⟩ := List.append_inj' now rfl
      obtain ⟨rfl, rfl⟩ : task = index ∧ found = bridge.handles.get? place.handle := by
        simpa using last
      refine ⟨place, registered, ?_⟩
      by_cases ready : pollReady ∈ broughtSince place bridge.events
      · rw [if_pos ready, board.get?_of_not_pending registered fun waits => waits.1 ready]
      · rw [if_neg ready, board.get?_of_pending registered ⟨ready, by simpa using unfreed⟩]
    · exact board.withdrawn past task found earlier

/-- A task inside its turn has registered once, and has not freed its future. -/
theorem Lives.placed {moment : Moment} (lives : Lives moment) {index : Nat} {position : Position}
    {place : Registration} (turn : moment.turn = some (index, position))
    (there : position.place? = some place) :
    .registered (some index) place ∈ moment.bridge.events ∧
      (∀ other, .registered (some index) other ∈ moment.bridge.events → other = place) ∧
      .freed index ∉ moment.bridge.events := by
  obtain ⟨turn', bridge⟩ := moment
  cases turn
  have started : position ≠ .chosen := by
    rintro rfl
    simp [Position.place?] at there
  obtain ⟨task, stage, -, stands, life⟩ := lives.standing started
  obtain ⟨placed, goesOn⟩ : stage.place? = some place ∧
      ∀ place ending, stage ≠ .ended place ending := by
    cases position <;> simp_all [Position.place?, Position.Stands, Stage.place?]
  refine ⟨?_, ?_, ?_⟩
  · exact (mem_eventsOf.mp ((life.registered_iff place).mpr placed)).1
  · intro other member
    have same := (life.registered_iff other).mp (mem_eventsOf.mpr ⟨member, rfl⟩)
    exact Option.some.inj (same.symm.trans placed)
  · intro freed
    obtain ⟨place', ending, ended⟩ := life.ended_of_freed (mem_eventsOf.mpr ⟨freed, rfl⟩)
    exact goesOn place' ending ended

structure Kept (moment : Moment) : Prop where
  lives : Lives moment
  all : (registrations moment.bridge.events).length = moment.bridge.owners.length
  board : moment.bridge.owners.length < 0x10000000000000000 → Board moment.bridge

theorem Board.extend {before after : Bridge} (board : Board before) {events : List Event}
    {steps : List Nat} (extended : Extends before after events steps) : Board after :=
  board.frame events extended.handles extended.owners extended.record fun event member =>
    quiet_of_inner (extended.inner event member)

theorem Board.setCodes {bridge : Bridge} (board : Board bridge) (continuation : Nat)
    (codes : List Int) : Board (bridge.setCodes continuation codes) :=
  board.frame [] rfl (owners_setCodes ..) (List.append_nil _).symm (by simp)

theorem Board.pop {bridge : Bridge} (board : Board bridge) (rest : List Ready) :
    Board { bridge with ready := rest } :=
  board.frame [] rfl rfl (List.append_nil _).symm (by simp)

theorem Lives.unstarted {moment : Moment} (lives : Lives moment) {index : Nat} {task : Task}
    (turn : moment.turn = some (index, .chosen))
    (known : moment.bridge.tasks[index]? = some task) (phase : task.phase = .unstarted false) :
    takenOf index moment.bridge.events = [] ∧ .freed index ∉ moment.bridge.events := by
  obtain ⟨stage, stands, life⟩ := lives.life index task known
  simp only [Moment.Stands, turn, Position.Stands, if_pos, phase] at stands
  cases stands with
  | unstarted =>
      refine ⟨life.shows.1, fun freed => ?_⟩
      obtain ⟨_, _, impossible⟩ := life.ended_of_freed (mem_eventsOf.mpr ⟨freed, rfl⟩)
      cases impossible

theorem Board.stride {before after : Moment} (stride : Stride before after) (lives : Lives before)
    (board : Board before.bridge) (few : after.bridge.owners.length < 0x10000000000000000) :
    Board after.bridge := by
  cases stride.effect with
  | inner extended => exact board.extend extended
  | choose first popped => exact popped ▸ board.pop _
  | enrol inserted running unstarted enrolled =>
      rw [enrolled] at few ⊢
      refine board.enrol inserted ?_ (by simpa [owners_enrol] using few)
      intro index mine
      obtain ⟨task, turn, known, phase⟩ := unstarted index mine
      exact (lives.unstarted turn known phase).2
  | callback handle code called => exact called ▸ board.callback handle code
  | take bare taken => exact taken ▸ board.setCodes _ _
  | lose first missing popped => exact popped ▸ board.pop _
  | put first found extended => exact ((board.pop _).setCodes _ _).extend extended
  | @took index place code rest turn held taken =>
      rw [taken]
      exact board.frame [.took index code] rfl (owners_setCodes ..) rfl (by simp [Event.Quiet])
  | free turn extended =>
      obtain ⟨registered, only, unfreed⟩ := lives.placed turn rfl
      exact (board.afterFree registered only unfreed).extend extended

theorem Kept.stride {before after : Moment} (stride : Stride before after) (kept : Kept before) :
    Kept after := by
  obtain ⟨all, grows⟩ := stride.grows kept.all
  refine ⟨kept.lives.stride stride, all, fun few => ?_⟩
  exact (kept.board (Nat.lt_of_le_of_lt grows.length_le few)).stride stride kept.lives few

theorem run_kept (moves : List Move) (caller : Caller) :
    Kept ⟨none, run moves (.initial caller)⟩ :=
  run_keeps (fun _ _ => Kept.stride) ⟨.initial caller, rfl, fun _ => .initial caller⟩ moves

/-- With fewer registrations than handles, a handle is live exactly while its registration is
pending, and no task ever removes what another registration put in the map. -/
theorem live_handles_of_run (moves : List Move) (caller : Caller)
    (few : (registrations (run moves (.initial caller)).events).length < 0x10000000000000000) :
    LiveHandles (run moves (.initial caller)) ∧
      OwnWithdrawals (run moves (.initial caller)).events := by
  have kept := run_kept moves caller
  have board := kept.board (kept.all ▸ few)
  exact ⟨board.live, board.withdrawn⟩

/-- A task is brought the ready code in its first poll, and a bare continuation is registered before
the task ends. -/
def readyThenRegistered : List Move :=
  [.start (idleFuture none) [[.answer 0]], .turn, .register false, .turn, .turn]

theorem live_handles_readyThenRegistered :
    (registrations (run readyThenRegistered (.initial (.initial .bare 8))).events).length <
        0x10000000000000000 ∧
      LiveHandles (run readyThenRegistered (.initial (.initial .bare 8))) ∧
      OwnWithdrawals (run readyThenRegistered (.initial (.initial .bare 8))).events :=
  have few : (registrations (run readyThenRegistered (.initial (.initial .bare 8))).events).length <
      0x10000000000000000 := by decide
  ⟨few, live_handles_of_run readyThenRegistered (.initial .bare 8) few⟩

end Bridge

end ForeignCall
