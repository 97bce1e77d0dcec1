import ForeignCall.Proofs.Bridge.Effect
import Mathlib.Data.List.Basic
import Mathlib.Data.List.Induction
import Mathlib.Data.List.TakeWhile

/-! What a history of events tells about registrations, about the codes brought to a handle, and
about those that arrived behind it. -/

namespace ForeignCall

namespace Event

def registers (place : Registration) : Event → Bool
  | .registered _ other => other = place
  | .called .. | .delivered .. | .polled .. | .took .. | .completed _ | .lifted .. | .raised ..
  | .asked _ | .withdrawn .. | .freed _ => false

def registration? : Event → Option Registration
  | .registered _ place => some place
  | .called .. | .delivered .. | .polled .. | .took .. | .completed _ | .lifted .. | .raised ..
  | .asked _ | .withdrawn .. | .freed _ => none

def brought? (handle : Nat) : Event → Option Int
  | .called other code => if other = handle then some code else none
  | .registered .. | .delivered .. | .polled .. | .took .. | .completed _ | .lifted ..
  | .raised .. | .asked _ | .withdrawn .. | .freed _ => none

def delivered? (continuation : Nat) : Event → Option Int
  | .delivered other code => if other = continuation then some code else none
  | .registered .. | .called .. | .polled .. | .took .. | .completed _ | .lifted ..
  | .raised .. | .asked _ | .withdrawn .. | .freed _ => none

def Quiet : Event → Prop
  | .polled .. | .took .. | .completed _ | .lifted .. | .raised .. | .asked _ => True
  | .registered .. | .called .. | .delivered .. | .withdrawn .. | .freed _ => False

end Event

namespace Bridge

/-- The codes up to and including the first ready code. -/
def throughReady (codes : List Int) : List Int :=
  codes.take (codes.idxOf pollReady + 1)

theorem throughReady_of_not_mem {codes : List Int} (waits : pollReady ∉ codes) :
    throughReady codes = codes := by
  rw [throughReady, List.idxOf_eq_length waits]
  exact List.take_of_length_le (Nat.le_succ _)

theorem throughReady_concat {codes : List Int} (waits : pollReady ∉ codes) (code : Int) :
    throughReady (codes ++ [code]) = codes ++ [code] := by
  rw [throughReady, List.idxOf_append_of_notMem waits]
  exact List.take_of_length_le (by simp)

theorem throughReady_append_of_mem {codes : List Int} (ready : pollReady ∈ codes)
    (more : List Int) : throughReady (codes ++ more) = throughReady codes := by
  have bound := List.idxOf_lt_length_iff.mpr ready
  unfold throughReady
  rw [List.idxOf_append_of_mem ready, List.take_append_of_le_length bound]

theorem throughReady_prefix_append (codes more : List Int) :
    throughReady codes <+: throughReady (codes ++ more) := by
  by_cases ready : pollReady ∈ codes
  · exact (throughReady_append_of_mem ready more).symm ▸ List.prefix_rfl
  · rw [throughReady_of_not_mem ready, throughReady, List.idxOf_append_of_notMem ready,
      List.take_append, List.take_of_length_le (by omega)]
    exact List.prefix_append _ _

/-- What happened in a history happened in its first part, if it is not in the rest. -/
theorem happened_of_append {past first : List Event} {event : Event} {second : List Event}
    (happened : past ++ [event] <+: first ++ second) (other : event ∉ second) :
    past ++ [event] <+: first := by
  induction second using List.reverseRecOn with
  | nil => simpa using happened
  | append_singleton init last ih =>
      rw [← List.append_assoc, List.prefix_concat_iff] at happened
      simp only [List.mem_append, List.mem_singleton, not_or] at other
      rcases happened with whole | earlier
      · exact absurd (List.append_inj_right' whole rfl) (by simpa using other.2)
      · exact ih earlier other.1

def brought (handle : Nat) (events : List Event) : List Int :=
  events.filterMap (Event.brought? handle)

def broughtSince (place : Registration) (events : List Event) : List Int :=
  brought place.handle (events.dropWhile fun event => !event.registers place)

def delivered (continuation : Nat) (events : List Event) : List Int :=
  events.filterMap (Event.delivered? continuation)

@[simp] theorem brought_append (handle : Nat) (first second : List Event) :
    brought handle (first ++ second) = brought handle first ++ brought handle second :=
  List.filterMap_append ..

@[simp] theorem delivered_append (continuation : Nat) (first second : List Event) :
    delivered continuation (first ++ second) =
      delivered continuation first ++ delivered continuation second :=
  List.filterMap_append ..

theorem broughtSince_append {owner : Option Nat} {place : Registration} {events : List Event}
    (registered : .registered owner place ∈ events) (more : List Event) :
    broughtSince place (events ++ more) =
      broughtSince place events ++ brought place.handle more := by
  have found : (events.dropWhile fun event => !event.registers place) ≠ [] := by
    intro dropped
    have all := List.dropWhile_eq_nil_iff.mp dropped _ registered
    simp [Event.registers] at all
  rw [broughtSince, List.dropWhile_append, if_neg (by simpa using found), brought_append]
  rfl

private theorem dropWhile_of_unregistered {place : Registration} {events : List Event}
    (unregistered : ∀ owner, .registered owner place ∉ events) :
    (events.dropWhile fun event => !event.registers place) = [] := by
  rw [List.dropWhile_eq_nil_iff]
  intro event member
  cases event with
  | registered owner other =>
      have different : other ≠ place := fun same => unregistered owner (same ▸ member)
      simp [Event.registers, different]
  | _ => rfl

theorem broughtSince_registered {owner : Option Nat} {place : Registration} {events : List Event}
    (unregistered : ∀ owner, .registered owner place ∉ events) :
    broughtSince place (events ++ [.registered owner place]) = [] := by
  have dropped : (events.dropWhile fun event => !event.registers place) = [] :=
    dropWhile_of_unregistered unregistered
  rw [broughtSince, List.dropWhile_append, dropped]
  simp [brought, Event.registers, Event.brought?]

/-- A registration is still to be brought the ready code, and its task, if any, has not ended. -/
def Pending (events : List Event) (owner : Option Nat) (place : Registration) : Prop :=
  pollReady ∉ broughtSince place events ∧ ∀ task, owner = some task → .freed task ∉ events

theorem pending_append_iff {events : List Event} {owner : Option Nat} {place : Registration}
    (registered : .registered owner place ∈ events) (more : List Event) :
    Pending (events ++ more) owner place ↔ Pending events owner place ∧
      pollReady ∉ brought place.handle more ∧ ∀ task, owner = some task → .freed task ∉ more := by
  simp only [Pending, broughtSince_append registered, List.mem_append, not_or, forall_and]
  exact and_and_and_comm

theorem brought_of_quiet {events : List Event} (quiet : ∀ event ∈ events, event.Quiet)
    (handle : Nat) : brought handle events = [] := by
  rw [brought, List.filterMap_eq_nil_iff]
  intro event member
  have silent := quiet event member
  cases event <;> first | rfl | exact silent.elim

theorem delivered_eq_nil {continuation : Nat} {events : List Event}
    (nothing : ∀ code, .delivered continuation code ∉ events) :
    delivered continuation events = [] := by
  rw [delivered, List.filterMap_eq_nil_iff]
  intro event member
  cases event with
  | delivered other code =>
      have different : other ≠ continuation := by
        rintro rfl
        exact nothing code member
      simp [Event.delivered?, different]
  | _ => rfl

theorem delivered_of_quiet {events : List Event} (quiet : ∀ event ∈ events, event.Quiet)
    (continuation : Nat) : delivered continuation events = [] :=
  delivered_eq_nil fun _ member => quiet _ member

theorem quiet_of_inner {event : Event} (inner : event.Inner) : event.Quiet := by
  cases event <;> trivial

theorem brought_arrivals (bridge : Bridge) (handle code : Int) (other : Nat) :
    brought other (bridge.arrivals handle code) = if handle = other then [code] else [] := by
  cases found : bridge.handles.get? handle <;>
    by_cases same : handle = other <;>
      simp [brought, arrivals, found, Event.brought?, same]

theorem delivered_arrivals (bridge : Bridge) (handle code : Int) (continuation : Nat) :
    delivered continuation (bridge.arrivals handle code) =
      if bridge.handles.get? handle = some continuation then [code] else [] := by
  cases found : bridge.handles.get? handle with
  | none => simp [delivered, arrivals, found, Event.delivered?]
  | some other =>
      by_cases same : other = continuation <;>
        simp [delivered, arrivals, found, Event.delivered?, same, List.filterMap_cons]

theorem mem_arrivals {bridge : Bridge} {handle code : Int} {event : Event} :
    event ∈ bridge.arrivals handle code ↔ event = .called handle code ∨
      ∃ continuation, bridge.handles.get? handle = some continuation ∧
        event = .delivered continuation code := by
  cases found : bridge.handles.get? handle <;> simp [arrivals, found]

def registrations (events : List Event) : List Registration :=
  events.filterMap Event.registration?

@[simp] theorem registrations_nil : registrations [] = [] := rfl

@[simp] theorem registrations_cons (event : Event) (rest : List Event) :
    registrations (event :: rest) = event.registration?.toList ++ registrations rest := by
  cases h : event.registration? <;> simp [registrations, h]

@[simp] theorem registrations_append (first second : List Event) :
    registrations (first ++ second) = registrations first ++ registrations second :=
  List.filterMap_append ..

def owners (bridge : Bridge) : List (Option Nat) :=
  bridge.continuations.map Continuation.owner

theorem length_owners (bridge : Bridge) : bridge.owners.length = bridge.continuations.length :=
  List.length_map ..

theorem target_of_owner {bridge : Bridge} {continuation : Nat} {owner : Option Nat}
    (owned : bridge.owners[continuation]? = some owner) :
    ∃ target, bridge.continuations[continuation]? = some target ∧ target.owner = owner := by
  simpa [owners] using owned

theorem owner_mono {before after : Bridge} (grown : before.owners <+: after.owners)
    {continuation : Nat} {owner : Option Nat}
    (owned : before.owners[continuation]? = some owner) :
    after.owners[continuation]? = some owner := by
  obtain ⟨later, grown⟩ := grown
  obtain ⟨bound, -⟩ := List.getElem?_eq_some_iff.mp owned
  rw [← grown, List.getElem?_append_left bound]
  exact owned

theorem owners_enrol {bridge : Bridge} {owner : Option Nat} {closed : Bool}
    {minted : HandleMap.Minted Nat} :
    (bridge.enrol owner closed minted).owners = bridge.owners ++ [owner] := by
  simp [enrol, owners]

theorem owner_enrol (bridge : Bridge) (owner : Option Nat) (closed : Bool)
    (minted : HandleMap.Minted Nat) :
    (bridge.enrol owner closed minted).owners[bridge.continuations.length]? = some owner := by
  have count := length_owners bridge
  rw [owners_enrol, ← count, List.getElem?_concat_length]

theorem owners_setCodes (bridge : Bridge) (continuation : Nat) (codes : List Int) :
    (bridge.setCodes continuation codes).owners = bridge.owners := by
  apply List.ext_getElem?
  intro other
  simp only [setCodes, owners, List.getElem?_map, List.getElem?_modify]
  cases bridge.continuations[other]? with
  | none => rfl
  | some target => by_cases same : continuation = other <;> simp [same]

theorem Extends.owners {before after : Bridge} {events : List Event} {steps : List Nat}
    (extended : Extends before after events steps) : after.owners = before.owners :=
  congrArg (List.map Continuation.owner) extended.continuations

theorem Extends.registrations {before after : Bridge} {events : List Event} {steps : List Nat}
    (extended : Extends before after events steps) :
    Bridge.registrations after.events = Bridge.registrations before.events := by
  rw [extended.record, registrations_append, List.append_right_eq_self, Bridge.registrations,
    List.filterMap_eq_nil_iff]
  intro event member
  have inner := extended.inner event member
  cases event <;> first | rfl | exact inner.elim

/-- Every continuation is registered, and none ever goes or changes hands. -/
theorem Stride.grows {before after : Moment} (stride : Stride before after)
    (all : (registrations before.bridge.events).length = before.bridge.owners.length) :
    (registrations after.bridge.events).length = after.bridge.owners.length ∧
      before.bridge.owners <+: after.bridge.owners := by
  cases stride.effect with
  | inner extended =>
      rw [extended.registrations, extended.owners]
      exact ⟨all, List.prefix_rfl⟩
  | choose first popped =>
      rw [popped]
      exact ⟨all, List.prefix_rfl⟩
  | @enrol owner closed minted inserted running unstarted enrolled =>
      rw [enrolled]
      have grown : (before.bridge.enrol owner closed minted).owners =
          before.bridge.owners ++ [owner] := owners_enrol
      refine ⟨?_, grown ▸ List.prefix_append _ _⟩
      rw [grown]
      simpa [enrol, owners, Event.registration?] using all
  | callback handle code called =>
      have none : registrations (before.bridge.arrivals handle code) = [] := by
        cases found : before.bridge.handles.get? handle <;>
          simp [arrivals, found, Event.registration?]
      rw [called, callback_events, registrations_append, owners, callback_continuations, none,
        List.append_nil]
      exact ⟨all, List.prefix_rfl⟩
  | take bare taken =>
      rw [taken, owners_setCodes]
      exact ⟨all, List.prefix_rfl⟩
  | lose first missing popped =>
      rw [popped]
      exact ⟨all, List.prefix_rfl⟩
  | put first found extended =>
      rw [extended.registrations, extended.owners, owners_setCodes]
      exact ⟨all, List.prefix_rfl⟩
  | took turn held taken =>
      rw [taken, Bridge.took, owners_setCodes]
      refine ⟨?_, List.prefix_rfl⟩
      simpa [setCodes, record, owners, Event.registration?] using all
  | free turn extended =>
      rw [extended.registrations, extended.owners]
      refine ⟨?_, List.prefix_rfl⟩
      simpa [afterFree, Event.registration?, owners] using all

theorem Strides.grow {first last : Moment} (strides : Strides first last)
    (all : (registrations first.bridge.events).length = first.bridge.owners.length) :
    (registrations last.bridge.events).length = last.bridge.owners.length ∧
      first.bridge.owners <+: last.bridge.owners := by
  induction strides with
  | refl => exact ⟨all, List.prefix_rfl⟩
  | tail _ stride ih =>
      obtain ⟨between, grown⟩ := ih
      obtain ⟨now, grows⟩ := stride.grows between
      exact ⟨now, grown.trans grows⟩

end Bridge

end ForeignCall
