import ForeignCall.Proofs.Bridge.Handles

/-! The way of a poll code from a handle to the task that takes it. Between the two it waits in the
queue, then at the continuation; on the way none is lost, doubled or overtaken. -/

namespace ForeignCall

def Ready.code? (continuation : Nat) : Ready → Option Int
  | .step _ => none
  | .put other code => if other = continuation then some code else none

def Event.Calm : Event → Prop
  | .called .. | .polled .. | .completed _ | .lifted .. | .raised .. | .asked _ | .withdrawn ..
  | .freed _ => True
  | .registered .. | .delivered .. | .took .. => False

namespace Bridge

/-- The codes on their way to a continuation, in order. -/
def queuedFor (continuation : Nat) (ready : List Ready) : List Int :=
  ready.filterMap (Ready.code? continuation)

@[simp] theorem queuedFor_append (continuation : Nat) (first second : List Ready) :
    queuedFor continuation (first ++ second) =
      queuedFor continuation first ++ queuedFor continuation second :=
  List.filterMap_append ..

@[simp] theorem queuedFor_step (continuation index : Nat) (rest : List Ready) :
    queuedFor continuation (.step index :: rest) = queuedFor continuation rest := rfl

@[simp] theorem queuedFor_put_self (continuation : Nat) (code : Int) (rest : List Ready) :
    queuedFor continuation (.put continuation code :: rest) =
      code :: queuedFor continuation rest := by
  simp [queuedFor, Ready.code?]

theorem queuedFor_put_of_ne {continuation other : Nat} (different : other ≠ continuation)
    (code : Int) (rest : List Ready) :
    queuedFor continuation (.put other code :: rest) = queuedFor continuation rest := by
  simp [queuedFor, Ready.code?, different]

theorem codesAt_setCodes_self {bridge : Bridge} {continuation : Nat} {target : Continuation}
    (found : bridge.continuations[continuation]? = some target) (codes : List Int) :
    (bridge.setCodes continuation codes).codesAt continuation = codes := by
  simp [codesAt, setCodes, found]

theorem codesAt_setCodes_of_ne {continuation other : Nat} (different : other ≠ continuation)
    (bridge : Bridge) (codes : List Int) :
    (bridge.setCodes continuation codes).codesAt other = bridge.codesAt other := by
  simp [codesAt, setCodes, different.symm]

/-- What has arrived for a task is what it has taken, what its continuation holds and what is on its
way there, in this order. -/
structure Flow (bridge : Bridge) : Prop where
  idle : ∀ continuation, bridge.continuations.length ≤ continuation →
    queuedFor continuation bridge.ready = []
  opened : ∀ target ∈ bridge.continuations, target.owner ≠ none → target.closed = false
  conserved : ∀ index place, .registered (some index) place ∈ bridge.events →
    delivered place.continuation bridge.events = takenOf index bridge.events ++
      bridge.codesAt place.continuation ++ queuedFor place.continuation bridge.ready

theorem Flow.initial (caller : Caller) : Flow (.initial caller) where
  idle := fun _ _ => rfl
  opened := by simp [Bridge.initial]
  conserved := by simp [Bridge.initial]

theorem delivered_of_calm {events : List Event} (calm : ∀ event ∈ events, event.Calm)
    (continuation : Nat) : delivered continuation events = [] :=
  delivered_eq_nil fun _ member => calm _ member

theorem takenOf_of_calm {events : List Event} (calm : ∀ event ∈ events, event.Calm)
    (index : Nat) : takenOf index events = [] := by
  rw [takenOf, taken, List.filterMap_eq_nil_iff]
  intro event member
  have silent := calm event (mem_eventsOf.mp member).1
  cases event <;> first | rfl | exact silent.elim

theorem takenOf_append (index : Nat) (first second : List Event) :
    takenOf index (first ++ second) = takenOf index first ++ takenOf index second := by
  simp [takenOf]

theorem Flow.frame {before after : Bridge} (flow : Flow before) (events : List Event)
    (continuations : after.continuations = before.continuations)
    (queued : ∀ continuation,
      queuedFor continuation after.ready = queuedFor continuation before.ready)
    (record : after.events = before.events ++ events) (calm : ∀ event ∈ events, event.Calm) :
    Flow after := by
  refine ⟨?_, ?_, ?_⟩
  · intro continuation beyond
    rw [continuations] at beyond
    rw [queued]
    exact flow.idle continuation beyond
  · rw [continuations]
    exact flow.opened
  · intro index place member
    have old : .registered (some index) place ∈ before.events := by
      rw [record, List.mem_append] at member
      exact member.resolve_right fun late => calm _ late
    rw [record, delivered_append, takenOf_append, delivered_of_calm calm, takenOf_of_calm calm,
      List.append_nil, List.append_nil, queued, codesAt_congr continuations]
    exact flow.conserved index place old

theorem Board.target {bridge : Bridge} (board : Board bridge) {index : Nat}
    {place : Registration} (registered : .registered (some index) place ∈ bridge.events) :
    ∃ target, bridge.continuations[place.continuation]? = some target ∧
      target.owner = some index :=
  target_of_owner ((board.placed _ _).mp registered).2

theorem Flow.enrol {bridge : Bridge} (flow : Flow bridge) (board : Board bridge)
    {owner : Option Nat} {closed : Bool} {minted : HandleMap.Minted Nat}
    (untaken : ∀ index, owner = some index → takenOf index bridge.events = [])
    (running : owner ≠ none → closed = false) : Flow (bridge.enrol owner closed minted) := by
  have count := length_owners bridge
  have events : (bridge.enrol owner closed minted).events = bridge.events ++
      [.registered owner ⟨bridge.continuations.length, minted.handle⟩] := rfl
  have arrived : ∀ continuation, delivered continuation (bridge.enrol owner closed minted).events =
      delivered continuation bridge.events := by
    intro continuation
    simp [events, delivered, Event.delivered?]
  have took : ∀ index, takenOf index (bridge.enrol owner closed minted).events =
      takenOf index bridge.events := by
    intro index
    rw [events, takenOf_append]
    by_cases mine : owner = some index <;>
      simp [takenOf, eventsOf, Event.task?, Event.taken?, mine]
  refine ⟨?_, ?_, ?_⟩
  · intro continuation beyond
    refine flow.idle continuation ?_
    simp only [Bridge.enrol, List.length_append] at beyond
    omega
  · intro target member owned
    simp only [Bridge.enrol, List.mem_append, List.mem_singleton] at member
    rcases member with old | rfl
    · exact flow.opened target old owned
    · exact running owned
  · intro index place member
    rw [arrived, took]
    change _ = _ ++ _ ++ queuedFor place.continuation bridge.ready
    rw [events, List.mem_append, List.mem_singleton] at member
    rcases member with old | new
    · have bound := board.bound old
      have held : (bridge.enrol owner closed minted).codesAt place.continuation =
          bridge.codesAt place.continuation := by
        simp [codesAt, Bridge.enrol, List.getElem?_append_left (count ▸ bound)]
      rw [held]
      exact flow.conserved index place old
    · -- Nothing has been taken at the new continuation, nor arrived, nor been queued for it.
      cases new
      rw [untaken index rfl, flow.idle _ (Nat.le_refl _), board.fresh _ (Nat.le_of_eq count)]
      simp [codesAt, Bridge.enrol]

/-- Whether a continuation still gets the codes that arrive for it. -/
def Hears (bridge : Bridge) (continuation : Nat) : Prop :=
  ∃ target, bridge.continuations[continuation]? = some target ∧ target.closed = false

theorem resume_of_hears {bridge : Bridge} {continuation : Nat} (hears : bridge.Hears continuation)
    (code : Int) : bridge.resume continuation code = bridge.enqueue (.put continuation code) := by
  obtain ⟨target, found, running⟩ := hears
  simp [resume, found, running]

theorem queuedFor_resume_of_ne {continuation other : Nat} (different : continuation ≠ other)
    (bridge : Bridge) (code : Int) :
    queuedFor other (bridge.resume continuation code).ready = queuedFor other bridge.ready := by
  unfold resume
  split
  · rfl
  · split
    · rfl
    · rw [enqueue, queuedFor_append, queuedFor_put_of_ne different]
      exact List.append_nil _

theorem queuedFor_callback_self {bridge : Bridge} {handle : Int} {continuation : Nat}
    (known : bridge.handles.get? handle = some continuation) (hears : bridge.Hears continuation)
    (code : Int) :
    queuedFor continuation (bridge.callback handle code).ready =
      queuedFor continuation bridge.ready ++ [code] := by
  have stillHears : ((bridge.afterCall handle code).record (.delivered continuation code)).Hears
      continuation := hears
  rw [callback_of_known code known, resume_of_hears stillHears, enqueue, queuedFor_append,
    queuedFor_put_self]
  rfl

theorem queuedFor_callback_of_ne {bridge : Bridge} {handle : Int} {other : Nat}
    (elsewhere : bridge.handles.get? handle ≠ some other) (code : Int) :
    queuedFor other (bridge.callback handle code).ready = queuedFor other bridge.ready := by
  cases found : bridge.handles.get? handle with
  | none =>
      rw [callback_of_unknown code found]
      rfl
  | some continuation =>
      have different : continuation ≠ other := fun same => elsewhere (same ▸ found)
      rw [callback_of_known code found, queuedFor_resume_of_ne different]
      rfl

theorem Flow.callback {bridge : Bridge} (flow : Flow bridge) (board : Board bridge)
    (handle code : Int) : Flow (bridge.callback handle code) := by
  have events := callback_events bridge handle code
  have continuations := callback_continuations bridge handle code
  refine ⟨?_, ?_, ?_⟩
  · intro continuation beyond
    rw [continuations] at beyond
    have elsewhere : bridge.handles.get? handle ≠ some continuation := by
      intro known
      obtain ⟨owner, place, member, -, rfl, -⟩ := (board.live _ _).mp known
      have bound := board.bound member
      rw [owners, List.length_map] at bound
      omega
    rw [queuedFor_callback_of_ne elsewhere]
    exact flow.idle continuation beyond
  · rw [continuations]
    exact flow.opened
  · intro index place member
    have old : .registered (some index) place ∈ bridge.events := by
      simpa [events, mem_arrivals] using member
    have took : takenOf index (bridge.arrivals handle code) = [] := by
      rw [takenOf, eventsOf_eq_nil fun event member => by simp [arrivals_foreign event member]]
      rfl
    rw [events, delivered_append, takenOf_append, took, List.append_nil, delivered_arrivals,
      codesAt_congr continuations, flow.conserved index place old]
    by_cases known : bridge.handles.get? handle = some place.continuation
    · obtain ⟨target, found, owned⟩ := board.target old
      have hears : bridge.Hears place.continuation :=
        ⟨target, found, flow.opened target (List.mem_of_getElem? found) (by simp [owned])⟩
      rw [if_pos known, queuedFor_callback_self known hears, List.append_assoc _ _ [code]]
    · rw [if_neg known, queuedFor_callback_of_ne known, List.append_nil]

theorem Flow.opened_setCodes {bridge : Bridge} (flow : Flow bridge) (continuation : Nat)
    (codes : List Int) :
    ∀ target ∈ (bridge.setCodes continuation codes).continuations, target.owner ≠ none →
      target.closed = false := by
  intro target member owned
  obtain ⟨other, found⟩ := List.mem_iff_getElem?.mp member
  simp only [setCodes, List.getElem?_modify] at found
  cases old : bridge.continuations[other]? with
  | none => simp [old] at found
  | some target' =>
      have opened := flow.opened target' (List.mem_of_getElem? old)
      by_cases same : continuation = other
      · simp [old, same] at found
        obtain rfl := found
        exact opened owned
      · simp [old, same] at found
        obtain rfl := found
        exact opened owned

theorem Flow.setBare {bridge : Bridge} (flow : Flow bridge) (board : Board bridge)
    {continuation : Nat} (bare : bridge.Bare continuation) (codes : List Int) :
    Flow (bridge.setCodes continuation codes) := by
  refine ⟨?_, ?_, ?_⟩
  · intro other beyond
    exact flow.idle other (by simpa [setCodes] using beyond)
  · exact flow.opened_setCodes continuation codes
  · intro index place member
    obtain ⟨target, found, owned⟩ := board.target member
    have different : place.continuation ≠ continuation := by
      rintro rfl
      simp [Bare, found, owned] at bare
    rw [codesAt_setCodes_of_ne different]
    exact flow.conserved index place member

theorem Flow.took {bridge : Bridge} (flow : Flow bridge) (board : Board bridge) {index : Nat}
    {place : Registration} {code : Int} {rest : List Int}
    (registered : .registered (some index) place ∈ bridge.events)
    (only : ∀ other, .registered (some index) other ∈ bridge.events → other = place)
    (held : bridge.codesAt place.continuation = code :: rest) :
    Flow (bridge.took index place code rest) := by
  have events : (bridge.took index place code rest).events = bridge.events ++ [.took index code] :=
    rfl
  refine ⟨?_, ?_, ?_⟩
  · intro other beyond
    exact flow.idle other (by simpa [Bridge.took, setCodes, record] using beyond)
  · exact flow.opened_setCodes place.continuation rest
  · intro other place' member
    have old : .registered (some other) place' ∈ bridge.events := by
      simpa [events] using member
    have before := flow.conserved other place' old
    have arrived : delivered place'.continuation (bridge.took index place code rest).events =
        delivered place'.continuation bridge.events := by
      simp [events, delivered, Event.delivered?]
    rw [arrived, events, takenOf_append, before]
    change _ = _ ++ _ ++ queuedFor place'.continuation bridge.ready
    by_cases mine : other = index
    · subst mine
      obtain rfl := only place' old
      rw [held, codesAt_took _ held]
      simp [takenOf, eventsOf, Event.task?, Event.taken?]
    · -- Two tasks at one continuation would both own it.
      have different : place'.continuation ≠ place.continuation := by
        intro same
        obtain ⟨target, found, owned⟩ := board.target old
        obtain ⟨target', found', owned'⟩ := board.target registered
        rw [same] at found
        obtain rfl := Option.some.inj (found.symm.trans found')
        exact mine (Option.some.inj (owned.symm.trans owned'))
      have nothing : takenOf other [.took index code] = [] := by
        simp [takenOf, eventsOf, Event.task?, Ne.symm mine]
      have kept : (bridge.took index place code rest).codesAt place'.continuation =
          bridge.codesAt place'.continuation :=
        codesAt_setCodes_of_ne different (bridge.record (.took index code)) rest
      rw [nothing, List.append_nil, kept]

private theorem Flow.arrive {bridge : Bridge} (flow : Flow bridge) {continuation : Nat}
    {code : Int} {rest : List Ready} {target : Continuation}
    (first : bridge.ready = .put continuation code :: rest)
    (found : bridge.continuations[continuation]? = some target) :
    Flow (({ bridge with ready := rest } : Bridge).setCodes continuation
      (target.codes ++ [code])) := by
  refine ⟨?_, ?_, ?_⟩
  · intro other beyond
    have empty := flow.idle other (by simpa [setCodes] using beyond)
    rw [first] at empty
    by_cases same : continuation = other
    · subst same
      simp at empty
    · rwa [queuedFor_put_of_ne same] at empty
  · exact flow.opened_setCodes continuation _
  · intro index place member
    have before := flow.conserved index place member
    by_cases same : continuation = place.continuation
    · subst same
      have held : bridge.codesAt place.continuation = target.codes := by simp [codesAt, found]
      have now : (({ bridge with ready := rest } : Bridge).setCodes place.continuation
          (target.codes ++ [code])).codesAt place.continuation = target.codes ++ [code] :=
        codesAt_setCodes_self found _
      rw [now]
      rw [held, first, queuedFor_put_self] at before
      refine before.trans ?_
      simp [setCodes]
    · rw [codesAt_setCodes_of_ne (Ne.symm same)]
      rw [first, queuedFor_put_of_ne same] at before
      exact before

theorem calm_of_inner {event : Event} (inner : event.Inner) : event.Calm := by
  cases event <;> trivial

theorem queuedFor_steps (continuation : Nat) (steps : List Nat) :
    queuedFor continuation (steps.map .step) = [] := by
  rw [queuedFor, List.filterMap_map, List.filterMap_eq_nil_iff]
  intro index member
  rfl

theorem Flow.extend {before after : Bridge} (flow : Flow before) {events : List Event}
    {steps : List Nat} (extended : Extends before after events steps) : Flow after := by
  refine flow.frame events extended.continuations ?_ extended.record fun event member =>
    calm_of_inner (extended.inner event member)
  intro continuation
  rw [extended.ready, queuedFor_append, queuedFor_steps, List.append_nil]

theorem Flow.stride {before after : Moment} (stride : Stride before after) (lives : Lives before)
    (board : Board before.bridge) (flow : Flow before.bridge) : Flow after.bridge := by
  cases stride.effect with
  | inner extended => exact flow.extend extended
  | choose first popped =>
      rw [popped]
      refine flow.frame [] rfl ?_ (List.append_nil _).symm (by simp)
      intro continuation
      rw [first, queuedFor_step]
  | enrol inserted running unstarted enrolled =>
      rw [enrolled]
      refine flow.enrol board ?_ running
      intro index mine
      obtain ⟨task, turn, known, phase⟩ := unstarted index mine
      exact (lives.unstarted turn known phase).1
  | callback handle code called => exact called ▸ flow.callback board handle code
  | take bare taken => exact taken ▸ flow.setBare board bare _
  | @lose continuation code rest first missing popped =>
      have empty := flow.idle continuation (List.getElem?_eq_none_iff.mp missing)
      simp [first] at empty
  | put first found extended => exact (flow.arrive first found).extend extended
  | took turn held taken =>
      obtain ⟨registered, only, -⟩ := lives.placed turn rfl
      exact taken ▸ flow.took board registered only held
  | free turn extended =>
      refine Flow.extend ?_ extended
      exact flow.frame _ rfl (fun _ => rfl) rfl (by simp [Event.Calm])

structure Flows (moment : Moment) : Prop where
  kept : Kept moment
  flow : moment.bridge.owners.length < 0x10000000000000000 → Flow moment.bridge

theorem Flows.stride {before after : Moment} (stride : Stride before after)
    (flows : Flows before) : Flows after := by
  obtain ⟨kept, flow⟩ := flows
  refine ⟨kept.stride stride, fun few => ?_⟩
  have fewer := Nat.lt_of_le_of_lt (stride.grows kept.all).2.length_le few
  exact (flow fewer).stride stride kept.lives (kept.board fewer)

theorem run_flow (moves : List Move) (caller : Caller)
    (few : (registrations (run moves (.initial caller)).events).length < 0x10000000000000000) :
    Flow (run moves (.initial caller)) := by
  have kept := run_kept moves caller
  have flows : Flows ⟨none, run moves (.initial caller)⟩ :=
    run_keeps (fun _ _ => Flows.stride)
      ⟨⟨.initial caller, rfl, fun _ => .initial caller⟩, fun _ => .initial caller⟩ moves
  exact flows.flow (kept.all ▸ few)

end Bridge

end ForeignCall
