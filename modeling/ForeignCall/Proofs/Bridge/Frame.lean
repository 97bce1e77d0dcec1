import ForeignCall.Proofs.Bridge.History
import ForeignCall.Proofs.Bridge.Life

/-! What a task keeps while something else happens: a callback, a deed of another task, or a code
that is put at a continuation of another. -/

namespace ForeignCall.Bridge

/-- Nothing happens to the task: it does nothing, it stays in the queue if it is there, and its
continuations hold what they held. -/
structure Frame (index : Nat) (before after : Bridge) : Prop where
  task : after.tasks[index]? = before.tasks[index]?
  events : eventsOf index after.events = eventsOf index before.events
  queued : .step index ∈ before.ready → .step index ∈ after.ready
  owners : before.owners <+: after.owners
  codes : ∀ continuation, before.owners[continuation]? = some (some index) →
    after.codesAt continuation = before.codesAt continuation

/-- What a task does with the codes at hand, when its poll is over. -/
def goOn (index : Nat) (place : Registration) : List Int → Bridge → Bridge
  | [], bridge => bridge.setPhase index (.sleeping place)
  | code :: rest, bridge =>
      let bridge := bridge.took index place code rest
      if code = pollReady then bridge.complete index place else pollOn index place rest bridge

theorem wake_eq_goOn (index : Nat) (place : Registration) (bridge : Bridge) :
    bridge.wake index place = goOn index place (bridge.codesAt place.continuation) bridge := by
  unfold wake
  cases bridge.codesAt place.continuation <;> rfl

theorem pollOn_of_raising {index : Nat} {place : Registration} {bridge next : Bridge}
    {fault : Fault} (polled : poll index place.handle bridge = (some fault, next))
    (codes : List Int) : pollOn index place codes bridge = next.fail index place fault := by
  cases codes <;> simp [pollOn, polled]

theorem pollOn_of_quiet {index : Nat} {place : Registration} {bridge next : Bridge}
    (polled : poll index place.handle bridge = (none, next)) (codes : List Int) :
    pollOn index place codes bridge = goOn index place codes next := by
  cases codes <;> simp [pollOn, goOn, polled]

theorem runPoll_continuations (route : Route) (handle : Nat) (acts : List PollAct)
    (bridge : Bridge) :
    (runPoll route handle acts bridge).2.continuations = bridge.continuations := by
  induction acts generalizing bridge with
  | nil => rfl
  | cons act rest ih =>
      cases act with
      | answer code => exact (ih _).trans (callback_continuations ..)
      | deliver target code => exact (ih _).trans (callback_continuations ..)
      | raise fault => rfl

theorem poll_continuations (index handle : Nat) (bridge : Bridge) :
    (poll index handle bridge).2.continuations = bridge.continuations := by
  unfold poll
  split
  · rfl
  · exact runPoll_continuations ..

namespace Frame

variable {index other : Nat} {place : Registration} {bridge before between after : Bridge}

theorem refl (index : Nat) (bridge : Bridge) : Frame index bridge bridge :=
  ⟨rfl, rfl, id, List.prefix_rfl, fun _ _ => rfl⟩

theorem trans (first : Frame index before between) (second : Frame index between after) :
    Frame index before after where
  task := second.task.trans first.task
  events := second.events.trans first.events
  queued := fun queued => second.queued (first.queued queued)
  owners := first.owners.trans second.owners
  codes := fun continuation owned =>
    (second.codes continuation (owner_mono first.owners owned)).trans
      (first.codes continuation owned)

theorem around (events : List Event) (continuations : after.continuations = before.continuations)
    (task : after.tasks[index]? = before.tasks[index]?)
    (record : after.events = before.events ++ events)
    (foreign : ∀ event ∈ events, event.task? ≠ some index)
    (queued : .step index ∈ before.ready → .step index ∈ after.ready) :
    Frame index before after where
  task := task
  events := by rw [record, eventsOf_append, eventsOf_eq_nil foreign, List.append_nil]
  queued := queued
  owners := by simp only [Bridge.owners, continuations, List.prefix_rfl]
  codes := fun continuation _ => codesAt_congr continuations continuation

theorem record {event : Event} (foreign : event.task? ≠ some index) (bridge : Bridge) :
    Frame index bridge (bridge.record event) :=
  around [event] rfl rfl rfl (by simpa using foreign) id

theorem notify (index : Nat) (notices : List Notice) (bridge : Bridge) :
    Frame index bridge (bridge.notify notices) :=
  around [] rfl rfl (List.append_nil _).symm (by simp) id

theorem enqueue (index : Nat) (ready : Ready) (bridge : Bridge) :
    Frame index bridge (bridge.enqueue ready) :=
  around [] rfl rfl (List.append_nil _).symm (by simp) (List.mem_append_left _)

theorem setCodes {continuation : Nat} (foreign : bridge.owners[continuation]? ≠ some (some index))
    (codes : List Int) : Frame index bridge (bridge.setCodes continuation codes) where
  task := rfl
  events := rfl
  queued := id
  owners := (owners_setCodes bridge continuation codes).symm ▸ List.prefix_rfl
  codes := fun other owned => by
    have different : continuation ≠ other := fun same => foreign (same ▸ owned)
    simp [codesAt, Bridge.setCodes, different]

theorem callback (index : Nat) (handle code : Int) (bridge : Bridge) :
    Frame index bridge (bridge.callback handle code) := by
  have called : Frame index bridge (bridge.afterCall handle code) :=
    around [.called handle code] rfl rfl rfl (by simp [Event.task?]) id
  cases found : bridge.handles.get? handle with
  | none =>
      rw [callback_of_unknown code found]
      exact called.trans (.notify ..)
  | some continuation =>
      have delivered : Frame index bridge
          ((bridge.afterCall handle code).record (.delivered continuation code)) :=
        called.trans (.record (by simp [Event.task?]) _)
      rw [callback_of_known code found]
      refine delivered.trans ?_
      unfold resume
      split
      · exact .refl ..
      · split
        · exact .notify ..
        · exact .enqueue ..

/-- Polled foreign code acts on no task but by callbacks. -/
theorem runPoll (index : Nat) (route : Route) (handle : Nat) (acts : List PollAct)
    (bridge : Bridge) : Frame index bridge (Bridge.runPoll route handle acts bridge).2 := by
  induction acts generalizing bridge with
  | nil => exact .refl ..
  | cons act rest ih =>
      cases act with
      | answer code => exact (callback index _ _ bridge).trans (ih _)
      | deliver target code => exact (callback index _ _ bridge).trans (ih _)
      | raise fault => exact .refl ..

theorem register (closed : Bool) (owner : Option Nat) (foreign : owner ≠ some index)
    (bridge : Bridge) : Frame index bridge (Bridge.register owner closed bridge).2 := by
  obtain ⟨fault, -, refused⟩ | ⟨minted, -, registered⟩ := register_cases owner closed bridge
  · rw [refused]
    exact .refl ..
  · rw [registered]
    refine ⟨rfl, ?_, id, owners_enrol ▸ List.prefix_append .., ?_⟩
    · simp [enrol, eventsOf, Event.task?, foreign]
    · intro continuation owned
      have bound : continuation < bridge.continuations.length := by
        simpa [Bridge.owners] using (List.getElem?_eq_some_iff.mp owned).1
      simp [codesAt, enrol, List.getElem?_append_left bound]

section Deeds

variable (different : index ≠ other)

include different

theorem setPhase (phase : Phase) (bridge : Bridge) :
    Frame other bridge (bridge.setPhase index phase) :=
  around [] rfl (by simp [Bridge.setPhase, different]) (List.append_nil _).symm (by simp) id

theorem deed {event : Event} (own : event.task? = some index) (bridge : Bridge) :
    Frame other bridge (bridge.record event) :=
  .record (by simpa [own] using different) bridge

theorem poll (handle : Nat) (bridge : Bridge) :
    Frame other bridge (Bridge.poll index handle bridge).2 := by
  unfold Bridge.poll
  split
  next => exact .refl ..
  next task known =>
    refine trans ?_ (.runPoll ..)
    exact around [.polled index handle] rfl (by simp [Bridge.record, different]) rfl
      (by simp [Event.task?, different]) id

theorem finish (place : Registration) (ending : Ending) (bridge : Bridge) :
    Frame other bridge (bridge.finish index place ending) := by
  have freed : Frame other bridge (bridge.afterFree index place) :=
    around [.withdrawn index (bridge.handles.get? place.handle), .freed index] rfl rfl rfl
      (by simp [Event.task?, different]) id
  cases known : bridge.tasks[index]? with
  | none =>
      have gone : bridge.finish index place ending = bridge.afterFree index place := by
        simp [Bridge.finish, Bridge.afterFree, Bridge.record, known]
      exact gone ▸ freed
  | some task =>
      cases free : task.future.freeFault with
      | none =>
          rw [finish_of_quiet known free]
          exact freed.trans (setPhase different ..)
      | some fault =>
          rw [finish_of_raising known free]
          exact freed.trans ((deed different rfl _).trans (setPhase different ..))

theorem fail (place : Registration) (fault : Fault) (bridge : Bridge) :
    Frame other bridge (bridge.fail index place fault) :=
  (deed different rfl bridge).trans (finish different ..)

theorem complete (place : Registration) (bridge : Bridge) :
    Frame other bridge (bridge.complete index place) := by
  unfold Bridge.complete
  split
  next => exact .refl ..
  next task known =>
    have completed (caller : Caller) : Frame other bridge (bridge.afterComplete index caller) :=
      (deed different rfl bridge).trans
        (around [] rfl rfl (List.append_nil _).symm (by simp) id)
    dsimp only
    split
    next fault caller call => exact (completed caller).trans (fail different ..)
    next raw caller call =>
      have lifted : Frame other bridge
          ((bridge.afterComplete index caller).record (.lifted index raw)) :=
        (completed caller).trans (deed different rfl _)
      split
      next => exact lifted.trans (finish different ..)
      next => exact lifted.trans (fail different ..)

theorem took (owned : bridge.owners[place.continuation]? = some (some index)) (code : Int)
    (rest : List Int) : Frame other bridge (bridge.took index place code rest) :=
  (deed different rfl bridge).trans
    (.setCodes (fun mine => different (by simpa using owned.symm.trans mine)) rest)

theorem pollOn {codes : List Int}
    (owned : bridge.owners[place.continuation]? = some (some index))
    (goesOn : ∀ {next : Bridge}, next.owners[place.continuation]? = some (some index) →
      Frame other next (Bridge.goOn index place codes next)) :
    Frame other bridge (Bridge.pollOn index place codes bridge) := by
  have polled := poll different place.handle bridge
  cases ran : Bridge.poll index place.handle bridge with
  | mk fault next =>
      rw [ran] at polled
      cases fault with
      | some fault =>
          rw [pollOn_of_raising ran]
          exact polled.trans (fail different ..)
      | none =>
          rw [pollOn_of_quiet ran]
          exact polled.trans (goesOn (owner_mono polled.owners owned))

theorem goOn (owned : bridge.owners[place.continuation]? = some (some index))
    (codes : List Int) : Frame other bridge (Bridge.goOn index place codes bridge) := by
  induction codes generalizing bridge with
  | nil => exact setPhase different ..
  | cons code rest ih =>
      have taken := took different owned code rest
      rw [Bridge.goOn]
      split
      next => exact taken.trans (complete different ..)
      next => exact taken.trans (pollOn different (owner_mono taken.owners owned) ih)

theorem begin (bridge : Bridge) : Frame other bridge (bridge.begin index) := by
  have registered := register false (some index) (by simpa using different) bridge
  unfold Bridge.begin
  obtain ⟨fault, -, refused⟩ | ⟨minted, -, enrolled⟩ :=
    register_cases (some index) false bridge
  · simp only [refused]
    exact setPhase different ..
  · rw [enrolled] at registered
    simp only [enrolled]
    exact registered.trans
      (pollOn different (owner_enrol ..) fun owned => goOn different owned [])

/-- A task that is woken takes its codes from a continuation of its own. -/
theorem step (owned : ∀ task place, bridge.tasks[index]? = some task →
      task.phase = .woken place false →
      bridge.owners[place.continuation]? = some (some index)) :
    Frame other bridge (bridge.step index) := by
  unfold Bridge.step
  cases known : bridge.tasks[index]? with
  | none => exact .refl ..
  | some task =>
      cases phase : task.phase with
      | unstarted cancelled =>
          cases cancelled with
          | true => simpa [phase] using setPhase different _ bridge
          | false => simpa [phase] using begin different bridge
      | sleeping place => simpa [phase] using Frame.refl other bridge
      | woken place cancelled =>
          cases cancelled with
          | true => simpa [phase] using finish different place .cancelled bridge
          | false =>
              simpa [phase, wake_eq_goOn] using goOn different (owned task place known phase) _
      | ended ending => simpa [phase] using Frame.refl other bridge

theorem cancel (bridge : Bridge) : Frame other bridge (bridge.cancel index).2 := by
  have asked (phase : Phase) :
      Frame other bridge ((bridge.record (.asked index)).setPhase index phase) :=
    (deed different rfl bridge).trans (setPhase different ..)
  unfold Bridge.cancel
  split
  case h_1 => exact asked _
  case h_2 => exact (asked _).trans (.enqueue ..)
  case h_3 => exact asked _
  case h_4 => exact .refl ..
  case h_5 => exact .refl ..

theorem rouse (continuation : Nat) (bridge : Bridge) :
    Frame other bridge (bridge.rouse index continuation) := by
  unfold Bridge.rouse
  split
  · split
    · exact (setPhase different ..).trans (.enqueue ..)
    · exact .refl ..
  · exact .refl ..

end Deeds

theorem pop {ready : Ready} {rest : List Ready} (first : bridge.ready = ready :: rest)
    (foreign : ready ≠ .step index) : Frame index bridge { bridge with ready := rest } := by
  refine around [] rfl rfl (List.append_nil _).symm (by simp) fun queued => ?_
  rw [first, List.mem_cons] at queued
  exact queued.resolve_left (Ne.symm foreign)

theorem put {continuation : Nat} (foreign : bridge.owners[continuation]? ≠ some (some index))
    (code : Int) : Frame index bridge (bridge.put continuation code) := by
  unfold Bridge.put
  split
  next => exact .refl ..
  next target found =>
    have held := setCodes foreign (target.codes ++ [code])
    dsimp only
    split
    next => exact held
    next owner owned =>
      have different : owner ≠ index := by
        rintro rfl
        exact foreign (by simp [Bridge.owners, found, owned])
      exact held.trans (rouse different ..)

end Frame

end ForeignCall.Bridge
