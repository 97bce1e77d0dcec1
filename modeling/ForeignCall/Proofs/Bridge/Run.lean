import ForeignCall.Bridge
import Mathlib.Logic.Relation

/-! Runs of the bridge. A run is a list of moves; a move is cut into strides, which show every place
inside a turn where a task can stand. What every stride keeps, every run keeps. -/

namespace ForeignCall.Bridge

/-- What may happen to a bridge from outside, and one turn of its queue. -/
inductive Move where
  | start (future : ForeignFuture) (polls : List (List PollAct))
  | register (closed : Bool)
  | callback (route : Route) (handle code : Int)
  | cancel (task : Nat)
  | turn
  | take (continuation : Nat)
  /-- Whatever else is done on the calling side. -/
  | act (change : Caller → Caller)

def Bare (bridge : Bridge) (continuation : Nat) : Prop :=
  bridge.continuations[continuation]?.bind Continuation.owner = none

instance (bridge : Bridge) (continuation : Nat) : Decidable (bridge.Bare continuation) :=
  inferInstanceAs (Decidable (_ = none))

def Move.apply : Move → Bridge → Bridge
  | .start future polls, bridge => bridge.start future polls
  | .register closed, bridge => (Bridge.register none closed bridge).2
  | .callback route handle code, bridge => bridge.routed route handle code
  | .cancel task, bridge => (bridge.cancel task).2
  | .turn, bridge => bridge.turn
  | .take continuation, bridge =>
      if bridge.Bare continuation then (bridge.takeCode continuation).2 else bridge
  | .act change, bridge => { bridge with caller := change bridge.caller }

def run (moves : List Move) (bridge : Bridge) : Bridge :=
  moves.foldl (fun bridge move => move.apply bridge) bridge

/-- Where a task stands inside its turn. -/
inductive Position where
  | chosen
  | looping (place : Registration)
  | polling (place : Registration)
  | awaiting (place : Registration)
  | completing (place : Registration)
  | leaving (place : Registration) (ending : Ending)

/-- A bridge between turns, or inside the turn of a task. -/
structure Moment where
  turn : Option (Nat × Position)
  bridge : Bridge

def beginPoll (bridge : Bridge) (index : Nat) (task : Task) (handle : Nat) : Bridge :=
  { bridge.record (.polled index handle) with
    tasks := bridge.tasks.set index { task with polls := task.polls.tail } }

def afterComplete (bridge : Bridge) (index : Nat) (caller : Caller) : Bridge :=
  { bridge.record (.completed index) with caller }

inductive Stride : Moment → Moment → Prop
  | start (future : ForeignFuture) (polls : List (List PollAct)) (bridge : Bridge) :
      Stride ⟨none, bridge⟩ ⟨none, bridge.start future polls⟩
  | register (closed : Bool) (bridge : Bridge) :
      Stride ⟨none, bridge⟩ ⟨none, (Bridge.register none closed bridge).2⟩
  | callback (handle code : Int) (bridge : Bridge) :
      Stride ⟨none, bridge⟩ ⟨none, bridge.callback handle code⟩
  | cancel (index : Nat) (bridge : Bridge) :
      Stride ⟨none, bridge⟩ ⟨none, (bridge.cancel index).2⟩
  | takeBare {continuation : Nat} {bridge : Bridge} (bare : bridge.Bare continuation) :
      Stride ⟨none, bridge⟩ ⟨none, (bridge.takeCode continuation).2⟩
  | act (change : Caller → Caller) (bridge : Bridge) :
      Stride ⟨none, bridge⟩ ⟨none, { bridge with caller := change bridge.caller }⟩
  | put {continuation : Nat} {code : Int} {rest : List Ready} {bridge : Bridge}
      (first : bridge.ready = .put continuation code :: rest) :
      Stride ⟨none, bridge⟩ ⟨none, { bridge with ready := rest }.put continuation code⟩
  | choose {index : Nat} {rest : List Ready} {bridge : Bridge}
      (first : bridge.ready = .step index :: rest) :
      Stride ⟨none, bridge⟩ ⟨some (index, .chosen), { bridge with ready := rest }⟩
  | pass (index : Nat) (bridge : Bridge) :
      Stride ⟨some (index, .chosen), bridge⟩ ⟨none, bridge⟩
  | drop {index : Nat} {task : Task} {bridge : Bridge}
      (known : bridge.tasks[index]? = some task) (phase : task.phase = .unstarted true) :
      Stride ⟨some (index, .chosen), bridge⟩ ⟨none, bridge.setPhase index (.ended .cancelled)⟩
  | refuse {index : Nat} {task : Task} {fault : Fault} {bridge : Bridge}
      (known : bridge.tasks[index]? = some task) (phase : task.phase = .unstarted false)
      (refused : Bridge.register (some index) false bridge = (.error fault, bridge)) :
      Stride ⟨some (index, .chosen), bridge⟩
        ⟨none, bridge.setPhase index (.ended (.failed fault))⟩
  | begin {index : Nat} {task : Task} {place : Registration} {bridge next : Bridge}
      (known : bridge.tasks[index]? = some task) (phase : task.phase = .unstarted false)
      (registered : Bridge.register (some index) false bridge = (.ok place, next)) :
      Stride ⟨some (index, .chosen), bridge⟩ ⟨some (index, .looping place), next⟩
  | resume {index : Nat} {task : Task} {place : Registration} {bridge : Bridge}
      (known : bridge.tasks[index]? = some task) (phase : task.phase = .woken place false) :
      Stride ⟨some (index, .chosen), bridge⟩ ⟨some (index, .awaiting place), bridge⟩
  | stop {index : Nat} {task : Task} {place : Registration} {bridge : Bridge}
      (known : bridge.tasks[index]? = some task) (phase : task.phase = .woken place true) :
      Stride ⟨some (index, .chosen), bridge⟩ ⟨some (index, .leaving place .cancelled), bridge⟩
  | poll {index : Nat} {task : Task} {bridge : Bridge} (place : Registration)
      (known : bridge.tasks[index]? = some task) :
      Stride ⟨some (index, .looping place), bridge⟩
        ⟨some (index, .polling place), bridge.beginPoll index task place.handle⟩
  | answer (index : Nat) (place : Registration) (handle code : Int) (bridge : Bridge) :
      Stride ⟨some (index, .polling place), bridge⟩
        ⟨some (index, .polling place), bridge.callback handle code⟩
  | polled (index : Nat) (place : Registration) (bridge : Bridge) :
      Stride ⟨some (index, .polling place), bridge⟩ ⟨some (index, .awaiting place), bridge⟩
  | pollRaises (index : Nat) (place : Registration) (fault : Fault) (bridge : Bridge) :
      Stride ⟨some (index, .polling place), bridge⟩
        ⟨some (index, .leaving place (.failed fault)), bridge.record (.raised index fault)⟩
  | take {index : Nat} {place : Registration} {code : Int} {rest : List Int} {bridge : Bridge}
      (held : bridge.codesAt place.continuation = code :: rest) (other : code ≠ pollReady) :
      Stride ⟨some (index, .awaiting place), bridge⟩
        ⟨some (index, .looping place), bridge.took index place code rest⟩
  | takeReady {index : Nat} {place : Registration} {rest : List Int} {bridge : Bridge}
      (held : bridge.codesAt place.continuation = pollReady :: rest) :
      Stride ⟨some (index, .awaiting place), bridge⟩
        ⟨some (index, .completing place), bridge.took index place pollReady rest⟩
  | sleep {index : Nat} {place : Registration} {bridge : Bridge}
      (held : bridge.codesAt place.continuation = []) :
      Stride ⟨some (index, .awaiting place), bridge⟩
        ⟨none, bridge.setPhase index (.sleeping place)⟩
  | completeRaises {index : Nat} {task : Task} {place : Registration} {fault : Fault}
      {caller : Caller} {bridge : Bridge} (known : bridge.tasks[index]? = some task)
      (call : Call.raising Caller.free task.future.lifter task.future.complete bridge.caller =
        (.error fault, caller)) :
      Stride ⟨some (index, .completing place), bridge⟩
        ⟨some (index, .leaving place (.failed fault)),
          (bridge.afterComplete index caller).record (.raised index fault)⟩
  | lift {index : Nat} {task : Task} {place : Registration} {raw value : Datum}
      {caller : Caller} {bridge : Bridge} (known : bridge.tasks[index]? = some task)
      (call : Call.raising Caller.free task.future.lifter task.future.complete bridge.caller =
        (.ok raw, caller))
      (lifted : task.future.lift raw = .ok value) :
      Stride ⟨some (index, .completing place), bridge⟩
        ⟨some (index, .leaving place (.returned value)),
          (bridge.afterComplete index caller).record (.lifted index raw)⟩
  | liftRaises {index : Nat} {task : Task} {place : Registration} {raw : Datum} {fault : Fault}
      {caller : Caller} {bridge : Bridge} (known : bridge.tasks[index]? = some task)
      (call : Call.raising Caller.free task.future.lifter task.future.complete bridge.caller =
        (.ok raw, caller))
      (lifted : task.future.lift raw = .error fault) :
      Stride ⟨some (index, .completing place), bridge⟩
        ⟨some (index, .leaving place (.failed fault)),
          ((bridge.afterComplete index caller).record (.lifted index raw)).record
            (.raised index fault)⟩
  | leave (index : Nat) (place : Registration) (ending : Ending) (bridge : Bridge) :
      Stride ⟨some (index, .leaving place ending), bridge⟩
        ⟨none, bridge.finish index place ending⟩

abbrev Strides : Moment → Moment → Prop :=
  Relation.ReflTransGen Stride

def handlesAfter (bridge : Bridge) (handle code : Int) : HandleMap Nat :=
  if code = pollReady then (bridge.handles.remove handle).2 else bridge.handles

def afterCall (bridge : Bridge) (handle code : Int) : Bridge :=
  { bridge with handles := bridge.handlesAfter handle code }.record (.called handle code)

theorem callback_of_unknown {bridge : Bridge} {handle : Int} (code : Int)
    (unknown : bridge.handles.get? handle = none) :
    bridge.callback handle code =
      (bridge.afterCall handle code).notify [.unknownContinuation code handle] := by
  by_cases ready : code = pollReady <;>
    simp [callback, afterCall, handlesAfter, ready, unknown]

theorem callback_of_known {bridge : Bridge} {handle : Int} {continuation : Nat} (code : Int)
    (known : bridge.handles.get? handle = some continuation) :
    bridge.callback handle code =
      ((bridge.afterCall handle code).record (.delivered continuation code)).resume
        continuation code := by
  by_cases ready : code = pollReady <;>
    simp [callback, afterCall, handlesAfter, ready, known]

private theorem resume_frame (bridge : Bridge) (continuation : Nat) (code : Int) :
    (bridge.resume continuation code).handles = bridge.handles ∧
      (bridge.resume continuation code).continuations = bridge.continuations ∧
      (bridge.resume continuation code).tasks = bridge.tasks ∧
      (bridge.resume continuation code).events = bridge.events := by
  unfold resume
  split
  · exact ⟨rfl, rfl, rfl, rfl⟩
  · split <;> exact ⟨rfl, rfl, rfl, rfl⟩

theorem callback_tasks (bridge : Bridge) (handle code : Int) :
    (bridge.callback handle code).tasks = bridge.tasks := by
  cases found : bridge.handles.get? handle with
  | none => rw [callback_of_unknown code found]; rfl
  | some continuation => rw [callback_of_known code found]; exact (resume_frame ..).2.2.1

theorem callback_continuations (bridge : Bridge) (handle code : Int) :
    (bridge.callback handle code).continuations = bridge.continuations := by
  cases found : bridge.handles.get? handle with
  | none => rw [callback_of_unknown code found]; rfl
  | some continuation => rw [callback_of_known code found]; exact (resume_frame ..).2.1

theorem callback_handles (bridge : Bridge) (handle code : Int) :
    (bridge.callback handle code).handles = bridge.handlesAfter handle code := by
  cases found : bridge.handles.get? handle with
  | none => rw [callback_of_unknown code found]; rfl
  | some continuation => rw [callback_of_known code found]; exact (resume_frame ..).1

def arrivals (bridge : Bridge) (handle code : Int) : List Event :=
  .called handle code ::
    ((bridge.handles.get? handle).map fun continuation => .delivered continuation code).toList

theorem callback_events (bridge : Bridge) (handle code : Int) :
    (bridge.callback handle code).events = bridge.events ++ bridge.arrivals handle code := by
  cases found : bridge.handles.get? handle with
  | none =>
      rw [callback_of_unknown code found]
      simp [arrivals, found, afterCall, record, notify]
  | some continuation =>
      rw [callback_of_known code found, (resume_frame ..).2.2.2]
      simp [arrivals, found, afterCall, record]

/-- Whatever foreign code does while it is polled, it stays inside the poll until it raises. -/
private theorem runPoll_strides (index : Nat) (place : Registration) (route : Route)
    (handle : Nat) :
    ∀ (acts : List PollAct) (bridge : Bridge),
      Strides ⟨some (index, .polling place), bridge⟩
          ⟨some (index, .polling place), (runPoll route handle acts bridge).2⟩ ∧
        (runPoll route handle acts bridge).2.tasks = bridge.tasks ∧
        (runPoll route handle acts bridge).2.continuations = bridge.continuations
  | [], bridge => ⟨.refl, rfl, rfl⟩
  | .answer code :: rest, bridge => by
      obtain ⟨strides, tasks, continuations⟩ :=
        runPoll_strides index place route handle rest (bridge.routed route handle code)
      exact ⟨.head (.answer index place _ _ bridge) strides,
        tasks.trans (callback_tasks ..), continuations.trans (callback_continuations ..)⟩
  | .deliver target code :: rest, bridge => by
      obtain ⟨strides, tasks, continuations⟩ :=
        runPoll_strides index place route handle rest (bridge.routed route target code)
      exact ⟨.head (.answer index place _ _ bridge) strides,
        tasks.trans (callback_tasks ..), continuations.trans (callback_continuations ..)⟩
  | .raise _ :: _, bridge => ⟨.refl, rfl, rfl⟩

private theorem poll_strides {index : Nat} {task : Task} {bridge : Bridge} (place : Registration)
    (known : bridge.tasks[index]? = some task) :
    Strides ⟨some (index, .looping place), bridge⟩
        ⟨some (index, .polling place), (poll index place.handle bridge).2⟩ ∧
      (poll index place.handle bridge).2.tasks.length = bridge.tasks.length ∧
      (poll index place.handle bridge).2.continuations = bridge.continuations := by
  obtain ⟨strides, tasks, continuations⟩ :=
    runPoll_strides index place task.future.route place.handle (task.polls.headD [])
      (bridge.beginPoll index task place.handle)
  have begun : poll index place.handle bridge =
      runPoll task.future.route place.handle (task.polls.headD [])
        (bridge.beginPoll index task place.handle) := by
    simp only [poll, known]
    rfl
  rw [begun]
  refine ⟨.head (.poll place known) strides, ?_, continuations⟩
  rw [tasks]
  exact List.length_set

private theorem complete_strides {index : Nat} {task : Task} {bridge : Bridge}
    (place : Registration) (known : bridge.tasks[index]? = some task) :
    Strides ⟨some (index, .completing place), bridge⟩
      ⟨none, bridge.complete index place⟩ := by
  unfold complete
  simp only [known]
  split
  next fault caller call =>
    exact .head (.completeRaises known call) (.single (.leave index place _ _))
  next raw caller call =>
    split
    next value lifted => exact .head (.lift known call lifted) (.single (.leave index place _ _))
    next fault lifted =>
      exact .head (.liftRaises known call lifted) (.single (.leave index place _ _))

theorem codesAt_congr {left right : Bridge} (same : left.continuations = right.continuations)
    (continuation : Nat) : left.codesAt continuation = right.codesAt continuation := by
  simp only [codesAt, same]

theorem codesAt_took {bridge : Bridge} {place : Registration} {code : Int} {rest : List Int}
    (index : Nat) (held : bridge.codesAt place.continuation = code :: rest) :
    (bridge.took index place code rest).codesAt place.continuation = rest := by
  unfold codesAt at held ⊢
  cases found : bridge.continuations[place.continuation]? with
  | none => simp [found] at held
  | some target => simp [took, setCodes, record, found]

private theorem fail_strides (index : Nat) (place : Registration) (fault : Fault)
    (bridge : Bridge) :
    Strides ⟨some (index, .polling place), bridge⟩ ⟨none, bridge.fail index place fault⟩ :=
  .head (.pollRaises index place fault bridge) (.single (.leave index place _ _))

/-- A task loops over the codes at hand: these are the ones its continuation holds. -/
private theorem pollOn_strides (index : Nat) (place : Registration) :
    ∀ (codes : List Int) (bridge : Bridge), index < bridge.tasks.length →
      bridge.codesAt place.continuation = codes →
      Strides ⟨some (index, .looping place), bridge⟩ ⟨none, pollOn index place codes bridge⟩
  | [], bridge, bound, held => by
      obtain ⟨strides, _, continuations⟩ :=
        poll_strides place (List.getElem?_eq_getElem bound)
      rw [pollOn]
      split
      next fault next polled =>
        rw [polled] at strides
        exact strides.trans (fail_strides index place fault next)
      next next polled =>
        rw [polled] at strides continuations
        have noneHeld : next.codesAt place.continuation = [] :=
          (codesAt_congr continuations _).trans held
        exact strides.trans (.head (.polled index place next) (.single (.sleep noneHeld)))
  | code :: rest, bridge, bound, held => by
      have known := List.getElem?_eq_getElem bound
      obtain ⟨strides, tasks, continuations⟩ := poll_strides place known
      rw [pollOn]
      split
      next fault next polled =>
        rw [polled] at strides
        exact strides.trans (fail_strides index place fault next)
      next next polled =>
        rw [polled] at strides continuations tasks
        have stillHeld : next.codesAt place.continuation = code :: rest :=
          (codesAt_congr continuations _).trans held
        have strides := strides.tail (.polled index place next)
        have bound' : index < (next.took index place code rest).tasks.length := by
          simpa only [took, setCodes, record, tasks] using bound
        split
        next ready =>
          subst ready
          exact strides.trans (.head (.takeReady stillHeld)
            (complete_strides place (List.getElem?_eq_getElem bound')))
        next other =>
          exact strides.trans (.head (.take stillHeld other)
            (pollOn_strides index place rest _ bound' (codesAt_took index stillHeld)))

def enrol (owner : Option Nat) (closed : Bool) (minted : HandleMap.Minted Nat) (bridge : Bridge) :
    Bridge :=
  { bridge with
    caller := bridge.caller.notify minted.notices
    handles := minted.map
    continuations := bridge.continuations ++ [⟨[], owner, closed⟩]
    events := bridge.events ++
      [.registered owner ⟨bridge.continuations.length, minted.handle⟩] }

theorem register_cases (owner : Option Nat) (closed : Bool) (bridge : Bridge) :
    (∃ fault, bridge.handles.insert bridge.caller.width bridge.continuations.length =
        .error fault ∧ Bridge.register owner closed bridge = (.error fault, bridge)) ∨
      ∃ minted, bridge.handles.insert bridge.caller.width bridge.continuations.length =
          .ok minted ∧
        Bridge.register owner closed bridge =
          (.ok ⟨bridge.continuations.length, minted.handle⟩,
            bridge.enrol owner closed minted) := by
  unfold Bridge.register
  dsimp only
  split
  next fault inserted => exact .inl ⟨fault, inserted, rfl⟩
  next minted inserted => exact .inr ⟨minted, inserted, rfl⟩

def afterFree (bridge : Bridge) (index : Nat) (place : Registration) : Bridge :=
  { bridge with
    handles := (bridge.handles.remove place.handle).2
    events := bridge.events ++
      [.withdrawn index (bridge.handles.get? place.handle), .freed index] }

theorem finish_of_quiet {bridge : Bridge} {index : Nat} {task : Task} {place : Registration}
    {ending : Ending} (known : bridge.tasks[index]? = some task)
    (quiet : task.future.freeFault = none) :
    bridge.finish index place ending =
      (bridge.afterFree index place).setPhase index (.ended ending) := by
  simp [finish, record, known, quiet, afterFree]

theorem finish_of_raising {bridge : Bridge} {index : Nat} {task : Task} {place : Registration}
    {ending : Ending} {fault : Fault} (known : bridge.tasks[index]? = some task)
    (raises : task.future.freeFault = some fault) :
    bridge.finish index place ending =
      ((bridge.afterFree index place).record (.raised index fault)).setPhase index
        (.ended (.failed fault)) := by
  simp [finish, record, known, raises, afterFree]

private theorem wake_strides {index : Nat} (place : Registration) {bridge : Bridge}
    (bound : index < bridge.tasks.length) :
    Strides ⟨some (index, .awaiting place), bridge⟩ ⟨none, bridge.wake index place⟩ := by
  unfold wake
  split
  next held => exact .single (.sleep held)
  next code rest held =>
    have bound' : index < (bridge.took index place code rest).tasks.length := bound
    dsimp only
    split
    next ready =>
      subst ready
      exact .head (.takeReady held) (complete_strides place (List.getElem?_eq_getElem bound'))
    next other =>
      exact .head (.take held other)
        (pollOn_strides index place rest _ bound' (codesAt_took index held))

private theorem begin_strides {index : Nat} {task : Task} {bridge : Bridge}
    (known : bridge.tasks[index]? = some task) (phase : task.phase = .unstarted false) :
    Strides ⟨some (index, .chosen), bridge⟩ ⟨none, bridge.begin index⟩ := by
  unfold begin
  obtain ⟨fault, -, refused⟩ | ⟨minted, -, registered⟩ :=
    register_cases (some index) false bridge
  · simp only [refused]
    exact .single (.refuse known phase refused)
  · simp only [registered]
    have bound : index < bridge.tasks.length := (List.getElem?_eq_some_iff.mp known).1
    refine .head (.begin known phase registered) (pollOn_strides index _ [] _ bound ?_)
    simp [codesAt, enrol]

private theorem step_strides (index : Nat) (bridge : Bridge) :
    Strides ⟨some (index, .chosen), bridge⟩ ⟨none, bridge.step index⟩ := by
  unfold step
  cases known : bridge.tasks[index]? with
  | none => exact .single (.pass index bridge)
  | some task =>
      have bound : index < bridge.tasks.length := (List.getElem?_eq_some_iff.mp known).1
      cases phase : task.phase with
      | unstarted cancelled =>
          cases cancelled with
          | true => simpa [phase] using .single (.drop known phase)
          | false => simpa [phase] using begin_strides known phase
      | sleeping place => simpa [phase] using .single (.pass index bridge)
      | woken place cancelled =>
          cases cancelled with
          | true =>
              simpa [phase] using
                .head (.stop known phase) (.single (.leave index place .cancelled bridge))
          | false =>
              simpa [phase] using .head (.resume known phase) (wake_strides place bound)
      | ended ending => simpa [phase] using .single (.pass index bridge)

theorem turn_strides (bridge : Bridge) : Strides ⟨none, bridge⟩ ⟨none, bridge.turn⟩ := by
  unfold turn
  split
  next => exact .refl
  next index rest first => exact .head (.choose first) (step_strides index _)
  next continuation code rest first => exact .single (.put first)

theorem Move.strides (move : Move) (bridge : Bridge) :
    Strides ⟨none, bridge⟩ ⟨none, move.apply bridge⟩ := by
  cases move with
  | start future polls => exact .single (.start future polls bridge)
  | register closed => exact .single (.register closed bridge)
  | callback route handle code => exact .single (.callback _ _ bridge)
  | cancel index => exact .single (.cancel index bridge)
  | turn => exact turn_strides bridge
  | take continuation =>
      simp only [apply]
      split
      next bare => exact .single (.takeBare bare)
      next => exact .refl
  | act change => exact .single (.act change bridge)

theorem run_strides (moves : List Move) (bridge : Bridge) :
    Strides ⟨none, bridge⟩ ⟨none, run moves bridge⟩ := by
  induction moves generalizing bridge with
  | nil => exact .refl
  | cons move rest ih => exact (move.strides bridge).trans (ih (move.apply bridge))

theorem Strides.keep {Holds : Moment → Prop}
    (keeps : ∀ before after, Stride before after → Holds before → Holds after)
    {first last : Moment} (strides : Strides first last) (initially : Holds first) :
    Holds last := by
  induction strides with
  | refl => exact initially
  | tail _ stride holds => exact keeps _ _ stride holds

/-- What holds at the end and did not at the beginning began to hold in one stride on the way. -/
theorem Strides.exists_change {first last : Moment} (strides : Strides first last)
    (Holds : Moment → Prop) (initially : ¬ Holds first) (eventually : Holds last) :
    ∃ before after, Strides first before ∧ Stride before after ∧ ¬ Holds before ∧ Holds after ∧
      Strides after last := by
  induction strides with
  | refl => exact absurd eventually initially
  | @tail middle last strides stride ih =>
      by_cases earlier : Holds middle
      · obtain ⟨before, after, reached, change, not, now, rest⟩ := ih earlier
        exact ⟨before, after, reached, change, not, now, rest.tail stride⟩
      · exact ⟨middle, last, strides, stride, earlier, eventually, .refl⟩

/-- What every stride keeps holds after every run. -/
theorem run_keeps {Holds : Moment → Prop}
    (keeps : ∀ before after, Stride before after → Holds before → Holds after)
    {bridge : Bridge} (initially : Holds ⟨none, bridge⟩) (moves : List Move) :
    Holds ⟨none, run moves bridge⟩ :=
  (run_strides moves bridge).keep keeps initially

end ForeignCall.Bridge
