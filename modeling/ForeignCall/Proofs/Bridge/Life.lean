import ForeignCall.Proofs.Bridge.Run
import Mathlib.Data.List.Basic

/-! The life of one task, from the events that are its own. Whatever happens around it, a task does
one thing after another in a fixed order, and this order says what it has done at every stage. -/

namespace ForeignCall

namespace Event

def task? : Event → Option Nat
  | .registered owner _ => owner
  | .called _ _ => none
  | .delivered _ _ => none
  | .polled task _ => some task
  | .took task _ => some task
  | .completed task => some task
  | .lifted task _ => some task
  | .raised task _ => some task
  | .asked task => some task
  | .withdrawn task _ => some task
  | .freed task => some task

end Event

namespace Bridge

def eventsOf (index : Nat) (events : List Event) : List Event :=
  events.filter fun event => event.task? = some index

@[simp] theorem eventsOf_append (index : Nat) (first second : List Event) :
    eventsOf index (first ++ second) = eventsOf index first ++ eventsOf index second :=
  List.filter_append ..

theorem eventsOf_eq_self {index : Nat} {events : List Event}
    (own : ∀ event ∈ events, event.task? = some index) : eventsOf index events = events := by
  simpa [eventsOf] using own

theorem eventsOf_eq_nil {index : Nat} {events : List Event}
    (foreign : ∀ event ∈ events, event.task? ≠ some index) : eventsOf index events = [] := by
  simpa [eventsOf] using foreign

theorem mem_eventsOf {index : Nat} {events : List Event} {event : Event} :
    event ∈ eventsOf index events ↔ event ∈ events ∧ event.task? = some index := by
  simp [eventsOf]

/-- How far a task has come. -/
inductive Stage where
  | unstarted (cancelled : Bool)
  /-- Ended without a registration. -/
  | unregistered (ending : Ending)
  | looping (place : Registration)
  | polling (place : Registration)
  | awaiting (place : Registration) (cancelled : Bool)
  | completing (place : Registration)
  | leaving (place : Registration) (ending : Ending)
  | ended (place : Registration) (ending : Ending)

def Stage.place? : Stage → Option Registration
  | .unstarted _ => none
  | .unregistered _ => none
  | .looping place => some place
  | .polling place => some place
  | .awaiting place _ => some place
  | .completing place => some place
  | .leaving place _ => some place
  | .ended place _ => some place

/-- What a task may do, in order, and the stage each deed leads to. -/
inductive Life (index : Nat) (future : ForeignFuture) : Stage → List Event → Prop
  | fresh : Life index future (.unstarted false) []
  | askEarly {cancelled : Bool} {past : List Event}
      (life : Life index future (.unstarted cancelled) past) :
      Life index future (.unstarted true) (past ++ [.asked index])
  | endEarly {cancelled : Bool} {past : List Event} (ending : Ending)
      (life : Life index future (.unstarted cancelled) past) :
      Life index future (.unregistered ending) past
  | register {past : List Event} (place : Registration)
      (life : Life index future (.unstarted false) past) :
      Life index future (.looping place) (past ++ [.registered (some index) place])
  | poll {place : Registration} {past : List Event}
      (life : Life index future (.looping place) past) :
      Life index future (.polling place) (past ++ [.polled index place.handle])
  | polled {place : Registration} {past : List Event}
      (life : Life index future (.polling place) past) :
      Life index future (.awaiting place false) past
  | pollRaises {place : Registration} {past : List Event} (fault : Fault)
      (life : Life index future (.polling place) past) :
      Life index future (.leaving place (.failed fault)) (past ++ [.raised index fault])
  | take {place : Registration} {past : List Event} {code : Int} (other : code ≠ pollReady)
      (life : Life index future (.awaiting place false) past) :
      Life index future (.looping place) (past ++ [.took index code])
  | takeReady {place : Registration} {past : List Event}
      (life : Life index future (.awaiting place false) past) :
      Life index future (.completing place) (past ++ [.took index pollReady])
  | ask {place : Registration} {cancelled : Bool} {past : List Event}
      (life : Life index future (.awaiting place cancelled) past) :
      Life index future (.awaiting place true) (past ++ [.asked index])
  | stop {place : Registration} {past : List Event}
      (life : Life index future (.awaiting place true) past) :
      Life index future (.leaving place .cancelled) past
  | completeRaises {place : Registration} {past : List Event} (fault : Fault)
      (life : Life index future (.completing place) past) :
      Life index future (.leaving place (.failed fault))
        (past ++ [.completed index, .raised index fault])
  | lift {place : Registration} {past : List Event} {raw value : Datum} {caller : Caller}
      (call : (Call.raising Caller.free future.lifter future.complete caller).1 = .ok raw)
      (lifted : future.lift raw = .ok value)
      (life : Life index future (.completing place) past) :
      Life index future (.leaving place (.returned value))
        (past ++ [.completed index, .lifted index raw])
  | liftRaises {place : Registration} {past : List Event} (raw : Datum) (fault : Fault)
      (life : Life index future (.completing place) past) :
      Life index future (.leaving place (.failed fault))
        (past ++ [.completed index, .lifted index raw, .raised index fault])
  | leave {place : Registration} {ending : Ending} {past : List Event} (found : Option Nat)
      (life : Life index future (.leaving place ending) past) :
      Life index future (.ended place ending) (past ++ [.withdrawn index found, .freed index])
  | leaveRaises {place : Registration} {ending : Ending} {past : List Event}
      (found : Option Nat) (fault : Fault)
      (life : Life index future (.leaving place ending) past) :
      Life index future (.ended place (.failed fault))
        (past ++ [.withdrawn index found, .freed index, .raised index fault])

/-- The stages that a task in a phase may have reached, between its turns. -/
inductive Stands : Phase → Stage → Prop
  | unstarted (cancelled : Bool) : Stands (.unstarted cancelled) (.unstarted cancelled)
  | sleeping (place : Registration) : Stands (.sleeping place) (.awaiting place false)
  | woken (place : Registration) (cancelled : Bool) :
      Stands (.woken place cancelled) (.awaiting place cancelled)
  | unregistered (ending : Ending) : Stands (.ended ending) (.unregistered ending)
  | ended (place : Registration) (ending : Ending) :
      Stands (.ended ending) (.ended place ending)

def Position.place? : Position → Option Registration
  | .chosen => none
  | .looping place => some place
  | .polling place => some place
  | .awaiting place => some place
  | .completing place => some place
  | .leaving place _ => some place

def Position.Stands (phase : Phase) (stage : Stage) : Position → Prop
  | .chosen => Bridge.Stands phase stage
  | .looping place => stage = .looping place
  | .polling place => stage = .polling place
  | .awaiting place => stage = .awaiting place false
  | .completing place => stage = .completing place
  | .leaving place ending => stage = .leaving place ending

def Moment.Stands (moment : Moment) (index : Nat) (phase : Phase) (stage : Stage) : Prop :=
  match moment.turn with
  | none => Bridge.Stands phase stage
  | some (current, position) =>
      if current = index then position.Stands phase stage else Bridge.Stands phase stage

/-- Every task lives as it may. -/
structure Lives (moment : Moment) : Prop where
  life : ∀ index task, moment.bridge.tasks[index]? = some task →
    ∃ stage, moment.Stands index task.phase stage ∧
      Life index task.future stage (eventsOf index moment.bridge.events)
  absent : ∀ index, moment.bridge.tasks.length ≤ index →
    eventsOf index moment.bridge.events = []
  busy : ∀ index position, moment.turn = some (index, position) → position ≠ .chosen →
    index < moment.bridge.tasks.length

def Moment.IsOf (moment : Moment) (index : Nat) : Prop :=
  ∀ current position, moment.turn = some (current, position) → current = index

theorem isOf_none (index : Nat) (bridge : Bridge) :
    Moment.IsOf ⟨none, bridge⟩ index := by
  simp [Moment.IsOf]

theorem isOf_some (index : Nat) (position : Position) (bridge : Bridge) :
    Moment.IsOf ⟨some (index, position), bridge⟩ index := by
  simp +contextual [Moment.IsOf]

theorem Moment.IsOf.stands_iff {moment : Moment} {index other : Nat} (turn : moment.IsOf index)
    (different : other ≠ index) (phase : Phase) (stage : Stage) :
    moment.Stands other phase stage ↔ Bridge.Stands phase stage := by
  obtain ⟨_ | ⟨current, position⟩, bridge⟩ := moment
  · rfl
  · obtain rfl := turn current position rfl
    simp [Moment.Stands, Ne.symm different]

@[simp] theorem stands_none (index : Nat) (bridge : Bridge) (phase : Phase) (stage : Stage) :
    Moment.Stands ⟨none, bridge⟩ index phase stage ↔ Stands phase stage :=
  Iff.rfl

@[simp] theorem stands_some (index : Nat) (position : Position) (bridge : Bridge) (phase : Phase)
    (stage : Stage) :
    Moment.Stands ⟨some (index, position), bridge⟩ index phase stage ↔
      position.Stands phase stage := by
  simp [Moment.Stands]

/-- One task acts, and its deeds are part of its life. -/
private theorem Lives.advance {before after : Moment} (lives : Lives before) {index : Nat}
    {task next : Task} (events : List Event) (known : before.bridge.tasks[index]? = some task)
    (tasks : after.bridge.tasks = before.bridge.tasks.set index next)
    (future : next.future = task.future)
    (record : after.bridge.events = before.bridge.events ++ events)
    (own : ∀ event ∈ events, event.task? = some index)
    (first : before.IsOf index) (last : after.IsOf index)
    (deed : ∀ stage past, before.Stands index task.phase stage →
      Life index task.future stage past →
      ∃ stage', after.Stands index next.phase stage' ∧
        Life index task.future stage' (past ++ events)) :
    Lives after := by
  have foreign : ∀ other, other ≠ index →
      eventsOf other after.bridge.events = eventsOf other before.bridge.events := by
    intro other different
    have none : eventsOf other events = [] := eventsOf_eq_nil fun event member same =>
      different (Option.some.inj (same.symm.trans (own event member)))
    rw [record, eventsOf_append, none, List.append_nil]
  have bound := (List.getElem?_eq_some_iff.mp known).1
  refine ⟨?_, ?_, ?_⟩
  · intro other found lookup
    rw [tasks] at lookup
    by_cases same : other = index
    · subst other
      obtain rfl : next = found := by simpa [bound] using lookup
      obtain ⟨stage, stands, life⟩ := lives.life index task known
      obtain ⟨stage', stands', life'⟩ := deed stage _ stands life
      rw [record, eventsOf_append, eventsOf_eq_self own, future]
      exact ⟨stage', stands', life'⟩
    · -- The other tasks keep their events, and it was not their turn.
      rw [List.getElem?_set_ne (Ne.symm same)] at lookup
      obtain ⟨stage, stands, life⟩ := lives.life other found lookup
      rw [first.stands_iff same] at stands
      rw [foreign other same]
      exact ⟨stage, (last.stands_iff same _ _).mpr stands, life⟩
  · intro other beyond
    rw [tasks, List.length_set] at beyond
    rw [foreign other (by omega), lives.absent other beyond]
  · intro current position turn _
    obtain rfl := last current position turn
    rw [tasks, List.length_set]
    exact bound

private theorem Lives.proceed {before after : Moment} (lives : Lives before) {index : Nat}
    {task : Task} (events : List Event) (known : before.bridge.tasks[index]? = some task)
    (tasks : after.bridge.tasks = before.bridge.tasks)
    (record : after.bridge.events = before.bridge.events ++ events)
    (own : ∀ event ∈ events, event.task? = some index)
    (first : before.IsOf index) (last : after.IsOf index)
    (deed : ∀ stage past, before.Stands index task.phase stage →
      Life index task.future stage past →
      ∃ stage', after.Stands index task.phase stage' ∧
        Life index task.future stage' (past ++ events)) :
    Lives after := by
  refine lives.advance events known ?_ rfl record own first last deed
  obtain ⟨bound, rfl⟩ := List.getElem?_eq_some_iff.mp known
  rw [tasks, List.set_getElem_self]

private theorem Lives.frame {before after : Moment} (lives : Lives before)
    (events : List Event) (tasks : after.bridge.tasks = before.bridge.tasks)
    (record : after.bridge.events = before.bridge.events ++ events)
    (foreign : ∀ event ∈ events, event.task? = none) (turn : after.turn = before.turn) :
    Lives after := by
  have same : ∀ index,
      eventsOf index after.bridge.events = eventsOf index before.bridge.events := by
    intro index
    have none : eventsOf index events = [] := eventsOf_eq_nil fun event member own => by
      simp [foreign event member] at own
    rw [record, eventsOf_append, none, List.append_nil]
  have stands : after.Stands = before.Stands := by
    funext index phase stage
    simp only [Moment.Stands, turn]
  refine ⟨?_, ?_, ?_⟩
  · intro index task known
    rw [tasks] at known
    rw [same, stands]
    exact lives.life index task known
  · intro index beyond
    rw [tasks] at beyond
    rw [same]
    exact lives.absent index beyond
  · intro index position current chosen
    rw [turn] at current
    rw [tasks]
    exact lives.busy index position current chosen

theorem setPhase_tasks {bridge : Bridge} {index : Nat} {task : Task}
    (known : bridge.tasks[index]? = some task) (phase : Phase) :
    (bridge.setPhase index phase).tasks = bridge.tasks.set index { task with phase } := by
  simp [setPhase, List.modify_eq_set_getElem?, known]

theorem arrivals_foreign {bridge : Bridge} {handle code : Int} :
    ∀ event ∈ bridge.arrivals handle code, event.task? = none := by
  cases found : bridge.handles.get? handle <;> simp [arrivals, found, Event.task?]

private theorem Lives.callback {turn : Option (Nat × Position)} {bridge : Bridge}
    (lives : Lives ⟨turn, bridge⟩) (handle code : Int) :
    Lives ⟨turn, bridge.callback handle code⟩ :=
  lives.frame _ (callback_tasks bridge handle code) (callback_events bridge handle code)
    arrivals_foreign rfl

private theorem Lives.start {bridge : Bridge} (lives : Lives ⟨none, bridge⟩)
    (future : ForeignFuture) (polls : List (List PollAct)) :
    Lives ⟨none, bridge.start future polls⟩ := by
  have tasks : (bridge.start future polls).tasks =
      bridge.tasks ++ [⟨future, polls, .unstarted false⟩] := rfl
  refine ⟨?_, ?_, by simp⟩
  · intro index task known
    rw [tasks] at known
    by_cases old : index < bridge.tasks.length
    · rw [List.getElem?_append_left old] at known
      exact lives.life index task known
    · have new : index = bridge.tasks.length := by
        have := (List.getElem?_eq_some_iff.mp known).1
        simp only [List.length_append, List.length_singleton] at this
        omega
      subst new
      obtain rfl : (⟨future, polls, .unstarted false⟩ : Task) = task := by simpa using known
      refine ⟨.unstarted false, .unstarted false, ?_⟩
      have nothing := lives.absent bridge.tasks.length (Nat.le_refl _)
      exact nothing ▸ .fresh
  · intro index beyond
    rw [tasks, List.length_append] at beyond
    exact lives.absent index (Nat.le_of_add_right_le beyond)

private theorem Lives.ask {bridge after : Bridge} (lives : Lives ⟨none, bridge⟩) {index : Nat}
    {task : Task} (known : bridge.tasks[index]? = some task) {phase : Phase}
    (tasks : after.tasks = ((bridge.record (.asked index)).setPhase index phase).tasks)
    (record : after.events = bridge.events ++ [.asked index])
    (deed : ∀ stage past, Stands task.phase stage → Life index task.future stage past →
      ∃ stage', Stands phase stage' ∧
        Life index task.future stage' (past ++ [.asked index])) :
    Lives ⟨none, after⟩ :=
  lives.advance [.asked index] known (tasks.trans (setPhase_tasks known phase)) rfl record
    (by simp [Event.task?]) (isOf_none _ _) (isOf_none _ _) deed

private theorem Lives.cancel {bridge : Bridge} (lives : Lives ⟨none, bridge⟩) (index : Nat) :
    Lives ⟨none, (bridge.cancel index).2⟩ := by
  unfold Bridge.cancel
  cases known : bridge.tasks[index]? with
  | none => simpa using lives
  | some task =>
      cases phase : task.phase with
      | unstarted cancelled =>
          simp only [Option.map_some, phase]
          refine lives.ask known rfl rfl fun stage past stands life => ?_
          rw [phase] at stands
          cases stands with
          | unstarted => exact ⟨_, .unstarted true, .askEarly life⟩
      | sleeping place =>
          simp only [Option.map_some, phase]
          have tasks : (((bridge.record (.asked index)).setPhase index (.woken place true)).enqueue
              (.step index)).tasks =
              ((bridge.record (.asked index)).setPhase index (.woken place true)).tasks := rfl
          refine lives.ask known tasks rfl fun stage past stands life => ?_
          rw [phase] at stands
          cases stands with
          | sleeping => exact ⟨_, .woken place true, .ask life⟩
      | woken place cancelled =>
          simp only [Option.map_some, phase]
          refine lives.ask known rfl rfl fun stage past stands life => ?_
          rw [phase] at stands
          cases stands with
          | woken => exact ⟨_, .woken place true, .ask life⟩
      | ended ending => simpa [phase] using lives

private theorem Lives.rouse {bridge : Bridge} (lives : Lives ⟨none, bridge⟩)
    (index continuation : Nat) : Lives ⟨none, bridge.rouse index continuation⟩ := by
  unfold Bridge.rouse
  cases known : bridge.tasks[index]? with
  | none => simpa using lives
  | some task =>
      cases phase : task.phase with
      | sleeping place =>
          simp only [Option.map_some, phase]
          split
          · refine lives.advance [] known (setPhase_tasks known (.woken place false)) rfl
              (List.append_nil _).symm (by simp) (isOf_none _ _) (isOf_none _ _) ?_
            intro stage past stands life
            rw [phase] at stands
            cases stands with
            | sleeping => exact ⟨_, .woken place false, by simpa using life⟩
          · exact lives
      | unstarted => simpa [phase] using lives
      | woken => simpa [phase] using lives
      | ended => simpa [phase] using lives

private theorem Lives.put {bridge : Bridge} (lives : Lives ⟨none, bridge⟩) (rest : List Ready)
    (continuation : Nat) (code : Int) :
    Lives ⟨none, { bridge with ready := rest }.put continuation code⟩ := by
  have popped : Lives ⟨none, { bridge with ready := rest }⟩ :=
    lives.frame [] rfl (List.append_nil _).symm (by simp) rfl
  unfold Bridge.put
  split
  next => exact popped
  next target found =>
    have held : Lives ⟨none, ({ bridge with ready := rest } : Bridge).setCodes continuation
        (target.codes ++ [code])⟩ :=
      lives.frame [] rfl (List.append_nil _).symm (by simp) rfl
    dsimp only
    split
    next => exact held
    next index owner => exact held.rouse index continuation

private theorem Lives.leave {index : Nat} {place : Registration} {ending : Ending}
    {bridge : Bridge} (lives : Lives ⟨some (index, .leaving place ending), bridge⟩) :
    Lives ⟨none, bridge.finish index place ending⟩ := by
  have bound : index < bridge.tasks.length := lives.busy index _ rfl (by simp)
  have known := List.getElem?_eq_getElem bound
  have deed := fun (stage : Stage) (past : List Event)
      (stands : Moment.Stands ⟨some (index, .leaving place ending), bridge⟩ index
        (bridge.tasks[index]).phase stage)
      (life : Life index (bridge.tasks[index]).future stage past) =>
    show Life index (bridge.tasks[index]).future (.leaving place ending) past by
      simp only [stands_some, Position.Stands] at stands
      exact stands ▸ life
  cases free : (bridge.tasks[index]).future.freeFault with
  | none =>
      rw [finish_of_quiet known free]
      refine lives.advance _ known (setPhase_tasks known _) rfl rfl (by simp [Event.task?])
        (isOf_some _ _ _) (isOf_none _ _) fun stage past stands life => ?_
      exact ⟨_, .ended place ending, .leave _ (deed stage past stands life)⟩
  | some fault =>
      rw [finish_of_raising known free]
      refine lives.advance _ known (setPhase_tasks known _) rfl
        (List.append_assoc _ _ _) (by simp [Event.task?])
        (isOf_some _ _ _) (isOf_none _ _) fun stage past stands life => ?_
      exact ⟨_, .ended place _, .leaveRaises _ fault (deed stage past stands life)⟩

private theorem Lives.goOn {index : Nat} {position position' : Position} {bridge after : Bridge}
    {task : Task} (lives : Lives ⟨some (index, position), bridge⟩)
    (known : bridge.tasks[index]? = some task) (start goal : Stage) (events : List Event)
    (tasks : after.tasks = bridge.tasks) (record : after.events = bridge.events ++ events)
    (own : ∀ event ∈ events, event.task? = some index)
    (leaves : ∀ stage, position.Stands task.phase stage → stage = start)
    (arrives : position'.Stands task.phase goal)
    (deed : ∀ past, Life index task.future start past →
      Life index task.future goal (past ++ events)) :
    Lives ⟨some (index, position'), after⟩ := by
  refine lives.proceed events known tasks record own (isOf_some _ _ _) (isOf_some _ _ _) ?_
  intro stage past stands life
  rw [stands_some] at stands
  exact ⟨goal, (stands_some ..).mpr arrives, deed past (leaves stage stands ▸ life)⟩

theorem Lives.known {index : Nat} {position : Position} {bridge : Bridge}
    (lives : Lives ⟨some (index, position), bridge⟩) (started : position ≠ .chosen) :
    ∃ task, bridge.tasks[index]? = some task :=
  ⟨_, List.getElem?_eq_getElem (lives.busy index position rfl started)⟩

theorem Lives.standing {index : Nat} {position : Position} {bridge : Bridge}
    (lives : Lives ⟨some (index, position), bridge⟩) (started : position ≠ .chosen) :
    ∃ task stage, bridge.tasks[index]? = some task ∧ position.Stands task.phase stage ∧
      Life index task.future stage (eventsOf index bridge.events) := by
  obtain ⟨task, known⟩ := lives.known started
  obtain ⟨stage, stands, life⟩ := lives.life index task known
  exact ⟨task, stage, known, (stands_some ..).mp stands, life⟩

/-- Every stride is a deed of the life of one task, or of none. -/
theorem Lives.stride {before after : Moment} (stride : Stride before after)
    (lives : Lives before) : Lives after := by
  cases stride with
  | start future polls bridge => exact lives.start future polls
  | register closed bridge =>
      obtain ⟨fault, -, refused⟩ | ⟨minted, -, registered⟩ := register_cases none closed bridge
      · rw [refused]
        exact lives
      · rw [registered]
        exact lives.frame [.registered none _] rfl rfl (by simp [Event.task?]) rfl
  | callback handle code bridge => exact lives.callback handle code
  | cancel index bridge => exact lives.cancel index
  | takeBare bare =>
      unfold takeCode
      split
      · exact lives
      · exact lives.frame [] rfl (List.append_nil _).symm (by simp) rfl
  | act change bridge => exact lives.frame [] rfl (List.append_nil _).symm (by simp) rfl
  | put first => exact lives.put _ _ _
  | @choose index rest bridge first =>
      refine ⟨?_, lives.absent, ?_⟩
      · intro other task known
        obtain ⟨stage, stands, life⟩ := lives.life other task known
        refine ⟨stage, ?_, life⟩
        simpa [Moment.Stands, Position.Stands] using stands
      · intro other position turn chosen
        cases turn
        exact absurd rfl chosen
  | pass index bridge =>
      refine ⟨?_, lives.absent, by simp⟩
      intro other task known
      obtain ⟨stage, stands, life⟩ := lives.life other task known
      refine ⟨stage, ?_, life⟩
      simpa [Moment.Stands, Position.Stands] using stands
  | @drop index task bridge known phase =>
      refine lives.advance [] known (setPhase_tasks known _) rfl (List.append_nil _).symm (by simp)
        (isOf_some _ _ _) (isOf_none _ _) fun stage past stands life => ?_
      rw [stands_some, phase] at stands
      cases stands with
      | unstarted => exact ⟨_, .unregistered .cancelled, by simpa using .endEarly _ life⟩
  | @refuse index task fault bridge known phase refused =>
      refine lives.advance [] known (setPhase_tasks known _) rfl (List.append_nil _).symm (by simp)
        (isOf_some _ _ _) (isOf_none _ _) fun stage past stands life => ?_
      rw [stands_some, phase] at stands
      cases stands with
      | unstarted => exact ⟨_, .unregistered (.failed fault), by simpa using .endEarly _ life⟩
  | @begin index task place bridge next known phase registered =>
      obtain ⟨fault, -, refused⟩ | ⟨minted, -, enrolled⟩ :=
        register_cases (some index) false bridge
      · simp [refused] at registered
      · obtain ⟨rfl, rfl⟩ : place = _ ∧ next = _ := by simpa [enrolled, eq_comm] using registered
        refine lives.proceed [.registered (some index) _] known rfl rfl (by simp [Event.task?])
          (isOf_some _ _ _) (isOf_some _ _ _) fun stage past stands life => ?_
        rw [stands_some, phase] at stands
        cases stands with
        | unstarted => exact ⟨.looping _, by simp [Position.Stands], .register _ life⟩
  | @resume index task place bridge known phase =>
      refine lives.proceed [] known rfl (List.append_nil _).symm (by simp)
        (isOf_some _ _ _) (isOf_some _ _ _) fun stage past stands life => ?_
      rw [stands_some, phase] at stands
      cases stands with
      | woken => exact ⟨.awaiting place false, by simp [Position.Stands], by simpa using life⟩
  | @stop index task place bridge known phase =>
      refine lives.proceed [] known rfl (List.append_nil _).symm (by simp)
        (isOf_some _ _ _) (isOf_some _ _ _) fun stage past stands life => ?_
      rw [stands_some, phase] at stands
      cases stands with
      | woken =>
          exact ⟨.leaving place .cancelled, by simp [Position.Stands], by simpa using life.stop⟩
  | @poll index task bridge place known =>
      refine lives.advance [.polled index place.handle] known rfl rfl rfl (by simp [Event.task?])
        (isOf_some _ _ _) (isOf_some _ _ _) fun stage past stands life => ?_
      obtain rfl : stage = .looping place := by simpa [Position.Stands] using stands
      exact ⟨.polling place, by simp [Position.Stands], life.poll⟩
  | answer index place handle code bridge => exact lives.callback handle code
  | polled index place bridge =>
      obtain ⟨task, known⟩ := lives.known (by simp)
      exact lives.goOn known (.polling place) (.awaiting place false) [] rfl
        (List.append_nil _).symm (by simp) (fun _ stands => stands) rfl
        fun past life => by simpa using life.polled
  | pollRaises index place fault bridge =>
      obtain ⟨task, known⟩ := lives.known (by simp)
      exact lives.goOn known (.polling place) (.leaving place (.failed fault))
        [.raised index fault] rfl rfl (by simp [Event.task?]) (fun _ stands => stands) rfl
        fun past life => life.pollRaises fault
  | @take index place code rest bridge held other =>
      obtain ⟨task, known⟩ := lives.known (by simp)
      exact lives.goOn known (.awaiting place false) (.looping place) [.took index code]
        rfl rfl (by simp [Event.task?]) (fun _ stands => stands) rfl
        fun past life => life.take other
  | @takeReady index place rest bridge held =>
      obtain ⟨task, known⟩ := lives.known (by simp)
      exact lives.goOn known (.awaiting place false) (.completing place)
        [.took index pollReady] rfl rfl (by simp [Event.task?]) (fun _ stands => stands) rfl
        fun past life => life.takeReady
  | @sleep index place bridge held =>
      obtain ⟨task, known⟩ := lives.known (by simp)
      refine lives.advance [] known (setPhase_tasks known _) rfl (List.append_nil _).symm (by simp)
        (isOf_some _ _ _) (isOf_none _ _) fun stage past stands life => ?_
      obtain rfl : stage = .awaiting place false := by simpa [Position.Stands] using stands
      exact ⟨_, .sleeping place, by simpa using life⟩
  | @completeRaises index task place fault caller bridge known call =>
      exact lives.goOn known (.completing place) (.leaving place (.failed fault))
        [.completed index, .raised index fault] rfl (List.append_assoc _ _ _)
        (by simp [Event.task?]) (fun _ stands => stands) rfl
        fun past life => life.completeRaises fault
  | @lift index task place raw value caller bridge known call lifted =>
      exact lives.goOn known (.completing place) (.leaving place (.returned value))
        [.completed index, .lifted index raw] rfl (List.append_assoc _ _ _)
        (by simp [Event.task?]) (fun _ stands => stands) rfl
        fun past life => life.lift (congrArg Prod.fst call) lifted
  | @liftRaises index task place raw fault caller bridge known call lifted =>
      refine lives.goOn known (.completing place) (.leaving place (.failed fault))
        [.completed index, .lifted index raw, .raised index fault] rfl ?_
        (by simp [Event.task?]) (fun _ stands => stands) rfl
        fun past life => life.liftRaises raw fault
      simp [afterComplete, record]
  | leave index place ending bridge => exact lives.leave

theorem Lives.initial (caller : Caller) : Lives ⟨none, .initial caller⟩ :=
  ⟨by simp [Bridge.initial], by simp [Bridge.initial, eventsOf], by simp⟩

theorem run_lives (moves : List Move) (caller : Caller) :
    Lives ⟨none, run moves (.initial caller)⟩ :=
  run_keeps (fun _ _ => Lives.stride) (.initial caller) moves

end Bridge

end ForeignCall
