import ForeignCall.Proofs.Bridge.Delivery

/-! What a task makes of its codes: each but the ready code leads to another poll, the ready code to
completion, and completion to the value that the task returns. -/

namespace ForeignCall.Bridge

/-- Between its turns a task has polled once more than it has been told to wait, and has completed
if it was told to. -/
structure Answered (taken : List Int) (calls : List NativeCall) : Prop where
  polls : calls.count .poll = 1 + taken.countP (· ≠ pollReady)
  completes : calls.count .complete = taken.count pollReady
  once : calls.count .complete ≤ 1
  between : ∀ before after, calls = before ++ .complete :: after → .poll ∉ after ∧ .free ∉ before

private theorem countP_of_waiting {codes : List Int} (waits : pollReady ∉ codes) :
    codes.countP (· ≠ pollReady) = codes.length := by
  rw [List.countP_eq_length]
  intro code member
  have different : code ≠ pollReady := fun same => waits (same ▸ member)
  simpa using different

private theorem answered_waiting {codes : List Int} {more : List NativeCall}
    (waits : pollReady ∉ codes) (polls : .poll ∉ more) (completes : .complete ∉ more) :
    Answered codes (.replicate (codes.length + 1) .poll ++ more) := by
  have none : (List.replicate (codes.length + 1) NativeCall.poll ++ more).count .complete = 0 := by
    rw [List.count_append, List.count_eq_zero.mpr completes]
    simp [List.count_replicate]
  refine ⟨?_, ?_, Nat.le_of_eq none |>.trans (Nat.zero_le _), ?_⟩
  · rw [countP_of_waiting waits, List.count_append, List.count_eq_zero.mpr polls]
    simp [Nat.add_comm]
  · rw [none, List.count_eq_zero.mpr waits]
  · intro before after made
    simp [made] at none

private theorem answered_ready {codes : List Int} {more : List NativeCall}
    (waits : pollReady ∉ codes) (polls : .poll ∉ more) (completes : .complete ∉ more) :
    Answered (codes ++ [pollReady])
      (.replicate (codes.length + 1) .poll ++ .complete :: more) := by
  have one : (List.replicate (codes.length + 1) NativeCall.poll ++ .complete :: more).count
      .complete = 1 := by
    rw [List.count_append, List.count_cons_self, List.count_eq_zero.mpr completes]
    simp [List.count_replicate]
  refine ⟨?_, ?_, Nat.le_of_eq one, ?_⟩
  · rw [List.countP_append, countP_of_waiting waits, List.count_append,
      List.count_cons_of_ne (by simp), List.count_eq_zero.mpr polls]
    simp [Nat.add_comm]
  · rw [one, List.count_append, List.count_eq_zero.mpr waits]
    simp
  · intro before after made
    have earlier : NativeCall.complete ∉ List.replicate (codes.length + 1) NativeCall.poll := by
      simp
    obtain ⟨rfl, -, rfl⟩ := (List.append_cons_inj_of_notMem earlier completes).mp made
    exact ⟨polls, by simp⟩

theorem Closed.answered {taken : List Int} {calls last : List NativeCall}
    (closed : Closed taken calls) (freed : last = [] ∨ last = [.free]) :
    Answered taken (calls ++ last) := by
  have silent : .poll ∉ last ∧ .complete ∉ last := by
    rcases freed with rfl | rfl <;> simp
  rcases closed with ⟨waits, rfl⟩ | ⟨codes, waits, rfl, rfl | rfl⟩
  · exact answered_waiting waits silent.1 silent.2
  · rw [List.append_assoc]
    exact answered_ready waits silent.1 silent.2
  · rw [List.append_assoc]
    have silent' : .poll ∉ NativeCall.lift :: last ∧ .complete ∉ NativeCall.lift :: last := by
      simpa using silent
    exact answered_ready waits silent'.1 silent'.2

theorem Life.answered {index : Nat} {future : ForeignFuture} {stage : Stage} {past : List Event}
    {phase : Phase} {place : Registration} (life : Life index future stage past)
    (stands : Stands phase stage) (placed : stage.place? = some place) :
    Answered (taken past) (calls past) := by
  have shows := life.shows
  cases stands with
  | unstarted => simp [Stage.place?] at placed
  | sleeping => simpa using Closed.answered (.inl shows) (.inl rfl)
  | woken => simpa using Closed.answered (.inl shows) (.inl rfl)
  | unregistered => simp [Stage.place?] at placed
  | ended =>
      obtain ⟨before, closed, made⟩ := shows
      rw [made]
      exact closed.answered (.inr rfl)

private theorem Life.last_of_completing {index : Nat} {future : ForeignFuture}
    {place : Registration} {past : List Event}
    (life : Life index future (.completing place) past) :
    past.getLast? = some (.took index pollReady) := by
  cases life with
  | takeReady => simp

private theorem last_of_completed {index : Nat} {past more before : List Event} {event : Event}
    (completed : before ++ [.completed index] <+: past ++ .completed index :: more)
    (once : .completed index ∉ more) (last : past.getLast? = some event)
    (earlier : before ++ [.completed index] <+: past → before.getLast? = some event) :
    before.getLast? = some event := by
  rw [List.append_cons past] at completed
  rcases List.prefix_concat_iff.mp (happened_of_append completed once) with now | early
  · rw [List.append_cancel_right now, last]
  · exact earlier early

/-- A task completes just after it has taken the ready code. -/
theorem Life.completed_at_ready {index : Nat} {future : ForeignFuture} {stage : Stage}
    {past before : List Event} (life : Life index future stage past)
    (completed : before ++ [.completed index] <+: past) :
    before.getLast? = some (.took index pollReady) := by
  induction life with
  | fresh => simp at completed
  | askEarly _ ih => exact ih (happened_of_append completed (by simp))
  | endEarly ending _ ih => exact ih completed
  | register place _ ih => exact ih (happened_of_append completed (by simp))
  | poll _ ih => exact ih (happened_of_append completed (by simp))
  | polled _ ih => exact ih completed
  | pollRaises fault _ ih => exact ih (happened_of_append completed (by simp))
  | take other _ ih => exact ih (happened_of_append completed (by simp))
  | takeReady _ ih => exact ih (happened_of_append completed (by simp))
  | ask _ ih => exact ih (happened_of_append completed (by simp))
  | stop _ ih => exact ih completed
  | completeRaises fault life ih =>
      exact last_of_completed completed (by simp) life.last_of_completing ih
  | lift _ _ life ih => exact last_of_completed completed (by simp) life.last_of_completing ih
  | liftRaises raw fault life ih =>
      exact last_of_completed completed (by simp) life.last_of_completing ih
  | leave found _ ih => exact ih (happened_of_append completed (by simp))
  | leaveRaises found fault _ ih => exact ih (happened_of_append completed (by simp))

/-- What a task did to come to its ending. -/
def Earned (index : Nat) (future : ForeignFuture) (past : List Event) : Ending → Prop
  | .returned value => ∃ raw caller,
      (Call.raising Caller.free future.lifter future.complete caller).1 = .ok raw ∧
        .lifted index raw ∈ past ∧ future.lift raw = .ok value
  | .failed fault => .raised index fault ∈ past
  | .cancelled => .asked index ∈ past

theorem Earned.mono {index : Nat} {future : ForeignFuture} {past : List Event} {ending : Ending}
    (earned : Earned index future past ending) (more : List Event) :
    Earned index future (past ++ more) ending := by
  cases ending with
  | returned value =>
      obtain ⟨raw, caller, call, lifted, result⟩ := earned
      exact ⟨raw, caller, call, List.mem_append_left _ lifted, result⟩
  | failed fault => exact List.mem_append_left _ earned
  | cancelled => exact List.mem_append_left _ earned

def Stage.Earned (index : Nat) (future : ForeignFuture) (past : List Event) : Stage → Prop
  | .awaiting _ true => .asked index ∈ past
  | .leaving _ ending => Bridge.Earned index future past ending
  | .ended _ ending => Bridge.Earned index future past ending
  | .awaiting _ false | .unstarted _ | .unregistered _ | .looping _ | .polling _
  | .completing _ => True

theorem Life.earned {index : Nat} {future : ForeignFuture} {stage : Stage} {past : List Event}
    (life : Life index future stage past) : stage.Earned index future past := by
  induction life with
  | ask _ ih => simp [Stage.Earned]
  | stop _ ih => exact ih
  | pollRaises fault _ ih => simp [Stage.Earned, Bridge.Earned]
  | completeRaises fault _ ih => simp [Stage.Earned, Bridge.Earned]
  | @lift place past raw value caller call lifted _ ih =>
      exact ⟨raw, caller, call, by simp, lifted⟩
  | liftRaises raw fault _ ih => simp [Stage.Earned, Bridge.Earned]
  | leave found _ ih => exact Earned.mono ih _
  | leaveRaises found fault _ ih => simp [Stage.Earned, Bridge.Earned]
  | fresh | askEarly | endEarly | register | poll | polled | take | takeReady => trivial

/-- How a task with a place is driven by the codes that are brought to its handle. -/
structure Driven (bridge : Bridge) (index : Nat) (place : Registration) : Prop where
  taken : takenOf index bridge.events <+: throughReady (broughtSince place bridge.events)
  untilReady : delivered place.continuation bridge.events <+:
    throughReady (broughtSince place bridge.events)
  /-- All gets through before, as long as the task has not ended. -/
  allArrives : .freed index ∉ bridge.events →
    delivered place.continuation bridge.events = throughReady (broughtSince place bridge.events)
  conserved : delivered place.continuation bridge.events = takenOf index bridge.events ++
    bridge.codesAt place.continuation ++ queuedFor place.continuation bridge.ready
  answered : Answered (takenOf index bridge.events) (callsOf index bridge.events)
  completed : ∀ past, past ++ [.completed index] <+: bridge.events →
    (eventsOf index past).getLast? = some (.took index pollReady)
  returned : ∀ task ending, bridge.tasks[index]? = some task → task.phase = .ended ending →
    (∀ fault, .raised index fault ∉ bridge.events) → .asked index ∉ bridge.events →
    ∃ value raw status before after, ending = .returned value ∧
      task.future.complete .fresh before = (.ok (status, raw), after) ∧
      status.isSuccess = true ∧ .lifted index raw ∈ bridge.events ∧
      task.future.lift raw = .ok value

private theorem Lives.completed_at_ready {bridge : Bridge} (lives : Lives ⟨none, bridge⟩)
    {index : Nat} {past : List Event} (completed : past ++ [.completed index] <+: bridge.events) :
    (eventsOf index past).getLast? = some (.took index pollReady) := by
  have own : eventsOf index past ++ [.completed index] <+: eventsOf index bridge.events := by
    simpa [eventsOf, Event.task?] using completed.filter fun event => event.task? = some index
  cases known : bridge.tasks[index]? with
  | none =>
      rw [lives.absent index (List.getElem?_eq_none_iff.mp known)] at own
      simp at own
  | some task =>
      obtain ⟨stage, -, life⟩ := lives.life index task known
      exact life.completed_at_ready own

private theorem Lives.returned {bridge : Bridge} (lives : Lives ⟨none, bridge⟩) {index : Nat}
    {place : Registration} (registered : .registered (some index) place ∈ bridge.events)
    {task : Task} {ending : Ending} (known : bridge.tasks[index]? = some task)
    (ended : task.phase = .ended ending) (calm : ∀ fault, .raised index fault ∉ bridge.events)
    (unasked : .asked index ∉ bridge.events) :
    ∃ value raw status before after, ending = .returned value ∧
      task.future.complete .fresh before = (.ok (status, raw), after) ∧
      status.isSuccess = true ∧ .lifted index raw ∈ bridge.events ∧
      task.future.lift raw = .ok value := by
  obtain ⟨task', stage, found, stands, placed, life⟩ := lives.registered registered
  obtain rfl := Option.some.inj (known.symm.trans found)
  have earned := life.earned
  rw [ended] at stands
  cases stands with
  | unregistered => simp [Stage.place?] at placed
  | ended =>
      cases ending with
      | returned value =>
          obtain ⟨raw, caller, call, lifted, result⟩ := earned
          obtain ⟨status, called, success⟩ := Call.raising_eq_ok (Prod.ext call rfl)
          exact ⟨value, raw, status, caller, _, rfl, called, success, (mem_eventsOf.mp lifted).1,
            result⟩
      | failed fault => exact absurd (mem_eventsOf.mp earned).1 (calm fault)
      | cancelled => exact absurd (mem_eventsOf.mp earned).1 unasked

/-- With fewer registrations than handles, every registered task is driven by the codes brought to
its own handle, whatever else happens. -/
theorem driven_of_run (moves : List Move) (caller : Caller)
    (few : (registrations (run moves (.initial caller)).events).length < 0x10000000000000000)
    {index : Nat} {place : Registration}
    (registered : .registered (some index) place ∈ (run moves (.initial caller)).events) :
    Driven (run moves (.initial caller)) index place := by
  have kept := run_kept moves caller
  have lives := kept.lives
  have board := kept.board (kept.all ▸ few)
  have conserved := (run_flow moves caller few).conserved index place registered
  obtain ⟨within, whole⟩ := board.arrived _ place registered
  obtain ⟨task, stage, known, stands, placed, life⟩ := lives.registered registered
  refine ⟨?_, within, ?_, conserved, life.answered stands placed, ?_, ?_⟩
  · refine List.IsPrefix.trans ?_ within
    rw [conserved, List.append_assoc]
    exact List.prefix_append _ _
  · intro unfreed
    exact whole fun other mine => by cases mine; exact unfreed
  · exact fun past completed => lives.completed_at_ready completed
  · exact fun task ending known ended calm unasked =>
      lives.returned registered known ended calm unasked

/-- What it comes to is 21, of which its task makes 42. -/
def doubledFuture : ForeignFuture :=
  { idleFuture none with
    complete := { ForeignFunction.idle with value := .int 21 }.call []
    lift := Datum.twice }

/-- A task is brought four codes, two of them before it goes on, and the last too late. -/
def twoThenReady : List Move :=
  [.start doubledFuture [[.answer 1]], .turn, .callback .foreign 0 5, .turn, .turn, .turn,
    .callback .direct 0 0, .callback .foreign 0 7, .turn, .turn]

def afterReady : Bridge := run twoThenReady (.initial (.initial .bare 8))

theorem driven_twoThenReady :
    (registrations afterReady.events).length < 0x10000000000000000 ∧
      .registered (some 0) ⟨0, 0⟩ ∈ afterReady.events ∧
      broughtSince ⟨0, 0⟩ afterReady.events = [1, 5, 0, 7] ∧
      takenOf 0 afterReady.events = [1, 5, 0] ∧
      callsOf 0 afterReady.events = [.poll, .poll, .poll, .complete, .lift, .free] ∧
      (∃ task, afterReady.tasks[0]? = some task ∧
        task.phase = .ended (.returned (.int 42)) ∧
        (∀ fault, .raised 0 fault ∉ afterReady.events) ∧ .asked 0 ∉ afterReady.events ∧
        .lifted 0 (.int 21) ∈ afterReady.events) ∧
      Driven afterReady 0 ⟨0, 0⟩ := by
  have few : (registrations afterReady.events).length < 0x10000000000000000 := by decide
  have registered : .registered (some 0) ⟨0, 0⟩ ∈ afterReady.events :=
    List.mem_of_getElem? (i := 0) rfl
  have told : afterReady.events =
      [.registered (some 0) ⟨0, 0⟩, .polled 0 0, .called 0 1, .delivered 0 1, .called 0 5,
        .delivered 0 5, .took 0 1, .polled 0 0, .took 0 5, .polled 0 0, .called 0 0,
        .delivered 0 0, .called 0 7, .took 0 0, .completed 0, .lifted 0 (.int 21),
        .withdrawn 0 none, .freed 0] := rfl
  exact ⟨few, registered, by decide, by decide, by decide,
    ⟨_, rfl, rfl, by simp [told], by simp [told], by simp [told]⟩,
    driven_of_run twoThenReady (.initial .bare 8) few registered⟩

end ForeignCall.Bridge
