import ForeignCall.Proofs.Bridge.Calls
import ForeignCall.Proofs.Bridge.Frame

/-! The course of a task. What it makes of its codes is told by the scripts of its polls alone, and
what else becomes of it by when it is asked to end and by what its completing call comes to. -/

namespace ForeignCall.Bridge

/-- What a task is started with. -/
structure Job where
  future : ForeignFuture
  polls : List (List PollAct)

def faultOf : List PollAct → Option Fault
  | [] => none
  | .answer _ :: rest => faultOf rest
  | .deliver _ _ :: rest => faultOf rest
  | .raise fault :: _ => some fault

theorem runPoll_fault (route : Route) (handle : Nat) (acts : List PollAct) (bridge : Bridge) :
    (runPoll route handle acts bridge).1 = faultOf acts := by
  induction acts generalizing bridge with
  | nil => rfl
  | cons act rest ih =>
      cases act with
      | answer code => exact ih _
      | deliver target code => exact ih _
      | raise fault => rfl

/-- How a task stands after a poll, or after a code that ends its loop. -/
inductive Verdict where
  | waits
  | raises (fault : Fault)
  | completes

structure Progress where
  taken : List Int
  verdict : Verdict

namespace Job

/-- How the task stands after the poll that follows as many codes. -/
def afterPoll (job : Job) (taken : Nat) : Verdict :=
  match faultOf (job.polls.getD taken []) with
  | none => .waits
  | some fault => .raises fault

/-- A task takes a code if it waits for one. The ready code ends its loop, and any other leads to
the next poll. -/
def take (job : Job) (progress : Progress) (code : Int) : Progress :=
  match progress.verdict with
  | .waits =>
      ⟨progress.taken ++ [code],
        if code = pollReady then .completes else job.afterPoll (progress.taken.length + 1)⟩
  | .raises _ | .completes => progress

def pursue (job : Job) (codes : List Int) : Progress :=
  codes.foldl job.take ⟨[], job.afterPoll 0⟩

theorem pursue_nil (job : Job) : job.pursue [] = ⟨[], job.afterPoll 0⟩ := rfl

theorem pursue_concat (job : Job) (codes : List Int) (code : Int) :
    job.pursue (codes ++ [code]) = job.take (job.pursue codes) code :=
  List.foldl_concat ..

variable {job : Job} {codes taken : List Int} {verdict : Verdict}

theorem pursue_of_taking (waits : job.pursue taken = ⟨taken, .waits⟩) (code : Int) :
    job.pursue (taken ++ [code]) =
      ⟨taken ++ [code],
        if code = pollReady then .completes else job.afterPoll (taken ++ [code]).length⟩ := by
  rw [pursue_concat, waits, List.length_append]
  rfl

/-- A task that no longer waits takes no more codes. -/
theorem pursue_append (ended : job.pursue codes = ⟨taken, verdict⟩) (left : verdict ≠ .waits)
    (more : List Int) : job.pursue (codes ++ more) = ⟨taken, verdict⟩ := by
  induction more using List.reverseRecOn with
  | nil => simpa using ended
  | append_singleton more code ih =>
      rw [← List.append_assoc, pursue_concat, ih]
      cases verdict with
      | waits => exact absurd rfl left
      | raises fault => rfl
      | completes => rfl

end Job

/-- What the deeds of a task come to. -/
structure Account where
  taken : List Int
  calls : List NativeCall
  /-- How often it had polled when it was first asked to end. -/
  asked : Option Nat
  /-- What its completing call came to. -/
  answer : Option (Except Fault Datum)

namespace Account

def note (account : Account) (event : Event) : Account where
  taken := account.taken ++ event.taken?.toList
  calls := account.calls ++ event.call?.toList
  asked :=
    match event with
    | .asked _ => account.asked.or (some (account.calls.count .poll))
    | _ => account.asked
  answer :=
    match event with
    | .lifted _ raw => some (.ok raw)
    | .raised _ fault =>
        if account.calls.getLast? = some .complete then some (.error fault) else account.answer
    | _ => account.answer

def ofEvents (events : List Event) : Account :=
  events.foldl note ⟨[], [], none, none⟩

theorem ofEvents_append (first second : List Event) :
    ofEvents (first ++ second) = second.foldl note (ofEvents first) :=
  List.foldl_append ..

theorem taken_ofEvents (events : List Event) :
    (ofEvents events).taken = Bridge.taken events := by
  induction events using List.reverseRecOn with
  | nil => rfl
  | append_singleton events event ih => simp [ofEvents_append, note, ih]

theorem calls_ofEvents (events : List Event) :
    (ofEvents events).calls = Bridge.calls events := by
  induction events using List.reverseRecOn with
  | nil => rfl
  | append_singleton events event ih => simp [ofEvents_append, note, ih]

end Account

def accountOf (index : Nat) (bridge : Bridge) : Account :=
  .ofEvents (eventsOf index bridge.events)

/-- How a task ends, if freeing its future raises nothing, and else. -/
def closing (future : ForeignFuture) (ending : Ending) : Ending :=
  match future.freeFault with
  | none => ending
  | some fault => .failed fault

/-- What a task makes of the answer to its completing call. -/
def conclude (future : ForeignFuture) : Except Fault Datum → Ending
  | .error fault => .failed fault
  | .ok raw =>
      match future.lift raw with
      | .ok value => .returned value
      | .error fault => .failed fault

/-- What the completing call of a future may come to. -/
def Answers (future : ForeignFuture) (answer : Except Fault Datum) : Prop :=
  ∃ caller, (Call.raising Caller.free future.lifter future.complete caller).1 = answer

def completion : Except Fault Datum → List NativeCall
  | .error _ => [.complete, .free]
  | .ok _ => [.complete, .lift, .free]

/-- A task as it is found, and what its deeds have come to. -/
structure Finds (bridge : Bridge) (index : Nat) (task : Task) (account : Account) : Prop where
  known : bridge.tasks[index]? = some task
  account : accountOf index bridge = account

section Deeds

variable {bridge after : Bridge} {index : Nat} {task : Task} {account : Account}
  {place : Registration}

theorem Finds.frame (finds : Finds bridge index task account) (frame : Frame index bridge after) :
    Finds after index task account where
  known := frame.task.trans finds.known
  account := by rw [accountOf, frame.events, ← finds.account, accountOf]

theorem Finds.does (finds : Finds bridge index task account) {account' : Account}
    (events : List Event) (tasks : after.tasks = bridge.tasks)
    (record : after.events = bridge.events ++ events)
    (own : ∀ event ∈ events, event.task? = some index)
    (total : events.foldl .note account = account') : Finds after index task account' where
  known := tasks ▸ finds.known
  account := by
    rw [accountOf, record, eventsOf_append, eventsOf_eq_self own, Account.ofEvents_append,
      ← total, ← finds.account, accountOf]

theorem Finds.setPhase (finds : Finds bridge index task account) (phase : Phase) :
    Finds (bridge.setPhase index phase) index { task with phase } account where
  known := by simp [Bridge.setPhase, finds.known]
  account := finds.account

theorem Finds.took (finds : Finds bridge index task account) (place : Registration) (code : Int)
    (rest : List Int) :
    Finds (bridge.took index place code rest) index task
      { account with taken := account.taken ++ [code] } :=
  finds.does [.took index code] rfl rfl (by simp [Event.task?])
    (by simp [Account.note, Event.taken?, Event.call?])

theorem Finds.poll (finds : Finds bridge index task account) (handle : Nat) :
    Finds (Bridge.poll index handle bridge).2 index { task with polls := task.polls.tail }
        { account with calls := account.calls ++ [.poll] } ∧
      (Bridge.poll index handle bridge).1 = faultOf (task.polls.headD []) := by
  have bound := (List.getElem?_eq_some_iff.mp finds.known).1
  have begun : Finds (bridge.beginPoll index task handle) index
      { task with polls := task.polls.tail }
      { account with calls := account.calls ++ [.poll] } := by
    refine ⟨by simp [beginPoll, bound], ?_⟩
    rw [← finds.account]
    simp [accountOf, beginPoll, record, eventsOf, Event.task?, Account.ofEvents_append,
      Account.note, Event.taken?, Event.call?]
  have ran : Bridge.poll index handle bridge =
      runPoll task.future.route handle (task.polls.headD [])
        (bridge.beginPoll index task handle) := by
    simp only [Bridge.poll, finds.known]
    rfl
  rw [ran]
  exact ⟨begun.frame (.runPoll ..), runPoll_fault ..⟩

theorem Finds.finish (finds : Finds bridge index task account) (place : Registration)
    (ending : Ending) :
    Finds (bridge.finish index place ending) index
      { task with phase := .ended (closing task.future ending) }
      { account with calls := account.calls ++ [.free] } := by
  cases free : task.future.freeFault with
  | none =>
      have freed : Finds (bridge.afterFree index place) index task
          { account with calls := account.calls ++ [.free] } :=
        finds.does [.withdrawn index _, .freed index] rfl rfl (by simp [Event.task?])
          (by simp [Account.note, Event.taken?, Event.call?])
      rw [finish_of_quiet finds.known free, closing, free]
      exact freed.setPhase _
  | some fault =>
      have raised : Finds ((bridge.afterFree index place).record (.raised index fault)) index task
          { account with calls := account.calls ++ [.free] } :=
        finds.does [.withdrawn index _, .freed index, .raised index fault] rfl
          (List.append_assoc ..) (by simp [Event.task?])
          (by simp [Account.note, Event.taken?, Event.call?])
      rw [finish_of_raising finds.known free, closing, free]
      exact raised.setPhase _

theorem Finds.fail (finds : Finds bridge index task account)
    (other : account.calls.getLast? ≠ some .complete) (place : Registration) (fault : Fault) :
    Finds (bridge.fail index place fault) index
      { task with phase := .ended (closing task.future (.failed fault)) }
      { account with calls := account.calls ++ [.free] } := by
  have raised : Finds (bridge.record (.raised index fault)) index task account :=
    finds.does [.raised index fault] rfl rfl (by simp [Event.task?])
      (by simp [Account.note, Event.taken?, Event.call?, other])
  exact raised.finish place (.failed fault)

theorem Finds.complete (finds : Finds bridge index task account) (place : Registration) :
    ∃ answer, Answers task.future answer ∧ Finds (bridge.complete index place) index
      { task with phase := .ended (closing task.future (conclude task.future answer)) }
      { account with calls := account.calls ++ completion answer, answer := some answer } := by
  unfold Bridge.complete
  simp only [finds.known]
  split
  next fault caller call =>
    have raised : Finds ((bridge.afterComplete index caller).record (.raised index fault)) index
        task { account with
          calls := account.calls ++ [.complete], answer := some (.error fault) } :=
      finds.does [.completed index, .raised index fault] rfl (List.append_assoc ..)
        (by simp [Event.task?]) (by simp [Account.note, Event.taken?, Event.call?])
    refine ⟨.error fault, ⟨_, congrArg Prod.fst call⟩, ?_⟩
    have finished := raised.finish place (.failed fault)
    rw [List.append_assoc] at finished
    exact finished
  next raw caller call =>
    have lifted : Finds ((bridge.afterComplete index caller).record (.lifted index raw)) index
        task { account with
          calls := account.calls ++ [.complete, .lift], answer := some (.ok raw) } :=
      finds.does [.completed index, .lifted index raw] rfl (List.append_assoc ..)
        (by simp [Event.task?]) (by simp [Account.note, Event.taken?, Event.call?])
    refine ⟨.ok raw, ⟨_, congrArg Prod.fst call⟩, ?_⟩
    split
    next value result =>
      have finished := lifted.finish place (.returned value)
      rw [List.append_assoc] at finished
      rw [conclude, result]
      exact finished
    next fault result =>
      have failed := lifted.fail (by simp) place fault
      rw [List.append_assoc] at failed
      rw [conclude, result]
      exact failed

end Deeds

/-- How far a task has come, from its codes and its calls: `polls` is what its further polls do. -/
inductive Course (job : Job) : List (List PollAct) → Phase → Account → Prop
  | unstarted : Course job job.polls (.unstarted false) ⟨[], [], none, none⟩
  | askedEarly : Course job job.polls (.unstarted true) ⟨[], [], some 0, none⟩
  | dropped (polls : List (List PollAct)) :
      Course job polls (.ended .cancelled) ⟨[], [], some 0, none⟩
  | refused (polls : List (List PollAct)) (fault : Fault) :
      Course job polls (.ended (.failed fault)) ⟨[], [], none, none⟩
  | sleeping {taken : List Int} (place : Registration)
      (waits : job.pursue taken = ⟨taken, .waits⟩) :
      Course job (job.polls.drop (taken.length + 1)) (.sleeping place)
        ⟨taken, .replicate (taken.length + 1) .poll, none, none⟩
  | woken {taken : List Int} (place : Registration)
      (waits : job.pursue taken = ⟨taken, .waits⟩) :
      Course job (job.polls.drop (taken.length + 1)) (.woken place false)
        ⟨taken, .replicate (taken.length + 1) .poll, none, none⟩
  | asked (polls : List (List PollAct)) (taken : List Int) (place : Registration) :
      Course job polls (.woken place true)
        ⟨taken, .replicate (taken.length + 1) .poll, some (taken.length + 1), none⟩
  | stopped (polls : List (List PollAct)) (taken : List Int) :
      Course job polls (.ended (closing job.future .cancelled))
        ⟨taken, .replicate (taken.length + 1) .poll ++ [.free], some (taken.length + 1), none⟩
  | raised {taken : List Int} {fault : Fault} (polls : List (List PollAct))
      (raises : job.pursue taken = ⟨taken, .raises fault⟩) :
      Course job polls (.ended (closing job.future (.failed fault)))
        ⟨taken, .replicate (taken.length + 1) .poll ++ [.free], none, none⟩
  | completed {taken : List Int} (polls : List (List PollAct))
      (completes : job.pursue taken = ⟨taken, .completes⟩) {answer : Except Fault Datum}
      (answered : Answers job.future answer) :
      Course job polls (.ended (closing job.future (conclude job.future answer)))
        ⟨taken, .replicate taken.length .poll ++ completion answer, none, some answer⟩

/-- A task that has something to do is in the queue, and one that sleeps has no code to take. -/
def Attended (bridge : Bridge) (index : Nat) : Phase → Prop
  | .unstarted _ => .step index ∈ bridge.ready
  | .sleeping place =>
      bridge.owners[place.continuation]? = some (some index) ∧
        bridge.codesAt place.continuation = []
  | .woken place _ =>
      bridge.owners[place.continuation]? = some (some index) ∧ .step index ∈ bridge.ready
  | .ended _ => True

/-- Between the turns of a task. -/
def Runs (job : Job) (index : Nat) (bridge : Bridge) : Prop :=
  ∃ polls phase account, Finds bridge index ⟨job.future, polls, phase⟩ account ∧
    Course job polls phase account ∧ Attended bridge index phase

section Runs

variable {job : Job} {index : Nat} {place : Registration} {bridge before after : Bridge}
  {phase : Phase} {taken : List Int}

theorem Attended.frame (attended : Attended before index phase)
    (frame : Frame index before after) : Attended after index phase := by
  cases phase with
  | unstarted cancelled => exact frame.queued attended
  | sleeping place =>
      exact ⟨owner_mono frame.owners attended.1,
        (frame.codes _ attended.1).trans attended.2⟩
  | woken place cancelled => exact ⟨owner_mono frame.owners attended.1, frame.queued attended.2⟩
  | ended ending => trivial

theorem Runs.frame (runs : Runs job index before) (frame : Frame index before after) :
    Runs job index after := by
  obtain ⟨polls, phase, account, finds, course, attended⟩ := runs
  exact ⟨polls, phase, account, finds.frame frame, course, attended.frame frame⟩

/-- A task in its loop, with its codes so far and as many polls behind it. -/
def Loops (job : Job) (index : Nat) (bridge : Bridge) (taken : List Int) (polls : Nat) : Prop :=
  ∃ phase, Finds bridge index ⟨job.future, job.polls.drop polls, phase⟩
    ⟨taken, .replicate polls .poll, none, none⟩

/-- The script of the poll decides: the task fails, or goes on with the codes at hand. -/
theorem pollOn_runs {codes : List Int} (loops : Loops job index bridge taken taken.length)
    (decides : job.pursue taken = ⟨taken, job.afterPoll taken.length⟩)
    (goesOn : Loops job index (poll index place.handle bridge).2 taken (taken.length + 1) →
      job.pursue taken = ⟨taken, .waits⟩ →
      Runs job index (goOn index place codes (poll index place.handle bridge).2)) :
    Runs job index (pollOn index place codes bridge) := by
  obtain ⟨phase, finds⟩ := loops
  obtain ⟨polled, raised⟩ := finds.poll place.handle
  have next : Finds (poll index place.handle bridge).2 index
      ⟨job.future, job.polls.drop (taken.length + 1), phase⟩
      ⟨taken, .replicate (taken.length + 1) .poll, none, none⟩ := by
    simpa [List.replicate_succ'] using polled
  have script : faultOf ((job.polls.drop taken.length).headD []) =
      faultOf (job.polls.getD taken.length []) := by simp
  rw [script] at raised
  rw [Job.afterPoll] at decides
  cases fault : faultOf (job.polls.getD taken.length []) with
  | none =>
      rw [fault] at raised decides
      rw [pollOn_of_quiet (Prod.ext raised rfl)]
      exact goesOn ⟨phase, next⟩ decides
  | some raises =>
      rw [fault] at raised decides
      rw [pollOn_of_raising (Prod.ext raised rfl)]
      have failed := next.fail (by simp [List.getLast?_replicate]) place raises
      exact ⟨_, _, _, failed, .raised _ decides, trivial⟩

theorem goOn_runs (codes : List Int) (loops : Loops job index bridge taken (taken.length + 1))
    (waits : job.pursue taken = ⟨taken, .waits⟩)
    (owned : bridge.owners[place.continuation]? = some (some index))
    (held : bridge.codesAt place.continuation = codes) :
    Runs job index (goOn index place codes bridge) := by
  -- Each code moves from those at hand to those taken, by which the task is pursued.
  induction codes generalizing bridge taken with
  | nil =>
      obtain ⟨phase, finds⟩ := loops
      exact ⟨_, _, _, finds.setPhase (.sleeping place), .sleeping place waits, owned, held⟩
  | cons code rest ih =>
      obtain ⟨phase, finds⟩ := loops
      have took := finds.took place code rest
      have next := Job.pursue_of_taking waits code
      rw [goOn]
      split
      next ready =>
        rw [if_pos ready] at next
        obtain ⟨answer, answered, completed⟩ := took.complete place
        exact ⟨_, _, _, completed, by simpa using Course.completed _ next answered, trivial⟩
      next other =>
        rw [if_neg other] at next
        have loops : Loops job index (bridge.took index place code rest) (taken ++ [code])
            (taken ++ [code]).length := ⟨phase, by simpa using took⟩
        refine pollOn_runs loops next fun loops waits => ih loops waits ?_ ?_
        · rw [owners, poll_continuations, ← owners, Bridge.took, owners_setCodes]
          exact owned
        · rw [codesAt_congr (poll_continuations ..)]
          exact codesAt_took index held

theorem begin_runs (finds : Finds bridge index ⟨job.future, job.polls, phase⟩
    ⟨[], [], none, none⟩) : Runs job index (bridge.begin index) := by
  unfold Bridge.begin
  obtain ⟨fault, -, refused⟩ | ⟨minted, -, enrolled⟩ :=
    register_cases (some index) false bridge
  · simp only [refused]
    exact ⟨_, _, _, finds.setPhase _, .refused _ fault, trivial⟩
  · simp only [enrolled]
    have started : Finds (bridge.enrol (some index) false minted) index
        ⟨job.future, job.polls, phase⟩ ⟨[], [], none, none⟩ :=
      finds.does [.registered (some index) _] rfl rfl (by simp [Event.task?])
        (by simp [Account.note, Event.taken?, Event.call?])
    have loops : Loops job index (bridge.enrol (some index) false minted) [] 0 := ⟨phase, started⟩
    refine pollOn_runs loops (Job.pursue_nil job) fun loops waits => ?_
    refine goOn_runs [] loops waits ?_ ?_
    · rw [owners, poll_continuations, ← owners]
      exact owner_enrol ..
    · rw [codesAt_congr (poll_continuations ..)]
      simp [codesAt, enrol]

theorem step_runs (runs : Runs job index bridge) (rest : List Ready) :
    Runs job index ({ bridge with ready := rest }.step index) := by
  obtain ⟨polls, phase, account, finds, course, attended⟩ := runs
  have popped : Finds { bridge with ready := rest } index ⟨job.future, polls, phase⟩ account :=
    ⟨finds.known, finds.account⟩
  unfold Bridge.step
  simp only [finds.known, Option.map_some]
  cases phase with
  | unstarted cancelled =>
      cases course with
      | unstarted => exact begin_runs popped
      | askedEarly => exact ⟨_, _, _, popped.setPhase _, .dropped _, trivial⟩
  | sleeping place => exact ⟨_, _, _, popped, course, attended⟩
  | woken place cancelled =>
      cases course with
      | woken _ waits =>
          dsimp only
          rw [wake_eq_goOn]
          exact goOn_runs _ ⟨_, popped⟩ waits attended.1 rfl
      | asked polls taken place =>
          exact ⟨_, _, _, popped.finish place .cancelled, .stopped _ taken, trivial⟩
  | ended ending => exact ⟨_, _, _, popped, course, trivial⟩

theorem cancel_runs (runs : Runs job index bridge) : Runs job index (bridge.cancel index).2 := by
  obtain ⟨polls, phase, account, finds, course, attended⟩ := runs
  unfold Bridge.cancel
  simp only [finds.known, Option.map_some]
  have asked (phase : Phase) : Finds ((bridge.record (.asked index)).setPhase index phase) index
      ⟨job.future, polls, phase⟩
      { account with asked := account.asked.or (some (account.calls.count .poll)) } := by
    have recorded : Finds (bridge.record (.asked index)) index ⟨job.future, polls, _⟩
        { account with asked := account.asked.or (some (account.calls.count .poll)) } :=
      finds.does [.asked index] rfl rfl (by simp [Event.task?])
        (by simp [Account.note, Event.taken?, Event.call?])
    exact recorded.setPhase phase
  cases phase with
  | unstarted cancelled =>
      cases course with
      | unstarted => exact ⟨_, _, _, asked _, .askedEarly, attended⟩
      | askedEarly => exact ⟨_, _, _, asked _, .askedEarly, attended⟩
  | sleeping place =>
      cases course with
      | @sleeping taken _ waits =>
          exact ⟨_, _, _, (asked _).frame (.enqueue ..), by simpa using Course.asked _ taken place,
            attended.1, List.mem_append_right _ (.head _)⟩
  | woken place cancelled =>
      cases course with
      | @woken taken _ waits =>
          exact ⟨_, _, _, asked _, by simpa using Course.asked _ taken place, attended⟩
      | asked _ taken _ => exact ⟨_, _, _, asked _, .asked _ taken place, attended⟩
  | ended ending => exact ⟨_, _, _, finds, course, trivial⟩

/-- A code is put at a continuation of the task. -/
theorem put_runs {continuation : Nat} (runs : Runs job index bridge)
    (owned : bridge.owners[continuation]? = some (some index)) (code : Int) :
    Runs job index (bridge.put continuation code) := by
  obtain ⟨polls, phase, account, finds, course, attended⟩ := runs
  have owners (codes : List Int) : (bridge.setCodes continuation codes).owners = bridge.owners :=
    owners_setCodes ..
  obtain ⟨target, found, mine⟩ := target_of_owner owned
  have held : Finds (bridge.setCodes continuation (target.codes ++ [code])) index
      ⟨job.future, polls, phase⟩ account := ⟨finds.known, finds.account⟩
  unfold Bridge.put
  simp only [found, mine]
  unfold Bridge.rouse
  simp only [held.known, Option.map_some]
  cases phase with
  | unstarted cancelled => exact ⟨_, _, _, held, course, attended⟩
  | sleeping place =>
      dsimp only
      split
      next same =>
        cases course with
        | sleeping _ waits =>
          exact ⟨_, _, _, (held.setPhase _).frame (.enqueue ..), .woken place waits,
            (owners _).symm ▸ attended.1, List.mem_append_right _ (.head _)⟩
      next different =>
        refine ⟨_, _, _, held, course, (owners _).symm ▸ attended.1, ?_⟩
        simpa [codesAt, setCodes, Ne.symm different] using attended.2
  | woken place cancelled =>
      exact ⟨_, _, _, held, course, (owners _).symm ▸ attended.1, attended.2⟩
  | ended ending => exact ⟨_, _, _, held, course, trivial⟩

end Runs

end ForeignCall.Bridge
