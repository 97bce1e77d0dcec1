import ForeignCall.Proofs.Bridge.Course
import ForeignCall.Proofs.Bridge.Delivery
import ForeignCall.Session.Run

/-! Tasks do not interfere. What a task does in a run, and what it comes to, follows from what it is
started with, from the codes brought to its handle, from when it is asked to end and from what its
completing call comes to, whatever else there is in the run. -/

namespace ForeignCall

def Phase.ending? : Phase → Option Ending
  | .ended ending => some ending
  | .unstarted _ | .sleeping _ | .woken .. => none

namespace Bridge

def Move.job? : Move → Option Job
  | .start future polls => some ⟨future, polls⟩
  | .register _ | .callback .. | .cancel _ | .turn | .take _ | .act _ => none

/-- What the tasks of a run are started with, in the order of their numbers. -/
def jobs (moves : List Move) : List Job :=
  moves.filterMap Move.job?

theorem jobs_concat (moves : List Move) (move : Move) :
    jobs (moves ++ [move]) = jobs moves ++ move.job?.toList := by
  cases made : move.job? <;> simp [jobs, made]

theorem run_concat (moves : List Move) (move : Move) (bridge : Bridge) :
    run (moves ++ [move]) bridge = move.apply (run moves bridge) :=
  List.foldl_concat ..

/-- Every task takes its course. -/
structure Courses (jobs : List Job) (bridge : Bridge) : Prop where
  count : bridge.tasks.length = jobs.length
  runs : ∀ index job, jobs[index]? = some job → Runs job index bridge

section Courses

variable {jobs : List Job} {bridge before after : Bridge}

theorem Runs.exists_task {job : Job} {index : Nat} (runs : Runs job index bridge) :
    ∃ task, bridge.tasks[index]? = some task := by
  obtain ⟨polls, phase, account, finds, -, -⟩ := runs
  exact ⟨_, finds.known⟩

theorem Courses.job (courses : Courses jobs bridge) {index : Nat} {task : Task}
    (known : bridge.tasks[index]? = some task) :
    ∃ job, jobs[index]? = some job ∧ Runs job index bridge := by
  have bound := (List.getElem?_eq_some_iff.mp known).1
  rw [courses.count] at bound
  exact ⟨_, List.getElem?_eq_getElem bound, courses.runs _ _ (List.getElem?_eq_getElem bound)⟩

theorem Courses.owned (courses : Courses jobs bridge) {index : Nat} {task : Task}
    {place : Registration} {cancelled : Bool} (known : bridge.tasks[index]? = some task)
    (phase : task.phase = .woken place cancelled) :
    bridge.owners[place.continuation]? = some (some index) := by
  obtain ⟨job, -, polls, phase', account, finds, course, attended⟩ := courses.job known
  obtain rfl := Option.some.inj (known.symm.trans finds.known)
  cases phase
  exact attended.1

/-- One task acts, if it exists, and the others are left alone. -/
theorem Courses.act (courses : Courses jobs before) (index : Nat)
    (others : ∀ other, index ≠ other → Frame other before after)
    (own : ∀ job, Runs job index before → Runs job index after)
    (idle : before.tasks[index]? = none → after.tasks[index]? = none) : Courses jobs after := by
  have runs : ∀ other job, jobs[other]? = some job → Runs job other after := by
    intro other job started
    by_cases same : index = other
    · subst same
      exact own job (courses.runs index job started)
    · exact (courses.runs other job started).frame (others other same)
  refine ⟨?_, runs⟩
  -- The tasks that there are go on, and where there is none, none comes to be.
  refine (eq_of_forall_lt_iff fun other => ?_).trans courses.count
  cases known : before.tasks[other]? with
  | none =>
      have nothing : after.tasks[other]? = none := by
        by_cases same : index = other
        · subst same
          exact idle known
        · exact (others other same).task.trans known
      rw [List.getElem?_eq_none_iff] at known nothing
      omega
  | some task =>
      obtain ⟨job, started, -⟩ := courses.job known
      obtain ⟨task', known'⟩ := (runs other job started).exists_task
      have bound := (List.getElem?_eq_some_iff.mp known).1
      have bound' := (List.getElem?_eq_some_iff.mp known').1
      omega

theorem Courses.frame (courses : Courses jobs before)
    (frames : ∀ index, Frame index before after) : Courses jobs after :=
  courses.act 0 (fun other _ => frames other) (fun _ runs => runs.frame (frames 0))
    fun unknown => (frames 0).task.trans unknown

theorem Courses.start (courses : Courses jobs bridge) (lives : Lives ⟨none, bridge⟩) (job : Job) :
    Courses (jobs ++ [job]) (bridge.start job.future job.polls) := by
  have tasks : (bridge.start job.future job.polls).tasks =
      bridge.tasks ++ [⟨job.future, job.polls, .unstarted false⟩] := rfl
  have frames (index : Nat) (old : index < bridge.tasks.length) :
      Frame index bridge (bridge.start job.future job.polls) :=
    .around [] rfl (by rw [tasks, List.getElem?_append_left old]) (List.append_nil _).symm
      (by simp) (List.mem_append_left _)
  refine ⟨by simp [tasks, courses.count], fun index job' started => ?_⟩
  rcases Nat.lt_or_ge index jobs.length with old | new
  · rw [List.getElem?_append_left old] at started
    exact (courses.runs index job' started).frame (frames index (courses.count ▸ old))
  · obtain ⟨rfl, rfl⟩ : index = bridge.tasks.length ∧ job = job' := by
      have bound := (List.getElem?_eq_some_iff.mp started).1
      rw [List.length_append, List.length_singleton] at bound
      have last : index = jobs.length := by omega
      subst last
      exact ⟨courses.count.symm, by simpa using started⟩
    refine ⟨_, _, _, ⟨by simp [tasks], ?_⟩, .unstarted, List.mem_append_right _ (.head _)⟩
    have silent := lives.absent bridge.tasks.length (Nat.le_refl _)
    exact congrArg Account.ofEvents silent

theorem Courses.cancel (courses : Courses jobs bridge) (index : Nat) :
    Courses jobs (bridge.cancel index).2 := by
  refine courses.act index (fun other different => .cancel different bridge)
    (fun job runs => cancel_runs runs) fun unknown => ?_
  simp [Bridge.cancel, unknown]

theorem Courses.step (courses : Courses jobs bridge) {index : Nat} {rest : List Ready}
    (first : bridge.ready = .step index :: rest) :
    Courses jobs ({ bridge with ready := rest }.step index) := by
  refine courses.act index (fun other different => ?_) (fun job runs => step_runs runs rest)
    fun unknown => ?_
  · refine (Frame.pop first (by simpa using different)).trans (.step different ?_)
    intro task place known phase
    exact courses.owned known phase
  · simp [Bridge.step, unknown]

theorem Courses.put (courses : Courses jobs bridge) {continuation : Nat} {code : Int}
    {rest : List Ready} (first : bridge.ready = .put continuation code :: rest) :
    Courses jobs ({ bridge with ready := rest }.put continuation code) := by
  have popped (index : Nat) : Frame index bridge { bridge with ready := rest } :=
    .pop first (by simp)
  cases owner : bridge.owners[continuation]?.join with
  | none =>
      refine courses.frame fun index => (popped index).trans (.put (fun owned => ?_) code)
      have owned : bridge.owners[continuation]? = some (some index) := owned
      simp [owned] at owner
  | some index =>
      have owned := Option.join_eq_some_iff.mp owner
      refine courses.act index (fun other different => (popped other).trans (.put ?_ code))
        (fun job runs => put_runs (runs.frame (popped index)) owned code) fun unknown => ?_
      · intro mine
        exact different (by simpa using owned.symm.trans mine)
      · obtain ⟨target, found, mine⟩ := target_of_owner owned
        simp [Bridge.put, found, mine, rouse, setCodes, unknown]

theorem Courses.move (courses : Courses jobs bridge) (lives : Lives ⟨none, bridge⟩) (move : Move) :
    Courses (jobs ++ move.job?.toList) (move.apply bridge) := by
  have stays {after : Bridge} (courses : Courses jobs after) :
      Courses (jobs ++ (none : Option Job).toList) after := (List.append_nil jobs).symm ▸ courses
  cases move with
  | start future polls => exact courses.start lives ⟨future, polls⟩
  | register closed => exact stays (courses.frame fun index => .register closed none (by simp) _)
  | callback route handle code => exact stays (courses.frame fun index => .callback index _ _ _)
  | cancel index => exact stays (courses.cancel index)
  | turn =>
      refine stays ?_
      simp only [Move.apply, Bridge.turn]
      split
      next => exact courses
      next index rest first => exact courses.step first
      next continuation code rest first => exact courses.put first
  | take continuation =>
      refine stays ?_
      simp only [Move.apply, takeCode]
      split
      next bare =>
        split
        next => exact courses
        next code rest held =>
          refine courses.frame fun index => .setCodes (fun owned => ?_) rest
          obtain ⟨target, found, mine⟩ := target_of_owner owned
          simp [Bare, found, mine] at bare
      next => exact courses
  | act change =>
      exact stays (courses.frame fun index =>
        .around [] rfl rfl (List.append_nil _).symm (by simp) id)

end Courses

theorem run_courses (moves : List Move) (caller : Caller) :
    Courses (jobs moves) (run moves (.initial caller)) := by
  induction moves using List.reverseRecOn with
  | nil => exact ⟨rfl, by simp [jobs]⟩
  | append_singleton moves move ih =>
      rw [run_concat, jobs_concat]
      exact ih.move (run_lives moves caller) move

/-- The queue holds nothing for the task: no turn of it, and no code for its continuation. -/
def AtRest (index : Nat) (bridge : Bridge) : Prop :=
  .step index ∉ bridge.ready ∧
    ∀ continuation code, .put continuation code ∈ bridge.ready →
      bridge.owners[continuation]? ≠ some (some index)

theorem atRest_of_empty {bridge : Bridge} (empty : bridge.ready = []) (index : Nat) :
    AtRest index bridge := by
  simp [AtRest, empty]

def placeOf (index : Nat) (events : List Event) : Option Registration :=
  (eventsOf index events).findSome? Event.registration?

/-- The codes that were brought to the handle of a task. -/
def broughtTo (index : Nat) (events : List Event) : List Int :=
  match placeOf index events with
  | none => []
  | some place => broughtSince place events

theorem Life.findSome?_registration {index : Nat} {future : ForeignFuture} {stage : Stage}
    {past : List Event} (life : Life index future stage past) :
    past.findSome? Event.registration? = stage.place? := by
  induction life with
  | fresh => rfl
  | register place _ ih =>
      rw [List.findSome?_append, ih]
      rfl
  | _ => simp_all [Stage.place?, Event.registration?]

theorem mem_throughReady {codes : List Int} (ready : pollReady ∈ codes) :
    pollReady ∈ throughReady codes := by
  obtain ⟨before, after, rfl, waits⟩ := List.eq_append_cons_of_mem ready
  rw [List.append_cons, throughReady_append_of_mem (by simp), throughReady_concat waits]
  simp

section Brought

variable {bridge : Bridge} {index : Nat} {task : Task}

theorem taken_prefix_brought (lives : Lives ⟨none, bridge⟩) (board : Board bridge)
    (flow : Flow bridge) (known : bridge.tasks[index]? = some task) :
    takenOf index bridge.events <+: broughtTo index bridge.events := by
  obtain ⟨stage, stands, life⟩ := lives.life index task known
  rw [broughtTo, placeOf, life.findSome?_registration]
  cases there : stage.place? with
  | none =>
      have nothing : takenOf index bridge.events = [] := by
        have shows := life.shows
        cases stage <;> first | exact shows.1 | cases there
      exact nothing.symm ▸ List.nil_prefix
  | some place =>
      have registered := (mem_eventsOf.mp ((life.registered_iff place).mpr there)).1
      have within := (board.arrived _ place registered).1
      rw [flow.conserved index place registered, List.append_assoc] at within
      exact (List.prefix_append ..).trans (within.trans (List.take_prefix ..))

theorem taken_eq_brought (lives : Lives ⟨none, bridge⟩) (board : Board bridge)
    (flow : Flow bridge) (known : bridge.tasks[index]? = some task) {place : Registration}
    (phase : task.phase = .sleeping place) (held : bridge.codesAt place.continuation = [])
    (rests : AtRest index bridge) :
    takenOf index bridge.events = broughtTo index bridge.events := by
  obtain ⟨stage, stands, life⟩ := lives.life index task known
  rw [stands_none, phase] at stands
  cases stands
  have registered := (mem_eventsOf.mp ((life.registered_iff place).mpr rfl)).1
  have owned := ((board.placed _ _).mp registered).2
  have unfreed : .freed index ∉ bridge.events := by
    intro freed
    obtain ⟨_, _, impossible⟩ := life.ended_of_freed (mem_eventsOf.mpr ⟨freed, rfl⟩)
    cases impossible
  have nothing : queuedFor place.continuation bridge.ready = [] := by
    rw [queuedFor, List.filterMap_eq_nil_iff]
    intro ready member
    cases ready with
    | step other => rfl
    | put other code =>
        have different : other ≠ place.continuation := by
          rintro rfl
          exact rests.2 _ code member owned
        simp [Ready.code?, different]
  have whole := (board.arrived _ place registered).2 fun other mine => by
    cases mine
    exact unfreed
  rw [flow.conserved index place registered, held, nothing, List.append_nil,
    List.append_nil] at whole
  have waits : pollReady ∉ broughtSince place bridge.events := by
    intro ready
    have taken : pollReady ∈ takenOf index bridge.events := whole ▸ mem_throughReady ready
    exact life.shows.1 taken
  rw [broughtTo, placeOf, life.findSome?_registration, whole]
  exact throughReady_of_not_mem waits

end Brought

/-- What has become of a task. -/
structure Result where
  taken : List Int
  calls : List NativeCall
  ending : Option Ending

def resultOf (index : Nat) (bridge : Bridge) : Result where
  taken := takenOf index bridge.events
  calls := callsOf index bridge.events
  ending := bridge.tasks[index]?.bind fun task => task.phase.ending?

/-- The task failed before its first poll, because no handle could be made for it. -/
def Refused (index : Nat) (bridge : Bridge) : Prop :=
  (resultOf index bridge).calls = [] ∧
    ∃ fault, (resultOf index bridge).ending = some (.failed fault)

/-- What becomes of a task that is brought these codes, is first asked to end after so many polls,
if at all, and gets this answer to its completing call, if it makes it. -/
def Job.result (job : Job) (codes : List Int) (asked : Option Nat)
    (answer : Except Fault Datum) : Result :=
  match asked with
  | some 0 => ⟨[], [], some .cancelled⟩
  | some (count + 1) =>
      ⟨codes.take count, .replicate (count + 1) .poll ++ [.free],
        some (closing job.future .cancelled)⟩
  | none =>
      match job.pursue codes with
      | ⟨taken, .waits⟩ => ⟨taken, .replicate (taken.length + 1) .poll, none⟩
      | ⟨taken, .raises fault⟩ =>
          ⟨taken, .replicate (taken.length + 1) .poll ++ [.free],
            some (closing job.future (.failed fault))⟩
      | ⟨taken, .completes⟩ =>
          ⟨taken, .replicate taken.length .poll ++ completion answer,
            some (closing job.future (conclude job.future answer))⟩

section Result

variable {bridge : Bridge} {index : Nat} {job : Job} {account : Account}

theorem Finds.takenOf {task : Task} (finds : Finds bridge index task account) :
    takenOf index bridge.events = account.taken := by
  rw [Bridge.takenOf, ← Account.taken_ofEvents, ← finds.account, accountOf]

theorem Finds.resultOf {task : Task} (finds : Finds bridge index task account) :
    resultOf index bridge = ⟨account.taken, account.calls, task.phase.ending?⟩ := by
  have calls : callsOf index bridge.events = account.calls := by
    rw [callsOf, ← Account.calls_ofEvents, ← finds.account, accountOf]
  rw [Bridge.resultOf, finds.takenOf, calls, finds.known]
  rfl

theorem Course.result {polls : List (List PollAct)} {phase : Phase}
    (course : Course job polls phase account) (attended : Attended bridge index phase)
    (rests : AtRest index bridge) {codes : List Int} (within : account.taken <+: codes)
    (slept : ∀ place, phase = .sleeping place → account.taken = codes)
    (admitted : account.calls = [] → ∀ fault, phase ≠ .ended (.failed fault))
    {answer : Except Fault Datum}
    (answered : ∀ given, account.answer = some given → given = answer) :
    ⟨account.taken, account.calls, phase.ending?⟩ = job.result codes account.asked answer := by
  cases course with
  | unstarted => exact absurd attended rests.1
  | askedEarly => exact absurd attended rests.1
  | dropped => rfl
  | refused _ fault => exact absurd rfl (admitted rfl fault)
  | sleeping place waits =>
      obtain rfl := slept place rfl
      simp [Job.result, waits, Phase.ending?]
  | woken => exact absurd attended.2 rests.1
  | asked => exact absurd attended.2 rests.1
  | stopped _ taken =>
      have took : taken = codes.take taken.length := List.prefix_iff_eq_take.mp within
      simp [Job.result, ← took, Phase.ending?]
  | raised _ raises =>
      obtain ⟨more, rfl⟩ := within
      simp [Job.result, Job.pursue_append raises, Phase.ending?]
  | completed _ completes =>
      obtain ⟨more, rfl⟩ := within
      obtain rfl := answered _ rfl
      simp [Job.result, Job.pursue_append completes, Phase.ending?]

theorem Course.answers {polls : List (List PollAct)} {phase : Phase}
    (course : Course job polls phase account) {answer : Except Fault Datum}
    (answered : account.answer = some answer) : Answers job.future answer := by
  cases course with
  | completed _ _ answers => exact Option.some.inj answered ▸ answers
  | _ => cases answered

end Result

/-- What becomes of a task in a run, once the queue holds nothing for it. -/
theorem result_of_run (moves : List Move) (caller : Caller)
    (few : (registrations (run moves (.initial caller)).events).length < 0x10000000000000000)
    {index : Nat} {job : Job} (started : (jobs moves)[index]? = some job)
    (admitted : ¬ Refused index (run moves (.initial caller)))
    (rests : AtRest index (run moves (.initial caller))) {answer : Except Fault Datum}
    (answered : ∀ given, (accountOf index (run moves (.initial caller))).answer = some given →
      given = answer) :
    resultOf index (run moves (.initial caller)) =
      job.result (broughtTo index (run moves (.initial caller)).events)
        (accountOf index (run moves (.initial caller))).asked answer := by
  have kept := run_kept moves caller
  have lives := kept.lives
  have board := kept.board (kept.all ▸ few)
  have flow := run_flow moves caller few
  obtain ⟨polls, phase, account, finds, course, attended⟩ :=
    (run_courses moves caller).runs index job started
  have within := taken_prefix_brought lives board flow finds.known
  have slept (place : Registration) := fun asleep : phase = .sleeping place =>
    taken_eq_brought lives board flow finds.known asleep (asleep ▸ attended).2 rests
  rw [Refused, finds.resultOf] at admitted
  rw [finds.takenOf] at within slept
  rw [finds.account] at answered ⊢
  rw [finds.resultOf]
  refine course.result attended rests within slept (fun silent fault failed => ?_) answered
  exact admitted ⟨silent, fault, congrArg Phase.ending? failed⟩

example : Job.result ⟨idleFuture none, [[.answer 1]]⟩ [1, 0, 0] none (.ok .null) =
    ⟨[1, 0], [.poll, .poll, .complete, .lift, .free], some (.returned .null)⟩ := rfl

theorem answer_of_run (moves : List Move) (caller : Caller) {index : Nat} {job : Job}
    (started : (jobs moves)[index]? = some job) {answer : Except Fault Datum}
    (answered : (accountOf index (run moves (.initial caller))).answer = some answer) :
    Answers job.future answer := by
  obtain ⟨polls, phase, account, finds, course, -⟩ :=
    (run_courses moves caller).runs index job started
  exact course.answers (finds.account ▸ answered)

/-- The completing calls of two runs agree, if what they come to is the same on every calling
side. -/
theorem answers_agree {moves moves' : List Move} {caller caller' : Caller} {index index' : Nat}
    {job : Job} (started : (jobs moves)[index]? = some job)
    (started' : (jobs moves')[index']? = some job)
    (steady : ∀ answer answer', Answers job.future answer → Answers job.future answer' →
      answer = answer') (answer answer' : Except Fault Datum)
    (first : (accountOf index (run moves (.initial caller))).answer = some answer)
    (second : (accountOf index' (run moves' (.initial caller'))).answer = some answer') :
    answer = answer' :=
  steady _ _ (answer_of_run moves caller started first)
    (answer_of_run moves' caller' started' second)

/-- What a task of a run is given: what it is started with, the codes brought to its handle, and
when it is first asked to end. The queue holds nothing for it any more. -/
structure Given (moves : List Move) (caller : Caller) (index : Nat) (job : Job) (codes : List Int)
    (asked : Option Nat) : Prop where
  few : (registrations (run moves (.initial caller)).events).length < 0x10000000000000000
  started : (jobs moves)[index]? = some job
  brought : broughtTo index (run moves (.initial caller)).events = codes
  asked : (accountOf index (run moves (.initial caller))).asked = asked
  admitted : ¬ Refused index (run moves (.initial caller))
  rests : AtRest index (run moves (.initial caller))

/-- A bridge that has only been called back: no task, no continuation, no entry of the map and
nothing in the queue has changed. -/
structure Untouched (before after : Bridge) : Prop where
  tasks : after.tasks = before.tasks
  continuations : after.continuations = before.continuations
  handles : after.handles = before.handles
  ready : after.ready = before.ready

theorem callback_untouched {bridge : Bridge} {handle : Int}
    (unknown : bridge.handles.get? handle = none) (code : Int) :
    Untouched bridge (bridge.callback handle code) := by
  refine ⟨callback_tasks .., callback_continuations .., ?_, ?_⟩
  · rw [callback_handles, handlesAfter, HandleMap.remove_of_absent unknown, ite_self]
  · rw [callback_of_unknown code unknown]
    rfl

/-- A task that is given the same in two runs, and whose completing calls agree if it makes them,
comes to the same result in both, whatever other tasks there are, whatever is brought to other
handles and whatever happens on the calling side. What is brought to a handle without a continuation
is of no consequence. -/
theorem result_of_given {moves moves' : List Move} {caller caller' : Caller} {index index' : Nat}
    {job : Job} {codes : List Int} {asked : Option Nat}
    (given : Given moves caller index job codes asked)
    (given' : Given moves' caller' index' job codes asked)
    (agree : ∀ answer answer',
      (accountOf index (run moves (.initial caller))).answer = some answer →
      (accountOf index' (run moves' (.initial caller'))).answer = some answer' → answer = answer') :
    resultOf index (run moves (.initial caller)) =
        resultOf index' (run moves' (.initial caller')) ∧
      ∀ (bridge : Bridge) (handle code : Int), bridge.handles.get? handle = none →
        Untouched bridge (bridge.callback handle code) := by
  obtain ⟨answer, answered, answered'⟩ : ∃ answer,
      (∀ given, (accountOf index (run moves (.initial caller))).answer = some given →
        given = answer) ∧
      ∀ given, (accountOf index' (run moves' (.initial caller'))).answer = some given →
        given = answer := by
    cases first : (accountOf index (run moves (.initial caller))).answer with
    | some answer =>
        exact ⟨answer, by simp [eq_comm], fun given second => (agree _ _ first second).symm⟩
    | none =>
        cases (accountOf index' (run moves' (.initial caller'))).answer with
        | some answer => exact ⟨answer, by simp, by simp [eq_comm]⟩
        | none => exact ⟨.ok .null, by simp, by simp⟩
  refine ⟨?_, fun bridge handle code unknown => callback_untouched unknown code⟩
  rw [result_of_run moves caller given.few given.started given.admitted given.rests answered,
    result_of_run moves' caller' given'.few given'.started given'.admitted given'.rests answered',
    given.brought, given'.brought, given.asked, given'.asked]

/-- A task is told to wait, and later that its result is there, twice. -/
def alone : List Move :=
  [.start (idleFuture none) [[.answer 1]], .turn, .turn, .turn, .callback .direct 0 0,
    .callback .foreign 0 0, .turn, .turn]

/-- The same beside another task, which is started first and cancelled when it is woken. The handle
of either is called back when it is not there yet, or no more. -/
def crowded : List Move :=
  [.start (idleFuture (some (.foreign "free failed"))) [[.answer 3]], .callback .foreign 1 0, .turn,
    .start (idleFuture none) [[.answer 1]], .turn, .turn, .cancel 0, .turn, .turn,
    .callback .foreign 0 5, .turn, .callback .direct 1 0, .callback .foreign 1 0, .turn, .turn]

theorem result_of_given_crowded :
    Given alone (.initial .bare 8) 0 ⟨idleFuture none, [[.answer 1]]⟩ [1, 0, 0] none ∧
      Given crowded (.initial .bare 8) 1 ⟨idleFuture none, [[.answer 1]]⟩ [1, 0, 0] none ∧
      (∀ answer answer',
        (accountOf 0 (run alone (.initial (.initial .bare 8)))).answer = some answer →
        (accountOf 1 (run crowded (.initial (.initial .bare 8)))).answer = some answer' →
        answer = answer') ∧
      resultOf 0 (run alone (.initial (.initial .bare 8))) =
        resultOf 1 (run crowded (.initial (.initial .bare 8))) ∧
      ∀ (bridge : Bridge) (handle code : Int), bridge.handles.get? handle = none →
        Untouched bridge (bridge.callback handle code) :=
  have given : Given alone (.initial .bare 8) 0 ⟨idleFuture none, [[.answer 1]]⟩ [1, 0, 0] none :=
    ⟨by decide, rfl, rfl, rfl, fun refused => absurd refused.1 (by decide), atRest_of_empty rfl 0⟩
  have given' :
      Given crowded (.initial .bare 8) 1 ⟨idleFuture none, [[.answer 1]]⟩ [1, 0, 0] none :=
    ⟨by decide, rfl, rfl, rfl, fun refused => absurd refused.1 (by decide), atRest_of_empty rfl 1⟩
  have steady : ∀ answer answer', Answers (idleFuture none) answer →
      Answers (idleFuture none) answer' → answer = answer' := by
    rintro _ _ ⟨caller, rfl⟩ ⟨caller', rfl⟩
    rfl
  have agree := answers_agree given.started given'.started steady
  ⟨given, given', agree, result_of_given given given' agree⟩

end Bridge

namespace Session

def after (steps : List Step) : Session :=
  steps.foldl (fun session step => (perform step session).2) (.initial .bare 8)

/-- The same steps, with one more task started at some point. -/
def beside (position : Nat) (peer : Launch) (steps : List Step) : List Step :=
  steps.take position ++ .start "peer" peer true :: steps.drop position

def idling : Launch :=
  ⟨.null, [], .foreign, .idle, .same, .undeclared, false⟩

/-- A task is told that its result is there, and cancelled before the loop turns. -/
def raced : List Step :=
  [.start "task" idling true, .callback .foreign 0 0 false, .cancel "task" true]

def failing : Launch :=
  ⟨.null, [[.answer 0]], .foreign, ⟨⟨1, some [120], none⟩, none, .null, false⟩, .same, .undeclared,
    false⟩

/-- A task whose call fails, where the library that frees the payload panics at its first call. -/
def shared : List Step :=
  [.bind ⟨["demo_rustbuffer_from_bytes", "demo_rustbuffer_free"], 0, [], [some ⟨2, none, none⟩]⟩
      "demo", .libraryAllocator 0 "library", .setAllocator "library", .start "task" failing true]

def failureOf (session : Session) (task : Nat) : Option Fault.Family :=
  match session.endingOf task with
  | some (.failed fault) => fault.family?
  | _ => none

/-- Without agreement on when a task is cancelled or on what its completing call comes to, another
task does make a difference: its start may turn the loop before the cancellation, and its failure
may use up the panic of the library. -/
theorem peers_matter :
    (after raced).endingOf 0 = some .cancelled ∧
      (after (beside 2 idling raced)).endingOf 0 = some (.returned .null) ∧
      (after shared).failureOf 0 = some .panic ∧
      (after (beside 3 failing shared)).failureOf 1 = some .internal :=
  ⟨rfl, rfl, by decide +kernel, by decide +kernel⟩

end Session

end ForeignCall
