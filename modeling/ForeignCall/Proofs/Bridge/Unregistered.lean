import ForeignCall.Proofs.Bridge.Handles

/-! Tasks that end without a registration. The clean-up at the end of a task is made only once its
continuation is registered: a task that was asked to end before it began, or whose continuation got
no handle, calls for nothing in foreign code, and its future is never freed. -/

namespace ForeignCall.Bridge

/-- A bridge without tasks, whose map of continuations has been in use. -/
def opening (caller : Caller) (handles : HandleMap Nat) : Bridge :=
  { initial caller with handles }

theorem Lives.opening (caller : Caller) (handles : HandleMap Nat) :
    Lives ⟨none, .opening caller handles⟩ :=
  ⟨by simp [Bridge.opening, Bridge.initial], by simp [Bridge.opening, Bridge.initial, eventsOf],
    by simp⟩

def EndsAs (bridge : Bridge) (index : Nat) (ending : Ending) : Prop :=
  ∃ task, bridge.tasks[index]? = some task ∧ task.phase = .ended ending

/-- Why a task ends in the turn that should have begun it. -/
inductive Precluded (bridge : Bridge) (index : Nat) : Ending → Prop
  | asked {task : Task} (known : bridge.tasks[index]? = some task)
      (phase : task.phase = .unstarted true) : Precluded bridge index .cancelled
  | full {fault : Fault}
      (refused : Word.ofInt bridge.caller.width bridge.handles.counter = .error fault) :
      Precluded bridge index (.failed fault)

/-- A task ends in the turn that should have begun it. Its phase is all that changes: the handles
and the continuations stay, and nothing is recorded. -/
structure Dismissed (index : Nat) (ending : Ending) (before after : Moment) : Prop where
  turn : before.turn = some (index, .chosen)
  precluded : Precluded before.bridge index ending
  left : after = ⟨none, before.bridge.setPhase index (.ended ending)⟩

theorem Dismissed.handles {index : Nat} {ending : Ending} {before after : Moment}
    (dismissed : Dismissed index ending before after) :
    after.bridge.handles = before.bridge.handles := by
  rw [dismissed.left]
  rfl

/-! How a task can have come to its end. -/

section EndsAs

variable {before after : Bridge} {index : Nat} {ending : Ending}

theorem EndsAs.of_tasks (ends : EndsAs after index ending) (tasks : after.tasks = before.tasks) :
    EndsAs before index ending := by
  unfold EndsAs at ends
  rwa [tasks] at ends

theorem EndsAs.of_setPhase {other : Nat} {phase : Phase}
    (ends : EndsAs (before.setPhase other phase) index ending) :
    EndsAs before index ending ∨ other = index ∧ phase = .ended ending := by
  obtain ⟨task, known, ended⟩ := ends
  simp only [setPhase, List.getElem?_modify, Option.map_eq_map, Option.map_eq_some_iff] at known
  obtain ⟨former, known, rfl⟩ := known
  by_cases same : other = index
  · rw [if_pos same] at ended
    exact .inr ⟨same, ended⟩
  · rw [if_neg same] at ended
    exact .inl ⟨former, known, ended⟩

theorem EndsAs.of_setPhase_other {other : Nat} {phase : Phase}
    (ends : EndsAs (before.setPhase other phase) index ending)
    (goesOn : ∀ ending, phase ≠ .ended ending) : EndsAs before index ending :=
  ends.of_setPhase.resolve_right fun now => goesOn ending now.2

theorem EndsAs.of_start {future : ForeignFuture} {polls : List (List PollAct)}
    (ends : EndsAs (before.start future polls) index ending) : EndsAs before index ending := by
  obtain ⟨task, known, ended⟩ := ends
  have tasks : (before.start future polls).tasks =
      before.tasks ++ [⟨future, polls, .unstarted false⟩] := rfl
  rw [tasks, List.getElem?_append] at known
  split at known
  next old => exact ⟨task, known, ended⟩
  next new =>
    obtain rfl := List.mem_singleton.mp (List.mem_of_getElem? known)
    cases ended

theorem EndsAs.of_cancel {other : Nat} (ends : EndsAs (before.cancel other).2 index ending) :
    EndsAs before index ending := by
  unfold Bridge.cancel at ends
  split at ends
  case h_1 | h_2 | h_3 => exact ends.of_setPhase_other (by simp)
  case h_4 | h_5 => exact ends

theorem EndsAs.of_put {rest : List Ready} {continuation : Nat} {code : Int}
    (ends : EndsAs ({ before with ready := rest }.put continuation code) index ending) :
    EndsAs before index ending := by
  unfold Bridge.put Bridge.rouse at ends
  split at ends
  · exact ends
  · dsimp only at ends
    split at ends
    · exact ends
    · split at ends
      · split at ends
        · exact ends.of_setPhase_other (by simp)
        · exact ends
      · exact ends

theorem EndsAs.of_poll {other : Nat} {task : Task} (known : before.tasks[other]? = some task)
    {handle : Nat} (ends : EndsAs (before.beginPoll other task handle) index ending) :
    EndsAs before index ending := by
  obtain ⟨found, there, ended⟩ := ends
  simp only [beginPoll, List.getElem?_set] at there
  split at there
  next same =>
    subst same
    split at there
    · cases there
      exact ⟨task, known, ended⟩
    · cases there
  next => exact ⟨found, there, ended⟩

theorem EndsAs.of_finish {other : Nat} {place : Registration} {left : Ending}
    (ends : EndsAs (before.finish other place left) index ending) :
    EndsAs before index ending ∨ other = index := by
  cases known : before.tasks[other]? with
  | none =>
      refine .inl (ends.of_tasks ?_)
      simp [finish, record, known]
  | some task =>
      obtain ⟨phase, tasks⟩ : ∃ phase, (before.finish other place left).tasks =
          (before.setPhase other phase).tasks := by
        cases free : task.future.freeFault with
        | none => exact ⟨_, by rw [finish_of_quiet known free]; rfl⟩
        | some fault => exact ⟨_, by rw [finish_of_raising known free]; rfl⟩
      exact (ends.of_tasks tasks).of_setPhase.imp_right And.left

end EndsAs

/-- A task at its end was there before, leaves its place now, or ends before it begins. -/
theorem Stride.ends {before after : Moment} (stride : Stride before after) {index : Nat}
    {ending : Ending} (ends : EndsAs after.bridge index ending) :
    EndsAs before.bridge index ending ∨
      (∃ place left, before.turn = some (index, .leaving place left)) ∨
      Dismissed index ending before after := by
  cases stride with
  | start => exact .inl ends.of_start
  | cancel => exact .inl ends.of_cancel
  | put => exact .inl ends.of_put
  | poll place known => exact .inl (ends.of_poll known)
  | sleep => exact .inl (ends.of_setPhase_other (by simp))
  | drop known phase =>
      rcases ends.of_setPhase with earlier | ⟨rfl, now⟩
      · exact .inl earlier
      · cases now
        exact .inr (.inr ⟨rfl, .asked known phase, rfl⟩)
  | @refuse other task fault bridge known phase refused =>
      rcases ends.of_setPhase with earlier | ⟨rfl, now⟩
      · exact .inl earlier
      · cases now
        obtain ⟨cause, full, same⟩ | ⟨minted, -, made⟩ := register_cases (some other) false bridge
        · cases same.symm.trans refused
          exact .inr (.inr ⟨rfl, .full (HandleMap.insert_eq_error full), rfl⟩)
        · cases made.symm.trans refused
  | leave other place left bridge =>
      rcases ends.of_finish with earlier | rfl
      · exact .inl earlier
      · exact .inr (.inl ⟨place, left, rfl⟩)
  | register closed bridge =>
      refine .inl (ends.of_tasks ?_)
      obtain ⟨fault, -, refused⟩ | ⟨minted, -, made⟩ := register_cases none closed bridge
      · rw [refused]
      · rw [made]
        rfl
  | @begin other task place bridge next known phase registered =>
      refine .inl (ends.of_tasks ?_)
      obtain ⟨fault, -, refused⟩ | ⟨minted, -, made⟩ := register_cases (some other) false bridge
      · cases refused.symm.trans registered
      · cases made.symm.trans registered
        rfl
  | callback handle code bridge | answer other place handle code bridge =>
      exact .inl (ends.of_tasks (callback_tasks bridge handle code))
  | takeBare bare =>
      refine .inl (ends.of_tasks ?_)
      unfold takeCode
      split <;> rfl
  | act | choose | pass | resume | stop | polled | pollRaises | take | takeReady | completeRaises
  | lift | liftRaises =>
      exact .inl (ends.of_tasks rfl)

theorem Stride.events_prefix {before after : Moment} (stride : Stride before after) :
    before.bridge.events <+: after.bridge.events := by
  cases stride.effect with
  | inner extended => exact ⟨_, extended.record.symm⟩
  | choose first popped => exact popped ▸ List.prefix_rfl
  | enrol inserted running unstarted enrolled => exact enrolled ▸ List.prefix_append _ _
  | callback handle code called => exact called ▸ ⟨_, (callback_events ..).symm⟩
  | take bare taken => exact taken ▸ List.prefix_rfl
  | lose first missing popped => exact popped ▸ List.prefix_rfl
  | put first found extended => exact ⟨_, extended.record.symm⟩
  | took turn held taken => exact taken ▸ List.prefix_append _ _
  | free turn extended =>
      exact (List.prefix_append before.bridge.events _).trans ⟨_, extended.record.symm⟩

theorem Strides.events_prefix {first last : Moment} (strides : Strides first last) :
    first.bridge.events <+: last.bridge.events := by
  induction strides with
  | refl => exact List.prefix_rfl
  | tail _ stride ih => exact ih.trans stride.events_prefix

/-- A task that ended without a registration was dismissed, in one stride on the way. -/
theorem Strides.exists_dismissal {first last : Moment} (strides : Strides first last)
    (lives : Lives first) {index : Nat} {ending : Ending}
    (goesOn : ¬ EndsAs first.bridge index ending) (ends : EndsAs last.bridge index ending)
    (unregistered : ∀ place, .registered (some index) place ∉ last.bridge.events) :
    ∃ before after, Strides first before ∧ Dismissed index ending before after ∧
      Strides after last := by
  obtain ⟨before, after, reached, stride, unended, ended, rest⟩ :=
    strides.exists_change (fun moment => EndsAs moment.bridge index ending) goesOn ends
  rcases stride.ends ended with earlier | ⟨place, left, turn⟩ | dismissed
  · exact absurd earlier unended
  · -- A task that leaves a place has registered it, and what is recorded stays recorded.
    have registered := ((reached.keep (fun _ _ => Lives.stride) lives).placed turn rfl).1
    have later := stride.events_prefix.trans (Strides.events_prefix rest)
    exact absurd (later.mem registered) (unregistered place)
  · exact ⟨before, after, reached, dismissed, rest⟩

/-- What a task at its end has done about its future on the way from one bridge to another. -/
inductive Parted (index : Nat) (ending : Ending) (first last : Bridge) : Prop
  | freed {place : Registration} (registered : .registered (some index) place ∈ last.events)
      (once : (callsOf index last.events).count .free = 1) : Parted index ending first last
  /-- Nothing was called for in foreign code, and the stride that ended it kept the handles. -/
  | dismissed {before after : Moment}
      (unregistered : ∀ place, .registered (some index) place ∉ last.events)
      (silent : callsOf index last.events = []) (reached : Strides ⟨none, first⟩ before)
      (dismissed : Dismissed index ending before after)
      (handles : after.bridge.handles = before.bridge.handles)
      (rest : Strides after ⟨none, last⟩) : Parted index ending first last

/-- A task at its end has freed its future once if it had registered. Else it has been dismissed,
with its future not freed: it had been asked to end, or the next handle was no word. -/
theorem freed_unless_dismissed (moves : List Move) (caller : Caller) (handles : HandleMap Nat)
    {index : Nat} {ending : Ending}
    (ends : EndsAs (run moves (.opening caller handles)) index ending) :
    Parted index ending (.opening caller handles) (run moves (.opening caller handles)) := by
  have strides := run_strides moves (.opening caller handles)
  have lives := strides.keep (fun _ _ => Lives.stride) (.opening caller handles)
  generalize run moves (.opening caller handles) = last at ends strides lives ⊢
  obtain ⟨task, known, ended⟩ := ends
  obtain ⟨stage, stands, life⟩ := lives.life index task known
  have shows := life.shows
  rw [stands_none, ended] at stands
  cases stands with
  | ended place =>
      obtain ⟨calls, closed, made⟩ := shows
      have own := (life.registered_iff place).mpr rfl
      refine .freed (mem_eventsOf.mp own).1 ?_
      rw [callsOf, made, List.count_append, List.count_eq_zero.mpr closed.free_not_mem]
      rfl
  | unregistered =>
      have never : ∀ place, .registered (some index) place ∉ last.events := by
        intro place registered
        have placed := (life.registered_iff place).mp (mem_eventsOf.mpr ⟨registered, rfl⟩)
        cases placed
      have absent : ¬ EndsAs (.opening caller handles) index ending := by
        rintro ⟨_, none, -⟩
        cases none
      obtain ⟨before, after, reached, dismissed, rest⟩ :=
        strides.exists_dismissal (.opening caller handles) absent ⟨task, known, ended⟩ never
      exact .dismissed never shows.2 reached dismissed dismissed.handles rest

def startAlone : List Move :=
  [.start (idleFuture none) [], .turn]

def worn : Bridge :=
  .opening (.initial .bare 4) ⟨64, 0x100000000, []⟩

theorem endsAs_startAlone :
    EndsAs (run startAlone worn) 0 (.failed (.wordRange 0x100000000 4)) :=
  ⟨_, rfl, rfl⟩

theorem freed_unless_dismissed_startAlone :
    EndsAs (run startAlone worn) 0 (.failed (.wordRange 0x100000000 4)) ∧
      Parted 0 (.failed (.wordRange 0x100000000 4)) worn (run startAlone worn) :=
  ⟨endsAs_startAlone,
    freed_unless_dismissed startAlone (.initial .bare 4) ⟨64, 0x100000000, []⟩ endsAs_startAlone⟩

def cancelledAtOnce : List Move :=
  [.start (idleFuture none) [], .cancel 0, .turn]

/-- Neither a task asked to end before its first turn nor one whose continuation gets no handle has
its future freed. -/
theorem unfreed_of_early_end :
    EndsAs (run cancelledAtOnce (.initial (.initial .bare 8))) 0 .cancelled ∧
      (callsOf 0 (run cancelledAtOnce (.initial (.initial .bare 8))).events).count .free = 0 ∧
      EndsAs (run startAlone worn) 0 (.failed (.wordRange 0x100000000 4)) ∧
      (callsOf 0 (run startAlone worn).events).count .free = 0 :=
  ⟨⟨_, rfl, rfl⟩, rfl, endsAs_startAlone, rfl⟩

end ForeignCall.Bridge
