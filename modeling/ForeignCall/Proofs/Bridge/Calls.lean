import ForeignCall.Proofs.Bridge.Life

/-! What a task calls for in foreign code: it polls, it may complete and lift, and it frees. The
codes it has taken and the calls it has made fit together at every stage. -/

namespace ForeignCall

inductive NativeCall where
  | poll
  | complete
  | lift
  | free
  deriving DecidableEq

namespace Event

def call? : Event → Option NativeCall
  | .polled _ _ => some .poll
  | .completed _ => some .complete
  | .lifted _ _ => some .lift
  | .freed _ => some .free
  | .registered .. | .called .. | .delivered .. | .took .. | .raised .. | .asked _
  | .withdrawn .. => none

def taken? : Event → Option Int
  | .took _ code => some code
  | .registered .. | .called .. | .delivered .. | .polled .. | .completed _ | .lifted ..
  | .raised .. | .asked _ | .withdrawn .. | .freed _ => none

end Event

namespace Bridge

def calls (events : List Event) : List NativeCall :=
  events.filterMap Event.call?

def taken (events : List Event) : List Int :=
  events.filterMap Event.taken?

@[simp] theorem calls_nil : calls [] = [] := rfl

@[simp] theorem calls_cons (event : Event) (rest : List Event) :
    calls (event :: rest) = event.call?.toList ++ calls rest := by
  cases h : event.call? <;> simp [calls, h]

@[simp] theorem calls_append (first second : List Event) :
    calls (first ++ second) = calls first ++ calls second :=
  List.filterMap_append ..

@[simp] theorem taken_nil : taken [] = [] := rfl

@[simp] theorem taken_cons (event : Event) (rest : List Event) :
    taken (event :: rest) = event.taken?.toList ++ taken rest := by
  cases h : event.taken? <;> simp [taken, h]

@[simp] theorem taken_append (first second : List Event) :
    taken (first ++ second) = taken first ++ taken second :=
  List.filterMap_append ..

def callsOf (index : Nat) (events : List Event) : List NativeCall :=
  calls (eventsOf index events)

def takenOf (index : Nat) (events : List Event) : List Int :=
  taken (eventsOf index events)

/-- The codes a task took before it left its loop, and the calls it made. -/
def Closed (taken : List Int) (calls : List NativeCall) : Prop :=
  (pollReady ∉ taken ∧ calls = .replicate (taken.length + 1) .poll) ∨
    ∃ codes, pollReady ∉ codes ∧ taken = codes ++ [pollReady] ∧
      (calls = .replicate (codes.length + 1) .poll ++ [.complete] ∨
        calls = .replicate (codes.length + 1) .poll ++ [.complete, .lift])

def Stage.Shows (taken : List Int) (calls : List NativeCall) : Stage → Prop
  | .unstarted _ => taken = [] ∧ calls = []
  | .unregistered _ => taken = [] ∧ calls = []
  | .looping _ => pollReady ∉ taken ∧ calls = .replicate taken.length .poll
  | .polling _ => pollReady ∉ taken ∧ calls = .replicate (taken.length + 1) .poll
  | .awaiting _ _ => pollReady ∉ taken ∧ calls = .replicate (taken.length + 1) .poll
  | .completing _ => ∃ codes, pollReady ∉ codes ∧ taken = codes ++ [pollReady] ∧
      calls = .replicate (codes.length + 1) .poll
  | .leaving _ _ => Closed taken calls
  | .ended _ _ => ∃ before, Closed taken before ∧ calls = before ++ [.free]

theorem Life.shows {index : Nat} {future : ForeignFuture} {stage : Stage} {past : List Event}
    (life : Life index future stage past) : stage.Shows (taken past) (calls past) := by
  induction life with
  | fresh => exact ⟨rfl, rfl⟩
  | askEarly _ ih => simpa [Stage.Shows, Event.taken?, Event.call?] using ih
  | endEarly ending _ ih => exact ih
  | register place _ ih =>
      obtain ⟨none, silent⟩ := ih
      simp [Stage.Shows, Event.taken?, Event.call?, none, silent]
  | poll _ ih =>
      obtain ⟨other, made⟩ := ih
      simp [Stage.Shows, Event.taken?, Event.call?, other, made, List.replicate_succ']
  | polled _ ih => exact ih
  | pollRaises fault _ ih =>
      refine .inl ?_
      simpa [Stage.Shows, Event.taken?, Event.call?] using ih
  | take different _ ih =>
      obtain ⟨other, made⟩ := ih
      simp [Stage.Shows, Event.taken?, Event.call?, other, made, different.symm]
  | takeReady _ ih =>
      obtain ⟨other, made⟩ := ih
      exact ⟨_, other, by simp [Event.taken?], by simp [Event.call?, made]⟩
  | ask _ ih => simpa [Stage.Shows, Event.taken?, Event.call?] using ih
  | stop _ ih => exact .inl ih
  | completeRaises fault _ ih =>
      obtain ⟨codes, other, took, made⟩ := ih
      exact .inr ⟨codes, other, by simp [Event.taken?, took],
        .inl (by simp [Event.call?, made])⟩
  | lift _ _ _ ih =>
      obtain ⟨codes, other, took, made⟩ := ih
      exact .inr ⟨codes, other, by simp [Event.taken?, took],
        .inr (by simp [Event.call?, made])⟩
  | liftRaises raw fault _ ih =>
      obtain ⟨codes, other, took, made⟩ := ih
      exact .inr ⟨codes, other, by simp [Event.taken?, took],
        .inr (by simp [Event.call?, made])⟩
  | leave found _ ih =>
      exact ⟨_, by simpa [Stage.Shows, Event.taken?] using ih, by simp [Event.call?]⟩
  | leaveRaises found fault _ ih =>
      exact ⟨_, by simpa [Stage.Shows, Event.taken?] using ih, by simp [Event.call?]⟩

theorem Life.registered_iff {index : Nat} {future : ForeignFuture} {stage : Stage}
    {past : List Event} (life : Life index future stage past) (place : Registration) :
    .registered (some index) place ∈ past ↔ stage.place? = some place := by
  induction life with
  | fresh => simp [Stage.place?]
  | register other _ ih => simp_all [Stage.place?, eq_comm]
  | _ => simp_all [Stage.place?]

theorem Lives.registered {bridge : Bridge} (lives : Lives ⟨none, bridge⟩) {index : Nat}
    {place : Registration} (registered : .registered (some index) place ∈ bridge.events) :
    ∃ task stage, bridge.tasks[index]? = some task ∧ Stands task.phase stage ∧
      stage.place? = some place ∧
      Life index task.future stage (eventsOf index bridge.events) := by
  have own : .registered (some index) place ∈ eventsOf index bridge.events :=
    mem_eventsOf.mpr ⟨registered, rfl⟩
  cases known : bridge.tasks[index]? with
  | none =>
      rw [lives.absent index (List.getElem?_eq_none_iff.mp known)] at own
      contradiction
  | some task =>
      obtain ⟨stage, stands, life⟩ := lives.life index task known
      exact ⟨task, stage, rfl, stands, (life.registered_iff place).mp own, life⟩

theorem Closed.free_not_mem {taken : List Int} {calls : List NativeCall}
    (closed : Closed taken calls) : .free ∉ calls := by
  rcases closed with ⟨-, rfl⟩ | ⟨codes, -, -, rfl | rfl⟩ <;> simp

theorem Life.ended_of_freed {index : Nat} {future : ForeignFuture} {stage : Stage}
    {past : List Event} (life : Life index future stage past) (freed : .freed index ∈ past) :
    ∃ place ending, stage = .ended place ending := by
  have called : .free ∈ calls past := List.mem_filterMap.mpr ⟨_, freed, rfl⟩
  have shows := life.shows
  cases stage with
  | ended place ending => exact ⟨place, ending, rfl⟩
  | unstarted => simp [shows.2] at called
  | unregistered => simp [shows.2] at called
  | looping => simp [shows.2] at called
  | polling => simp [shows.2] at called
  | awaiting => simp [shows.2] at called
  | completing =>
      obtain ⟨codes, -, -, made⟩ := shows
      simp [made] at called
  | leaving => exact absurd called (Closed.free_not_mem shows)

/-- A registered task does not free its future while it goes on. At its end it has freed it once,
and that is the last of its calls. -/
theorem freed_once_at_end (moves : List Move) (caller : Caller) {index : Nat}
    {place : Registration}
    (registered : .registered (some index) place ∈ (run moves (.initial caller)).events) :
    ∃ task, (run moves (.initial caller)).tasks[index]? = some task ∧
      match task.phase with
      | .ended _ => ∃ before,
          callsOf index (run moves (.initial caller)).events = before ++ [.free] ∧
            .free ∉ before
      | _ => .free ∉ callsOf index (run moves (.initial caller)).events := by
  obtain ⟨task, stage, known, stands, placed, life⟩ :=
    (run_lives moves caller).registered registered
  refine ⟨task, known, ?_⟩
  have shows := life.shows
  generalize task.phase = phase at stands ⊢
  cases stands with
  | unstarted => simp [Stage.place?] at placed
  | sleeping =>
      obtain ⟨-, made⟩ := shows
      simp [callsOf, made]
  | woken =>
      obtain ⟨-, made⟩ := shows
      simp [callsOf, made]
  | unregistered => simp [Stage.place?] at placed
  | ended =>
      obtain ⟨before, closed, made⟩ := shows
      exact ⟨before, made, closed.free_not_mem⟩

def idleFuture (freeFault : Option Fault) : ForeignFuture where
  identity := .null
  route := .foreign
  complete := ForeignFunction.idle.call []
  lifter := .undeclared
  lift := .ok
  freeFault := freeFault

/-- A task whose poll brings two codes at once is cancelled when it has been woken for the first,
and freeing its future fails. -/
def wokenAndCancelled : List Move :=
  [.start (idleFuture (some (.foreign "free failed"))) [[.answer 1, .answer 0]], .turn, .turn,
    .cancel 0, .turn, .turn]

theorem freed_once_wokenAndCancelled :
    .registered (some 0) ⟨0, 0⟩ ∈
        (run wokenAndCancelled (.initial (.initial .bare 8))).events ∧
      ∃ task, (run wokenAndCancelled (.initial (.initial .bare 8))).tasks[0]? = some task ∧
        match task.phase with
        | .ended _ => ∃ before,
            callsOf 0 (run wokenAndCancelled (.initial (.initial .bare 8))).events =
                before ++ [.free] ∧ .free ∉ before
        | _ => .free ∉ callsOf 0 (run wokenAndCancelled (.initial (.initial .bare 8))).events :=
  have registered : .registered (some 0) ⟨0, 0⟩ ∈
      (run wokenAndCancelled (.initial (.initial .bare 8))).events :=
    List.mem_of_getElem? (i := 0) rfl
  ⟨registered, freed_once_at_end wokenAndCancelled (.initial .bare 8) registered⟩

end Bridge

end ForeignCall
