import ForeignCall.Proofs.Bridge.Delivery
import Mathlib.Data.List.Infix

/-! Tasks whose polls are answered at most once each. One code at most is then under way to such a
task, and it polls only as long as its handle is live. -/

namespace ForeignCall.Bridge

/-- At no point have more codes been brought to a registration than its task had polled: each poll is
answered at most once, sooner or later, and nothing is brought there unasked. -/
def AnsweredOnce (index : Nat) (place : Registration) (events : List Event) : Prop :=
  ∀ past, past <+: events →
    (broughtSince place past).length ≤ (callsOf index past).count .poll

theorem AnsweredOnce.mono {index : Nat} {place : Registration} {past events : List Event}
    (answered : AnsweredOnce index place events) (earlier : past <+: events) :
    AnsweredOnce index place past :=
  fun _ before => answered _ (before.trans earlier)

/-! Which strides poll. -/

/-- The history goes on, and nobody polls. -/
def Unpolled (before after : Bridge) : Prop :=
  ∃ more, after.events = before.events ++ more ∧ ∀ index handle, .polled index handle ∉ more

theorem Unpolled.of_eq {before after : Bridge} (same : after.events = before.events) :
    Unpolled before after :=
  ⟨[], same.trans (List.append_nil _).symm, by simp⟩

private theorem unpolled_register (owner : Option Nat) (closed : Bool) (bridge : Bridge) :
    Unpolled bridge (Bridge.register owner closed bridge).2 := by
  obtain ⟨fault, -, refused⟩ | ⟨minted, -, registered⟩ := register_cases owner closed bridge
  · rw [refused]
    exact .of_eq rfl
  · rw [registered]
    exact ⟨[.registered owner _], rfl, by simp⟩

private theorem unpolled_cancel (index : Nat) (bridge : Bridge) :
    Unpolled bridge (bridge.cancel index).2 := by
  unfold Bridge.cancel
  split
  case h_1 | h_2 | h_3 => exact ⟨[.asked index], rfl, by simp⟩
  case h_4 | h_5 => exact .of_eq rfl

private theorem unpolled_put (rest : List Ready) (continuation : Nat) (code : Int)
    (bridge : Bridge) : Unpolled bridge ({ bridge with ready := rest }.put continuation code) := by
  unfold Bridge.put Bridge.rouse
  split
  · exact .of_eq rfl
  · dsimp only
    split
    · exact .of_eq rfl
    · split
      · split <;> exact .of_eq rfl
      · exact .of_eq rfl

private theorem unpolled_finish (index : Nat) (place : Registration) (ending : Ending)
    (bridge : Bridge) : Unpolled bridge (bridge.finish index place ending) := by
  cases known : bridge.tasks[index]? with
  | none =>
      refine ⟨[.withdrawn index (bridge.handles.get? place.handle), .freed index], ?_, by simp⟩
      simp [finish, record, known]
  | some task =>
      cases free : task.future.freeFault with
      | none =>
          rw [finish_of_quiet known free]
          exact ⟨[.withdrawn index _, .freed index], rfl, by simp⟩
      | some fault =>
          rw [finish_of_raising known free]
          exact ⟨[.withdrawn index _, .freed index, .raised index fault],
            List.append_assoc .., by simp⟩

/-- Only a task at the head of its loop polls, with the handle of the place it stands at. -/
theorem Stride.polls {before after : Moment} (stride : Stride before after) :
    Unpolled before.bridge after.bridge ∨
      ∃ index place, before.turn = some (index, .looping place) ∧
        after.bridge.events = before.bridge.events ++ [.polled index place.handle] := by
  cases stride with
  | poll place known => exact .inr ⟨_, place, rfl, rfl⟩
  | register closed bridge => exact .inl (unpolled_register none closed bridge)
  | callback handle code bridge | answer index place handle code bridge =>
      exact .inl ⟨_, callback_events bridge handle code, by simp [mem_arrivals]⟩
  | cancel index bridge => exact .inl (unpolled_cancel index bridge)
  | @takeBare continuation bridge bare =>
      refine .inl (.of_eq ?_)
      unfold takeCode
      split <;> rfl
  | put first => exact .inl (unpolled_put ..)
  | @begin index task place bridge next known phase registered =>
      have grown := unpolled_register (some index) false bridge
      rw [registered] at grown
      exact .inl grown
  | pollRaises index place fault bridge => exact .inl ⟨[.raised index fault], rfl, by simp⟩
  | take | takeReady => exact .inl ⟨[.took _ _], rfl, by simp⟩
  | completeRaises | lift =>
      exact .inl ⟨_, List.append_assoc .., by simp⟩
  | @liftRaises index task place raw fault caller bridge known call lifted =>
      refine .inl ⟨[.completed index, .lifted index raw, .raised index fault], ?_, by simp⟩
      simp [afterComplete, record]
  | leave index place ending bridge => exact .inl (unpolled_finish index place ending bridge)
  | start | act | choose | pass | drop | refuse | resume | stop | polled | sleep =>
      exact .inl (.of_eq rfl)

/-- A poll that a history tells of has been made on the way. -/
theorem Strides.exists_poll {first last : Moment} (strides : Strides first last)
    {past : List Event} {index handle : Nat}
    (polled : past ++ [.polled index handle] <+: last.bridge.events) :
    past ++ [.polled index handle] <+: first.bridge.events ∨
      ∃ before place, Strides first before ∧ before.turn = some (index, .looping place) ∧
        handle = place.handle ∧ before.bridge.events = past := by
  by_cases early : past ++ [.polled index handle] <+: first.bridge.events
  · exact .inl early
  · obtain ⟨before, after, reached, stride, unpolled, now, -⟩ := strides.exists_change
      (fun moment => past ++ [.polled index handle] <+: moment.bridge.events) early polled
    rcases stride.polls with ⟨more, record, none⟩ | ⟨other, place, turn, record⟩
    · rw [record] at now
      exact absurd (happened_of_append now (none index handle)) unpolled
    · rw [record] at now
      rcases List.prefix_concat_iff.mp now with whole | earlier
      · obtain ⟨rfl, same⟩ := List.append_inj' whole rfl
        cases same
        exact .inr ⟨before, place, reached, turn, rfl, rfl⟩
      · exact absurd earlier unpolled

/-! What has been polled, taken and brought, at any stage of a task. -/

theorem Closed.count_poll {taken : List Int} {calls : List NativeCall}
    (closed : Closed taken calls) : calls.count .poll ≤ taken.length + 1 := by
  rcases closed with ⟨-, rfl⟩ | ⟨codes, -, rfl, rfl | rfl⟩ <;> simp

theorem Stage.Shows.count_poll {stage : Stage} {taken : List Int} {calls : List NativeCall}
    (shows : stage.Shows taken calls) : calls.count .poll ≤ taken.length + 1 := by
  cases stage with
  | unstarted | unregistered => simp [shows.2]
  | looping | polling | awaiting => simp [shows.2]
  | completing =>
      obtain ⟨codes, -, rfl, rfl⟩ := shows
      simp
  | leaving => exact Closed.count_poll shows
  | ended =>
      obtain ⟨before, closed, rfl⟩ := shows
      simpa using closed.count_poll

theorem Lives.count_poll {moment : Moment} (lives : Lives moment) (index : Nat) :
    (callsOf index moment.bridge.events).count .poll ≤
      (takenOf index moment.bridge.events).length + 1 := by
  cases known : moment.bridge.tasks[index]? with
  | none =>
      rw [callsOf, lives.absent index (List.getElem?_eq_none_iff.mp known)]
      exact Nat.zero_le _
  | some task =>
      obtain ⟨stage, -, life⟩ := lives.life index task known
      exact life.shows.count_poll

theorem throughReady_within (codes : List Int) : throughReady codes <+: codes :=
  List.take_prefix _ _

theorem Flows.of_strides {caller : Caller} {moment : Moment}
    (reached : Strides ⟨none, .initial caller⟩ moment) : Flows moment :=
  reached.keep (fun _ _ => Flows.stride)
    ⟨⟨.initial caller, rfl, fun _ => .initial caller⟩, fun _ => .initial caller⟩

section Paced

variable {moment : Moment} {index : Nat} {place : Registration}

/-- Whatever has been brought was asked for, and one poll at most is without an answer taken. -/
theorem Flows.underway_le_one (flows : Flows moment)
    (few : (registrations moment.bridge.events).length < 0x10000000000000000)
    (registered : .registered (some index) place ∈ moment.bridge.events)
    (answered : AnsweredOnce index place moment.bridge.events) :
    (moment.bridge.codesAt place.continuation ++
      queuedFor place.continuation moment.bridge.ready).length ≤ 1 := by
  have few' := flows.kept.all ▸ few
  have arrived := ((flows.kept.board few').arrived _ place registered).1.length_le
  have brought := (throughReady_within (broughtSince place moment.bridge.events)).length_le
  have asked := answered _ List.prefix_rfl
  have polled := flows.kept.lives.count_poll index
  have conserved := congrArg List.length ((flows.flow few').conserved index place registered)
  rw [List.append_assoc, List.length_append] at conserved
  omega

/-- At the head of the loop all answers have been taken, and none of them was the ready code. -/
theorem Flows.pending_of_looping (flows : Flows moment)
    (few : (registrations moment.bridge.events).length < 0x10000000000000000)
    (turn : moment.turn = some (index, .looping place))
    (answered : AnsweredOnce index place moment.bridge.events) :
    .registered (some index) place ∈ moment.bridge.events ∧
      Pending moment.bridge.events (some index) place := by
  have lives := flows.kept.lives
  obtain ⟨registered, -, unfreed⟩ := lives.placed turn rfl
  refine ⟨registered, ?_, by simpa using unfreed⟩
  obtain ⟨turn', bridge⟩ := moment
  cases turn
  obtain ⟨task, stage, -, stands, life⟩ := lives.standing (by simp)
  cases stands
  obtain ⟨waiting, made⟩ := life.shows
  have few' := flows.kept.all ▸ few
  have brought : takenOf index bridge.events <+: broughtSince place bridge.events := by
    refine List.IsPrefix.trans ?_ (throughReady_within _)
    refine List.IsPrefix.trans ?_ ((flows.kept.board few').arrived _ place registered).1
    rw [(flows.flow few').conserved index place registered, List.append_assoc]
    exact List.prefix_append _ _
  have asked := answered _ List.prefix_rfl
  rw [callsOf, made, List.count_replicate_self] at asked
  rw [← brought.eq_of_length_le asked]
  exact waiting

end Paced

/-- A handle to poll with: it is live, the task's own continuation is behind it, and the ready code
has not been brought to it. -/
structure Pollable (bridge : Bridge) (index handle : Nat) (place : Registration) : Prop where
  registered : .registered (some index) place ∈ bridge.events
  minted : place.handle = handle
  live : bridge.handles.get? handle = some place.continuation
  owner : bridge.owners[place.continuation]? = some (some index)
  unready : pollReady ∉ broughtSince place bridge.events

theorem Flows.pollable {moment : Moment} {index : Nat} {place : Registration} (flows : Flows moment)
    (few : (registrations moment.bridge.events).length < 0x10000000000000000)
    (turn : moment.turn = some (index, .looping place))
    (answered : AnsweredOnce index place moment.bridge.events) :
    Pollable moment.bridge index place.handle place := by
  obtain ⟨registered, pending⟩ := flows.pending_of_looping few turn answered
  have board := flows.kept.board (flows.kept.all ▸ few)
  exact ⟨registered, rfl, board.get?_of_pending registered pending,
    ((board.placed _ _).mp registered).2, pending.1⟩

/-- How a task stands whose polls are answered at most once each. -/
structure Paced (moment : Moment) (index : Nat) : Prop where
  /-- One code at most is held for the task or on its way to it. -/
  queue : ∀ place, .registered (some index) place ∈ moment.bridge.events →
    (moment.bridge.codesAt place.continuation ++
      queuedFor place.continuation moment.bridge.ready).length ≤ 1
  next : ∀ after handle, Stride moment after →
    after.bridge.events = moment.bridge.events ++ [.polled index handle] →
    ∃ place, Pollable moment.bridge index handle place
  past : ∀ past handle, past ++ [.polled index handle] <+: moment.bridge.events →
    ∃ place, .registered (some index) place ∈ past ∧ place.handle = handle ∧
      pollReady ∉ broughtSince place past

/-- With fewer registrations than handles, and whatever else happens, a task whose polls are answered
at most once each never has two codes waiting, and polls only with its own live handle and not after
the ready code. This holds between the turns of a run and at every moment inside one. -/
theorem paced_of_run (moves : List Move) (caller : Caller) {moment : Moment}
    (within : Strides ⟨none, run moves (.initial caller)⟩ moment)
    (few : (registrations moment.bridge.events).length < 0x10000000000000000) {index : Nat}
    (answered : ∀ place, .registered (some index) place ∈ moment.bridge.events →
      AnsweredOnce index place moment.bridge.events) :
    Paced moment index := by
  have reached := (run_strides moves (.initial caller)).trans within
  have flows := Flows.of_strides reached
  refine ⟨fun place registered => flows.underway_le_one few registered (answered place registered),
    ?_, ?_⟩
  · intro after handle stride polled
    rcases stride.polls with ⟨more, record, none⟩ | ⟨other, place, turn, record⟩
    · obtain rfl := List.append_cancel_left (polled.symm.trans record)
      exact absurd (List.mem_singleton_self _) (none index handle)
    · cases List.append_cancel_left (polled.symm.trans record)
      have registered := (flows.kept.lives.placed turn rfl).1
      exact ⟨place, flows.pollable few turn (answered place registered)⟩
  · intro past handle polled
    obtain impossible | ⟨before, place, earlier, turn, rfl, rfl⟩ := Strides.exists_poll reached polled
    · simp [Bridge.initial] at impossible
    · -- What is assumed of the whole history is true of its part before the poll.
      have part := (List.prefix_append _ _).trans polled
      have flows := Flows.of_strides earlier
      have registered := (flows.kept.lives.placed turn rfl).1
      have few : (registrations before.bridge.events).length < 0x10000000000000000 :=
        Nat.lt_of_le_of_lt (part.filterMap _).length_le few
      have pollable := flows.pollable few turn ((answered place (part.mem registered)).mono part)
      exact ⟨place, pollable.registered, rfl, pollable.unready⟩

/-- A task is told to wait while it polls, and a bare continuation is registered before it goes on. -/
def toldToWait : List Move :=
  [.start (idleFuture none) [[.answer 1]], .turn, .register false, .turn]

def wokenToWait : Bridge :=
  { run toldToWait (.initial (.initial .bare 8)) with ready := [] }

/-- The task has taken its code and is about to poll again. -/
def pollingAgain : Moment :=
  ⟨some (0, .looping ⟨0, 0⟩), wokenToWait.took 0 ⟨0, 0⟩ 1 []⟩

theorem strides_pollingAgain :
    Strides ⟨none, run toldToWait (.initial (.initial .bare 8))⟩ pollingAgain := by
  have chosen : Stride ⟨none, run toldToWait (.initial (.initial .bare 8))⟩
      ⟨some (0, .chosen), wokenToWait⟩ := .choose rfl
  have resumed : Stride ⟨some (0, .chosen), wokenToWait⟩
      ⟨some (0, .awaiting ⟨0, 0⟩), wokenToWait⟩ := .resume rfl rfl
  have taken : Stride ⟨some (0, .awaiting ⟨0, 0⟩), wokenToWait⟩ pollingAgain :=
    .take rfl (by decide)
  exact .head chosen (.head resumed (.single taken))

theorem answered_pollingAgain (place : Registration)
    (registered : .registered (some 0) place ∈ pollingAgain.bridge.events) :
    AnsweredOnce 0 place pollingAgain.bridge.events := by
  have events : pollingAgain.bridge.events = [.registered (some 0) ⟨0, 0⟩, .polled 0 0,
      .called 0 1, .delivered 0 1, .registered none ⟨1, 1⟩, .took 0 1] := rfl
  rw [events] at registered ⊢
  obtain rfl : place = ⟨0, 0⟩ := by simpa using registered
  intro past earlier
  have each : ∀ past ∈ List.inits [.registered (some 0) ⟨0, 0⟩, .polled 0 0, .called 0 1,
      .delivered 0 1, .registered none ⟨1, 1⟩, .took 0 1],
      (broughtSince ⟨0, 0⟩ past).length ≤ (callsOf 0 past).count .poll := by decide
  exact each past ((List.mem_inits ..).mpr earlier)

theorem paced_pollingAgain :
    Strides ⟨none, run toldToWait (.initial (.initial .bare 8))⟩ pollingAgain ∧
      (registrations pollingAgain.bridge.events).length < 0x10000000000000000 ∧
      (∀ place, .registered (some 0) place ∈ pollingAgain.bridge.events →
        AnsweredOnce 0 place pollingAgain.bridge.events) ∧ Paced pollingAgain 0 :=
  have few : (registrations pollingAgain.bridge.events).length < 0x10000000000000000 := by decide
  ⟨strides_pollingAgain, few, answered_pollingAgain,
    paced_of_run toldToWait (.initial .bare 8) strides_pollingAgain few answered_pollingAgain⟩

end ForeignCall.Bridge
