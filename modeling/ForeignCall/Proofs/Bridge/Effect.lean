import ForeignCall.Proofs.Bridge.Run

/-! What a stride does to the handles, the continuations and the queue. Most strides only record
what a task does and queue its next turn. -/

namespace ForeignCall

/-- A deed of a task that no handle and no code is concerned with. -/
def Event.Inner : Event → Prop
  | .polled .. | .completed _ | .lifted .. | .raised .. | .asked _ => True
  | .registered .. | .called .. | .delivered .. | .took .. | .withdrawn .. | .freed _ => False

namespace Bridge

structure Extends (before after : Bridge) (events : List Event) (steps : List Nat) : Prop where
  handles : after.handles = before.handles
  continuations : after.continuations = before.continuations
  record : after.events = before.events ++ events
  ready : after.ready = before.ready ++ steps.map .step
  inner : ∀ event ∈ events, event.Inner

theorem Extends.refl (bridge : Bridge) : Extends bridge bridge [] [] :=
  ⟨rfl, rfl, (List.append_nil _).symm, (List.append_nil _).symm, by simp⟩

private theorem Extends.recording {before after : Bridge} (events : List Event)
    (handles : after.handles = before.handles)
    (continuations : after.continuations = before.continuations)
    (record : after.events = before.events ++ events) (ready : after.ready = before.ready)
    (inner : ∀ event ∈ events, event.Inner) : Extends before after events [] :=
  ⟨handles, continuations, record, ready.trans (List.append_nil _).symm, inner⟩

private theorem rouse_extends (bridge : Bridge) (index continuation : Nat) :
    ∃ steps, Extends bridge (bridge.rouse index continuation) [] steps := by
  unfold rouse
  split
  · split
    · exact ⟨[index], rfl, rfl, (List.append_nil _).symm, rfl, by simp⟩
    · exact ⟨[], .refl bridge⟩
  · exact ⟨[], .refl bridge⟩

private theorem cancel_extends (bridge : Bridge) (index : Nat) :
    ∃ events steps, Extends bridge (bridge.cancel index).2 events steps := by
  have asked : ∀ event ∈ [Event.asked index], event.Inner := by simp [Event.Inner]
  unfold cancel
  split
  case h_1 => exact ⟨_, [], .recording [.asked index] rfl rfl rfl rfl asked⟩
  case h_2 => exact ⟨[.asked index], [index], rfl, rfl, rfl, rfl, asked⟩
  case h_3 => exact ⟨_, [], .recording [.asked index] rfl rfl rfl rfl asked⟩
  case h_4 => exact ⟨[], [], .refl bridge⟩
  case h_5 => exact ⟨[], [], .refl bridge⟩

private theorem finish_extends (bridge : Bridge) (index : Nat) (place : Registration)
    (ending : Ending) :
    ∃ events, Extends (bridge.afterFree index place) (bridge.finish index place ending)
      events [] := by
  cases known : bridge.tasks[index]? with
  | none =>
      have gone : bridge.finish index place ending = bridge.afterFree index place := by
        simp [finish, afterFree, record, known]
      exact ⟨[], gone ▸ .refl _⟩
  | some task =>
      cases free : task.future.freeFault with
      | none =>
          rw [finish_of_quiet known free]
          exact ⟨_, .recording [] rfl rfl (List.append_nil _).symm rfl (by simp)⟩
      | some fault =>
          rw [finish_of_raising known free]
          exact ⟨_, .recording [.raised index fault] rfl rfl rfl rfl (by simp [Event.Inner])⟩

inductive Effect (before : Moment) (after : Bridge) : Prop
  | inner {events : List Event} {steps : List Nat}
      (extended : Extends before.bridge after events steps)
  | choose {index : Nat} {rest : List Ready} (first : before.bridge.ready = .step index :: rest)
      (popped : after = { before.bridge with ready := rest })
  | enrol {owner : Option Nat} {closed : Bool} {minted : HandleMap.Minted Nat}
      (inserted : before.bridge.handles.insert before.bridge.caller.width
        before.bridge.continuations.length = .ok minted)
      (running : owner ≠ none → closed = false)
      (unstarted : ∀ index, owner = some index → ∃ task, before.turn = some (index, .chosen) ∧
        before.bridge.tasks[index]? = some task ∧ task.phase = .unstarted false)
      (enrolled : after = before.bridge.enrol owner closed minted)
  | callback (handle code : Int) (called : after = before.bridge.callback handle code)
  | take {continuation : Nat} {codes : List Int} (bare : before.bridge.Bare continuation)
      (taken : after = before.bridge.setCodes continuation codes)
  | lose {continuation : Nat} {code : Int} {rest : List Ready}
      (first : before.bridge.ready = .put continuation code :: rest)
      (missing : before.bridge.continuations[continuation]? = none)
      (popped : after = { before.bridge with ready := rest })
  | put {continuation : Nat} {code : Int} {rest : List Ready} {target : Continuation}
      {steps : List Nat} (first : before.bridge.ready = .put continuation code :: rest)
      (found : before.bridge.continuations[continuation]? = some target)
      (extended : Extends (({ before.bridge with ready := rest } : Bridge).setCodes continuation
        (target.codes ++ [code])) after [] steps)
  | took {index : Nat} {place : Registration} {code : Int} {rest : List Int}
      (turn : before.turn = some (index, .awaiting place))
      (held : before.bridge.codesAt place.continuation = code :: rest)
      (taken : after = before.bridge.took index place code rest)
  | free {index : Nat} {place : Registration} {ending : Ending} {events : List Event}
      (turn : before.turn = some (index, .leaving place ending))
      (extended : Extends (before.bridge.afterFree index place) after events [])

private theorem put_effect {bridge : Bridge} {continuation : Nat} {code : Int} {rest : List Ready}
    (turn : Option (Nat × Position)) (first : bridge.ready = .put continuation code :: rest) :
    Effect ⟨turn, bridge⟩ ({ bridge with ready := rest }.put continuation code) := by
  unfold Bridge.put
  split
  next missing => exact .lose first missing rfl
  next target found =>
    dsimp only
    split
    next => exact .put first found (.refl _)
    next index owner =>
      obtain ⟨steps, extended⟩ := rouse_extends (({ bridge with ready := rest } : Bridge).setCodes
        continuation (target.codes ++ [code])) index continuation
      exact .put first found extended

theorem Stride.effect {before after : Moment} (stride : Stride before after) :
    Effect before after.bridge := by
  cases stride with
  | start future polls bridge =>
      have extended : Extends bridge (bridge.start future polls) [] [bridge.tasks.length] :=
        ⟨rfl, rfl, (List.append_nil _).symm, rfl, by simp⟩
      exact .inner extended
  | register closed bridge =>
      obtain ⟨fault, -, refused⟩ | ⟨minted, inserted, registered⟩ :=
        register_cases none closed bridge
      · rw [refused]
        exact .inner (.refl bridge)
      · exact .enrol inserted (by simp) (by simp) (congrArg Prod.snd registered)
  | callback handle code bridge => exact .callback handle code rfl
  | cancel index bridge =>
      obtain ⟨events, steps, extended⟩ := cancel_extends bridge index
      exact .inner extended
  | takeBare bare =>
      unfold takeCode
      split
      · exact .inner (.refl _)
      · exact .take bare rfl
  | act change bridge =>
      exact .inner (.recording [] rfl rfl (List.append_nil _).symm rfl (by simp))
  | put first => exact put_effect none first
  | choose first => exact .choose first rfl
  | pass index bridge => exact .inner (.refl bridge)
  | drop => exact .inner (.recording [] rfl rfl (List.append_nil _).symm rfl (by simp))
  | refuse => exact .inner (.recording [] rfl rfl (List.append_nil _).symm rfl (by simp))
  | @begin index task place bridge next known phase registered =>
      obtain ⟨fault, -, refused⟩ | ⟨minted, inserted, enrolled⟩ :=
        register_cases (some index) false bridge
      · simp [refused] at registered
      · refine .enrol inserted (fun _ => rfl) ?_
          (congrArg Prod.snd (registered.symm.trans enrolled))
        rintro other ⟨⟩
        exact ⟨task, rfl, known, phase⟩
  | resume => exact .inner (.refl _)
  | stop => exact .inner (.refl _)
  | @poll index task bridge place known =>
      exact .inner
        (.recording [.polled index place.handle] rfl rfl rfl rfl (by simp [Event.Inner]))
  | answer index place handle code bridge => exact .callback handle code rfl
  | polled => exact .inner (.refl _)
  | pollRaises index place fault bridge =>
      exact .inner (.recording [.raised index fault] rfl rfl rfl rfl (by simp [Event.Inner]))
  | take held other => exact .took rfl held rfl
  | takeReady held => exact .took rfl held rfl
  | sleep => exact .inner (.recording [] rfl rfl (List.append_nil _).symm rfl (by simp))
  | @completeRaises index task place fault caller bridge known call =>
      exact .inner (.recording [.completed index, .raised index fault] rfl rfl
        (List.append_assoc _ _ _) rfl (by simp [Event.Inner]))
  | @lift index task place raw value caller bridge known call lifted =>
      exact .inner (.recording [.completed index, .lifted index raw] rfl rfl
        (List.append_assoc _ _ _) rfl (by simp [Event.Inner]))
  | @liftRaises index task place raw fault caller bridge known call lifted =>
      refine .inner (.recording [.completed index, .lifted index raw, .raised index fault] rfl rfl
        ?_ rfl (by simp [Event.Inner]))
      simp [afterComplete, record]
  | leave index place ending bridge =>
      obtain ⟨events, extended⟩ := finish_extends bridge index place ending
      exact .free rfl extended

end Bridge

end ForeignCall
