import ForeignCall.Proofs.Bridge.Handles
import ForeignCall.Proofs.Session.Steps

/-! What a session does to its bridge. Unless it replaces the map of handles, it only makes moves,
and it takes codes only from continuations that belong to no task. -/

namespace ForeignCall

namespace Bridge

theorem run_append (first second : List Move) (bridge : Bridge) :
    run (first ++ second) bridge = run second (run first bridge) :=
  List.foldl_append ..

theorem turns_eq_run (count : Nat) (bridge : Bridge) :
    turns count bridge = run (.replicate count .turn) bridge := by
  induction count generalizing bridge with
  | zero => rfl
  | succ count ih => exact ih bridge.turn

theorem settle_eq_run (bridge : Bridge) :
    bridge.settle = run (.replicate bridge.load .turn) bridge :=
  turns_eq_run ..

theorem bare_of_owner {bridge : Bridge} {continuation : Nat}
    (nobody : bridge.owners[continuation]? = some none) : bridge.Bare continuation := by
  rw [owners, List.getElem?_map] at nobody
  unfold Bare
  cases found : bridge.continuations[continuation]? with
  | none => rfl
  | some target => simpa [found] using nobody

end Bridge

namespace Session

/-- The bridge has come about by a run, and the continuations with a name belong to no task. -/
structure Moved (start : Caller) (session : Session) : Prop where
  ran : ∃ moves, session.bridge = Bridge.run moves (.initial start)
  bare : ∀ name continuation, Table.get? name session.continuations = some continuation →
    session.bridge.owners[continuation]? = some none

variable {start : Caller} {session other : Session}

theorem Moved.initial (host : Host) (width : Int) :
    Moved (.initial host width) (.initial host width) :=
  ⟨⟨[], rfl⟩, by simp [Session.initial]⟩

theorem Moved.run (moved : Moved start session) (moves : List Bridge.Move)
    (bridge : other.bridge = Bridge.run moves session.bridge)
    (continuations : other.continuations = session.continuations) : Moved start other := by
  obtain ⟨⟨earlier, ran⟩, bare⟩ := moved
  refine ⟨⟨earlier ++ moves, ?_⟩, ?_⟩
  · rw [bridge, ran, Bridge.run_append]
  · intro name continuation known
    have all := (ran ▸ Bridge.run_kept earlier start).all
    have grown := ((Bridge.run_strides moves session.bridge).grow all).2
    rw [continuations] at known
    rw [bridge]
    exact Bridge.owner_mono grown (bare name continuation known)

theorem Moved.congr (moved : Moved start session) (bridge : other.bridge = session.bridge)
    (continuations : other.continuations = session.continuations) : Moved start other :=
  moved.run [] bridge continuations

theorem moved_onCaller {α : Type} (step : Action Caller α) :
    (onCaller step).Keeps (Moved start) :=
  fun _ moved => moved.run [.act fun caller => (step caller).2] rfl rfl

theorem moved_aside {change : Session → Session}
    (bridge : ∀ session, (change session).bridge = session.bridge)
    (continuations : ∀ session, (change session).continuations = session.continuations) :
    (Action.modify change).Keeps (Moved start) :=
  Action.keeps_modify fun session moved => moved.congr (bridge session) (continuations session)

theorem moved_nameAllocator (allocator : Allocator) :
    (nameAllocator allocator).Keeps (Moved start) :=
  moved_aside (fun _ => rfl) fun _ => rfl

theorem moved_load (name : String) (stem : Option String) (install : Bool) :
    (load name stem install).Keeps (Moved start) := by
  refine (moved_onCaller _).bind fun found => ?_
  cases found with
  | none => exact Action.keeps_pure _
  | some number =>
      cases install with
      | false => exact keeps_libraryAnswer number
      | true =>
          exact Action.keeps_state.bind fun _ => (moved_nameAllocator _).bind fun _ =>
            keeps_libraryAnswer number

/-- A continuation that is registered for no task belongs to none. -/
theorem moved_newContinuation (name : String) (closed : Bool) :
    (newContinuation name closed).Keeps (Moved start) := by
  refine Action.Keeps.bind (moved_aside (fun _ => rfl) fun _ => rfl) fun _ => ?_
  intro session moved
  obtain ⟨fault, -, refused⟩ | ⟨minted, -, registered⟩ :=
    Bridge.register_cases none closed session.bridge
  · have failed : onBridge (Bridge.register none closed) session = (.error fault, session) := by
      simp [onBridge, refused]
    rw [Action.bind_of_error failed]
    exact moved
  · have made : onBridge (Bridge.register none closed) session =
        (.ok ⟨session.bridge.continuations.length, minted.handle⟩,
          { session with bridge := session.bridge.enrol none closed minted }) := by
      simp [onBridge, registered]
    have enrolled : Moved start
        { session with bridge := session.bridge.enrol none closed minted } :=
      moved.run [.register closed] (congrArg Prod.snd registered).symm rfl
    rw [Action.bind_of_ok made]
    refine ⟨enrolled.ran, ?_⟩
    intro other continuation known
    by_cases same : other = name
    · subst same
      obtain rfl : session.bridge.continuations.length = continuation := by
        simpa [Action.bind_apply] using known
      exact Bridge.owner_enrol ..
    · refine enrolled.bare other continuation ?_
      simpa [Action.bind_apply, Table.get?_set_of_ne same] using known

theorem moved_nextCode (name : String) : (nextCode name).Keeps (Moved start) := by
  intro session moved
  unfold nextCode
  cases known : Table.get? name session.continuations with
  | none =>
      rw [Action.bind_of_error (named_of_none known)]
      exact moved
  | some continuation =>
      have settled : Moved start { session with bridge := session.bridge.settle } :=
        moved.run _ session.bridge.settle_eq_run rfl
      have bare := Bridge.bare_of_owner (settled.bare name continuation known)
      have took : Moved start { session with
          bridge := (session.bridge.nextCode continuation).2 } := by
        refine settled.run [.take continuation] ?_ rfl
        simp [Bridge.run, Bridge.Move.apply, bare, Bridge.nextCode]
      rw [Action.bind_of_ok (named_of_some known)]
      refine Action.bind_keeps took fun code => ?_
      cases code with
      | none => exact Action.keeps_pure _
      | some code => exact Action.keeps_pure _

theorem moved_kept : Kept (Moved start) where
  caller _ := moved_onCaller _
  aside bridge continuations _ := moved_aside bridge continuations
  newAllocator _ := (moved_onCaller _).bind fun _ => (moved_nameAllocator _).returning _
  setAllocator name := (keeps_named _ name).bind fun _ => (moved_onCaller _).returning _
  load := moved_load
  libraryAllocator _ _ := (moved_onCaller _).bind fun _ => (moved_nameAllocator _).returning _
  start _ polls _ := Action.keeps_modify fun _ moved => moved.run [.start _ polls] rfl rfl
  callback route handle code := Action.keeps_modify fun _ moved =>
    moved.run [.callback route handle code] rfl rfl
  cancel task := fun _ moved => moved.run [.cancel task] rfl rfl
  settle := Action.keeps_modify fun session moved => moved.run _ session.bridge.settle_eq_run rfl
  newContinuation := moved_newContinuation
  nextCode := moved_nextCode

mutual

def Script.Lasting : Script → Prop
  | .step step => step.Lasting
  | .block _ _ body => AllLasting body

def AllLasting : List Script → Prop
  | [] => True
  | script :: rest => script.Lasting ∧ AllLasting rest

end

mutual

theorem Moved.script : {script : Script} → script.Lasting → {session : Session} →
    Moved start session → Moved start (Session.run session script).2
  | .step step, lasting, session, moved => by
      rw [Session.run]
      exact moved_kept.perform lasting session moved
  | .block name leaves body, lasting, session, moved => by
      have entered := keeps_named Session.allocators name session moved
      rw [Session.run]
      split
      next fault session' failed =>
        have same : named Session.allocators name session = (.error fault, session') := failed
        rwa [same] at entered
      next inner session' found =>
        have same : named Session.allocators name session = (.ok inner, session') := found
        rw [same] at entered
        have inside := moved_onCaller (Caller.activate inner) session' entered
        exact moved_onCaller _ _ (inside.scripts leaves lasting)

theorem Moved.scripts (leaves : Bool) : {scripts : List Script} → AllLasting scripts →
    {session : Session} → Moved start session →
    Moved start (runAll session leaves scripts).2.2
  | [], _, _, moved => moved
  | script :: rest, lasting, session, moved => by
      have done := moved.script lasting.1
      have shown : Moved start (Session.run session script).2.reveal.2 := done.congr rfl rfl
      rw [runAll]
      dsimp only
      split
      next => exact shown
      next => exact shown.scripts leaves lasting.2

end

/-- Whatever a session does, as long as it keeps its map of handles, its bridge comes about by a
run. -/
theorem bridge_of_runAll (host : Host) (width : Int) (leaves : Bool) {scripts : List Script}
    (lasting : AllLasting scripts) :
    ∃ moves, (runAll (.initial host width) leaves scripts).2.2.bridge =
      Bridge.run moves (.initial (.initial host width)) :=
  ((Moved.initial host width).scripts leaves lasting).ran

end Session

end ForeignCall
