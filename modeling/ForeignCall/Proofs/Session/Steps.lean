import ForeignCall.Proofs.Arenas.Onward
import ForeignCall.Session.Run

/-! What every step of a session keeps, from what the parts of steps keep. -/

namespace ForeignCall.Session

/-- Whether a step leaves the bridge with the map of handles that it has. -/
def Step.Lasting : Step → Prop
  | .replaceContinuations _ => False
  | _ => True

/-- A property of sessions that is kept by whatever steps are made of. -/
structure Kept (holds : Session → Prop) : Prop where
  caller : ∀ {α : Type} {action : Action Caller α}, Caller.Orderly action →
    (onCaller action).Keeps holds
  aside : ∀ {change : Session → Session}, (∀ session, (change session).bridge = session.bridge) →
    (∀ session, (change session).continuations = session.continuations) →
    (∀ session, (change session).allocators = session.allocators) →
    (Action.modify change).Keeps holds
  newAllocator : ∀ name, (newAllocator name).Keeps holds
  setAllocator : ∀ name, (setAllocator name).Keeps holds
  load : ∀ name stem install, (load name stem install).Keeps holds
  libraryAllocator : ∀ number name, (perform (.libraryAllocator number name)).Keeps holds
  start : ∀ {future : ForeignFuture} (name : String) (polls : List (List PollAct)),
    (∀ status, Caller.Orderly (future.complete status)) →
    (Action.modify fun session : Session => {
      session with
      tasks := Table.set name session.bridge.tasks.length session.tasks
      bridge := session.bridge.start future polls }).Keeps holds
  callback : ∀ route handle code,
    (changeBridge fun bridge => bridge.routed route handle code).Keeps holds
  cancel : ∀ task,
    (onBridge fun bridge => (.ok (bridge.cancel task).1, (bridge.cancel task).2)).Keeps holds
  settle : (changeBridge Bridge.settle).Keeps holds
  newContinuation : ∀ name closed, (newContinuation name closed).Keeps holds
  nextCode : ∀ name, (nextCode name).Keeps holds

variable {holds : Session → Prop}

theorem keeps_lifter (choice : LifterChoice) : (lifter choice).Keeps holds :=
  Action.keeps_state.bind fun _ => Action.keeps_ofExcept _

theorem keeps_libraryAnswer (number : Nat) : (libraryAnswer number).Keeps holds := by
  refine Action.keeps_state.bind fun session => ?_
  split
  · exact Action.keeps_pure _
  · exact Action.keeps_fail _

namespace Kept

variable (kept : Kept holds)
include kept

theorem setBuffer (name : String) (buffer : Buffer) : (setBuffer name buffer).Keeps holds := by
  refine Action.Keeps.bind ?_ fun _ => Action.keeps_pure _
  exact kept.aside (fun _ => rfl) (fun _ => rfl) fun _ => rfl

theorem setMap (name : String) (map : HandleMap Datum) : (setMap name map).Keeps holds :=
  kept.aside (fun _ => rfl) (fun _ => rfl) fun _ => rfl

theorem startLoop : startLoop.Keeps holds :=
  kept.aside (fun _ => rfl) (fun _ => rfl) fun _ => rfl

theorem modifyCaller {change : Caller → Caller} (heap : ∀ caller, (change caller).heap = caller.heap)
    (active : ∀ caller, (change caller).active = caller.active) :
    (onCaller (.modify change)).Keeps holds :=
  kept.caller fun _ => Caller.since_modify heap active

theorem insertObject (name : String) (value : Datum) : (insertObject name value).Keeps holds := by
  refine (keeps_named _ name).bind fun map => Action.keeps_state.bind fun session => ?_
  refine (Action.keeps_ofExcept _).bind fun minted => (kept.setMap name _).bind fun _ => ?_
  refine Action.Keeps.returning ?_ _
  exact kept.modifyCaller (fun _ => rfl) fun _ => rfl

theorem insertNumbers (name : String) (numbers : List Nat) :
    (insertNumbers name numbers).Keeps holds := by
  induction numbers with
  | nil => exact Action.keeps_pure _
  | cons n rest ih => exact (kept.insertObject name _).bind fun handle => ih.returning _

theorem settleIf (settle : Bool) : (settleIf settle).Keeps holds := by
  cases settle with
  | false => exact Action.keeps_pure _
  | true => exact kept.settle

theorem call (form : CallForm) (function : ForeignFunction) (arguments : List Datum)
    (choice : LifterChoice) (texts : TextChoice) :
    (call form function arguments choice texts).Keeps holds := by
  have status : (onCaller function.status).Keeps holds :=
    kept.caller fun _ => Caller.since_function function
  have raising (lifter : Lifter) :
      (onCaller (Call.raising Caller.free lifter (function.call arguments))).Keeps holds :=
    kept.caller fun _ =>
      Caller.lasting_since.raising lifter (Caller.since_call function arguments)
  cases form with
  | plain => exact (raising _).returning _
  | raising => exact (keeps_lifter choice).bind fun _ => (raising _).returning _
  | outcome =>
      refine (keeps_lifter choice).bind fun lifter => Action.Keeps.returning ?_ _
      exact kept.caller fun _ =>
        Call.keeps_outcome Caller.since_note Caller.lasting_since.free lifter
          (Caller.since_call function arguments)
  | check =>
      refine (keeps_lifter choice).bind fun lifter => status.bind fun status => ?_
      refine Action.Keeps.returning (kept.caller fun _ => ?_) _
      exact CallStatus.keeps_check Caller.since_note Caller.lasting_since.free lifter texts.lifter
        status
  | unpack =>
      refine (keeps_lifter choice).bind fun lifter => status.bind fun status => ?_
      refine Action.Keeps.returning (kept.caller fun _ => ?_) _
      exact CallStatus.keeps_outcome Caller.since_note Caller.lasting_since.free lifter
        texts.lifter status function.value

theorem begin (name : String) (launch : Launch) (settle : Bool) :
    (Session.start name launch settle).Keeps holds := by
  refine kept.startLoop.bind fun _ => (keeps_lifter _).bind fun lifter => ?_
  refine Action.Keeps.bind ?_ fun _ => (kept.settleIf settle).returning _
  exact kept.start name launch.polls fun status _ => Caller.since_call launch.function [] status

theorem stop (name : String) (settle : Bool) : (Session.cancel name settle).Keeps holds :=
  (keeps_named _ name).bind fun task => (kept.cancel task).bind fun _ =>
    (kept.settleIf settle).returning _

theorem alloc (chosen name : String) (bytes : List UInt8) :
    (Session.perform (.alloc chosen name bytes)).Keeps holds := by
  refine (keeps_named _ chosen).bind fun allocator => Action.Keeps.bind ?_ fun _ =>
    kept.setBuffer _ _
  exact kept.caller fun _ => Caller.since_allocBy allocator bytes

theorem perform {step : Step} (lasting : step.Lasting) : (perform step).Keeps holds := by
  cases step with
  | replaceContinuations bits => exact lasting.elim
  | newAllocator name => exact kept.newAllocator name
  | setAllocator name => exact kept.setAllocator name
  | activeAllocator => exact (Action.keeps_state.returning _).returning _
  | fromBytes name bytes =>
      exact (kept.caller fun _ => Caller.since_alloc bytes).bind fun _ => kept.setBuffer _ _
  | alloc chosen name bytes => exact kept.alloc chosen name bytes
  | allocCopies chosen name unit count =>
      rw [perform_allocCopies]
      exact kept.alloc chosen name _
  | allocOversize chosen length =>
      refine (keeps_named _ chosen).bind fun _ => ?_
      split
      · exact Action.keeps_fail _
      · exact Action.keeps_pure _
  | aliasBuffer name of => exact (keeps_named _ of).bind fun _ => kept.setBuffer _ _
  | nullBuffer name length => exact kept.setBuffer _ _
  | setLength name length => exact (keeps_named _ name).bind fun _ => kept.setBuffer _ _
  | toBytes name =>
      exact (keeps_named _ name).bind fun buffer =>
        (kept.caller fun _ => Caller.keeps_read buffer).returning _
  | consume name =>
      exact (keeps_named _ name).bind fun buffer =>
        (kept.caller fun _ => Caller.keeps_consume Caller.lasting_since.free buffer).returning _
  | liftText name =>
      exact (keeps_named _ name).bind fun buffer =>
        (kept.caller fun _ =>
          TextLifter.keeps_lift Caller.lasting_since.free buffer .replacing).returning _
  | free name chosen =>
      refine (keeps_named _ name).bind fun buffer => ?_
      cases chosen with
      | none => exact (kept.caller fun _ => Caller.lasting_since.free buffer).returning _
      | some chosen =>
          exact (keeps_named _ chosen).bind fun allocator =>
            (kept.caller fun _ => Caller.lasting_since.freeBy allocator buffer).returning _
  | describe name => exact (keeps_named _ name).returning _
  | lift choice name =>
      exact (keeps_lifter choice).bind fun lifter => (keeps_named _ name).bind fun buffer =>
        (kept.caller fun _ =>
          Lifter.keeps_lift Caller.lasting_since.free buffer lifter).returning _
  | setWidth width =>
      refine Action.Keeps.returning ?_ _
      exact kept.modifyCaller (fun _ => rfl) fun _ => rfl
  | newMap name bits =>
      exact Action.keeps_state.bind fun _ => (Action.keeps_ofExcept _).bind fun _ =>
        (kept.setMap _ _).returning _
  | insert name value => exact (kept.insertObject _ _).returning _
  | insertMany name count => exact (kept.insertNumbers _ _).returning _
  | get name handle => exact (keeps_named _ name).returning _
  | remove name handle =>
      exact (keeps_named _ name).bind fun _ => (kept.setMap _ _).returning _
  | contains name key =>
      refine (keeps_named _ name).bind fun _ => (Action.keeps_ofExcept _).bind fun number => ?_
      cases number with
      | none => exact Action.keeps_pure _
      | some number => exact Action.keeps_pure _
  | size name => exact (keeps_named _ name).returning _
  | setCounter name value =>
      exact (keeps_named _ name).bind fun _ => (kept.setMap _ _).returning _
  | call form function arguments choice texts => exact kept.call form function arguments choice texts
  | setVariables changes =>
      refine Action.Keeps.returning ?_ _
      exact kept.modifyCaller (fun _ => rfl) fun _ => rfl
  | bind file stem =>
      exact (kept.caller fun _ => Caller.since_bindFile file stem).bind fun _ =>
        keeps_libraryAnswer _
  | load name stem install => exact kept.load name stem install
  | findLibrary name =>
      refine Action.keeps_state.bind fun _ => (Action.keeps_ofExcept _).bind fun found => ?_
      cases found with
      | none => exact Action.keeps_pure _
      | some path => exact Action.keeps_pure _
  | contract number expected =>
      exact (kept.caller fun _ => Caller.since_checkContract number expected).returning _
  | libraryAllocator number name => exact kept.libraryAllocator number name
  | start name launch settle => exact kept.begin name launch settle
  | callback route handle code settle =>
      exact kept.startLoop.bind fun _ => (kept.callback route handle code).bind fun _ =>
        (kept.settleIf settle).returning _
  | cancel name settle => exact kept.stop name settle
  | settle => exact (kept.settleIf true).returning _
  | newContinuation name closed => exact kept.newContinuation name closed
  | nextCode name => exact kept.nextCode name

end Kept

end ForeignCall.Session
