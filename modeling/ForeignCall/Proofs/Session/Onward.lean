import ForeignCall.Proofs.Arenas.Turns
import ForeignCall.Proofs.Bridge.Onward
import ForeignCall.Proofs.Session.Steps

/-! A session goes on from any of its states: whatever its turns do, blocks only come and go, and
every allocator that has a name, is active or is to be active again has its arena. -/

namespace ForeignCall.Session

/-- A state that a session inside blocks may come to from one with the heap `start`. -/
structure Since (start : Heap) (outer : List Allocator) (session : Session) : Prop where
  bridge : session.bridge.Since start
  outer : ∀ allocator ∈ outer, session.caller.heap.Admits allocator
  named : ∀ name allocator, Table.get? name session.allocators = some allocator →
    session.caller.heap.Admits allocator

variable {start : Heap} {outer : List Allocator} {session : Session}

theorem Since.initial (host : Host) (width : Int) :
    Since (Caller.initial host width).heap [] (.initial host width) where
  bridge := {
    caller := ⟨.refl _, fun index source => by cases source; exact Nat.zero_lt_one⟩
    futures := by simp [Session.initial, Bridge.initial] }
  outer := by simp
  named name allocator found index source := by
    simp only [Session.initial, Table.get?] at found
    split at found
    · cases found
      cases source
      exact Nat.zero_lt_one
    · cases found

theorem Since.rebase (since : Since start outer session) :
    Since session.caller.heap outer session :=
  ⟨⟨⟨.refl _, since.bridge.caller.active⟩, since.bridge.futures⟩, since.outer, since.named⟩

theorem Since.chosen (since : Since start outer session) {choice : Option String}
    {allocator : Allocator} (found : session.chosen choice = some allocator) :
    session.caller.heap.Admits allocator := by
  cases choice with
  | none =>
      cases found
      exact since.bridge.caller.active
  | some name => exact since.named name allocator found

/-- The bridge goes on, wherever it came from. -/
theorem Since.advance (since : Since start outer session) {after : Session}
    (moves : ∀ start, session.bridge.Since start → after.bridge.Since start)
    (allocators : after.allocators = session.allocators) : Since start outer after := by
  have grown : session.caller.heap.arenas.length ≤ after.caller.heap.arenas.length :=
    (moves _ since.rebase.bridge).caller.heap.arenas
  refine ⟨moves start since.bridge, ?_, ?_⟩
  · exact fun allocator member => (since.outer allocator member).mono grown
  · intro name allocator found
    exact (since.named name allocator (by rwa [← allocators])).mono grown

theorem Since.nameAllocator (since : Since start outer session) {allocator : Allocator}
    (admits : session.caller.heap.Admits allocator) :
    Since start outer (nameAllocator allocator session).2 := by
  refine ⟨since.bridge, since.outer, fun name other found => ?_⟩
  change Table.get? name (Table.set allocator.name allocator session.allocators) = some other at found
  by_cases same : name = allocator.name
  · rw [same, Table.get?_set_self] at found
    cases found
    exact admits
  · rw [Table.get?_set_of_ne same] at found
    exact since.named name other found

theorem Since.activate (since : Since start outer session) {allocator : Allocator}
    (admits : session.caller.heap.Admits allocator) :
    Since start outer (onCaller (Caller.activate allocator) session).2 :=
  ⟨⟨⟨since.bridge.caller.heap, admits⟩, since.bridge.futures⟩, since.outer, since.named⟩

theorem since_onCaller {α : Type} {action : Action Caller α} (orderly : Caller.Orderly action) :
    (onCaller action).Keeps (Since start outer) :=
  fun _ since =>
    since.advance (fun start before => ⟨orderly start _ before.caller, before.futures⟩) rfl

theorem since_onBridge {α : Type} {action : Action Bridge α}
    (moves : ∀ start, action.Keeps (Bridge.Since start)) :
    (onBridge action).Keeps (Since start outer) :=
  fun _ since => since.advance (fun start before => moves start _ before) rfl

theorem since_aside {change : Session → Session}
    (bridge : ∀ session, (change session).bridge = session.bridge)
    (allocators : ∀ session, (change session).allocators = session.allocators) :
    (Action.modify change).Keeps (Since start outer) :=
  Action.keeps_modify fun session since =>
    since.advance (fun _ before => by rwa [bridge]) (allocators session)

theorem since_newAllocator (name : String) : (newAllocator name).Keeps (Since start outer) := by
  intro session since
  have added : Since start outer { session with
      bridge := { session.bridge with
        caller := { session.caller with heap := session.caller.heap.addArena.2 } } } :=
    since.advance (fun _ before => ⟨before.caller.onto (.addArena _) rfl, before.futures⟩) rfl
  refine added.nameAllocator fun index source => ?_
  cases source
  simp [Session.caller, Heap.addArena]

theorem since_setAllocator (name : String) : (setAllocator name).Keeps (Since start outer) := by
  intro session since
  unfold setAllocator
  cases found : Table.get? name session.allocators with
  | none =>
      rw [Action.bind_of_error (allocator_of_none found)]
      exact since
  | some allocator =>
      rw [Action.bind_of_ok (allocator_of_some found)]
      exact since.activate (since.named name allocator found)

theorem since_load (name : String) (stem : Option String) (install : Bool) :
    (load name stem install).Keeps (Since start outer) := by
  have orderly : Caller.Orderly (Caller.loadLibrary name stem install) := fun _ =>
    Caller.since_loadLibrary name stem install
  refine (since_onCaller orderly).bind fun found => ?_
  cases found with
  | none => exact Action.keeps_pure _
  | some number =>
      cases install with
      | false => exact keeps_libraryAnswer number
      | true =>
          intro session since
          -- What has been installed is active, and gets a name.
          have given := since.nameAllocator since.bridge.caller.active
          change Since start outer
            ((Session.nameAllocator session.caller.active >>= fun _ => libraryAnswer number) session).2
          exact Action.bind_keeps given fun _ => keeps_libraryAnswer number

theorem since_libraryAllocator (number : Nat) (name : String) :
    (perform (.libraryAllocator number name)).Keeps (Since start outer) := by
  intro session since
  have orderly : Caller.Orderly (Caller.libraryAllocator name number) := fun _ =>
    Caller.since_libraryAllocator name number
  have made := since_onCaller orderly session since
  cases returned : Caller.libraryAllocator name number session.caller with
  | mk result caller =>
      have ran : onCaller (Caller.libraryAllocator name number) session =
          (result, { session with bridge := { session.bridge with caller } }) := by
        rw [onCaller_eq, returned]
      rw [ran] at made
      cases result with
      | error fault =>
          rw [perform, Action.bind_of_error ran]
          exact made
      | ok allocator =>
          obtain ⟨image, source⟩ := Caller.source_of_libraryAllocator returned
          rw [perform, Action.bind_of_ok ran]
          exact made.nameAllocator fun index arena => by simp [source] at arena

theorem since_newContinuation (name : String) (closed : Bool) :
    (newContinuation name closed).Keeps (Since start outer) := by
  refine Action.Keeps.bind (since_aside (fun _ => rfl) fun _ => rfl) fun _ => ?_
  refine (since_onBridge fun _ _ before => before.register none closed).bind fun place => ?_
  refine Action.Keeps.returning ?_ _
  exact since_aside (fun _ => rfl) fun _ => rfl

theorem since_nextCode (name : String) : (nextCode name).Keeps (Since start outer) := by
  refine (keeps_named _ name).bind fun continuation => ?_
  refine (since_onBridge fun _ _ before => before.nextCode continuation).bind fun code => ?_
  cases code with
  | none => exact Action.keeps_pure _
  | some code => exact Action.keeps_pure _

theorem since_kept : Kept (Since start outer) where
  caller orderly := since_onCaller orderly
  aside bridge _ allocators := since_aside bridge allocators
  newAllocator := since_newAllocator
  setAllocator := since_setAllocator
  load := since_load
  libraryAllocator := since_libraryAllocator
  start _ polls orderly := Action.keeps_modify fun _ since =>
    since.advance (fun _ before => before.begun orderly polls) rfl
  callback _ _ _ := Action.keeps_modify fun _ since =>
    since.advance (fun _ before => before.callback ..) rfl
  cancel task := since_onBridge fun _ _ before => before.cancel task
  settle := Action.keeps_modify fun _ since => since.advance (fun _ before => before.settle) rfl
  newContinuation := since_newContinuation
  nextCode := since_nextCode

theorem since_perform (step : Step) : (perform step).Keeps (Since start outer) := by
  by_cases lasting : step.Lasting
  · exact since_kept.perform lasting
  · cases step with
    | replaceContinuations bits =>
        exact (since_onBridge fun _ _ before => before.replaceHandles bits).returning _
    | _ => exact (lasting trivial).elim

theorem Since.turn {visit : Visit} (since : Since start visit.outer visit.session) (turn : Turn) :
    Since start (turn.apply visit).outer (turn.apply visit).session := by
  cases turn with
  | step single => exact since_perform single visit.session since
  | enter name =>
      cases found : Table.get? name visit.session.allocators with
      | none =>
          rw [Turn.apply, allocator_of_none found]
          exact since
      | some inner =>
          have inside := since.activate (since.named name inner found)
          rw [Turn.apply, allocator_of_some found]
          refine ⟨inside.bridge, ?_, inside.named⟩
          intro other member
          rcases List.mem_cons.mp member with rfl | deeper
          · exact since.bridge.caller.active
          · exact since.outer other deeper
  | leave =>
      obtain ⟨session, outer⟩ := visit
      cases outer with
      | nil => exact since
      | cons previous outer =>
          have back := since.activate (since.outer previous (List.mem_cons_self ..))
          exact ⟨back.bridge, fun other member =>
            since.outer other (List.mem_cons_of_mem _ member), back.named⟩
  | look => exact since.advance (fun _ before => before) rfl

theorem Since.run {visit : Visit} (since : Since start visit.outer visit.session)
    (turns : List Turn) :
    Since start (Visit.run turns visit).2.outer (Visit.run turns visit).2.session := by
  induction turns generalizing visit with
  | nil => exact since
  | cons turn rest ih => exact ih (since.turn turn)

end ForeignCall.Session
