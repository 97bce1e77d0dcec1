import ForeignCall.Proofs.Arenas.Onward
import ForeignCall.Proofs.Bridge.Run

/-! What the event loop does to the memory of the calling side. A turn touches it only where a task
completes its foreign future, which is a call like any other. -/

namespace ForeignCall.Bridge

/-- A state that a bridge may come to from one with the heap `start`. What is still to complete its
futures is orderly too. -/
structure Since (start : Heap) (bridge : Bridge) : Prop where
  caller : bridge.caller.Since start
  futures : ∀ (index : Nat) (task : Task), bridge.tasks[index]? = some task →
    ∀ status, Caller.Orderly (task.future.complete status)

namespace Since

variable {start : Heap} {bridge after : Bridge}

theorem around (since : bridge.Since start) (heap : after.caller.heap = bridge.caller.heap)
    (active : after.caller.active = bridge.caller.active) (tasks : after.tasks = bridge.tasks) :
    after.Since start :=
  ⟨since.caller.aside heap active, by rw [tasks]; exact since.futures⟩

theorem record (since : bridge.Since start) (event : Event) : (bridge.record event).Since start :=
  since.around rfl rfl rfl

theorem notify (since : bridge.Since start) (notices : List Notice) :
    (bridge.notify notices).Since start :=
  since.around rfl rfl rfl

theorem enqueue (since : bridge.Since start) (ready : Ready) : (bridge.enqueue ready).Since start :=
  since.around rfl rfl rfl

theorem setCodes (since : bridge.Since start) (continuation : Nat) (codes : List Int) :
    (bridge.setCodes continuation codes).Since start :=
  since.around rfl rfl rfl

theorem setPhase (since : bridge.Since start) (index : Nat) (phase : Phase) :
    (bridge.setPhase index phase).Since start := by
  refine ⟨since.caller, fun place task known => ?_⟩
  rw [Bridge.setPhase, List.getElem?_modify] at known
  obtain ⟨other, found, rfl⟩ := Option.map_eq_some_iff.mp known
  have orderly := since.futures place other found
  split <;> exact orderly

theorem callback (since : bridge.Since start) (handle code : Int) :
    (bridge.callback handle code).Since start := by
  have called : (bridge.afterCall handle code).Since start := since.around rfl rfl rfl
  cases found : bridge.handles.get? handle with
  | none =>
      rw [callback_of_unknown code found]
      exact called.notify _
  | some continuation =>
      rw [callback_of_known code found]
      have delivered := called.record (.delivered continuation code)
      unfold resume
      split
      · exact delivered
      · split
        · exact delivered.notify _
        · exact delivered.enqueue _

theorem runPoll (since : bridge.Since start) (route : Route) (handle : Nat)
    (acts : List PollAct) : (Bridge.runPoll route handle acts bridge).2.Since start := by
  induction acts generalizing bridge with
  | nil => exact since
  | cons act rest ih =>
      cases act with
      | answer code => exact ih (since.callback _ _)
      | deliver target code => exact ih (since.callback _ _)
      | raise fault => exact since

theorem poll (since : bridge.Since start) (index handle : Nat) :
    (Bridge.poll index handle bridge).2.Since start := by
  unfold Bridge.poll
  split
  next => exact since
  next task known =>
    have begun : (bridge.beginPoll index task handle).Since start := by
      refine ⟨since.caller, fun place other found => ?_⟩
      dsimp only [beginPoll, Bridge.record] at found
      rw [List.getElem?_set] at found
      split at found
      · split at found
        · cases found
          exact since.futures index task known
        · cases found
      · exact since.futures place other found
    exact begun.runPoll ..

theorem finish (since : bridge.Since start) (index : Nat) (place : Registration) (ending : Ending) :
    (bridge.finish index place ending).Since start := by
  have freed : (bridge.afterFree index place).Since start := since.around rfl rfl rfl
  cases known : bridge.tasks[index]? with
  | none =>
      have gone : bridge.finish index place ending = bridge.afterFree index place := by
        simp [Bridge.finish, Bridge.afterFree, Bridge.record, known]
      exact gone ▸ freed
  | some task =>
      cases free : task.future.freeFault with
      | none =>
          rw [finish_of_quiet known free]
          exact freed.setPhase ..
      | some fault =>
          rw [finish_of_raising known free]
          exact (freed.record _).setPhase ..

theorem fail (since : bridge.Since start) (index : Nat) (place : Registration) (fault : Fault) :
    (bridge.fail index place fault).Since start :=
  (since.record _).finish ..

theorem complete (since : bridge.Since start) (index : Nat) (place : Registration) :
    (bridge.complete index place).Since start := by
  unfold Bridge.complete
  split
  next => exact since
  next task known =>
    have called := Caller.lasting_since.raising task.future.lifter
      (fun status => since.futures index task known status start) bridge.caller since.caller
    dsimp only [Bridge.record]
    split
    next fault caller failed =>
      rw [failed] at called
      have completed : (bridge.afterComplete index caller).Since start := ⟨called, since.futures⟩
      exact completed.fail ..
    next raw caller returned =>
      rw [returned] at called
      have completed : (bridge.afterComplete index caller).Since start := ⟨called, since.futures⟩
      have lifted := completed.record (.lifted index raw)
      split
      · exact lifted.finish ..
      · exact lifted.fail ..

theorem took (since : bridge.Since start) (index : Nat) (place : Registration) (code : Int)
    (rest : List Int) : (bridge.took index place code rest).Since start :=
  (since.record _).setCodes ..

theorem pollOn (since : bridge.Since start) (index : Nat) (place : Registration)
    (codes : List Int) : (Bridge.pollOn index place codes bridge).Since start := by
  induction codes generalizing bridge with
  | nil =>
      have polled := since.poll index place.handle
      unfold Bridge.pollOn
      split
      next ran =>
        rw [ran] at polled
        exact polled.fail ..
      next ran =>
        rw [ran] at polled
        exact polled.setPhase ..
  | cons code rest ih =>
      have polled := since.poll index place.handle
      unfold Bridge.pollOn
      split
      next ran =>
        rw [ran] at polled
        exact polled.fail ..
      next ran =>
        rw [ran] at polled
        have taken := polled.took index place code rest
        dsimp only
        split
        · exact taken.complete ..
        · exact ih taken

theorem wake (since : bridge.Since start) (index : Nat) (place : Registration) :
    (bridge.wake index place).Since start := by
  unfold Bridge.wake
  split
  next => exact since.setPhase ..
  next code rest held =>
    have taken := since.took index place code rest
    dsimp only
    split
    · exact taken.complete ..
    · exact taken.pollOn ..

theorem register (since : bridge.Since start) (owner : Option Nat) (closed : Bool) :
    (Bridge.register owner closed bridge).2.Since start := by
  obtain ⟨fault, -, refused⟩ | ⟨minted, -, registered⟩ := register_cases owner closed bridge
  · rw [refused]
    exact since
  · rw [registered]
    exact since.around rfl rfl rfl

theorem begin (since : bridge.Since start) (index : Nat) : (bridge.begin index).Since start := by
  have registered := since.register (some index) false
  unfold Bridge.begin
  split
  next refused =>
    rw [refused] at registered
    exact registered.setPhase ..
  next made =>
    rw [made] at registered
    exact registered.pollOn ..

theorem step (since : bridge.Since start) (index : Nat) : (bridge.step index).Since start := by
  unfold Bridge.step
  split
  · exact since.setPhase ..
  · exact since.begin index
  · exact since.finish ..
  · exact since.wake ..
  · exact since

theorem put (since : bridge.Since start) (continuation : Nat) (code : Int) :
    (bridge.put continuation code).Since start := by
  unfold Bridge.put
  split
  next => exact since
  next target found =>
    have held := since.setCodes continuation (target.codes ++ [code])
    dsimp only
    split
    next => exact held
    next index owner =>
      unfold rouse
      split
      · split
        · exact (held.setPhase ..).enqueue _
        · exact held
      · exact held

theorem turn (since : bridge.Since start) : bridge.turn.Since start := by
  unfold Bridge.turn
  split
  next => exact since
  next index rest first =>
    have popped : Since start { bridge with ready := rest } := since.around rfl rfl rfl
    exact popped.step index
  next continuation code rest first =>
    have popped : Since start { bridge with ready := rest } := since.around rfl rfl rfl
    exact popped.put continuation code

theorem settle (since : bridge.Since start) : bridge.settle.Since start := by
  have turns (count : Nat) : (Bridge.turns count bridge).Since start := by
    induction count generalizing bridge with
    | zero => exact since
    | succ count ih => exact ih since.turn
  exact turns bridge.load

theorem begun (since : bridge.Since start) {future : ForeignFuture}
    (orderly : ∀ status, Caller.Orderly (future.complete status)) (polls : List (List PollAct)) :
    (bridge.start future polls).Since start := by
  refine ⟨since.caller, fun index task known => ?_⟩
  dsimp only [Bridge.start, Bridge.enqueue] at known
  rw [List.getElem?_append] at known
  split at known
  · exact since.futures index task known
  · cases List.mem_singleton.mp (List.mem_of_getElem? known)
    exact orderly

theorem cancel (since : bridge.Since start) (index : Nat) :
    (bridge.cancel index).2.Since start := by
  unfold Bridge.cancel
  split
  · exact (since.record _).setPhase ..
  · exact ((since.record _).setPhase ..).enqueue _
  · exact (since.record _).setPhase ..
  · exact since
  · exact since

theorem nextCode (since : bridge.Since start) (continuation : Nat) :
    (bridge.nextCode continuation).2.Since start := by
  unfold Bridge.nextCode takeCode
  split
  · exact since.settle
  · exact since.settle.setCodes ..

theorem replaceHandles (since : bridge.Since start) (bits : Option Int) :
    (Bridge.replaceHandles bits bridge).2.Since start := by
  unfold Bridge.replaceHandles
  split
  · exact since.around rfl rfl rfl
  · exact since

end Since

end ForeignCall.Bridge
