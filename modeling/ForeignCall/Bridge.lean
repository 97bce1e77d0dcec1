import ForeignCall.ForeignFunction
import ForeignCall.HandleMap

/-! Waiting tasks that foreign code resumes. A task polls a foreign future, handing it the handle of
its continuation, and sleeps until a poll code is delivered to that handle. Delivered codes and
woken tasks wait in one queue, which is worked off in order. -/

namespace ForeignCall

def pollReady : Int := 0

/-- How a poll code reaches this side: as it is, or through a function with word-sized arguments. -/
inductive Route where
  | direct
  | foreign
  deriving DecidableEq

namespace Route

def handle (route : Route) (handle : Int) : Int :=
  match route with
  | .direct => handle
  | .foreign => handle % 0x10000000000000000

def code (route : Route) (code : Int) : Int :=
  match route with
  | .direct => code
  | .foreign => (Int8.ofInt code).toInt

end Route

inductive PollAct where
  | answer (code : Int)
  | deliver (handle : Int) (code : Int)
  | raise (fault : Fault)

structure ForeignFuture where
  identity : Datum
  route : Route
  complete : CallStatus → Action Caller (CallStatus × Datum)
  lifter : Lifter
  lift : Datum → Except Fault Datum
  freeFault : Option Fault

structure Continuation where
  /-- The codes delivered and not yet taken, oldest first. -/
  codes : List Int
  /-- The task that takes them, if it is not a bare continuation. -/
  owner : Option Nat
  closed : Bool

structure Registration where
  continuation : Nat
  handle : Nat
  deriving DecidableEq

inductive Ending where
  | returned (value : Datum)
  | failed (fault : Fault)
  | cancelled

inductive Phase where
  | unstarted (cancelled : Bool)
  | sleeping (place : Registration)
  /-- Queued to go on, by taking a code or by being cancelled. -/
  | woken (place : Registration) (cancelled : Bool)
  | ended (ending : Ending)

structure Task where
  future : ForeignFuture
  /-- What each further poll does; polls past the end do nothing. -/
  polls : List (List PollAct)
  phase : Phase

inductive Ready where
  | step (task : Nat)
  | put (continuation : Nat) (code : Int)

inductive Event where
  | registered (owner : Option Nat) (place : Registration)
  | called (handle : Int) (code : Int)
  | delivered (continuation : Nat) (code : Int)
  | polled (task : Nat) (handle : Nat)
  | took (task : Nat) (code : Int)
  | completed (task : Nat)
  | lifted (task : Nat) (raw : Datum)
  | raised (task : Nat) (fault : Fault)
  | asked (task : Nat)
  /-- The continuation that a task at its end found behind its handle, and removed. -/
  | withdrawn (task : Nat) (found : Option Nat)
  | freed (task : Nat)

structure Bridge where
  caller : Caller
  handles : HandleMap Nat
  continuations : List Continuation
  tasks : List Task
  ready : List Ready
  events : List Event

/-- A bound on the turns an entry of the queue leads to, other than by polls. -/
def Ready.weight : Ready → Nat
  | .step _ => 1
  | .put _ _ => 2

def Task.weight (task : Task) : Nat :=
  task.polls.foldr (fun acts total => 2 * acts.length + total) 0

namespace Bridge

def initial (caller : Caller) : Bridge where
  caller := caller
  handles := .empty 64
  continuations := []
  tasks := []
  ready := []
  events := []

def record (bridge : Bridge) (event : Event) : Bridge :=
  { bridge with events := bridge.events ++ [event] }

def notify (bridge : Bridge) (notices : List Notice) : Bridge :=
  { bridge with caller := bridge.caller.notify notices }

def enqueue (bridge : Bridge) (ready : Ready) : Bridge :=
  { bridge with ready := bridge.ready ++ [ready] }

def setPhase (bridge : Bridge) (task : Nat) (phase : Phase) : Bridge :=
  { bridge with tasks := bridge.tasks.modify task fun t => { t with phase } }

def setCodes (bridge : Bridge) (continuation : Nat) (codes : List Int) : Bridge :=
  { bridge with
    continuations := bridge.continuations.modify continuation fun c => { c with codes } }

/-- Queues a code for a continuation, unless its loop is closed. -/
def resume (bridge : Bridge) (continuation : Nat) (code : Int) : Bridge :=
  match bridge.continuations[continuation]? with
  | none => bridge
  | some target =>
      if target.closed then bridge.notify [.loopClosed code]
      else bridge.enqueue (.put continuation code)

/-- A poll code arrives for a handle. The ready code is the last that a handle may bring. -/
def callback (bridge : Bridge) (handle code : Int) : Bridge :=
  let (continuation?, handles) :=
    if code = pollReady then bridge.handles.remove handle
    else (bridge.handles.get? handle, bridge.handles)
  let bridge := { bridge with handles }.record (.called handle code)
  match continuation? with
  | none => bridge.notify [.unknownContinuation code handle]
  | some continuation =>
      (bridge.record (.delivered continuation code)).resume continuation code

def routed (bridge : Bridge) (route : Route) (handle code : Int) : Bridge :=
  bridge.callback (route.handle handle) (route.code code)

def runPoll (route : Route) (handle : Nat) : List PollAct → Bridge → Option Fault × Bridge
  | [], bridge => (none, bridge)
  | .answer code :: rest, bridge => runPoll route handle rest (bridge.routed route handle code)
  | .deliver target code :: rest, bridge =>
      runPoll route handle rest (bridge.routed route target code)
  | .raise fault :: _, bridge => (some fault, bridge)

def poll (task : Nat) (handle : Nat) (bridge : Bridge) : Option Fault × Bridge :=
  match bridge.tasks[task]? with
  | none => (none, bridge)
  | some t =>
      let bridge := bridge.record (.polled task handle)
      let bridge := { bridge with tasks := bridge.tasks.set task { t with polls := t.polls.tail } }
      runPoll t.future.route handle (t.polls.headD []) bridge

/-- The end of a task that had registered: its handle is given up and its future freed. -/
def finish (task : Nat) (place : Registration) (ending : Ending) (bridge : Bridge) : Bridge :=
  let (found, handles) := bridge.handles.remove place.handle
  let bridge := { bridge with handles }.record (.withdrawn task found)
  let bridge := bridge.record (.freed task)
  match bridge.tasks[task]? with
  | none => bridge
  | some t =>
      match t.future.freeFault with
      | some fault =>
          (bridge.record (.raised task fault)).setPhase task (.ended (.failed fault))
      | none => bridge.setPhase task (.ended ending)

def fail (task : Nat) (place : Registration) (fault : Fault) (bridge : Bridge) : Bridge :=
  (bridge.record (.raised task fault)).finish task place (.failed fault)

def complete (task : Nat) (place : Registration) (bridge : Bridge) : Bridge :=
  match bridge.tasks[task]? with
  | none => bridge
  | some t =>
      let bridge := bridge.record (.completed task)
      match Call.raising Caller.free t.future.lifter t.future.complete bridge.caller with
      | (.error fault, caller) => { bridge with caller }.fail task place fault
      | (.ok raw, caller) =>
          let bridge := { bridge with caller }.record (.lifted task raw)
          match t.future.lift raw with
          | .ok value => bridge.finish task place (.returned value)
          | .error fault => bridge.fail task place fault

def took (task : Nat) (place : Registration) (code : Int) (rest : List Int) (bridge : Bridge) :
    Bridge :=
  (bridge.record (.took task code)).setCodes place.continuation rest

/-- Polls until the codes at hand are used up, one of them is the ready code, or a poll raises. -/
def pollOn (task : Nat) (place : Registration) : List Int → Bridge → Bridge
  | [], bridge =>
      match poll task place.handle bridge with
      | (some fault, bridge) => bridge.fail task place fault
      | (none, bridge) => bridge.setPhase task (.sleeping place)
  | code :: rest, bridge =>
      match poll task place.handle bridge with
      | (some fault, bridge) => bridge.fail task place fault
      | (none, bridge) =>
          let bridge := bridge.took task place code rest
          if code = pollReady then bridge.complete task place else pollOn task place rest bridge

def codesAt (bridge : Bridge) (continuation : Nat) : List Int :=
  (bridge.continuations[continuation]?.map Continuation.codes).getD []

def wake (task : Nat) (place : Registration) (bridge : Bridge) : Bridge :=
  match bridge.codesAt place.continuation with
  | [] => bridge.setPhase task (.sleeping place)
  | code :: rest =>
      let bridge := bridge.took task place code rest
      if code = pollReady then bridge.complete task place else pollOn task place rest bridge

def register (owner : Option Nat) (closed : Bool) : Action Bridge Registration := fun bridge =>
  let continuation := bridge.continuations.length
  match bridge.handles.insert bridge.caller.width continuation with
  | .error fault => (.error fault, bridge)
  | .ok minted =>
      let place : Registration := ⟨continuation, minted.handle⟩
      let bridge : Bridge := {
        bridge with
        handles := minted.map
        continuations := bridge.continuations ++ [⟨[], owner, closed⟩] }
      (.ok place, (bridge.notify minted.notices).record (.registered owner place))

/-- A task begins. Its future is freed at the end only if the registration succeeds. -/
def begin (task : Nat) (bridge : Bridge) : Bridge :=
  match register (some task) false bridge with
  | (.error fault, bridge) => bridge.setPhase task (.ended (.failed fault))
  | (.ok place, bridge) => pollOn task place [] bridge

def step (task : Nat) (bridge : Bridge) : Bridge :=
  match bridge.tasks[task]?.map Task.phase with
  | some (.unstarted true) => bridge.setPhase task (.ended .cancelled)
  | some (.unstarted false) => bridge.begin task
  | some (.woken place true) => bridge.finish task place .cancelled
  | some (.woken place false) => bridge.wake task place
  | _ => bridge

def rouse (task : Nat) (continuation : Nat) (bridge : Bridge) : Bridge :=
  match bridge.tasks[task]?.map Task.phase with
  | some (.sleeping place) =>
      if place.continuation = continuation then
        (bridge.setPhase task (.woken place false)).enqueue (.step task)
      else bridge
  | _ => bridge

def put (continuation : Nat) (code : Int) (bridge : Bridge) : Bridge :=
  match bridge.continuations[continuation]? with
  | none => bridge
  | some target =>
      let bridge := bridge.setCodes continuation (target.codes ++ [code])
      match target.owner with
      | none => bridge
      | some task => bridge.rouse task continuation

def turn (bridge : Bridge) : Bridge :=
  match bridge.ready with
  | [] => bridge
  | .step task :: rest => { bridge with ready := rest }.step task
  | .put continuation code :: rest => { bridge with ready := rest }.put continuation code

def turns : Nat → Bridge → Bridge
  | 0, bridge => bridge
  | count + 1, bridge => turns count bridge.turn

/-- Every turn lowers this, so that many of them empty the queue. -/
def load (bridge : Bridge) : Nat :=
  bridge.ready.foldr (fun ready total => ready.weight + total) 0 +
    bridge.tasks.foldr (fun task total => task.weight + total) 0

def settle (bridge : Bridge) : Bridge :=
  turns bridge.load bridge

def start (future : ForeignFuture) (polls : List (List PollAct)) (bridge : Bridge) : Bridge :=
  let task : Task := ⟨future, polls, .unstarted false⟩
  { bridge with tasks := bridge.tasks ++ [task] }.enqueue (.step bridge.tasks.length)

/-- Asks a task to end early, and answers whether it had not ended. A task that sleeps is woken for
it; one that is queued to go on is cancelled instead. -/
def cancel (task : Nat) (bridge : Bridge) : Bool × Bridge :=
  match bridge.tasks[task]?.map Task.phase with
  | some (.unstarted _) => (true, (bridge.record (.asked task)).setPhase task (.unstarted true))
  | some (.sleeping place) =>
      (true,
        ((bridge.record (.asked task)).setPhase task (.woken place true)).enqueue (.step task))
  | some (.woken place _) =>
      (true, (bridge.record (.asked task)).setPhase task (.woken place true))
  | some (.ended _) => (false, bridge)
  | none => (false, bridge)

def takeCode (continuation : Nat) (bridge : Bridge) : Option Int × Bridge :=
  match bridge.codesAt continuation with
  | [] => (none, bridge)
  | code :: rest => (some code, bridge.setCodes continuation rest)

def nextCode (continuation : Nat) (bridge : Bridge) : Option Int × Bridge :=
  bridge.settle.takeCode continuation

def replaceHandles (bits : Option Int) : Action Bridge Unit := fun bridge =>
  match HandleMap.ofBits bridge.caller.width bits with
  | .ok handles => (.ok (), { bridge with handles })
  | .error fault => (.error fault, bridge)

def onCaller {α : Type} (step : Action Caller α) : Action Bridge α := fun bridge =>
  ((step bridge.caller).1, { bridge with caller := (step bridge.caller).2 })

def identity? (bridge : Bridge) (task : Nat) : Option Datum :=
  bridge.tasks[task]?.map fun t => t.future.identity

def polled (bridge : Bridge) : List (Datum × Nat) :=
  bridge.events.filterMap fun
    | .polled task handle => (bridge.identity? task).map fun identity => (identity, handle)
    | _ => none

def completed (bridge : Bridge) : List Datum :=
  bridge.events.filterMap fun
    | .completed task => bridge.identity? task
    | _ => none

def freed (bridge : Bridge) : List Datum :=
  bridge.events.filterMap fun
    | .freed task => bridge.identity? task
    | _ => none

end Bridge

end ForeignCall
