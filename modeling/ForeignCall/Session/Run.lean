import ForeignCall.Session.Step

/-! Running a session: what each step does, what it answers, and what can be seen after it. -/

namespace ForeignCall

structure Session where
  bridge : Bridge
  buffers : List (String × Buffer)
  allocators : List (String × Allocator)
  maps : List (String × HandleMap Datum)
  tasks : List (String × Nat)
  continuations : List (String × Nat)
  looping : Bool
  shown : Nat

namespace Session

structure LoopView where
  tasks : List (String × Option Ending)
  continuations : List Nat
  freed : List Datum
  polled : List (Datum × Nat)
  completed : List Datum

structure View where
  log : List Notice
  arenas : List (String × Arena)
  images : List (Arena × Image)
  loop : Option LoopView

inductive Answer where
  | nothing
  | flag (value : Bool)
  | name (value : String)
  | text (value : List Char)
  | datum (value : Datum)
  | shape (length : Int) (empty : Bool)
  | fault (fault : Fault)
  | minted (handle : Nat)
  | handles (handles : List Nat)
  | sizes (size : Nat)
  | called (value : Datum) (seen : List Datum)
  | outcome (outcome : Outcome Datum)
  | library (number : Nat) (library : Library)
  | path (path : Path)
  | code (code : Int)
  | pending
  | continuation (handle : Nat)
  /-- The steps of a block, the allocator active on entry unless the block was left early, and the
  one active afterwards. -/
  | block (steps : List (Except Fault Answer × View)) (entered : Option String) (active : String)

def initial (host : Host) (width : Int) : Session where
  bridge := .initial (.initial host width)
  buffers := []
  allocators := [("main", ⟨"main", .arena 0⟩)]
  maps := []
  tasks := []
  continuations := []
  looping := false
  shown := 0

def caller (session : Session) : Caller :=
  session.bridge.caller

def onCaller {α : Type} (step : Action Caller α) : Action Session α := fun session =>
  let (result, bridge) := Bridge.onCaller step session.bridge
  (result, { session with bridge })

def onBridge {α : Type} (step : Action Bridge α) : Action Session α := fun session =>
  let (result, bridge) := step session.bridge
  (result, { session with bridge })

def changeBridge (change : Bridge → Bridge) : Action Session Unit :=
  .modify fun session => { session with bridge := change session.bridge }

def named {α : Type} (table : Session → List (String × α)) (name : String) : Action Session α := do
  match Table.get? name (table (← Action.state)) with
  | some value => return value
  | none => .fail (.missing name)

theorem named_of_some {α : Type} {table : Session → List (String × α)} {name : String} {value : α}
    {session : Session} (found : Table.get? name (table session) = some value) :
    named table name session = (.ok value, session) := by
  rw [named, Action.bind_of_ok (Action.state_apply session), found]
  rfl

theorem named_of_none {α : Type} {table : Session → List (String × α)} {name : String}
    {session : Session} (missing : Table.get? name (table session) = none) :
    named table name session = (.error (.missing name), session) := by
  rw [named, Action.bind_of_ok (Action.state_apply session), missing]
  rfl

theorem keeps_named {α : Type} {holds : Session → Prop} (table : Session → List (String × α))
    (name : String) : (named table name).Keeps holds := by
  refine Action.keeps_state.bind fun session => ?_
  split
  · exact Action.keeps_pure _
  · exact Action.keeps_fail _

def buffer (name : String) : Action Session Buffer := named Session.buffers name
def allocator (name : String) : Action Session Allocator := named Session.allocators name

theorem allocator_of_some {name : String} {value : Allocator} {session : Session}
    (found : Table.get? name session.allocators = some value) :
    allocator name session = (.ok value, session) :=
  named_of_some found

theorem allocator_of_none {name : String} {session : Session}
    (missing : Table.get? name session.allocators = none) :
    allocator name session = (.error (.missing name), session) :=
  named_of_none missing

def handleMap (name : String) : Action Session (HandleMap Datum) := named Session.maps name
def task (name : String) : Action Session Nat := named Session.tasks name

def nameAllocator (allocator : Allocator) : Action Session Unit :=
  .modify fun session =>
    { session with allocators := Table.set allocator.name allocator session.allocators }

def setMap (name : String) (map : HandleMap Datum) : Action Session Unit :=
  .modify fun session => { session with maps := Table.set name map session.maps }

def shapeOf (buffer : Buffer) : Answer :=
  .shape buffer.length.toInt buffer.isEmpty

def setBuffer (name : String) (buffer : Buffer) : Action Session Answer := do
  .modify fun session => { session with buffers := Table.set name buffer session.buffers }
  return shapeOf buffer

def lifter (choice : LifterChoice) : Action Session Lifter := do
  .ofExcept (choice.lifter (← Action.state).caller.host.settings)

def newAllocator (name : String) : Action Session Answer := do
  let arena ← onCaller fun caller =>
    (.ok caller.heap.addArena.1, { caller with heap := caller.heap.addArena.2 })
  nameAllocator ⟨name, .arena arena⟩
  return .nothing

def setAllocator (name : String) : Action Session Answer := do
  let previous ← onCaller (Caller.activate (← allocator name))
  return .name previous.name

def activeName : Action Session String := do
  return (← Action.state).caller.active.name

def free (name : String) (chosen : Option String) : Action Session Answer := do
  let target ← buffer name
  match chosen with
  | none => onCaller (Caller.free target)
  | some chosen => onCaller (Caller.freeBy (← allocator chosen) target)
  return .nothing

def allocOversize (name : String) (length : Nat) : Action Session Answer := do
  let _ ← allocator name
  if Buffer.maxLength < length then .fail (.bufferTooLong length) else return .nothing

/-- Mints a handle for an object, with a warning if the handle is still live. -/
def insertObject (name : String) (value : Datum) : Action Session Nat := do
  let map ← handleMap name
  let minted ← .ofExcept (map.insert (← Action.state).caller.width value)
  setMap name minted.map
  onCaller (.modify fun caller => caller.notify minted.notices)
  return minted.handle

def insertNumbers (name : String) : List Nat → Action Session (List Nat)
  | [] => return []
  | n :: rest => do
      let handle ← insertObject name (.int n)
      return handle :: (← insertNumbers name rest)

def newMap (name : String) (bits : Option Int) : Action Session Answer := do
  setMap name (← .ofExcept (HandleMap.ofBits (← Action.state).caller.width bits))
  return .nothing

def getObject (name : String) (handle : Int) : Action Session Answer := do
  return .datum (((← handleMap name).get? handle).getD .null)

def removeObject (name : String) (handle : Int) : Action Session Answer := do
  let (found, map) := (← handleMap name).remove handle
  setMap name map
  return .datum (found.getD .null)

/-- The integer that a datum equals as a key, if any. Lists and maps cannot be keys. -/
def keyNumber? : Datum → Except Fault (Option Int)
  | .int value => .ok (some value)
  | .bool value => .ok (some (if value then 1 else 0))
  | .float bits => .ok (Binary64.toInt? bits)
  | .list _ => .error (.unhashable "list")
  | .map _ => .error (.unhashable "dict")
  | _ => .ok none

def containsObject (name : String) (key : Datum) : Action Session Answer := do
  let map ← handleMap name
  match ← .ofExcept (keyNumber? key) with
  | some handle => return .flag (map.contains handle)
  | none => return .flag false

def call (form : CallForm) (function : ForeignFunction) (arguments : List Datum)
    (choice : LifterChoice) (texts : TextChoice) : Action Session Answer := do
  let seen := arguments ++ [.int CallStatus.fresh.code.toInt]
  match form with
  | .plain =>
      let value ← onCaller (Call.raising Caller.free .undeclared (function.call arguments))
      return .called value seen
  | .raising =>
      let lifter ← lifter choice
      let value ← onCaller (Call.raising Caller.free lifter (function.call arguments))
      return .called value seen
  | .outcome =>
      let lifter ← lifter choice
      return .outcome
        (← onCaller (Call.outcome Caller.free lifter (function.call arguments)))
  | .check =>
      let lifter ← lifter choice
      let status ← onCaller function.status
      onCaller (CallStatus.check Caller.free lifter texts.lifter status)
      return .nothing
  | .unpack =>
      let lifter ← lifter choice
      let status ← onCaller function.status
      return .outcome
        (← onCaller
          (CallStatus.outcome Caller.free lifter texts.lifter status function.value))

def changeVariable (settings : Settings) (change : Variable × Option String) : Settings :=
  match change.1 with
  | .library => { settings with library := change.2 }
  | .directory => { settings with directory := change.2 }
  | .wire => { settings with wire := change.2 }

def setVariables (changes : List (Variable × Option String)) : Action Session Answer := do
  onCaller <| .modify fun caller =>
    let settings := changes.foldl changeVariable caller.host.settings
    { caller with host := { caller.host with settings } }
  return .nothing

def libraryAnswer (number : Nat) : Action Session Answer := do
  match (← Action.state).caller.libraries[number]? with
  | some library => return .library number library
  | none => .fail (.missing s!"{number}")

def load (name : String) (stem : Option String) (install : Bool) : Action Session Answer := do
  match ← onCaller (Caller.loadLibrary name stem install) with
  | none => return .nothing
  | some number =>
      if install then nameAllocator (← Action.state).caller.active
      libraryAnswer number

def findLibrary (name : String) : Action Session Answer := do
  match ← .ofExcept ((← Action.state).caller.host.findLibrary name) with
  | none => return .nothing
  | some path => return .path path

def startLoop : Action Session Unit :=
  .modify fun session => { session with looping := true }

def settleIf (settle : Bool) : Action Session Unit :=
  if settle then changeBridge Bridge.settle else return ()

def liftWith (choice : LiftChoice) (value : Datum) : Except Fault Datum :=
  match choice with
  | .same => .ok value
  | .double => value.twice
  | .failing => .error (.foreign "lift failed")

def start (name : String) (launch : Launch) (settle : Bool) : Action Session Answer := do
  startLoop
  let future : ForeignFuture := {
    identity := launch.identity
    route := launch.route
    complete := launch.function.call []
    lifter := ← lifter launch.lifter
    lift := liftWith launch.lift
    freeFault := if launch.freeFails then some (.foreign "free failed") else none }
  .modify fun session => {
    session with
    tasks := Table.set name session.bridge.tasks.length session.tasks
    bridge := session.bridge.start future launch.polls }
  settleIf settle
  return .nothing

def cancel (name : String) (settle : Bool) : Action Session Answer := do
  let target ← task name
  let asked ← onBridge fun bridge => (.ok (bridge.cancel target).1, (bridge.cancel target).2)
  settleIf settle
  return .flag asked

def newContinuation (name : String) (closed : Bool) : Action Session Answer := do
  startLoop
  let place ← onBridge (Bridge.register none closed)
  .modify fun session =>
    { session with
      continuations := Table.set name place.continuation session.continuations }
  return .continuation place.handle

def nextCode (name : String) : Action Session Answer := do
  let target ← named Session.continuations name
  match ← onBridge fun bridge => (.ok (bridge.nextCode target).1, (bridge.nextCode target).2) with
  | some code => return .code code
  | none => return .pending

def perform : Step → Action Session Answer
  | .newAllocator name => newAllocator name
  | .setAllocator name => setAllocator name
  | .activeAllocator => do return .name (← activeName)
  | .fromBytes name bytes => do setBuffer name (← onCaller (Caller.alloc bytes))
  | .alloc chosen name bytes => do
      setBuffer name (← onCaller (Caller.allocBy (← allocator chosen) bytes))
  | .allocCopies chosen name unit count => do
      setBuffer name (← onCaller (Caller.allocCopies (← allocator chosen) unit count))
  | .allocOversize chosen length => allocOversize chosen length
  | .aliasBuffer name of => do setBuffer name (← buffer of)
  | .nullBuffer name length => setBuffer name (Buffer.null.withLength length)
  | .setLength name length => do setBuffer name ((← buffer name).withLength length)
  | .toBytes name => do return .datum (.bytes (← onCaller (Caller.read (← buffer name))))
  | .consume name => do
      return .datum (.bytes (← onCaller (Caller.consume Caller.free (← buffer name))))
  | .liftText name => do
      let text ← onCaller (TextLifter.lift Caller.free (← buffer name) .replacing)
      return .text text.toList
  | .free name chosen => free name chosen
  | .describe name => do return .name (← buffer name).label
  | .lift choice name => do
      let lifter ← lifter choice
      return .fault (← onCaller (lifter.lift Caller.free (← buffer name)))
  | .setWidth width => do
      onCaller (.modify fun caller => { caller with width })
      return .nothing
  | .newMap name bits => newMap name bits
  | .insert name value => do return .minted (← insertObject name value)
  | .insertMany name count => do return .handles (← insertNumbers name (List.range count))
  | .get name handle => getObject name handle
  | .remove name handle => removeObject name handle
  | .contains name key => containsObject name key
  | .size name => do return .sizes (← handleMap name).size
  | .setCounter name value => do
      setMap name ((← handleMap name).withCounter value)
      return .nothing
  | .call form function arguments lifter texts => call form function arguments lifter texts
  | .setVariables changes => setVariables changes
  | .bind file stem => do libraryAnswer (← onCaller (Caller.bindFile file stem))
  | .load name stem install => load name stem install
  | .findLibrary name => findLibrary name
  | .contract number expected => do
      onCaller (Caller.checkContract number expected)
      return .nothing
  | .libraryAllocator number name => do
      nameAllocator (← onCaller (Caller.libraryAllocator name number))
      return .nothing
  | .start name launch settle => start name launch settle
  | .callback route handle code settle => do
      startLoop
      changeBridge fun bridge => bridge.routed route handle code
      settleIf settle
      return .nothing
  | .cancel name settle => cancel name settle
  | .settle => do
      settleIf true
      return .nothing
  | .replaceContinuations bits => do
      onBridge (Bridge.replaceHandles bits)
      return .nothing
  | .newContinuation name closed => newContinuation name closed
  | .nextCode name => nextCode name

theorem perform_allocCopies (chosen name : String) (unit : List UInt8) (count : Nat) :
    perform (.allocCopies chosen name unit count) =
      perform (.alloc chosen name (List.replicate count unit).flatten) := by
  simp only [perform, Caller.allocCopies_eq]

def endingOf (session : Session) (task : Nat) : Option Ending :=
  match session.bridge.tasks[task]?.map Task.phase with
  | some (.ended ending) => some ending
  | _ => none

def loopView (session : Session) : LoopView where
  tasks := session.tasks.map fun (name, task) => (name, session.endingOf task)
  continuations := session.bridge.handles.handles.mergeSort
  freed := session.bridge.freed
  polled := session.bridge.polled
  completed := session.bridge.completed

def arenaView (session : Session) : List (String × Arena) :=
  session.allocators.filterMap fun (name, allocator) =>
    match allocator.source with
    | .arena index => some (name, session.caller.heap.arena index)
    | .image _ => none

def view (session : Session) : View where
  log := session.caller.log.drop session.shown
  arenas := session.arenaView
  images := session.caller.images.map fun image => (session.caller.heap.arena image.arena, image)
  loop := if session.looping then some session.loopView else none

def reveal (session : Session) : View × Session :=
  (session.view, { session with shown := session.caller.log.length })

abbrev Entry : Type := Except Fault Answer × View

/-- Whether a failing step ends the block it stands in. -/
def leavesAt (leaves : Bool) (result : Except Fault Answer) : Bool :=
  match result with
  | .ok _ => false
  | .error _ => leaves

mutual

def run (session : Session) : Script → Except Fault Answer × Session
  | .step step => perform step session
  | .block name leaves body =>
      match allocator name session with
      | (.error fault, session) => (.error fault, session)
      | (.ok inner, session) =>
          let (ran, session) :=
            Caller.withAllocator onCaller inner
              (fun session =>
                let (entries, left, session) := runAll session leaves body
                (.ok (entries, left), session))
              session
          (ran.map fun (entries, left) =>
            .block entries (if left then none else some inner.name) session.caller.active.name,
            session)

/-- The steps of a list up to the first that leaves it, and whether there is one. -/
def runAll (session : Session) (leaves : Bool) : List Script → List Entry × Bool × Session
  | [] => ([], false, session)
  | script :: rest =>
      let (result, session) := run session script
      let (view, session) := session.reveal
      if leavesAt leaves result then ([(result, view)], true, session)
      else
        let (entries, left, session) := runAll session leaves rest
        ((result, view) :: entries, left, session)

end

def answers (session : Session) (scripts : List Script) : List Entry :=
  (runAll session false scripts).1

end Session

end ForeignCall
