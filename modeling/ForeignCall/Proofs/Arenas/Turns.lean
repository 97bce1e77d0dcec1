import ForeignCall.Proofs.Arenas.Ledger
import ForeignCall.Proofs.Payload.Release
import ForeignCall.Session.Run

/-! Sessions that have only arenas to allocate from. Blocks with another allocator active may stand
inside one another, and each of their steps is a turn by itself. -/

namespace ForeignCall

/-- The allocator takes its blocks from an arena that there is. -/
def Heap.Hosts (heap : Heap) (allocator : Allocator) : Prop :=
  ∃ index, allocator.source = .arena index ∧ index < heap.arenas.length

theorem Heap.Hosts.mono {before after : Heap} {allocator : Allocator} (hosts : before.Hosts allocator)
    (grown : before.arenas.length ≤ after.arenas.length) : after.Hosts allocator := by
  obtain ⟨index, source, bound⟩ := hosts
  exact ⟨index, source, Nat.lt_of_lt_of_le bound grown⟩

namespace Caller

theorem allocBy_of_arena {allocator : Allocator} {index : Nat}
    (source : allocator.source = .arena index) (bytes : List UInt8) :
    allocBy allocator bytes = allocIn index bytes := by
  rw [allocBy, source]

theorem freeBy_of_arena {allocator : Allocator} {index : Nat}
    (source : allocator.source = .arena index) (buffer : Buffer) :
    freeBy allocator buffer = releaseIn index buffer := by
  rw [freeBy, freeNested, source]

/-- A buffer without a block may be released any number of times, one whose block is live in the
arena takes it along, and no other can be released. -/
structure Frees (caller : Caller) (allocator : Allocator) (index : Nat) (buffer : Buffer) : Prop where
  null : buffer.address = none → freeBy allocator buffer caller = (.ok (), caller)
  live : ∀ address, buffer.address = some address →
    address ∈ Table.keys (caller.heap.arena index).blocks →
    ∃ heap, freeBy allocator buffer caller = (.ok (), { caller with heap }) ∧
      Heap.Released index buffer caller.heap heap
  dead : ∀ address, buffer.address = some address →
    address ∉ Table.keys (caller.heap.arena index).blocks →
    ∃ fault, fault.family? = some .bufferRelease ∧
      freeBy allocator buffer caller = (.error fault, caller)

theorem frees (caller : Caller) {allocator : Allocator} {index : Nat}
    (source : allocator.source = .arena index) (buffer : Buffer) :
    caller.Frees allocator index buffer := by
  refine ⟨?_, ?_, ?_⟩
  · intro null
    rw [freeBy_of_arena source, releaseIn, Heap.release_of_null null]
  · intro address named member
    obtain ⟨bytes, live⟩ := Option.isSome_iff_exists.mp (Table.contains_iff.mpr member)
    obtain ⟨heap, taken, released⟩ := Heap.release_of_live named live
    exact ⟨heap, by rw [freeBy_of_arena source, releaseIn, taken], released⟩
  · intro address named absent
    have dead : caller.heap.blockIn index address = none := by
      have unbound := mt Table.contains_iff.mp absent
      rwa [Table.contains, Option.not_isSome_iff_eq_none] at unbound
    exact ⟨.notLive address, rfl, by
      rw [freeBy_of_arena source, releaseIn, Heap.release_of_dead named dead]⟩

end Caller

namespace Session

def Step.Local : Step → Prop
  | .newAllocator _ | .setAllocator _ | .activeAllocator | .fromBytes .. | .alloc ..
  | .allocOversize .. | .aliasBuffer .. | .nullBuffer .. | .setLength .. | .toBytes _ | .consume _
  | .free .. | .describe _ => True
  | _ => False

inductive Turn where
  | step (step : Step)
  /-- Begins a block with another allocator active. -/
  | enter (allocator : String)
  | leave
  /-- A look at what the session shows. -/
  | look

def Turn.Local : Turn → Prop
  | .step single => single.Local
  | .enter _ | .leave | .look => True

/-- A session inside blocks, with the allocators to go back to, innermost first. -/
structure Visit where
  session : Session
  outer : List Allocator

def Visit.initial (host : Host) (width : Int) : Visit :=
  ⟨.initial host width, []⟩

def Turn.apply (visit : Visit) : Turn → Visit
  | .step single => { visit with session := (perform single visit.session).2 }
  | .enter name =>
      match allocator name visit.session with
      | (.error _, session) => { visit with session }
      | (.ok inner, session) =>
          ⟨(onCaller (Caller.activate inner) session).2, session.caller.active :: visit.outer⟩
  | .leave =>
      match visit.outer with
      | [] => visit
      | previous :: outer => ⟨(onCaller (Caller.activate previous) visit.session).2, outer⟩
  | .look => { visit with session := visit.session.reveal.2 }

def addressOf (session : Session) (name : String) : Option Nat :=
  (Table.get? name session.buffers).bind Buffer.address

def chosen (session : Session) : Option String → Option Allocator
  | none => some session.caller.active
  | some name => Table.get? name session.allocators

def dealt (form : Nat → Nat → Heap.Deed) (allocator : Option Allocator) (address : Option Nat) :
    List Heap.Deed :=
  match allocator.map Allocator.source with
  | some (.arena index) => address.toList.map (form index)
  | some (.image _) | none => []

/-- The block that a step which succeeds makes a buffer of. -/
def gives (session : Session) (step : Step) (chosen : Option String) (name : String) :
    List Heap.Deed :=
  match perform step session with
  | (.ok _, after) => dealt .gave (session.chosen chosen) (after.addressOf name)
  | (.error _, _) => []

/-- The block that goes back by a step which succeeds. -/
def takes (session : Session) (step : Step) (chosen : Option String) (name : String) :
    List Heap.Deed :=
  match perform step session with
  | (.ok _, _) => dealt .took (session.chosen chosen) (session.addressOf name)
  | (.error _, _) => []

/-- What a step does with the blocks of the arenas. -/
def Step.deeds (session : Session) (step : Step) : List Heap.Deed :=
  match step with
  | .fromBytes name _ => session.gives step none name
  | .alloc chosen name _ => session.gives step (some chosen) name
  | .consume name => session.takes step none name
  | .free name chosen => session.takes step chosen name
  | _ => []

def Turn.deeds (session : Session) : Turn → List Heap.Deed
  | .step single => single.deeds session
  | .enter _ | .leave | .look => []

def Visit.run : List Turn → Visit → List Heap.Deed × Visit
  | [], visit => ([], visit)
  | turn :: rest, visit =>
      (turn.deeds visit.session ++ (run rest (turn.apply visit)).1, (run rest (turn.apply visit)).2)

structure Housed (past : List Heap.Deed) (outer : List Allocator) (session : Session) : Prop where
  ledger : Heap.Accounted past session.caller.heap
  active : session.caller.heap.Hosts session.caller.active
  outer : ∀ allocator ∈ outer, session.caller.heap.Hosts allocator
  named : ∀ name allocator, Table.get? name session.allocators = some allocator →
    session.caller.heap.Hosts allocator

variable {past : List Heap.Deed} {outer : List Allocator} {session : Session}

theorem Housed.initial (host : Host) (width : Int) : Housed [] [] (.initial host width) where
  ledger := .initial host width
  active := ⟨0, rfl, Nat.zero_lt_one⟩
  outer := by simp
  named name allocator found := by
    simp only [Session.initial, Table.get?] at found
    split at found
    · cases found
      exact ⟨0, rfl, Nat.zero_lt_one⟩
    · cases found

/-- The arenas may have changed, and others been added. -/
theorem Housed.onto (housed : Housed past outer session) {later : List Heap.Deed} {after : Session}
    (ledger : Heap.Accounted later after.caller.heap)
    (grown : session.caller.heap.arenas.length ≤ after.caller.heap.arenas.length)
    (active : after.caller.active = session.caller.active)
    (allocators : after.allocators = session.allocators) : Housed later outer after where
  ledger := ledger
  active := by rw [active]; exact housed.active.mono grown
  outer allocator member := (housed.outer allocator member).mono grown
  named name allocator found :=
    (housed.named name allocator (by rwa [← allocators])).mono grown

theorem Housed.chosen (housed : Housed past outer session) {choice : Option String}
    {allocator : Allocator} (found : session.chosen choice = some allocator) :
    session.caller.heap.Hosts allocator := by
  cases choice with
  | none =>
      cases found
      exact housed.active
  | some name => exact housed.named name allocator found

theorem keeps_setBuffer_housed (name : String) (buffer : Buffer) :
    (setBuffer name buffer).Keeps (Housed past outer) := by
  refine Action.Keeps.bind (Action.keeps_modify fun session housed => ?_) fun _ => Action.keeps_pure _
  exact housed.onto housed.ledger (Nat.le_refl _) rfl rfl

theorem keeps_read_housed (buffer : Buffer) :
    (onCaller (Caller.read buffer)).Keeps (Housed past outer) :=
  fun _ housed => housed.onto housed.ledger (Nat.le_refl _) rfl rfl

theorem onCaller_eq {α : Type} (action : Action Caller α) (session : Session) :
    onCaller action session = ((action session.caller).1, { session with
      bridge := { session.bridge with caller := (action session.caller).2 } }) := rfl

theorem setBuffer_eq (name : String) (buffer : Buffer) (session : Session) :
    setBuffer name buffer session = (.ok (shapeOf buffer), { session with
      buffers := Table.set name buffer session.buffers }) := rfl

theorem dealt_of_arena (form : Nat → Nat → Heap.Deed) {allocator : Allocator} {index : Nat}
    (source : allocator.source = .arena index) (address : Option Nat) :
    dealt form (some allocator) address = address.toList.map (form index) := by
  simp only [dealt, Option.map_some, source]

/-- A step that makes a buffer of new bytes. -/
theorem Housed.gives (housed : Housed past outer session) {step : Step} {choice : Option String}
    {allocator : Allocator} (found : session.chosen choice = some allocator) {name : String}
    {bytes : List UInt8}
    (performs : perform step session =
      (onCaller (Caller.allocBy allocator bytes) >>= setBuffer name) session) :
    Housed (past ++ session.gives step choice name) outer (perform step session).2 := by
  obtain ⟨index, source, bound⟩ := housed.chosen found
  rw [Caller.allocBy_of_arena source] at performs
  cases allocated : session.caller.heap.alloc index bytes with
  | error fault =>
      have failed : onCaller (Caller.allocIn index bytes) session = (.error fault, session) := by
        rw [onCaller_eq, Caller.allocIn, allocated]
        rfl
      rw [Action.bind_of_error failed] at performs
      simpa only [Session.gives, performs, List.append_nil] using housed
  | ok made =>
      obtain ⟨buffer, heap⟩ := made
      have done : onCaller (Caller.allocIn index bytes) session = (.ok buffer, { session with
          bridge := { session.bridge with caller := { session.caller with heap } } }) := by
        rw [onCaller_eq, Caller.allocIn, allocated]
      rw [Action.bind_of_ok done, setBuffer_eq] at performs
      have grown : session.caller.heap.arenas.length ≤ heap.arenas.length := by
        obtain ⟨-, -, rfl⟩ | ⟨-, -, -, arenas, -⟩ := Heap.arena_of_alloc bound allocated
        · exact Nat.le_refl _
        · exact Nat.le_of_eq arenas.symm
      simp only [Session.gives, performs, found, dealt_of_arena _ source, addressOf,
        Table.get?_set_self, Option.bind_some]
      exact housed.onto (housed.ledger.gave bound allocated) grown rfl rfl

/-- A step that gives the block of a buffer back. -/
theorem Housed.takes (housed : Housed past outer session) {step : Step} {choice : Option String}
    {allocator : Allocator} (found : session.chosen choice = some allocator) {name : String}
    {buffer : Buffer} (known : Table.get? name session.buffers = some buffer) {α : Type}
    {action : Action Caller α} {form : α → Answer} {value : α}
    (releases : action session.caller =
      ((Caller.freeBy allocator buffer session.caller).1.map fun _ => value,
        (Caller.freeBy allocator buffer session.caller).2))
    (performs : perform step session = (do return form (← onCaller action)) session) :
    Housed (past ++ session.takes step choice name) outer (perform step session).2 := by
  obtain ⟨index, source, bound⟩ := housed.chosen found
  rw [Caller.freeBy_of_arena source] at releases
  cases done : session.caller.heap.release index buffer with
  | error fault =>
      have failed : onCaller action session = (.error fault, session) := by
        rw [onCaller_eq, releases, Caller.releaseIn, done]
        rfl
      rw [Action.bind_of_error failed] at performs
      simpa only [Session.takes, performs, List.append_nil] using housed
  | ok heap =>
      have freed : onCaller action session = (.ok value, { session with
          bridge := { session.bridge with caller := { session.caller with heap } } }) := by
        rw [onCaller_eq, releases, Caller.releaseIn, done]
        rfl
      rw [Action.bind_of_ok freed, Action.pure_apply] at performs
      have grown : session.caller.heap.arenas.length ≤ heap.arenas.length := by
        cases named : buffer.address with
        | none =>
            rw [Heap.release_of_null named] at done
            cases done
            exact Nat.le_refl _
        | some address => exact Nat.le_of_eq (Heap.arena_of_release named done).2.1.symm
      simp only [Session.takes, performs, found, dealt_of_arena _ source, addressOf, known,
        Option.bind_some]
      exact housed.onto (housed.ledger.took done) grown rfl rfl

/-- The read before a release does not show in what becomes of the arenas. -/
theorem consume_eq_free (buffer : Buffer) (caller : Caller) :
    Caller.consume Caller.free buffer caller =
      ((Caller.freeBy caller.active buffer caller).1.map fun _ => caller.heap.read buffer,
        (Caller.freeBy caller.active buffer caller).2) :=
  Caller.consume_apply Caller.free buffer caller

/-- A step that leaves the arenas alone. -/
theorem Housed.quiet (housed : Housed past outer session) {step : Step}
    (keeps : (perform step).Keeps (Housed past outer)) (quiet : step.deeds session = []) :
    Housed (past ++ step.deeds session) outer (perform step session).2 := by
  rw [quiet, List.append_nil]
  exact keeps session housed

theorem deeds_of_error {step : Step} {fault : Fault} {after : Session}
    (failed : perform step session = (.error fault, after)) : step.deeds session = [] := by
  cases step <;> simp only [Step.deeds, Session.gives, Session.takes, failed]

theorem Housed.failing (housed : Housed past outer session) {step : Step} {fault : Fault}
    (failed : perform step session = (.error fault, session)) :
    Housed (past ++ step.deeds session) outer (perform step session).2 := by
  rw [deeds_of_error failed, failed, List.append_nil]
  exact housed

theorem Housed.activate (housed : Housed past outer session) {allocator : Allocator}
    (hosts : session.caller.heap.Hosts allocator) :
    Housed past outer (onCaller (Caller.activate allocator) session).2 where
  ledger := housed.ledger
  active := hosts
  outer := housed.outer
  named := housed.named

theorem Housed.newAllocator (housed : Housed past outer session) (name : String) :
    Housed past outer (perform (.newAllocator name) session).2 := by
  have grown : session.caller.heap.arenas.length < session.caller.heap.addArena.2.arenas.length := by
    simp [Heap.addArena]
  refine ⟨housed.ledger.addArena, housed.active.mono (Nat.le_of_lt grown), ?_, ?_⟩
  · exact fun allocator member => (housed.outer allocator member).mono (Nat.le_of_lt grown)
  · intro other allocator found
    change Table.get? other (Table.set name _ session.allocators) = some allocator at found
    by_cases same : other = name
    · rw [same, Table.get?_set_self] at found
      cases found
      exact ⟨session.caller.heap.arenas.length, rfl, grown⟩
    · rw [Table.get?_set_of_ne same] at found
      exact (housed.named other allocator found).mono (Nat.le_of_lt grown)

theorem Housed.setAllocator (housed : Housed past outer session) (name : String) :
    Housed past outer (perform (.setAllocator name) session).2 := by
  cases found : Table.get? name session.allocators with
  | none =>
      have failed : perform (.setAllocator name) session = (.error (.missing name), session) :=
        Action.bind_of_error (named_of_none found) _
      rwa [failed]
  | some allocator =>
      have done : perform (.setAllocator name) session = (.ok (.name session.caller.active.name),
          (onCaller (Caller.activate allocator) session).2) :=
        Action.bind_of_ok (named_of_some found) _
      rw [done]
      exact housed.activate (housed.named name allocator found)

theorem freeBy_eq_map (allocator : Allocator) (buffer : Buffer) (caller : Caller) :
    Caller.freeBy allocator buffer caller =
      ((Caller.freeBy allocator buffer caller).1.map fun _ => (),
        (Caller.freeBy allocator buffer caller).2) := by
  cases Caller.freeBy allocator buffer caller with
  | mk result after => cases result <;> rfl

/-- A step of a session that has only arenas keeps their ledger. -/
theorem Housed.step (housed : Housed past outer session) {step : Step} (arenas : step.Local) :
    Housed (past ++ step.deeds session) outer (perform step session).2 := by
  cases step with
  | newAllocator name => exact housed.quiet (fun _ housed => housed.newAllocator name) rfl
  | setAllocator name => exact housed.quiet (fun _ housed => housed.setAllocator name) rfl
  | activeAllocator => exact housed.quiet ((Action.keeps_state.returning _).returning _) rfl
  | fromBytes name bytes =>
      have active : session.chosen none = some session.caller.active := rfl
      exact housed.gives active rfl
  | alloc chosen name bytes =>
      cases found : Table.get? chosen session.allocators with
      | none => exact housed.failing (Action.bind_of_error (named_of_none found) _)
      | some allocator =>
          have taken : session.chosen (some chosen) = some allocator := found
          exact housed.gives taken (Action.bind_of_ok (named_of_some found) _)
  | allocOversize chosen length =>
      refine housed.quiet ((keeps_named _ chosen).bind fun _ => ?_) rfl
      split
      · exact Action.keeps_fail _
      · exact Action.keeps_pure _
  | aliasBuffer name of =>
      exact housed.quiet ((keeps_named _ of).bind fun _ => keeps_setBuffer_housed _ _) rfl
  | nullBuffer name length => exact housed.quiet (keeps_setBuffer_housed _ _) rfl
  | setLength name length =>
      exact housed.quiet ((keeps_named _ name).bind fun _ => keeps_setBuffer_housed _ _) rfl
  | toBytes name =>
      exact housed.quiet
        ((keeps_named _ name).bind fun _ => (keeps_read_housed _).returning _) rfl
  | consume name =>
      cases known : Table.get? name session.buffers with
      | none => exact housed.failing (Action.bind_of_error (named_of_none known) _)
      | some buffer =>
          have active : session.chosen none = some session.caller.active := rfl
          exact housed.takes active known (consume_eq_free buffer session.caller)
            (Action.bind_of_ok (named_of_some known) _)
  | free name chosen =>
      cases known : Table.get? name session.buffers with
      | none => exact housed.failing (Action.bind_of_error (named_of_none known) _)
      | some buffer =>
          cases chosen with
          | none =>
              have active : session.chosen none = some session.caller.active := rfl
              exact housed.takes active known (freeBy_eq_map session.caller.active buffer _)
                (Action.bind_of_ok (named_of_some known) _)
          | some chosen =>
              cases found : Table.get? chosen session.allocators with
              | none =>
                  have failed : perform (.free name (some chosen)) session =
                      (.error (.missing chosen), session) :=
                    (Action.bind_of_ok (named_of_some known) _).trans
                      (Action.bind_of_error (named_of_none found) _)
                  exact housed.failing failed
              | some allocator =>
                  have taken : session.chosen (some chosen) = some allocator := found
                  have frees : perform (.free name (some chosen)) session =
                      (do
                        let _ ← onCaller (Caller.freeBy allocator buffer)
                        return Answer.nothing) session :=
                    (Action.bind_of_ok (named_of_some known) _).trans
                      (Action.bind_of_ok (named_of_some found) _)
                  exact housed.takes taken known (freeBy_eq_map allocator buffer _) frees
  | describe name => exact housed.quiet ((keeps_named _ name).returning _) rfl
  | _ => exact arenas.elim

/-- A turn inside blocks or out of them keeps the ledger. -/
theorem Housed.turn {visit : Visit} (housed : Housed past visit.outer visit.session) {turn : Turn}
    (arenas : turn.Local) :
    Housed (past ++ turn.deeds visit.session) (turn.apply visit).outer
      (turn.apply visit).session := by
  cases turn with
  | step single => exact housed.step arenas
  | enter name =>
      rw [Turn.deeds, List.append_nil]
      cases found : Table.get? name visit.session.allocators with
      | none =>
          rw [Turn.apply, allocator_of_none found]
          exact housed
      | some inner =>
          have inside := housed.activate (housed.named name inner found)
          rw [Turn.apply, allocator_of_some found]
          refine ⟨inside.ledger, inside.active, ?_, inside.named⟩
          intro other member
          rcases List.mem_cons.mp member with rfl | deeper
          · exact housed.active
          · exact housed.outer other deeper
  | leave =>
      rw [Turn.deeds, List.append_nil]
      obtain ⟨session, outer⟩ := visit
      cases outer with
      | nil => exact housed
      | cons previous outer =>
          have back := housed.activate (housed.outer previous (List.mem_cons_self ..))
          exact ⟨back.ledger, back.active, fun other member =>
            housed.outer other (List.mem_cons_of_mem _ member), back.named⟩
  | look =>
      rw [Turn.deeds, List.append_nil]
      exact housed.onto housed.ledger (Nat.le_refl _) rfl rfl

theorem Housed.run {visit : Visit} (housed : Housed past visit.outer visit.session)
    {turns : List Turn} (arenas : ∀ turn ∈ turns, turn.Local) :
    Housed (past ++ (Visit.run turns visit).1) (Visit.run turns visit).2.outer
      (Visit.run turns visit).2.session := by
  induction turns generalizing past visit with
  | nil => rwa [Visit.run, List.append_nil]
  | cons turn rest ih =>
      have next := housed.turn (arenas turn (List.mem_cons_self ..))
      rw [Visit.run, ← List.append_assoc]
      exact ih next fun later member => arenas later (List.mem_cons_of_mem _ member)

/-- However the allocators are made, switched and used, each arena holds what it handed out and has
not taken back, no block is taken back twice, and only its own arena takes a block back. -/
theorem arenas_of_run (host : Host) (width : Int) {turns : List Turn}
    (arenas : ∀ turn ∈ turns, turn.Local) :
    Heap.Accounted (Visit.run turns (.initial host width)).1
        (Visit.run turns (.initial host width)).2.session.caller.heap ∧
      ∀ (allocator : Allocator) (index : Nat), allocator.source = .arena index → ∀ buffer,
        (Visit.run turns (.initial host width)).2.session.caller.Frees allocator index buffer := by
  have start : Housed [] (Visit.initial host width).outer (Visit.initial host width).session :=
    .initial host width
  have housed := start.run arenas
  rw [List.nil_append] at housed
  exact ⟨housed.ledger, fun _ _ source buffer => Caller.frees _ source buffer⟩

example :
    (Visit.run [.step (.newAllocator "other"), .step (.alloc "other" "block" [1]),
      .step (.free "block" none), .step (.free "block" (some "other"))] (.initial .bare 8)).1 =
      [.gave 1 0x1000, .took 1 0x1000] := rfl

/-- A block of the arena of `other` is freed through an alias with another length, after the active
allocator refused it, and not again; one of `main` is not consumed where `other` is active. -/
def foreignFrees : List Turn :=
  [.step (.newAllocator "other"), .step (.alloc "other" "block" [1, 2]),
    .step (.aliasBuffer "alias" "block"), .step (.setLength "alias" 0), .step (.free "alias" none),
    .step (.free "alias" (some "other")), .step (.free "block" (some "other")),
    .step (.fromBytes "main" [3]), .enter "other", .step (.consume "main"), .leave,
    .step (.consume "main")]

theorem arenas_of_foreignFrees :
    (∀ turn ∈ foreignFrees, turn.Local) ∧
      Heap.Accounted (Visit.run foreignFrees (.initial .bare 8)).1
        (Visit.run foreignFrees (.initial .bare 8)).2.session.caller.heap ∧
      ∀ (allocator : Allocator) (index : Nat), allocator.source = .arena index → ∀ buffer,
        (Visit.run foreignFrees (.initial .bare 8)).2.session.caller.Frees allocator index buffer :=
  have arenas : ∀ turn ∈ foreignFrees, turn.Local := by
    simp [foreignFrees, Turn.Local, Step.Local]
  ⟨arenas, arenas_of_run .bare 8 arenas⟩

theorem Visit.run_append (first second : List Turn) (visit : Visit) :
    (run (first ++ second) visit).2 = (run second (run first visit).2).2 := by
  induction first generalizing visit with
  | nil => rfl
  | cons turn rest ih => exact ih (turn.apply visit)

mutual

def Script.Local : Script → Prop
  | .step step => step.Local
  | .block _ _ body => AllLocal body

def AllLocal : List Script → Prop
  | [] => True
  | script :: rest => script.Local ∧ AllLocal rest

end

mutual

/-- Whatever a script does, turns do. -/
theorem turns_of_script : (script : Script) → script.Local → (visit : Visit) →
    ∃ turns : List Turn, (∀ turn ∈ turns, turn.Local) ∧
      (Visit.run turns visit).2 = { visit with session := (Session.run visit.session script).2 }
  | .step single, arenas, visit => ⟨[.step single], by simpa [Turn.Local, Script.Local] using arenas, rfl⟩
  | .block name leaves body, arenas, visit => by
      cases found : Table.get? name visit.session.allocators with
      | none =>
          refine ⟨[.enter name], by simp [Turn.Local], ?_⟩
          simp only [Visit.run, Turn.apply, Session.run, allocator_of_none found]
      | some inner =>
          obtain ⟨turns, inside, ran⟩ := turns_of_scripts leaves body arenas
            ⟨(onCaller (Caller.activate inner) visit.session).2,
              visit.session.caller.active :: visit.outer⟩
          refine ⟨.enter name :: (turns ++ [.leave]), ?_, ?_⟩
          · simpa [Turn.Local, or_imp, forall_and] using inside
          · have entered : Turn.apply visit (.enter name) =
                ⟨(onCaller (Caller.activate inner) visit.session).2,
                  visit.session.caller.active :: visit.outer⟩ := by
              rw [Turn.apply, allocator_of_some found]
            rw [Visit.run, entered, Visit.run_append, ran, Session.run, allocator_of_some found]
            rfl

theorem turns_of_scripts (leaves : Bool) : (scripts : List Script) → AllLocal scripts →
    (visit : Visit) → ∃ turns : List Turn, (∀ turn ∈ turns, turn.Local) ∧
      (Visit.run turns visit).2 =
        { visit with session := (runAll visit.session leaves scripts).2.2 }
  | [], _, visit => ⟨[], by simp, rfl⟩
  | script :: rest, arenas, visit => by
      obtain ⟨turns, first, ran⟩ := turns_of_script script arenas.1 visit
      cases ends : leavesAt leaves (Session.run visit.session script).1 with
      | true =>
          refine ⟨turns ++ [.look], ?_, ?_⟩
          · simpa [Turn.Local, or_imp, forall_and] using first
          · rw [Visit.run_append, ran, runAll]
            simp only [ends, if_true]
            rfl
      | false =>
          obtain ⟨later, second, ranLater⟩ := turns_of_scripts leaves rest arenas.2
            { visit with session := (Session.run visit.session script).2.reveal.2 }
          refine ⟨turns ++ .look :: later, ?_, ?_⟩
          · simpa [Turn.Local, or_imp, forall_and] using ⟨first, second⟩
          · rw [Visit.run_append, ran, Visit.run, Turn.apply, ranLater, runAll]
            simp only [ends, Bool.false_eq_true, if_false]

end

/-- What a session of such scripts does, a run of turns does. -/
theorem arenas_of_scripts (host : Host) (width : Int) (leaves : Bool) {scripts : List Script}
    (arenas : AllLocal scripts) :
    ∃ turns : List Turn, (∀ turn ∈ turns, turn.Local) ∧
      (Visit.run turns (.initial host width)).2.session =
        (runAll (.initial host width) leaves scripts).2.2 := by
  obtain ⟨turns, all, ran⟩ := turns_of_scripts leaves scripts arenas (.initial host width)
  exact ⟨turns, all, by rw [ran]; rfl⟩

end Session

end ForeignCall
