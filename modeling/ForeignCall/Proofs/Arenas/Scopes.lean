import ForeignCall.Session.Run

/-! Blocks that run with another allocator active. However deep they stand inside one another, and
however they are left, the allocator from before a block is active again behind it. -/

namespace ForeignCall

/-- Whatever comes of the body, no fault comes out. -/
def Action.suppressing {σ : Type} (body : Action σ Unit) : Action σ Unit := fun s =>
  (.ok (), (body s).2)

namespace Session

/-- A step that fails ends all that it stands in, up to the innermost attempt. -/
inductive Program where
  | step (step : Step)
  | block (allocator : String) (body : List Program)
  | attempt (body : List Program)

/-- The allocator seen active where a step begins, before a block begins that has one of its own,
and where a block has been left. -/
inductive Mark where
  | step (active : Allocator)
  | entering (active inner : Allocator)
  | left (active : Allocator)

structure Watched where
  session : Session
  marks : List Mark

namespace Watched

def active (watched : Watched) : Allocator :=
  watched.session.caller.active

def activating (allocator : Allocator) (watched : Watched) : Watched :=
  { watched with session := (onCaller (Caller.activate allocator) watched.session).2 }

end Watched

def onSession {α : Type} (action : Action Session α) : Action Watched α := fun watched =>
  ((action watched.session).1, { watched with session := (action watched.session).2 })

def watch (mark : Allocator → Mark) : Action Watched Unit :=
  .modify fun watched => { watched with marks := watched.marks ++ [mark watched.active] }

mutual

def Program.run : Program → Action Watched Unit
  | .step single => do
      watch .step
      let _ ← onSession (perform single)
  | .block name body => do
      let inner ← onSession (allocator name)
      watch (.entering · inner)
      let block := Caller.withAllocator (fun action => onSession (onCaller action)) inner
        (Program.runAll body)
      block.ensuring (watch .left)
  | .attempt body => (Program.runAll body).suppressing

def Program.runAll : List Program → Action Watched Unit
  | [] => return ()
  | program :: rest => do
      program.run
      Program.runAll rest

end

/-- What is seen from the allocator that is active at first to the one that is active at last. A step
may make any other active. A block begins with its own, and the one from before is active behind it. -/
inductive Sees : Allocator → List Mark → Allocator → Prop where
  | nothing (active : Allocator) : Sees active [] active
  | step {active next last : Allocator} {marks : List Mark} (later : Sees next marks last) :
      Sees active (.step active :: marks) last
  | block {active inner final last : Allocator} {inside marks : List Mark}
      (within : Sees inner inside final) (later : Sees active marks last) :
      Sees active (.entering active inner :: inside ++ .left active :: marks) last

theorem Sees.append {first middle last : Allocator} {marks more : List Mark}
    (sees : Sees first marks middle) (further : Sees middle more last) :
    Sees first (marks ++ more) last := by
  induction sees with
  | nothing => exact further
  | step later ih => exact .step (ih further)
  | block within later _ ih =>
      rw [List.append_assoc]
      exact .block within (ih further)

/-- The marks that an action adds are what is seen while it runs, whatever comes of it. -/
def Shows {α : Type} (action : Action Watched α) : Prop :=
  ∀ watched, ∃ marks, (action watched).2.marks = watched.marks ++ marks ∧
    Sees watched.active marks (action watched).2.active

namespace Shows

variable {α β : Type}

/-- An action that neither marks anything nor makes another allocator active. -/
theorem quiet {action : Action Watched α}
    (same : ∀ watched, (action watched).2 = watched) : Shows action := fun watched =>
  ⟨[], by rw [same, List.append_nil], by rw [same]; exact .nothing _⟩

theorem bind {first : Action Watched α} {next : α → Action Watched β} (shows : Shows first)
    (nextShows : ∀ value, Shows (next value)) : Shows (first >>= next) := by
  intro watched
  obtain ⟨marks, marked, sees⟩ := shows watched
  rw [Action.bind_apply]
  generalize first watched = ran at marked sees
  obtain ⟨result, after⟩ := ran
  cases result with
  | error fault => exact ⟨marks, marked, sees⟩
  | ok value =>
      obtain ⟨more, markedMore, further⟩ := nextShows value after
      refine ⟨marks ++ more, ?_, sees.append further⟩
      rw [markedMore, marked, List.append_assoc]

theorem suppressing {body : Action Watched Unit} (shows : Shows body) : Shows body.suppressing :=
  shows

theorem step (single : Step) : Shows (Program.step single).run := by
  intro watched
  have begun : watch .step watched =
      (.ok (), { watched with marks := watched.marks ++ [.step watched.active] }) := rfl
  rw [Program.run, Action.bind_of_ok begun, Action.returning_apply]
  -- What the step makes active is seen by whatever follows.
  exact ⟨[.step watched.active], rfl, .step (.nothing _)⟩

theorem scope {inner : Allocator} {body : Action Watched Unit} (shows : Shows body) :
    Shows (do
      watch (.entering · inner)
      (Caller.withAllocator (fun action => onSession (onCaller action)) inner body).ensuring
        (watch .left)) := by
  intro watched
  let entered : Watched :=
    { watched with marks := watched.marks ++ [.entering watched.active inner] }
  have begun : watch (.entering · inner) watched = (.ok (), entered) := rfl
  obtain ⟨inside, marked, within⟩ := shows (entered.activating inner)
  have ran := Caller.withAllocator_apply (fun action => onSession (onCaller action))
    Watched.active Watched.activating (fun _ _ => rfl) inner body entered
  rw [Action.bind_of_ok begun, Action.ensuring, ran]
  refine ⟨.entering watched.active inner :: inside ++ [.left watched.active], ?_,
    .block within (.nothing _)⟩
  change (body (entered.activating inner)).2.marks ++ [Mark.left watched.active] = _
  rw [marked]
  simp [Watched.activating, entered]

theorem block {name : String} {body : List Program} (shows : Shows (Program.runAll body)) :
    Shows (Program.block name body).run := by
  rw [Program.run]
  refine bind (quiet fun watched => ?_) fun inner => scope shows
  cases found : Table.get? name watched.session.allocators with
  | none =>
      rw [onSession, allocator_of_none found]
  | some inner =>
      rw [onSession, allocator_of_some found]

end Shows

mutual

theorem shows_run : (program : Program) → Shows program.run
  | .step single => .step single
  | .block _ body => .block (shows_runAll body)
  | .attempt body => by
      rw [Program.run]
      exact (shows_runAll body).suppressing

theorem shows_runAll : (programs : List Program) → Shows (Program.runAll programs)
  | [] => by
      rw [Program.runAll]
      exact .quiet fun _ => rfl
  | program :: rest => by
      rw [Program.runAll]
      exact (shows_run program).bind fun _ => shows_runAll rest

end

theorem active_of_withAllocator {α : Type} (inner : Allocator) (body : Action Session α)
    (session : Session) :
    (Caller.withAllocator onCaller inner body session).2.caller.active = session.caller.active := by
  rw [Caller.withAllocator_apply onCaller (fun session => session.caller.active)
    (fun allocator session => (onCaller (Caller.activate allocator) session).2) fun _ _ => rfl]
  rfl

theorem active_of_run_block (session : Session) (name : String) (leaves : Bool)
    (body : List Script) :
    (run session (.block name leaves body)).2.caller.active = session.caller.active := by
  rw [run]
  cases found : Table.get? name session.allocators with
  | none =>
      rw [allocator_of_none found]
  | some inner =>
      rw [allocator_of_some found]
      exact active_of_withAllocator inner
        (fun session => (.ok ((runAll session leaves body).1, (runAll session leaves body).2.1),
          (runAll session leaves body).2.2)) session

/-- Whatever steps and blocks do, and wherever a fault is caught, each block begins with its own
allocator active, and the one from before the block is active behind it. -/
theorem blocks_restore (programs : List Program) (session : Session) :
    Sees session.caller.active (Program.runAll programs ⟨session, []⟩).2.marks
        (Program.runAll programs ⟨session, []⟩).2.active ∧
      ∀ name leaves body,
        (run session (.block name leaves body)).2.caller.active = session.caller.active := by
  obtain ⟨marks, marked, sees⟩ := shows_runAll programs ⟨session, []⟩
  rw [List.nil_append] at marked
  rw [marked]
  exact ⟨sees, active_of_run_block session⟩

/-- A fault that leaves two blocks, of which the inner one has made the outer one's allocator active. -/
example :
    (Program.runAll
      [.step (.newAllocator "a"), .step (.newAllocator "b"),
        .attempt [.block "a" [.block "b" [.step (.setAllocator "a"), .step (.toBytes "none")],
          .step .activeAllocator]],
        .step .activeAllocator] ⟨.initial .bare 8, []⟩).2.marks =
      [.step ⟨"main", .arena 0⟩, .step ⟨"main", .arena 0⟩,
        .entering ⟨"main", .arena 0⟩ ⟨"a", .arena 1⟩, .entering ⟨"a", .arena 1⟩ ⟨"b", .arena 2⟩,
        .step ⟨"b", .arena 2⟩, .step ⟨"a", .arena 1⟩, .left ⟨"a", .arena 1⟩,
        .left ⟨"main", .arena 0⟩, .step ⟨"main", .arena 0⟩] := rfl

end Session

end ForeignCall
