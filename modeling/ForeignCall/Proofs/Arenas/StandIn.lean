import ForeignCall.Proofs.Arenas.Turns
import ForeignCall.Proofs.Payload.Nesting

/-! Libraries whose buffer symbols use an arena and nothing else. What is allocated and released
through such a library shows no difference to the arena used directly. -/

namespace ForeignCall

/-- The symbols always give the ordinary answer. -/
structure Image.Ordinary (image : Image) : Prop where
  allocs : ∀ entry ∈ image.allocScript, entry = none
  frees : ∀ entry ∈ image.freeScript, entry = none

namespace Image.Ordinary

theorem head?_join_of_none {script : List (Option Fill)} (ordinary : ∀ entry ∈ script, entry = none) :
    script.head?.join = none := by
  cases script with
  | nil => rfl
  | cons entry rest => exact ordinary entry (List.mem_cons_self ..)

variable {image : Image}

theorem nextAlloc (ordinary : image.Ordinary) (lent : LentBytes) :
    (image.nextAlloc lent).1 = none ∧ (image.nextAlloc lent).2.Ordinary :=
  ⟨head?_join_of_none ordinary.allocs,
    fun entry member => ordinary.allocs entry (List.mem_of_mem_tail member), ordinary.frees⟩

theorem nextFree (ordinary : image.Ordinary) :
    image.nextFree.1 = none ∧ image.nextFree.2.Ordinary :=
  ⟨head?_join_of_none ordinary.frees, ordinary.allocs,
    fun entry member => ordinary.frees entry (List.mem_of_mem_tail member)⟩

end Image.Ordinary

theorem LentBytes.visible_ofBytes {bytes : List UInt8} (fits : bytes.length ≤ Buffer.maxLength) :
    (ofBytes bytes).visible = bytes := by
  have length : (ofBytes bytes).length.toInt = bytes.length := Heap.toInt_of_fits fits
  rw [visible, length, get_ofBytes, Int.toNat_natCast, List.take_length]

/-- A function that leaves its fresh status alone does what it does without one. -/
theorem Call.raising_of_fresh {α : Type} {release : Buffer → Action Caller Unit} {lifter : Lifter}
    {function : CallStatus → Action Caller (CallStatus × α)} {step : Action Caller α}
    {before middle : Caller}
    (called : function .fresh before =
      (do return (.fresh, ← step) : Action Caller (CallStatus × α)) middle) :
    raising release lifter function before = step middle := by
  rw [Action.returning_apply] at called
  generalize step middle = ran at called ⊢
  obtain ⟨result, after⟩ := ran
  cases result with
  | error fault => exact Action.bind_of_error called _
  | ok value =>
      have passed : CallStatus.check release lifter .replacing .fresh after = (.ok (), after) :=
        Action.bind_of_ok (CallStatus.outcome_of_success rfl ..) _
      exact (Action.bind_of_ok called _).trans (Action.bind_of_ok passed _)

namespace Caller

variable {caller : Caller} {index : Nat} {image : Image} {allocator : Allocator}

theorem allocBy_of_ordinary (source : allocator.source = .image index)
    (found : caller.images[index]? = some image) (ordinary : image.Ordinary) {bytes : List UInt8}
    (fits : bytes.length ≤ Buffer.maxLength) :
    allocBy allocator bytes caller =
      allocIn image.arena bytes
        { caller with images := caller.images.set index (image.nextAlloc (.ofBytes bytes)).2 } := by
  have taken := onImage_of_found found (Image.nextAlloc (.ofBytes bytes))
  rw [(ordinary.nextAlloc _).1] at taken
  rw [allocBy, source]
  refine Call.raising_of_fresh ?_
  rw [allocSymbol, Action.bind_of_ok taken]
  change (do return (CallStatus.fresh, ← allocIn image.arena (LentBytes.ofBytes bytes).visible)) _ = _
  rw [LentBytes.visible_ofBytes fits]

theorem freeBy_of_nextFree (source : allocator.source = .image index)
    (found : caller.images[index]? = some image) (ordinary : image.nextFree.1 = none)
    (buffer : Buffer) :
    freeBy allocator buffer caller =
      releaseIn image.arena buffer
        { caller with images := caller.images.set index image.nextFree.2 } := by
  have taken := onImage_of_found found Image.nextFree
  rw [ordinary] at taken
  rw [freeBy, maxNestedReleases, freeNested, source]
  refine Call.raising_of_fresh ?_
  rw [freeSymbol, Action.bind_of_ok taken]

theorem freeBy_of_ordinary (source : allocator.source = .image index)
    (found : caller.images[index]? = some image) (ordinary : image.Ordinary) (buffer : Buffer) :
    freeBy allocator buffer caller =
      releaseIn image.arena buffer
        { caller with images := caller.images.set index image.nextFree.2 } :=
  freeBy_of_nextFree source found ordinary.nextFree.1 buffer

/-- The action reads and changes the heap and nothing else. -/
def OnHeap {α : Type} (action : Action Caller α) : Prop :=
  ∃ effect : Heap → Except Fault α × Heap, ∀ caller,
    action caller = ((effect caller.heap).1, { caller with heap := (effect caller.heap).2 })

/-- What making a block does to the heap. -/
def allocated (index : Nat) (bytes : List UInt8) (heap : Heap) : Except Fault Buffer × Heap :=
  match heap.alloc index bytes with
  | .ok (buffer, after) => (.ok buffer, after)
  | .error fault => (.error fault, heap)

/-- What giving a block back does to the heap. -/
def released (index : Nat) (buffer : Buffer) (heap : Heap) : Except Fault Unit × Heap :=
  match heap.release index buffer with
  | .ok after => (.ok (), after)
  | .error fault => (.error fault, heap)

theorem onHeap_allocIn (index : Nat) (bytes : List UInt8) : OnHeap (allocIn index bytes) := by
  refine ⟨allocated index bytes, fun caller => ?_⟩
  cases made : caller.heap.alloc index bytes <;> simp [allocIn, allocated, made]

theorem onHeap_releaseIn (index : Nat) (buffer : Buffer) : OnHeap (releaseIn index buffer) := by
  refine ⟨released index buffer, fun caller => ?_⟩
  cases given : caller.heap.release index buffer <;> simp [releaseIn, released, given]

theorem onHeap_read (buffer : Buffer) : OnHeap (read buffer) :=
  ⟨fun heap => (.ok (heap.read buffer), heap), fun _ => rfl⟩

end Caller

/-- The allocator of the library gives way to one that uses the arena. -/
def Allocator.direct (index arena : Nat) (allocator : Allocator) : Allocator :=
  { allocator with
    source := if allocator.source = .image index then .arena arena else allocator.source }

/-- The allocator uses an arena, or the library. -/
def Allocator.Within (index : Nat) (allocator : Allocator) : Prop :=
  allocator.source = .image index ∨ ∃ arena, allocator.source = .arena arena

namespace Session

/-- The same session with the arena in place of the library. -/
def direct (index arena : Nat) (session : Session) : Session :=
  { session with
    allocators := session.allocators.map fun entry => (entry.1, entry.2.direct index arena)
    bridge := { session.bridge with
      caller := { session.caller with active := session.caller.active.direct index arena } } }

/-- The library stands for the arena, and the session allocates through no other library. -/
structure Backed (index arena : Nat) (session : Session) : Prop where
  library : ∃ image, session.caller.images[index]? = some image ∧ image.arena = arena ∧
    image.Ordinary
  active : session.caller.active.Within index
  named : ∀ name allocator, Table.get? name session.allocators = some allocator →
    allocator.Within index

/-- Two sessions that differ in no more than in whether they use the library or the arena. -/
structure Twins (index arena : Nat) (native plain : Session) : Prop where
  backed : native.Backed index arena
  heap : plain.caller.heap = native.caller.heap
  active : plain.caller.active = native.caller.active.direct index arena
  allocators : plain.allocators =
    native.allocators.map fun entry => (entry.1, entry.2.direct index arena)
  buffers : plain.buffers = native.buffers

/-- What a step shows, between the sessions before and after it. -/
structure Sight where
  before : Session
  step : Step
  answer : Except Fault Answer
  after : Session

def sights (session : Session) : List Step → List Sight
  | [] => []
  | step :: rest =>
      ⟨session, step, (perform step session).1, (perform step session).2⟩ ::
        sights (perform step session).2 rest

/-- How many requests reach the library if one is made of the active or a named allocator. -/
def requests (index : Nat) (session : Session) (choice : Option String) : Nat :=
  match (session.chosen choice).map Allocator.source with
  | some (.image image) => if image = index then 1 else 0
  | some (.arena _) | none => 0

def Step.allocations (index : Nat) (session : Session) : Step → Nat
  | .fromBytes _ _ => session.requests index none
  | .alloc chosen _ _ => session.requests index (some chosen)
  | _ => 0

def Step.releases (index : Nat) (session : Session) : Step → Nat
  | .consume name => if (Table.get? name session.buffers).isSome then session.requests index none else 0
  | .free name chosen =>
      if (Table.get? name session.buffers).isSome then session.requests index chosen else 0
  | _ => 0

/-- Steps that allocate, read, copy and release buffers, by the active allocator or a named one. -/
def Step.Modest : Step → Prop
  | .fromBytes _ bytes | .alloc _ _ bytes => bytes.length ≤ Buffer.maxLength
  | .setAllocator _ | .activeAllocator | .aliasBuffer .. | .nullBuffer .. | .setLength ..
  | .toBytes _ | .consume _ | .free .. | .describe _ => True
  | _ => False

/-- Two runs with the same result, after which the sessions are still twins. -/
structure Agree {α : Type} (index arena : Nat) (before : Session) (allocs frees : Nat)
    (native plain : Except Fault α × Session) : Prop where
  result : native.1 = plain.1
  twins : Twins index arena native.2 plain.2
  allocs : native.2.caller.allocCalls index = before.caller.allocCalls index + allocs
  frees : native.2.caller.freeCalls index = before.caller.freeCalls index + frees

variable {index arena allocs frees : Nat} {native plain : Session}

theorem Twins.direct {session : Session} (backed : session.Backed index arena) :
    Twins index arena session (session.direct index arena) :=
  ⟨backed, rfl, rfl, rfl, rfl⟩

theorem Twins.agree {α : Type} (twins : Twins index arena native plain) (result : Except Fault α) :
    Agree index arena native 0 0 (result, native) (result, plain) :=
  ⟨rfl, twins, rfl, rfl⟩

theorem Agree.bind {α β : Type} {before : Session} {first first' : Action Session α}
    {next next' : α → Action Session β}
    (agree : Agree index arena before allocs frees (first native) (first' plain))
    (later : ∀ value native' plain', Twins index arena native' plain' →
      Agree index arena native' 0 0 (next value native') (next' value plain')) :
    Agree index arena before allocs frees ((first >>= next) native) ((first' >>= next') plain) := by
  rw [Action.bind_apply, Action.bind_apply]
  generalize first native = ran at agree
  generalize first' plain = ran' at agree
  obtain ⟨result, native'⟩ := ran
  obtain ⟨result', plain'⟩ := ran'
  obtain ⟨rfl, twins, allocated, freed⟩ := agree
  cases result with
  | error fault => exact ⟨rfl, twins, allocated, freed⟩
  | ok value =>
      obtain ⟨same, twins, allocated', freed'⟩ := later value native' plain' twins
      exact ⟨same, twins, allocated'.trans allocated, freed'.trans freed⟩

theorem Agree.returning {α β : Type} {before : Session} {first first' : Action Session α}
    (agree : Agree index arena before allocs frees (first native) (first' plain)) (form : α → β) :
    Agree index arena before allocs frees ((do return form (← first)) native)
      ((do return form (← first')) plain) :=
  agree.bind fun value _ _ twins => twins.agree (.ok (form value))

theorem Twins.setBuffer (twins : Twins index arena native plain) (name : String)
    (buffer : Buffer) :
    Agree index arena native 0 0 (setBuffer name buffer native) (setBuffer name buffer plain) := by
  obtain ⟨backed, heap, active, allocators, buffers⟩ := twins
  refine ⟨rfl, ⟨⟨backed.library, backed.active, backed.named⟩, heap, active, allocators, ?_⟩, rfl, rfl⟩
  exact congrArg (Table.set name buffer) buffers

/-- An action counts calls of the library, and does to the heap what another does without it. -/
theorem Twins.onHeap {α : Type} (twins : Twins index arena native plain)
    {action action' : Action Caller α} (onHeap : Caller.OnHeap action') {image : Image}
    (found : native.caller.images[index]? = some image) (counted : Image) (there : counted.arena = arena)
    (ordinary : counted.Ordinary) (allocated : counted.allocCalls = image.allocCalls + allocs)
    (freed : counted.freeCalls = image.freeCalls + frees)
    (acts : action native.caller =
      action' { native.caller with images := native.caller.images.set index counted }) :
    Agree index arena native allocs frees (onCaller action native) (onCaller action' plain) := by
  obtain ⟨effect, effects⟩ := onHeap
  obtain ⟨backed, heap, active, allocators, buffers⟩ := twins
  have counting : (native.caller.images.set index counted)[index]? = some counted :=
    List.getElem?_set_self (List.getElem?_eq_some_iff.mp found).1
  rw [effects] at acts
  simp only [onCaller_eq, acts, effects, heap]
  refine ⟨rfl, ⟨⟨⟨counted, counting, there, ordinary⟩, backed.active, backed.named⟩, rfl, active,
    allocators, buffers⟩, ?_, ?_⟩
  · change ((native.caller.images.set index counted)[index]?.map Image.allocCalls).getD 0 = _
    rw [counting, Caller.allocCalls, found]
    exact allocated
  · change ((native.caller.images.set index counted)[index]?.map Image.freeCalls).getD 0 = _
    rw [counting, Caller.freeCalls, found]
    exact freed

theorem Twins.quiet {α : Type} (twins : Twins index arena native plain) {action : Action Caller α}
    (onHeap : Caller.OnHeap action) :
    Agree index arena native 0 0 (onCaller action native) (onCaller action plain) := by
  obtain ⟨image, found, there, ordinary⟩ := twins.backed.library
  have same : native.caller.images.set index image = native.caller.images := by
    obtain ⟨bound, rfl⟩ := List.getElem?_eq_some_iff.mp found
    exact List.set_getElem_self bound
  exact twins.onHeap onHeap found image there ordinary rfl rfl (by rw [same])

theorem requests_of_image {choice : Option String} {allocator : Allocator}
    (chosen : native.chosen choice = some allocator) (source : allocator.source = .image index) :
    native.requests index choice = 1 := by
  rw [requests, chosen, Option.map_some, source]
  exact if_pos rfl

theorem requests_of_arena {choice : Option String} {allocator : Allocator} {other : Nat}
    (chosen : native.chosen choice = some allocator) (source : allocator.source = .arena other) :
    native.requests index choice = 0 := by
  rw [requests, chosen, Option.map_some, source]

theorem Twins.chosen_within (twins : Twins index arena native plain) {choice : Option String}
    {allocator : Allocator} (chosen : native.chosen choice = some allocator) :
    allocator.Within index := by
  cases choice with
  | none =>
      cases chosen
      exact twins.backed.active
  | some name => exact twins.backed.named name allocator chosen

theorem Twins.allocBy (twins : Twins index arena native plain) {choice : Option String}
    {allocator : Allocator} (chosen : native.chosen choice = some allocator) {bytes : List UInt8}
    (fits : bytes.length ≤ Buffer.maxLength) :
    Agree index arena native (native.requests index choice) 0
      (onCaller (Caller.allocBy allocator bytes) native)
      (onCaller (Caller.allocBy (allocator.direct index arena) bytes) plain) := by
  rcases twins.chosen_within chosen with image | ⟨other, source⟩
  · obtain ⟨library, found, rfl, ordinary⟩ := twins.backed.library
    have direct : (allocator.direct index library.arena).source = .arena library.arena :=
      if_pos image
    rw [requests_of_image chosen image, Caller.allocBy_of_arena direct]
    exact twins.onHeap (Caller.onHeap_allocIn _ _) found (library.nextAlloc (.ofBytes bytes)).2 rfl
      (ordinary.nextAlloc _).2 rfl rfl
      (Caller.allocBy_of_ordinary image found ordinary fits)
  · have direct : (allocator.direct index arena).source = .arena other :=
      (if_neg (by simp [source])).trans source
    rw [requests_of_arena chosen source, Caller.allocBy_of_arena source,
      Caller.allocBy_of_arena direct]
    exact twins.quiet (Caller.onHeap_allocIn _ _)

theorem Twins.freeBy (twins : Twins index arena native plain) {choice : Option String}
    {allocator : Allocator} (chosen : native.chosen choice = some allocator) (buffer : Buffer) :
    Agree index arena native 0 (native.requests index choice)
      (onCaller (Caller.freeBy allocator buffer) native)
      (onCaller (Caller.freeBy (allocator.direct index arena) buffer) plain) := by
  rcases twins.chosen_within chosen with image | ⟨other, source⟩
  · obtain ⟨library, found, rfl, ordinary⟩ := twins.backed.library
    have direct : (allocator.direct index library.arena).source = .arena library.arena :=
      if_pos image
    rw [requests_of_image chosen image, Caller.freeBy_of_arena direct]
    exact twins.onHeap (Caller.onHeap_releaseIn _ _) found library.nextFree.2 rfl
      ordinary.nextFree.2 rfl rfl
      (Caller.freeBy_of_ordinary image found ordinary buffer)
  · have direct : (allocator.direct index arena).source = .arena other :=
      (if_neg (by simp [source])).trans source
    rw [requests_of_arena chosen source, Caller.freeBy_of_arena source,
      Caller.freeBy_of_arena direct]
    exact twins.quiet (Caller.onHeap_releaseIn _ _)

theorem Twins.free (twins : Twins index arena native plain) (buffer : Buffer) :
    Agree index arena native 0 (native.requests index none)
      (onCaller (Caller.free buffer) native) (onCaller (Caller.free buffer) plain) := by
  have active : native.chosen none = some native.caller.active := rfl
  have freed := twins.freeBy active buffer
  rw [← twins.active] at freed
  exact freed

theorem Twins.consume (twins : Twins index arena native plain) (buffer : Buffer) :
    Agree index arena native 0 (native.requests index none)
      (onCaller (Caller.consume Caller.free buffer) native)
      (onCaller (Caller.consume Caller.free buffer) plain) := by
  have freed := twins.free buffer
  simp only [onCaller_eq] at freed ⊢
  rw [Caller.consume_apply, Caller.consume_apply, twins.heap]
  refine ⟨?_, freed.twins, freed.allocs, freed.frees⟩
  exact congrArg (Except.map fun _ => native.caller.heap.read buffer) freed.result

/-- What is done with a named buffer, unless there is none of the name. -/
theorem Twins.onBuffer (twins : Twins index arena native plain) (name : String)
    {next : Buffer → Action Session Answer}
    (agrees : ∀ buffer, Agree index arena native 0 frees (next buffer native) (next buffer plain)) :
    Agree index arena native 0 (if (Table.get? name native.buffers).isSome then frees else 0)
      ((buffer name >>= next) native) ((buffer name >>= next) plain) := by
  have same : Table.get? name plain.buffers = Table.get? name native.buffers :=
    congrArg (Table.get? name) twins.buffers
  cases known : Table.get? name native.buffers with
  | none =>
      rw [known] at same
      have failed := Action.bind_of_error (named_of_none known) next
      have failed' := Action.bind_of_error (named_of_none same) next
      exact failed ▸ failed' ▸ twins.agree _
  | some found =>
      rw [known] at same
      have passed := Action.bind_of_ok (named_of_some known) next
      have passed' := Action.bind_of_ok (named_of_some same) next
      exact passed ▸ passed' ▸ agrees found

theorem Twins.onBuffer_quiet (twins : Twins index arena native plain) (name : String)
    {next : Buffer → Action Session Answer}
    (agrees : ∀ buffer, Agree index arena native 0 0 (next buffer native) (next buffer plain)) :
    Agree index arena native 0 0 ((buffer name >>= next) native) ((buffer name >>= next) plain) := by
  simpa only [ite_self] using twins.onBuffer name agrees

/-- What is done with a named allocator, and with the one that is in its place. -/
theorem Twins.onAllocator (twins : Twins index arena native plain) (name : String)
    {next : Allocator → Action Session Answer}
    (absent : native.chosen (some name) = none → allocs = 0 ∧ frees = 0)
    (agrees : ∀ allocator, native.chosen (some name) = some allocator →
      Agree index arena native allocs frees (next allocator native)
        (next (allocator.direct index arena) plain)) :
    Agree index arena native allocs frees
      ((allocator name >>= next) native) ((allocator name >>= next) plain) := by
  have same : Table.get? name plain.allocators =
      (Table.get? name native.allocators).map (Allocator.direct index arena) := by
    rw [twins.allocators, Table.get?_map]
  cases known : Table.get? name native.allocators with
  | none =>
      rw [known] at same
      obtain ⟨rfl, rfl⟩ := absent known
      have failed := Action.bind_of_error (named_of_none known) next
      have failed' := Action.bind_of_error (named_of_none same) next
      exact failed ▸ failed' ▸ twins.agree _
  | some found =>
      rw [known] at same
      have passed := Action.bind_of_ok (named_of_some known) next
      have passed' := Action.bind_of_ok (named_of_some same) next
      exact passed ▸ passed' ▸ agrees found known

theorem Twins.active_name (twins : Twins index arena native plain) :
    plain.caller.active.name = native.caller.active.name := by
  rw [twins.active]
  rfl

theorem Twins.setAllocator (twins : Twins index arena native plain) {allocator : Allocator}
    (within : allocator.Within index) :
    Agree index arena native 0 0
      ((do
        let previous ← onCaller (Caller.activate allocator)
        return Answer.name previous.name) native)
      ((do
        let previous ← onCaller (Caller.activate (allocator.direct index arena))
        return Answer.name previous.name) plain) := by
  have same := twins.active_name
  obtain ⟨backed, heap, active, allocators, buffers⟩ := twins
  refine ⟨?_, ⟨⟨backed.library, within, backed.named⟩, heap, rfl, allocators, buffers⟩, rfl, rfl⟩
  exact congrArg (fun name => Except.ok (Answer.name name)) same.symm

theorem requests_of_absent {choice : Option String} (absent : native.chosen choice = none) :
    native.requests index choice = 0 := by
  rw [requests, absent]
  rfl

/-- A step does the same with the library as without it, and calls the library as often as it
makes requests of it. -/
theorem Twins.step (twins : Twins index arena native plain) {step : Step} (modest : step.Modest) :
    Agree index arena native (step.allocations index native) (step.releases index native)
      (perform step native) (perform step plain) := by
  cases step with
  | setAllocator name =>
      exact twins.onAllocator name (fun _ => ⟨rfl, rfl⟩) fun allocator chosen =>
        twins.setAllocator (twins.chosen_within chosen)
  | activeAllocator =>
      exact ⟨congrArg (fun name => Except.ok (Answer.name name)) twins.active_name.symm, twins, rfl,
        rfl⟩
  | fromBytes name bytes =>
      have active : native.chosen none = some native.caller.active := rfl
      have made := twins.allocBy active modest
      rw [← twins.active] at made
      exact made.bind fun buffer _ _ twins => twins.setBuffer name buffer
  | alloc chosen name bytes =>
      exact twins.onAllocator chosen (fun absent => ⟨requests_of_absent absent, rfl⟩)
        fun allocator known => (twins.allocBy known modest).bind fun buffer _ _ twins =>
          twins.setBuffer name buffer
  | aliasBuffer name of =>
      exact twins.onBuffer_quiet of fun buffer => twins.setBuffer name buffer
  | nullBuffer name length => exact twins.setBuffer name _
  | setLength name length =>
      exact twins.onBuffer_quiet name fun buffer => twins.setBuffer name _
  | toBytes name =>
      exact twins.onBuffer_quiet name fun buffer =>
        (twins.quiet (Caller.onHeap_read buffer)).returning _
  | consume name =>
      exact twins.onBuffer name fun buffer => (twins.consume buffer).returning _
  | free name chosen =>
      refine twins.onBuffer name fun buffer => ?_
      cases chosen with
      | none => exact (twins.free buffer).returning _
      | some chosen =>
          exact twins.onAllocator chosen (fun absent => ⟨rfl, requests_of_absent absent⟩)
            fun allocator known => (twins.freeBy known buffer).returning _
  | describe name =>
      exact twins.onBuffer_quiet name fun buffer =>
        twins.agree (.ok (Answer.name buffer.label))
  | _ => exact modest.elim

/-- Step by step, a session answers the same and has the same arenas whether it uses the library or
the arena behind it, and each request it makes of the library is one call of a symbol. -/
theorem library_stands_in {session : Session} (backed : session.Backed index arena)
    {steps : List Step} (modest : ∀ step ∈ steps, step.Modest) :
    List.Forall₂ (fun native plain => native.answer = plain.answer ∧
        native.after.caller.heap = plain.after.caller.heap)
      (session.sights steps) ((session.direct index arena).sights steps) ∧
    ∀ sight ∈ session.sights steps,
      sight.after.caller.allocCalls index =
        sight.before.caller.allocCalls index + sight.step.allocations index sight.before ∧
      sight.after.caller.freeCalls index =
        sight.before.caller.freeCalls index + sight.step.releases index sight.before := by
  have twins := Twins.direct backed
  generalize session.direct index arena = plain at twins
  induction steps generalizing session plain with
  | nil => exact ⟨.nil, by simp [sights]⟩
  | cons step rest ih =>
      obtain ⟨answer, twins, allocated, freed⟩ := twins.step (modest step (List.mem_cons_self ..))
      obtain ⟨same, counts⟩ := ih twins.backed
        (fun later member => modest later (List.mem_cons_of_mem _ member)) _ twins
      refine ⟨.cons ⟨answer, twins.heap.symm⟩ same, fun sight member => ?_⟩
      rcases List.mem_cons.mp member with rfl | later
      · exact ⟨allocated, freed⟩
      · exact counts sight later

def performAll (steps : List Step) (session : Session) : Session :=
  steps.foldl (fun session step => (perform step session).2) session

/-- Two allocators of one library, of which one is active. -/
def libraryOpened : Session :=
  performAll [.bind ⟨["demo_rustbuffer_from_bytes", "demo_rustbuffer_free"], 0, [], [none]⟩ "demo",
    .libraryAllocator 0 "library", .libraryAllocator 0 "again", .setAllocator "library"]
    (.initial .bare 8)

theorem libraryOpened_backed : libraryOpened.Backed 0 1 := by
  refine ⟨⟨_, rfl, rfl, ⟨by decide, by decide⟩⟩, .inl rfl, fun name allocator found => ?_⟩
  have entries : (name, allocator) ∈ [("main", Allocator.mk "main" (.arena 0)),
      ("library", Allocator.mk "library" (.image 0)),
      ("again", Allocator.mk "again" (.image 0))] := Table.mem_of_get? found
  simp only [List.mem_cons, Prod.mk.injEq, List.not_mem_nil, or_false] at entries
  obtain ⟨-, rfl⟩ | ⟨-, rfl⟩ | ⟨-, rfl⟩ := entries
  · exact .inr ⟨0, rfl⟩
  · exact .inl rfl
  · exact .inl rfl

/-- A block is taken through an alias by another allocator of the library than gave it out, and not
again; buffers without a block are released any number of times. -/
def alternating : List Step :=
  [.fromBytes "block" [1, 2], .fromBytes "empty" [], .free "empty" none, .setAllocator "again",
    .aliasBuffer "alias" "block", .consume "alias", .free "block" (some "library"),
    .nullBuffer "null" 3, .free "null" none, .alloc "library" "more" [3], .toBytes "more"]

theorem library_stands_in_alternating :
    libraryOpened.Backed 0 1 ∧ (∀ step ∈ alternating, step.Modest) ∧
      List.Forall₂ (fun native plain => native.answer = plain.answer ∧
          native.after.caller.heap = plain.after.caller.heap)
        (libraryOpened.sights alternating) ((libraryOpened.direct 0 1).sights alternating) ∧
      ((performAll alternating libraryOpened).caller.allocCalls 0 = 3 ∧
        (performAll alternating libraryOpened).caller.freeCalls 0 = 4) :=
  have modest : ∀ step ∈ alternating, step.Modest := by
    simp [alternating, Step.Modest, Buffer.maxLength]
  ⟨libraryOpened_backed, modest, (library_stands_in libraryOpened_backed modest).1, rfl, rfl⟩

end Session

end ForeignCall
