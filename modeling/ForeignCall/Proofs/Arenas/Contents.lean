import ForeignCall.Proofs.Payload.Nesting
import ForeignCall.Proofs.Session.Onward

/-! What can be read of the bytes that an allocator of this side copied. They stay what they were for
as long as their block is live, whatever else a session allocates, releases, calls or loads. -/

namespace ForeignCall

namespace Heap

variable {before after : Heap} {index : Nat} {buffer : Buffer} {bytes : List UInt8}

/-- The block that a buffer names, if it names one, has not been released. -/
def Live (heap : Heap) (index : Nat) (buffer : Buffer) : Prop :=
  ∀ address, buffer.address = some address → address ∈ Table.keys (heap.arena index).blocks

theorem Onward.holds (onward : before.Onward after) (sound : before.Sound)
    (held : before.Holds index buffer bytes) (live : after.Live index buffer) :
    after.Holds index buffer bytes := by
  cases held with
  | null => exact .null
  | @block address _ nonempty fits there =>
      rcases onward.blocks index address (sound.below index address bytes there) with kept | gone
      · exact .block nonempty fits (kept.trans there)
      · have contained := Table.contains_iff.mpr (live address rfl)
        rw [Table.contains, ← blockIn, gone] at contained
        cases contained

theorem Holds.live (held : before.Holds index buffer bytes) : before.Live index buffer := by
  intro address named
  cases held with
  | null => cases named
  | block nonempty fits there =>
      cases named
      refine Table.contains_iff.mp ?_
      rw [Table.contains, ← blockIn, there]
      rfl

theorem takenBack_subset_released (index : Nat) (past : List Deed) :
    takenBack index past ⊆ released past := by
  intro address member
  obtain ⟨deed, happened, found⟩ := List.mem_filterMap.mp member
  refine List.mem_filterMap.mpr ⟨deed, happened, ?_⟩
  cases deed with
  | gave => cases found
  | took arena other =>
      simp only [Deed.taken?] at found
      split at found
      · exact found
      · cases found

/-- A block that is live is so until it is taken back. -/
theorem Accounted.live {past later : List Deed} (earlier : Accounted past before)
    (now : Accounted (past ++ later) after) (live : before.Live index buffer)
    (spared : ∀ address, buffer.address = some address → address ∉ released later) :
    after.Live index buffer := by
  intro address named
  obtain ⟨given, kept⟩ := ((earlier.kept index).live address).mp (live address named)
  refine ((now.kept index).live address).mpr ⟨?_, ?_⟩
  · rw [handedOut, List.filterMap_append]
    exact List.mem_append_left _ given
  · rw [takenBack, List.filterMap_append, List.mem_append, not_or]
    exact ⟨kept, fun again => spared address named (takenBack_subset_released index later again)⟩

end Heap

/-- What is read through the views of a buffer: all its bytes through those that have its length, and
their beginning through those with a shorter one. -/
structure Caller.Yields (caller : Caller) (buffer : Buffer) (bytes : List UInt8) : Prop where
  whole : ∀ view : Buffer, view.address = buffer.address → view.length = buffer.length →
    Caller.read view caller = (.ok bytes, caller)
  beginning : ∀ view : Buffer, view.address = buffer.address → 0 < view.length.toInt →
    view.length.toInt ≤ bytes.length →
    Caller.read view caller = (.ok (bytes.take view.length.toInt.toNat), caller)
  nothing : ∀ view : Buffer, view.address = buffer.address → view.length.toInt ≤ 0 →
    Caller.read view caller = (.ok [], caller)

theorem Caller.yields {caller : Caller} (sound : caller.heap.Sound) {index : Nat} {buffer : Buffer}
    {bytes : List UInt8} (held : caller.heap.Holds index buffer bytes) :
    caller.Yields buffer bytes := by
  have reads : ∀ view : Buffer, view.address = buffer.address →
      Caller.read view caller = (.ok (bytes.take view.length.toInt.toNat), caller) := by
    intro view same
    have resized := sound.read_resized held view.length
    rw [← same] at resized
    rw [Caller.read, ← resized]
  refine ⟨?_, fun view same _ _ => reads view same, ?_⟩
  · intro view same full
    obtain rfl : view = buffer := by
      cases view
      cases buffer
      cases same
      cases full
      rfl
    rw [Caller.read, sound.read_eq held]
  · intro view same negative
    rw [reads view same, Int.toNat_of_nonpos negative, List.take_zero]

namespace Session

/-- A step that copies bytes into a buffer of that name, by the active allocator or a chosen one. -/
inductive Step.Allocates : Step → Option String → String → List UInt8 → Prop where
  | fromBytes (name : String) (bytes : List UInt8) :
      Allocates (.fromBytes name bytes) none name bytes
  | alloc (chosen name : String) (bytes : List UInt8) :
      Allocates (.alloc chosen name bytes) (some chosen) name bytes

variable {step : Step} {choice : Option String} {name : String} {bytes : List UInt8}

theorem Step.Allocates.local (allocates : step.Allocates choice name bytes) : step.Local := by
  cases allocates <;> trivial

theorem Step.Allocates.perform (allocates : step.Allocates choice name bytes) {session : Session}
    {allocator : Allocator} {index : Nat} (found : session.chosen choice = some allocator)
    (source : allocator.source = .arena index) :
    perform step session = (onCaller (Caller.allocIn index bytes) >>= setBuffer name) session := by
  rw [← Caller.allocBy_of_arena source]
  cases allocates with
  | fromBytes name bytes =>
      cases found
      rfl
  | alloc chosen name bytes => exact Action.bind_of_ok (named_of_some found) _

/-- A step has made a buffer of bytes, from which they can be read whatever turns come later. Where
there are only arenas, nothing but a release of this very block ends that. -/
structure Stored (earlier : List Turn) (visit : Visit) (step : Step) (name : String) (index : Nat)
    (bytes : List UInt8) (buffer : Buffer) : Prop where
  answer : (perform step visit.session).1 = .ok (shapeOf buffer)
  named : Table.get? name (perform step visit.session).2.buffers = some buffer
  length : buffer.length.toInt = bytes.length
  null : buffer.address = none ↔ bytes = []
  contents : ∀ later,
    (Visit.run (.step step :: later) visit).2.session.caller.heap.Live index buffer →
    (Visit.run (.step step :: later) visit).2.session.caller.Yields buffer bytes
  live : ∀ later, (∀ turn ∈ earlier ++ later, turn.Local) →
    (∀ address, buffer.address = some address →
      address ∉ Heap.released (Visit.run later (Turn.apply visit (.step step))).1) →
    (Visit.run (.step step :: later) visit).2.session.caller.heap.Live index buffer

theorem refused_of_tooLong (allocates : step.Allocates choice name bytes) {session : Session}
    {allocator : Allocator} {index : Nat} (found : session.chosen choice = some allocator)
    (source : allocator.source = .arena index) (tooLong : Buffer.maxLength < bytes.length) :
    perform step session = (.error (.bufferTooLong bytes.length), session) := by
  have refused : session.caller.heap.alloc index bytes = .error (.bufferTooLong bytes.length) := by
    rw [Heap.alloc, if_pos tooLong]
  have failed : onCaller (Caller.allocIn index bytes) session =
      (.error (.bufferTooLong bytes.length), session) := by
    rw [onCaller_eq, Caller.allocIn, refused]
    rfl
  rw [allocates.perform found source, Action.bind_of_error failed]

theorem made_of_fits (allocates : step.Allocates choice name bytes) {session : Session}
    {allocator : Allocator} {index : Nat} (found : session.chosen choice = some allocator)
    (source : allocator.source = .arena index) (bound : index < session.caller.heap.arenas.length)
    (fits : bytes.length ≤ Buffer.maxLength) :
    ∃ buffer heap, heap.Holds index buffer bytes ∧
      perform step session = (.ok (shapeOf buffer),
        { session with
          buffers := Table.set name buffer session.buffers
          bridge := { session.bridge with caller := { session.caller with heap } } }) := by
  obtain ⟨buffer, heap, allocated⟩ := session.caller.heap.exists_alloc_of_fits index fits
  have made : onCaller (Caller.allocIn index bytes) session = (.ok buffer,
      { session with bridge := { session.bridge with caller := { session.caller with heap } } }) := by
    rw [onCaller_eq, Caller.allocIn, allocated]
  refine ⟨buffer, heap, Heap.holds_of_alloc bound allocated, ?_⟩
  rw [allocates.perform found source, Action.bind_of_ok made, setBuffer_eq]

theorem stored_of_fits (host : Host) (width : Int) (earlier : List Turn)
    (allocates : step.Allocates choice name bytes) {allocator : Allocator} {index : Nat}
    (found : (Visit.run earlier (.initial host width)).2.session.chosen choice = some allocator)
    (source : allocator.source = .arena index) (fits : bytes.length ≤ Buffer.maxLength) :
    ∃ buffer,
      Stored earlier (Visit.run earlier (.initial host width)).2 step name index bytes buffer := by
  have begun : Since _ (Visit.initial host width).outer (Visit.initial host width).session :=
    .initial host width
  have since := begun.run earlier
  generalize ran : Visit.run earlier (.initial host width) = past at found since
  obtain ⟨deeds, visit⟩ := past
  obtain ⟨buffer, heap, held, made⟩ :=
    made_of_fits allocates found source (since.chosen found index source) fits
  have next := since.turn (.step step)
  have there : (Turn.apply visit (.step step)).session.caller.heap = heap := by
    rw [Turn.apply, made]
    rfl
  refine ⟨buffer, by rw [made], by rw [made]; exact Table.get?_set_self .., ?_,
    held.address_eq_none_iff, ?_, ?_⟩
  · rw [held.length_eq, Heap.toInt_of_fits fits]
  · intro later live
    have sound := next.bridge.caller.heap.sound (.initial host width)
    have onward := (next.rebase.run later).bridge.caller.heap
    refine Caller.yields (onward.sound sound) (onward.holds sound ?_ live)
    rw [there]
    exact held
  · intro later arenas spared
    have start : Housed [] (Visit.initial host width).outer (Visit.initial host width).session :=
      .initial host width
    have housed := start.run fun turn member => arenas turn (List.mem_append_left later member)
    rw [ran, List.nil_append] at housed
    have arena : (Turn.step step).Local := allocates.local
    have stored := housed.turn arena
    have now := stored.run fun turn member => arenas turn (List.mem_append_right earlier member)
    refine stored.ledger.live now.ledger ?_ spared
    rw [there]
    exact held.live

/-- Whatever has happened before, an arena of this side copies bytes unless they are too many. From
then on they can be read back, whatever happens next, until their block is released. -/
theorem contents_of_run (host : Host) (width : Int) (earlier : List Turn)
    (allocates : step.Allocates choice name bytes) {allocator : Allocator} {index : Nat}
    (found : (Visit.run earlier (.initial host width)).2.session.chosen choice = some allocator)
    (source : allocator.source = .arena index) :
    (Buffer.maxLength < bytes.length →
      perform step (Visit.run earlier (.initial host width)).2.session =
        (.error (.bufferTooLong bytes.length),
          (Visit.run earlier (.initial host width)).2.session) ∧
      (Fault.bufferTooLong bytes.length).kind = .overflow) ∧
    (bytes.length ≤ Buffer.maxLength → ∃ buffer,
      Stored earlier (Visit.run earlier (.initial host width)).2 step name index bytes buffer) :=
  ⟨fun long => ⟨refused_of_tooLong allocates found source long, rfl⟩,
    stored_of_fits host width earlier allocates found source⟩

/-- The arena of `other` is in use while that of `main` has a block already. -/
def besideMain : List Turn :=
  [.step (.newAllocator "other"), .step (.fromBytes "first" [9]), .enter "other"]

/-- Other blocks of both arenas come and go, and a view of the block is refused by `main`. -/
def comingAndGoing : List Turn :=
  [.leave, .step (.alloc "other" "second" [4, 5]), .step (.aliasBuffer "view" "block"),
    .step (.setLength "view" 2), .step (.free "view" none), .step (.free "second" (some "other")),
    .step (.consume "first")]

theorem contents_of_comingAndGoing :
    (Visit.run besideMain (.initial .bare 8)).2.session.chosen none = some ⟨"other", .arena 1⟩ ∧
      ([1, 2, 3] : List UInt8).length ≤ Buffer.maxLength ∧ ∃ buffer,
        Stored besideMain (Visit.run besideMain (.initial .bare 8)).2
          (.fromBytes "block" [1, 2, 3]) "block" 1 [1, 2, 3] buffer ∧
        (Visit.run (.step (.fromBytes "block" [1, 2, 3]) :: comingAndGoing)
          (Visit.run besideMain (.initial .bare 8)).2).2.session.caller.Yields buffer [1, 2, 3] := by
  have chosen : (Visit.run besideMain (.initial .bare 8)).2.session.chosen none =
      some ⟨"other", .arena 1⟩ := rfl
  have fits : ([1, 2, 3] : List UInt8).length ≤ Buffer.maxLength := by decide
  obtain ⟨buffer, stored⟩ :=
    (contents_of_run .bare 8 besideMain (.fromBytes "block" [1, 2, 3]) chosen rfl).2 fits
  refine ⟨chosen, fits, buffer, stored, stored.contents comingAndGoing (stored.live _ ?_ ?_)⟩
  · simp [besideMain, comingAndGoing, Turn.Local, Step.Local]
  · obtain rfl : (⟨3, some 0x1001⟩ : Buffer) = buffer := Option.some.inj stored.named
    intro address named
    cases named
    decide

end Session

end ForeignCall
