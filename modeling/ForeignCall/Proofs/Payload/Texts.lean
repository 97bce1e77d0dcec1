import ForeignCall.Proofs.Arenas.StandIn
import ForeignCall.Proofs.Payload.Forms
import ForeignCall.Proofs.Text.Pieces

/-! The texts of payloads, and panics in particular, whose payload may be any buffer: one with a
length and no block, or with a block and no length. -/

namespace ForeignCall

namespace Heap

variable {heap : Heap} {index : Nat} {buffer : Buffer} {bytes : List UInt8}

/-- What can be read through a buffer filled in by foreign code: nothing without a block, whatever
the length says, and else as much of the block as it says. -/
inductive Shows (heap : Heap) (index : Nat) : Buffer → List UInt8 → Prop
  | null (length : Int32) : Shows heap index ⟨length, none⟩ []
  | block {address : Nat} {bytes : List UInt8} {length : Int32}
      (live : heap.blockIn index address = some bytes) (within : length.toInt ≤ bytes.length) :
      Shows heap index ⟨length, some address⟩ (bytes.take length.toInt.toNat)

theorem Holds.shows (held : heap.Holds index buffer bytes) : heap.Shows index buffer bytes := by
  cases held with
  | null => exact .null 0
  | block nonempty fits live =>
      have full := toInt_of_fits fits
      have shows := Shows.block live (Int.le_of_eq full)
      rwa [full, Int.toNat_natCast, List.take_length] at shows

theorem Sound.read_of_shows (sound : heap.Sound) (shows : heap.Shows index buffer bytes) :
    heap.read buffer = bytes := by
  cases shows with
  | null length => exact read_null heap length
  | block live within => exact sound.read_block live _

theorem Shows.exists_block (shows : heap.Shows index buffer bytes)
    (block : buffer.address.isSome = true) :
    ∃ address kept, buffer.address = some address ∧ heap.blockIn index address = some kept := by
  cases shows with
  | null length => cases block
  | block live within => exact ⟨_, _, rfl, live⟩

theorem release_of_shows (shows : heap.Shows index buffer bytes) :
    ∃ after, heap.release index buffer = .ok after ∧ Released index buffer heap after := by
  cases shows with
  | null length => exact ⟨heap, rfl, .of_null rfl⟩
  | block live within => exact release_of_live rfl live

end Heap

namespace Caller

variable {caller counted : Caller} {index : Nat} {buffer : Buffer} {bytes : List UInt8}

/-- What is released goes back to the arena, at once or through the symbol of a library that has
nothing else to answer, which then has been called once more. -/
inductive Reaches (caller : Caller) (index : Nat) : Caller → Prop
  | direct (active : caller.active.source = .arena index) : Reaches caller index caller
  | symbol {number : Nat} {image : Image} (active : caller.active.source = .image number)
      (found : caller.images[number]? = some image) (arena : image.arena = index)
      (ordinary : image.nextFree.1 = none) :
      Reaches caller index { caller with images := caller.images.set number image.nextFree.2 }

theorem Reaches.free_eq (reaches : caller.Reaches index counted) (buffer : Buffer) :
    Caller.free buffer caller = releaseIn index buffer counted := by
  cases reaches with
  | direct active => exact free_of_arena active buffer
  | symbol active found arena ordinary =>
      rw [← arena]
      exact freeBy_of_nextFree active found ordinary buffer

theorem Reaches.heap_eq (reaches : caller.Reaches index counted) : counted.heap = caller.heap := by
  cases reaches <;> rfl

theorem Reaches.free (reaches : caller.Reaches index counted)
    (shows : caller.heap.Shows index buffer bytes) :
    ∃ heap, Heap.Released index buffer caller.heap heap ∧
      Caller.free buffer caller = (.ok (), { counted with heap }) := by
  obtain ⟨heap, taken, released⟩ := Heap.release_of_shows shows
  refine ⟨heap, released, ?_⟩
  rw [reaches.free_eq, releaseIn, reaches.heap_eq, taken]

end Caller

/-- The text of a byte string, with a mark for every flaw. -/
def shownText (bytes : List UInt8) : String :=
  String.ofList (Utf8.replacing bytes)

section Texts

variable {caller counted : Caller} {index : Nat} {buffer : Buffer} {bytes : List UInt8}

theorem TextLifter.lift_replacing (sound : caller.heap.Sound)
    (shows : caller.heap.Shows index buffer bytes) (reaches : caller.Reaches index counted) :
    ∃ heap, Heap.Released index buffer caller.heap heap ∧
      TextLifter.replacing.lift Caller.free buffer caller =
        (.ok (shownText bytes), { counted with heap }) := by
  obtain ⟨heap, released, freed⟩ := reaches.free shows
  have consumed := Caller.consume_eq (sound.read_of_shows shows) freed
  exact ⟨heap, released, Action.bind_of_ok consumed _⟩

theorem mem_shownText {c : Char} (member : c ∈ (shownText bytes).toList) :
    c.toNat.isValidChar ∧ (c = Char.ofNat 0xFFFD ∨ String.utf8EncodeChar c <:+: bytes) := by
  rw [shownText, String.toList_ofList] at member
  exact ⟨c.valid, Utf8.infix_of_mem_replacing member⟩

theorem shownText_of_decode {chars : List Char} (decoded : Utf8.decode bytes = .ok chars) :
    shownText bytes = String.ofList chars := by
  rw [shownText, Utf8.replacing_of_decode decoded]

theorem shownText_append_encode (part : List UInt8) (chars : List Char) :
    shownText (part ++ Utf8.encode chars) = shownText part ++ String.ofList chars := by
  rw [shownText, Utf8.replacing_append_encode, String.ofList_append]
  rfl

theorem shownText_append (part : List UInt8) {rest : List UInt8}
    (apart : ∀ byte ∈ rest.head?, ¬ Utf8.Tail byte) :
    shownText (part ++ rest) = shownText part ++ shownText rest := by
  rw [shownText, Utf8.replacing_append part apart, String.ofList_append]
  rfl

end Texts

/-- Lifting the text of a payload never fails, and releases the payload. The text holds marks and
characters of the payload, all of them if there is no flaw. It is the text of a part of the payload
followed by that of the rest, wherever the rest does not begin with a tail byte, as encoded text never
does. -/
theorem text_of_payload :
    (∀ (caller counted : Caller) (index : Nat) (buffer : Buffer) (bytes : List UInt8),
      caller.heap.Sound → caller.heap.Shows index buffer bytes → caller.Reaches index counted →
      ∃ heap, Heap.Released index buffer caller.heap heap ∧
        TextLifter.replacing.lift Caller.free buffer caller =
          (.ok (shownText bytes), { counted with heap })) ∧
    (∀ bytes, ∀ c ∈ (shownText bytes).toList,
      c.toNat.isValidChar ∧ (c = Char.ofNat 0xFFFD ∨ String.utf8EncodeChar c <:+: bytes)) ∧
    (∀ bytes chars, Utf8.decode bytes = .ok chars → shownText bytes = String.ofList chars) ∧
    (∀ part rest : List UInt8, (∀ byte ∈ rest.head?, ¬ Utf8.Tail byte) →
      shownText (part ++ rest) = shownText part ++ shownText rest) ∧
    ∀ part chars,
      shownText (part ++ Utf8.encode chars) = shownText part ++ String.ofList chars :=
  ⟨fun _ _ _ _ _ sound shows reaches => TextLifter.lift_replacing sound shows reaches,
    fun _ _ member => mem_shownText member, fun _ _ decoded => shownText_of_decode decoded,
    fun part _ apart => shownText_append part apart, shownText_append_encode⟩

/-- A sequence cut off by a letter: the letter is not lost. -/
theorem text_of_payload_cutOff :
    withPayload.heap.Sound ∧
      (∃ heap, Heap.Released 0 undecodableError.payload withPayload.heap heap ∧
        TextLifter.replacing.lift Caller.free undecodableError.payload withPayload =
          (.ok "\uFFFD\uFFFD", { withPayload with heap })) ∧
      shownText [0xC3, 0xA9] = "é" ∧
      shownText ([0xE2, 0x82] ++ [0x41]) = "\uFFFD" ++ "A" := by
  have carries := withPayload_carries
  have lifted := text_of_payload.1 withPayload withPayload 0 undecodableError.payload [0xff, 0xfe]
    carries.sound carries.held.shows (.direct carries.active)
  refine ⟨carries.sound, lifted, ?_, ?_⟩
  · exact text_of_payload.2.2.1 [0xC3, 0xA9] ['é'] (by decide)
  · exact text_of_payload.2.2.2.1 [0xE2, 0x82] [0x41] (by simp [Utf8.Tail])

namespace CallStatus

/-- Judging the status in either form reports a panic with the message, and leaves the same behind. -/
structure Panics {α : Type} (status : CallStatus) (lifter : Lifter) (value : α) (before : Caller)
    (message : String) (after : Caller) : Prop where
  outcome : CallStatus.outcome Caller.free lifter .replacing status value before =
    (.ok (.panic message), after)
  check : CallStatus.check Caller.free lifter .replacing status before =
    (.error (.panicked message), after)

/-- The text a panic should have: that of its payload, or a stock text if the payload is empty. -/
def panicMessage (status : CallStatus) (bytes : List UInt8) : String :=
  if status.payload.isEmpty then silentPanic else shownText bytes

variable {α : Type} {status : CallStatus} {before caller counted : Caller} {message : String}
  {index : Nat} {bytes : List UInt8}

theorem Panics.of_panicText (panicked : status.code = 2) {after : Caller}
    (told : panicText Caller.free .replacing status.payload before = (.ok message, after))
    (lifter : Lifter) (value : α) :
    status.Panics lifter value before message (after.notify [.panicked message]) := by
  have reported : ∀ {β : Type} (value : β),
      CallStatus.outcome Caller.free lifter .replacing status value before =
        (.ok (.panic message), after.notify [.panicked message]) := by
    intro β value
    rw [outcome_of_panic panicked]
    exact Action.bind_of_ok told _
  exact ⟨reported value, Action.bind_of_ok (reported ()) _⟩

/-- With a length the text is lifted and the block, if there is one, goes back. -/
theorem panics_of_length (panicked : status.code = 2) (sound : caller.heap.Sound)
    (shows : caller.heap.Shows index status.payload bytes) (reaches : caller.Reaches index counted)
    (length : 0 < status.payload.length) (lifter : Lifter) (value : α) :
    ∃ heap, Heap.Released index status.payload caller.heap heap ∧
      status.Panics lifter value caller (shownText bytes)
        ({ counted with heap }.notify [.panicked (shownText bytes)]) := by
  obtain ⟨heap, released, lifted⟩ := TextLifter.lift_replacing sound shows reaches
  refine ⟨heap, released, .of_panicText panicked ?_ lifter value⟩
  rw [panicText, if_pos length, lifted]

/-- Without one the payload is not looked at, and a block stays where it is. -/
theorem panics_of_short (panicked : status.code = 2) (short : status.payload.length ≤ 0)
    (lifter : Lifter) (value : α) :
    status.Panics lifter value caller silentPanic (caller.notify [.panicked silentPanic]) := by
  refine .of_panicText panicked ?_ lifter value
  rw [panicText, if_neg (Int32.not_lt.mpr short)]
  rfl

theorem Panics.unique {lifter : Lifter} {value : α} {other : String} {after after' : Caller}
    (panics : status.Panics lifter value before message after)
    (again : status.Panics lifter value before other after') : message = other ∧ after = after' := by
  have same := panics.outcome.symm.trans again.outcome
  simp only [Prod.mk.injEq, Except.ok.injEq, Outcome.panic.injEq] at same
  exact same

theorem not_panicMessage_of_null (null : status.payload.address = none)
    (shows : caller.heap.Shows index status.payload bytes) :
    status.panicMessage bytes ≠ shownText bytes := by
  have empty : status.payload.isEmpty = true := by simp [Buffer.isEmpty, null]
  rw [panicMessage, if_pos empty]
  generalize status.payload = payload at null shows
  cases shows with
  | null length => decide
  | block live within => cases null

/-- A panic has the text it should have, and its block is gone, just when it came with both a length
and a block or with neither. -/
theorem panics_as_due_iff (panicked : status.code = 2) (sound : caller.heap.Sound)
    (shows : caller.heap.Shows index status.payload bytes)
    (reaches : caller.Reaches index counted) (lifter : Lifter) (value : α) :
    (∃ after, status.Panics lifter value caller (status.panicMessage bytes) after ∧
      Heap.Released index status.payload caller.heap after.heap) ↔
    (0 < status.payload.length ↔ status.payload.address.isSome = true) := by
  by_cases length : 0 < status.payload.length
  · obtain ⟨heap, released, panics⟩ :=
      panics_of_length panicked sound shows reaches length lifter value
    rw [iff_true_left length]
    constructor
    · rintro ⟨after, due, -⟩
      by_contra null
      exact not_panicMessage_of_null (Option.not_isSome_iff_eq_none.mp null) shows
        (due.unique panics).1
    · intro block
      have full : ¬ status.payload.isEmpty = true := by
        simpa [Buffer.isEmpty, ← Option.isSome_iff_ne_none] using ⟨length, block⟩
      rw [panicMessage, if_neg full]
      exact ⟨_, panics, released⟩
  · have short := Int32.not_lt.mp length
    have panics : status.Panics lifter value caller silentPanic
        (caller.notify [.panicked silentPanic]) := panics_of_short panicked short lifter value
    have empty : status.payload.isEmpty = true := by simp [Buffer.isEmpty, short]
    rw [panicMessage, if_pos empty, iff_false_left length]
    constructor
    · rintro ⟨after, due, released⟩ block
      obtain rfl := (due.unique panics).2
      obtain ⟨address, kept, named, live⟩ := shows.exists_block block
      have gone : caller.heap.blockIn index address = none := released.gone address named
      rw [gone] at live
      cases live
    · intro null
      exact ⟨_, panics, .of_null (Option.not_isSome_iff_eq_none.mp null)⟩

/-- What a panic reports and what it gives back goes by the length of the payload alone. With a length
the text is lifted, an empty one if there is no block, and a block goes back. Without one the stock
text is reported and a block stays where it is. -/
theorem panic_by_length (panicked : status.code = 2) (sound : caller.heap.Sound)
    (shows : caller.heap.Shows index status.payload bytes) (reaches : caller.Reaches index counted)
    (lifter : Lifter) (value : α) :
    (0 < status.payload.length →
      ∃ heap, Heap.Released index status.payload caller.heap heap ∧
        status.Panics lifter value caller (shownText bytes)
          ({ counted with heap }.notify [.panicked (shownText bytes)])) ∧
    (status.payload.length ≤ 0 →
      status.Panics lifter value caller silentPanic (caller.notify [.panicked silentPanic])) ∧
    ((∃ after, status.Panics lifter value caller (status.panicMessage bytes) after ∧
        Heap.Released index status.payload caller.heap after.heap) ↔
      (0 < status.payload.length ↔ status.payload.address.isSome = true)) :=
  ⟨fun length => panics_of_length panicked sound shows reaches length lifter value,
    fun short => panics_of_short panicked short lifter value,
    panics_as_due_iff panicked sound shows reaches lifter value⟩

/-- A panic that says less of its block than there is. -/
def cutShort : CallStatus :=
  ⟨2, ⟨1, some 0x1000⟩⟩

theorem withPayload_shows {length : Int32} (within : length.toInt ≤ 2) :
    withPayload.heap.Shows 0 ⟨length, some 0x1000⟩ ([0xff, 0xfe].take length.toInt.toNat) :=
  .block rfl within

theorem panic_by_length_cutShort :
    withPayload.heap.Sound ∧ withPayload.heap.Shows 0 cutShort.payload [0xff] ∧
      withPayload.Reaches 0 withPayload ∧
      ∃ heap, Heap.Released 0 cutShort.payload withPayload.heap heap ∧
        cutShort.Panics .undeclared () withPayload "\uFFFD"
          ({ withPayload with heap }.notify [.panicked "\uFFFD"]) :=
  have carries := withPayload_carries
  have panicked : cutShort.code = 2 := rfl
  have shows : withPayload.heap.Shows 0 cutShort.payload [0xff] := withPayload_shows (by decide)
  have reaches := Caller.Reaches.direct carries.active
  ⟨carries.sound, shows, reaches,
    (panic_by_length panicked carries.sound shows reaches .undeclared ()).1 (by decide)⟩

def lengthless : CallStatus :=
  ⟨2, ⟨0, some 0x1000⟩⟩

def blockless : CallStatus :=
  ⟨2, ⟨3, none⟩⟩

/-- A block without a length is never given back, and a length without a block makes for an empty
text in place of the stock one. -/
theorem panic_amiss_without_length_or_block :
    withPayload.heap.Sound ∧ withPayload.Reaches 0 withPayload ∧
      (withPayload.heap.Shows 0 lengthless.payload [] ∧
        ¬ ∃ after, lengthless.Panics .undeclared () withPayload (lengthless.panicMessage []) after ∧
          Heap.Released 0 lengthless.payload withPayload.heap after.heap) ∧
      withPayload.heap.Shows 0 blockless.payload [] ∧
        ¬ ∃ after, blockless.Panics .undeclared () withPayload (blockless.panicMessage []) after ∧
          Heap.Released 0 blockless.payload withPayload.heap after.heap := by
  have sound := withPayload_carries.sound
  have reaches := Caller.Reaches.direct withPayload_carries.active
  have noLength : withPayload.heap.Shows 0 lengthless.payload [] := withPayload_shows (by decide)
  have noBlock : withPayload.heap.Shows 0 blockless.payload [] := .null 3
  refine ⟨sound, reaches, ⟨noLength, ?_⟩, noBlock, ?_⟩
  · rw [panics_as_due_iff rfl sound noLength reaches .undeclared ()]
    decide
  · rw [panics_as_due_iff rfl sound noBlock reaches .undeclared ()]
    decide

end CallStatus

end ForeignCall
