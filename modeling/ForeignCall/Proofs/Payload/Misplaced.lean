import ForeignCall.Proofs.Payload.Forms
import ForeignCall.Proofs.Payload.Release

/-! Payloads that the active allocator does not take back. A payload is released before anything is
made of its bytes, in each of the ways to judge a failed call, so that a refused release is all that
comes of it. -/

namespace ForeignCall

section Unreleased

variable {α : Type} {release : Buffer → Action Caller Unit} {payload : Buffer}
  {caller after : Caller} {fault : Fault}

theorem Caller.consume_of_unreleased (refused : release payload caller = (.error fault, after)) :
    Caller.consume release payload caller = (.error fault, after) := by
  rw [Caller.consume_apply, refused]
  rfl

theorem Lifter.lift_of_unreleased {lifter : Lifter} (owning : lifter.Owning)
    (refused : release payload caller = (.error fault, after)) :
    lifter.lift release payload caller = (.error fault, after) := by
  have unread := Caller.consume_of_unreleased refused
  cases lifter with
  | undeclared => exact Action.bind_of_error refused _
  | decoding decode => exact Action.bind_of_error unread _
  | serialized codec factory => exact Action.bind_of_error unread _
  | peeking decode => exact owning.elim

theorem CallStatus.panicText_of_unreleased (full : 0 < payload.length)
    (decode : List UInt8 → Except Fault String)
    (refused : release payload caller = (.error fault, after)) :
    panicText release (.consuming decode) payload caller = (.error fault, after) := by
  rw [panicText, if_pos full]
  exact Action.bind_of_error (Caller.consume_of_unreleased refused) _

variable {status : CallStatus}

/-- A refused release is raised whatever the code, before anything is logged. -/
theorem CallStatus.outcome_of_unreleased {lifter : Lifter} (owning : lifter.Owning)
    (decode : List UInt8 → Except Fault String) (failed : status.isSuccess = false)
    (full : 0 < status.payload.length)
    (refused : release status.payload caller = (.error fault, after)) (value : α) :
    outcome release lifter (.consuming decode) status value caller = (.error fault, after) := by
  rw [outcome, if_neg (by simp [failed])]
  split
  next => exact Action.bind_of_error (Lifter.lift_of_unreleased owning refused) _
  next =>
    split
    next => exact Action.bind_of_error (panicText_of_unreleased full decode refused) _
    next => exact Action.bind_of_error refused _

end Unreleased

namespace Caller

/-- The active allocator is an arena of this side, and the buffer was given out for the bytes by
another one. -/
structure Misplaced (caller : Caller) (index other : Nat) (buffer : Buffer) (bytes : List UInt8) :
    Prop where
  active : caller.active.source = .arena index
  apart : other ≠ index
  sound : caller.heap.Sound
  held : caller.heap.Holds other buffer bytes
  nonempty : bytes ≠ []

variable {caller : Caller} {index other : Nat} {buffer : Buffer} {bytes : List UInt8}

theorem Misplaced.full (misplaced : caller.Misplaced index other buffer bytes) :
    0 < buffer.length :=
  misplaced.held.length_pos_iff.mpr misplaced.nonempty

theorem Misplaced.free (misplaced : caller.Misplaced index other buffer bytes) :
    ∃ address, Caller.free buffer caller = (.error (.notLive address), caller) := by
  obtain ⟨active, apart, sound, held, nonempty⟩ := misplaced
  cases held with
  | null => exact absurd rfl nonempty
  | @block address _ _ _ live =>
      have elsewhere : caller.heap.blockIn index address = none := by
        by_contra here
        obtain ⟨bytes', here⟩ := Option.ne_none_iff_exists'.mp here
        exact apart (sound.apart other index address bytes bytes' live here)
      refine ⟨address, ?_⟩
      rw [free_of_arena active, releaseIn, Heap.release_of_dead rfl elsewhere]

end Caller

/-- However the status is judged, the fault is raised and all stays as it was. Nothing that is to be
done with the bytes of the payload is begun. -/
structure CallStatus.Unreleasable {α : Type} (status : CallStatus) (lifter : Lifter) (value : α)
    (caller : Caller) (fault : Fault) : Prop where
  check : CallStatus.check Caller.free lifter .replacing status caller = (.error fault, caller)
  outcome : CallStatus.outcome Caller.free lifter .replacing status value caller =
    (.error fault, caller)
  call : ∀ function start, function .fresh start = (.ok (status, value), caller) →
    Call.Raises Caller.free lifter function start fault caller
  unread : ∀ {β : Type} (look : List UInt8 → Action Caller β),
    (do look (← Caller.consume Caller.free status.payload)) caller = (.error fault, caller)

/-- A payload of another arena is refused, whatever the code of the failed call and whoever is to
look into it. No block or count of any arena changes, and nothing is logged. -/
theorem misplaced_payload_refused {α : Type} {lifter : Lifter} (owning : lifter.Owning)
    {status : CallStatus} (failed : status.isSuccess = false) {caller : Caller} {index other : Nat}
    {bytes : List UInt8} (misplaced : caller.Misplaced index other status.payload bytes)
    (value : α) :
    ∃ fault, fault.family? = some .bufferRelease ∧
      status.Unreleasable lifter value caller fault := by
  obtain ⟨address, refused⟩ := misplaced.free
  have judged : ∀ {β : Type} (value : β),
      CallStatus.outcome Caller.free lifter .replacing status value caller =
        (.error (.notLive address), caller) :=
    CallStatus.outcome_of_unreleased owning replacingText failed misplaced.full refused
  refine ⟨.notLive address, rfl, Action.bind_of_error (judged ()) _, judged value, ?_, ?_⟩
  · intro function start returned
    exact .of_outcome ((Action.bind_of_ok returned _).trans (judged value))
  · intro β look
    exact Action.bind_of_error (Caller.consume_of_unreleased refused) look

/-- The second of two arenas has a block, and the first is active. -/
def withStrayPayload : Caller :=
  { Caller.initial .bare 8 with heap := ⟨[.empty, ⟨[(0x1000, [0xff, 0xfe])], 1, 0⟩], 0x1001⟩ }

theorem withStrayPayload_misplaced :
    withStrayPayload.Misplaced 0 1 undecodableError.payload [0xff, 0xfe] :=
  have sound := (Heap.Sound.initial .bare 8).addArena
  have bound : 1 < (Caller.initial .bare 8).heap.addArena.2.arenas.length := by decide
  have allocated : (Caller.initial .bare 8).heap.addArena.2.alloc 1 [0xff, 0xfe] =
      .ok (undecodableError.payload, withStrayPayload.heap) := rfl
  ⟨rfl, by decide, sound.alloc bound allocated, Heap.holds_of_alloc bound allocated, by decide⟩

theorem misplaced_payload_refused_undecodable :
    undecodable.Owning ∧ undecodableError.isSuccess = false ∧
      withStrayPayload.Misplaced 0 1 undecodableError.payload [0xff, 0xfe] ∧
      ∃ fault, fault.family? = some .bufferRelease ∧
        undecodableError.Unreleasable undecodable () withStrayPayload fault :=
  have owning : undecodable.Owning := trivial
  ⟨owning, rfl, withStrayPayload_misplaced,
    misplaced_payload_refused owning rfl withStrayPayload_misplaced ()⟩

end ForeignCall
