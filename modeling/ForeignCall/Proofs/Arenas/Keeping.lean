import ForeignCall.ForeignFunction

/-! What calls and releases keep, from what the few parts keep that they are made of. -/

namespace ForeignCall

section Judging

variable {holds : Caller → Prop} {release : Buffer → Action Caller Unit}
  (notes : ∀ notice, (Caller.note notice).Keeps holds)
  (releases : ∀ buffer, (release buffer).Keeps holds)

theorem Caller.keeps_read (buffer : Buffer) : (Caller.read buffer).Keeps holds :=
  fun _ before => before

theorem Caller.keeps_fill {alloc : List UInt8 → Action Caller Buffer}
    (allocs : ∀ bytes, (alloc bytes).Keeps holds) (fill : Fill) :
    (fill.status alloc).Keeps holds := by
  unfold Fill.status
  cases fill.payload with
  | some bytes => exact (allocs bytes).returning _
  | none => exact Action.keeps_pure _

include releases

theorem Caller.keeps_consume (buffer : Buffer) : (Caller.consume release buffer).Keeps holds :=
  (Caller.keeps_read buffer).ensuring (releases buffer)

theorem Lifter.keeps_lift (buffer : Buffer) (lifter : Lifter) :
    (lifter.lift release buffer).Keeps holds := by
  have consumes := Caller.keeps_consume releases buffer
  cases lifter with
  | undeclared => exact (releases buffer).returning _
  | decoding decode => exact consumes.bind fun _ => Action.keeps_ofExcept _
  | serialized codec factory => exact consumes.bind fun _ => Action.keeps_ofExcept _
  | peeking decode => exact (Caller.keeps_read buffer).bind fun _ => Action.keeps_ofExcept _

theorem TextLifter.keeps_lift (buffer : Buffer) (texts : TextLifter) :
    (texts.lift release buffer).Keeps holds := by
  cases texts with
  | consuming decode =>
      exact (Caller.keeps_consume releases buffer).bind fun _ => Action.keeps_ofExcept _
  | peeking decode => exact (Caller.keeps_read buffer).bind fun _ => Action.keeps_ofExcept _

theorem CallStatus.keeps_panicText (texts : TextLifter) (buffer : Buffer) :
    (panicText release texts buffer).Keeps holds := by
  unfold panicText
  split
  · exact texts.keeps_lift releases buffer
  · exact Action.keeps_pure _

include notes

theorem CallStatus.keeps_outcome {α : Type} (lifter : Lifter) (texts : TextLifter)
    (status : CallStatus) (value : α) :
    (outcome release lifter texts status value).Keeps holds := by
  unfold outcome
  split
  · exact Action.keeps_pure _
  · split
    · exact (lifter.keeps_lift releases _).bind fun _ => (notes _).returning _
    · split
      · exact (keeps_panicText releases texts _).bind fun _ => (notes _).returning _
      · exact (releases _).bind fun _ => Action.keeps_fail _

theorem CallStatus.keeps_check (lifter : Lifter) (texts : TextLifter) (status : CallStatus) :
    (check release lifter texts status).Keeps holds :=
  (keeps_outcome notes releases lifter texts status ()).bind fun _ => Action.keeps_ofExcept _

variable {α : Type} {function : CallStatus → Action Caller (CallStatus × α)}

theorem Call.keeps_raising (lifter : Lifter) (calls : ∀ status, (function status).Keeps holds) :
    (raising release lifter function).Keeps holds :=
  (calls _).bind fun _ => (CallStatus.keeps_check notes releases lifter _ _).returning _

theorem Call.keeps_outcome (lifter : Lifter) (calls : ∀ status, (function status).Keeps holds) :
    (outcome release lifter function).Keeps holds :=
  (calls _).bind fun _ => CallStatus.keeps_outcome notes releases lifter _ _ _

end Judging

namespace Caller

/-- A property that is kept by all that a release is made of, however many further ones it leads
to. -/
structure Lasting (holds : Caller → Prop) : Prop where
  note : ∀ notice, (note notice).Keeps holds
  allocIn : ∀ index bytes, (allocIn index bytes).Keeps holds
  releaseIn : ∀ index buffer, (releaseIn index buffer).Keeps holds
  nextFree : ∀ index, (onImage index Image.nextFree).Keeps holds

namespace Lasting

variable {holds : Caller → Prop} (lasting : Lasting holds)
include lasting

theorem freeSymbol (index : Nat) (buffer : Buffer) : (freeSymbol index buffer).Keeps holds := by
  refine (lasting.nextFree index).bind fun (scripted, arena) => ?_
  cases scripted with
  | some fill => exact (keeps_fill (lasting.allocIn arena) fill).returning _
  | none => exact (lasting.releaseIn arena buffer).returning _

theorem freeNested (nested : Nat) (allocator : Allocator) (buffer : Buffer) :
    (freeNested nested allocator buffer).Keeps holds := by
  induction nested generalizing allocator buffer with
  | zero =>
      unfold Caller.freeNested
      split
      · exact lasting.releaseIn _ buffer
      · exact Action.keeps_fail _
  | succ nested ih =>
      unfold Caller.freeNested
      split
      · exact lasting.releaseIn _ buffer
      · exact Call.keeps_raising lasting.note
          (fun payload => Action.keeps_state.bind fun _ => ih _ payload) _
          fun _ => lasting.freeSymbol _ buffer

theorem freeBy (allocator : Allocator) (buffer : Buffer) :
    (freeBy allocator buffer).Keeps holds :=
  lasting.freeNested _ allocator buffer

theorem free (buffer : Buffer) : (free buffer).Keeps holds :=
  Action.keeps_state.bind fun _ => lasting.freeBy _ buffer

variable {α : Type} {function : CallStatus → Action Caller (CallStatus × α)}

theorem raising_of_called {before : Caller} (lifter : Lifter)
    (called : holds (function .fresh before).2) :
    holds (Call.raising Caller.free lifter function before).2 :=
  Action.bind_keeps called fun (status, _) =>
    (CallStatus.keeps_check lasting.note lasting.free lifter .replacing status).returning _

theorem raising (lifter : Lifter) (calls : ∀ status, (function status).Keeps holds) :
    (Call.raising Caller.free lifter function).Keeps holds :=
  fun before held => lasting.raising_of_called lifter (calls _ before held)

end Lasting

end Caller

end ForeignCall
