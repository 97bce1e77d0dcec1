import ForeignCall.Proofs.Arenas.StandIn

/-! What releasing and lifting do not look at: the environment may change before them or after, for
all that comes of them. -/

namespace ForeignCall

namespace Action

variable {σ α β : Type} {change : σ → σ}

/-- Made before the action or after it, the change makes no difference. -/
def Ignores (change : σ → σ) (action : Action σ α) : Prop :=
  ∀ s, action (change s) = ((action s).1, change (action s).2)

theorem ignores_pure (value : α) : Ignores change (Pure.pure value) := fun _ => rfl

theorem ignores_fail (fault : Fault) : Ignores change (fail fault : Action σ α) := fun _ => rfl

theorem ignores_ofExcept (result : Except Fault α) : Ignores change (ofExcept result) :=
  fun _ => rfl

theorem Ignores.bind {first : Action σ α} {next : α → Action σ β}
    (firstIgnores : Ignores change first) (nextIgnores : ∀ value, Ignores change (next value)) :
    Ignores change (first >>= next) := by
  intro s
  rw [bind_apply, bind_apply, firstIgnores s]
  cases first s with
  | mk result t =>
      cases result with
      | error fault => rfl
      | ok value => exact nextIgnores value t

theorem Ignores.returning {action : Action σ α} (ignores : Ignores change action) (form : α → β) :
    Ignores change (do return form (← action)) :=
  ignores.bind fun _ => ignores_pure _

/-- The state may be looked at where the change does not show. -/
theorem ignores_state_bind {next : σ → Action σ α} (hidden : ∀ s, next (change s) = next s)
    (nextIgnores : ∀ s, Ignores change (next s)) : Ignores change (state >>= next) := by
  intro s
  change next (change s) (change s) = _
  rw [hidden]
  exact nextIgnores s s

theorem Ignores.ensuring {body : Action σ α} {cleanup : Action σ Unit}
    (bodyIgnores : Ignores change body) (cleanupIgnores : Ignores change cleanup) :
    Ignores change (body.ensuring cleanup) := by
  intro s
  unfold Action.ensuring
  rw [bodyIgnores s]
  cases body s with
  | mk outcome t =>
      dsimp only
      rw [cleanupIgnores t]
      cases cleanup t with
      | mk cleaned u => cases cleaned <;> rfl

end Action

section Judging

variable {change : Caller → Caller} {release : Buffer → Action Caller Unit}
  (reads : ∀ buffer, (Caller.read buffer).Ignores change)
  (releases : ∀ buffer, (release buffer).Ignores change)
include reads releases

theorem Caller.ignores_consume (buffer : Buffer) : (consume release buffer).Ignores change :=
  (reads buffer).ensuring (releases buffer)

theorem Lifter.ignores_lift (buffer : Buffer) (lifter : Lifter) :
    (lifter.lift release buffer).Ignores change := by
  have consumes := Caller.ignores_consume reads releases buffer
  cases lifter with
  | undeclared => exact (releases buffer).returning _
  | decoding decode => exact consumes.bind fun _ => Action.ignores_ofExcept _
  | serialized codec factory => exact consumes.bind fun _ => Action.ignores_ofExcept _
  | peeking decode => exact (reads buffer).bind fun _ => Action.ignores_ofExcept _

theorem CallStatus.ignores_panicText (buffer : Buffer) :
    (panicText release .replacing buffer).Ignores change := by
  unfold panicText
  split
  · exact (Caller.ignores_consume reads releases buffer).bind fun _ => Action.ignores_ofExcept _
  · exact Action.ignores_pure _

theorem CallStatus.ignores_check (notes : ∀ notice, (Caller.note notice).Ignores change)
    (lifter : Lifter) (status : CallStatus) :
    (check release lifter .replacing status).Ignores change := by
  refine Action.Ignores.bind ?_ fun _ => Action.ignores_ofExcept _
  unfold outcome
  split
  · exact Action.ignores_pure _
  · split
    · exact (lifter.ignores_lift reads releases _).bind fun _ => (notes _).returning _
    · split
      · exact (ignores_panicText reads releases _).bind fun _ => (notes _).returning _
      · exact (releases _).bind fun _ => Action.ignores_fail _

end Judging

namespace Caller

/-- The environment is another one. -/
def withSettings (settings : Settings) (caller : Caller) : Caller :=
  { caller with host := { caller.host with settings } }

variable {settings : Settings}

theorem ignores_note (notice : Notice) : (note notice).Ignores (withSettings settings) :=
  fun _ => rfl

theorem OnHeap.ignores {α : Type} {action : Action Caller α} (onHeap : OnHeap action) :
    action.Ignores (withSettings settings) := by
  obtain ⟨effect, acts⟩ := onHeap
  intro caller
  rw [acts, acts]
  rfl

theorem ignores_onImage (index : Nat) (step : Image → Option Fill × Image) :
    (onImage index step).Ignores (withSettings settings) := by
  intro caller
  have same : (caller.withSettings settings).images = caller.images := rfl
  rw [onImage, onImage, same]
  cases caller.images[index]? <;> rfl

theorem ignores_status (arena : Nat) (fill : Fill) :
    (fill.status (allocIn arena)).Ignores (withSettings settings) := by
  unfold Fill.status
  cases fill.payload with
  | some bytes => exact (onHeap_allocIn arena bytes).ignores.returning _
  | none => exact Action.ignores_pure _

theorem ignores_freeSymbol (index : Nat) (buffer : Buffer) :
    (freeSymbol index buffer).Ignores (withSettings settings) := by
  refine (ignores_onImage index _).bind fun (scripted, arena) => ?_
  cases scripted with
  | some fill => exact (ignores_status arena fill).returning _
  | none => exact (onHeap_releaseIn arena buffer).ignores.returning _

theorem ignores_freeNested (nested : Nat) (allocator : Allocator) (buffer : Buffer) :
    (freeNested nested allocator buffer).Ignores (withSettings settings) := by
  induction nested generalizing allocator buffer with
  | zero =>
      unfold freeNested
      split
      · exact (onHeap_releaseIn _ buffer).ignores
      · exact Action.ignores_fail _
  | succ nested ih =>
      unfold freeNested
      split
      · exact (onHeap_releaseIn _ buffer).ignores
      next index source =>
        refine (ignores_freeSymbol index buffer).bind fun (status, _) => ?_
        refine Action.Ignores.returning ?_ _
        refine CallStatus.ignores_check (fun buffer => (onHeap_read buffer).ignores) ?_ ignores_note
          _ status
        exact fun payload => Action.ignores_state_bind (fun _ => rfl) fun _ => ih _ payload

theorem ignores_free (buffer : Buffer) : (free buffer).Ignores (withSettings settings) :=
  Action.ignores_state_bind (fun _ => rfl) fun _ => ignores_freeNested _ _ buffer

theorem ignores_lift (lifter : Lifter) (payload : Buffer) :
    (lifter.lift free payload).Ignores (withSettings settings) :=
  lifter.ignores_lift (fun buffer => (onHeap_read buffer).ignores) ignores_free payload

end Caller

end ForeignCall
