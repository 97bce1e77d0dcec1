import ForeignCall.Fault

/-! Steps that may fail and keep what they did before failing. -/

namespace ForeignCall

def Action (σ : Type) (α : Type) : Type :=
  σ → Except Fault α × σ

namespace Action

variable {σ α β : Type}

def pure (value : α) : Action σ α := fun s => (.ok value, s)

def bind (first : Action σ α) (next : α → Action σ β) : Action σ β := fun s =>
  match first s with
  | (.ok value, s) => next value s
  | (.error fault, s) => (.error fault, s)

instance : Monad (Action σ) where
  pure := pure
  bind := bind

def fail (fault : Fault) : Action σ α := fun s => (.error fault, s)

def ofExcept (result : Except Fault α) : Action σ α := fun s => (result, s)

def state : Action σ σ := fun s => (.ok s, s)

def modify (change : σ → σ) : Action σ Unit := fun s => (.ok (), change s)

/-- Runs `cleanup` after `body` whether or not it failed. A fault of the cleanup replaces the
outcome of the body. -/
def ensuring (body : Action σ α) (cleanup : Action σ Unit) : Action σ α := fun s =>
  match body s with
  | (outcome, s) =>
      match cleanup s with
      | (.ok _, s) => (outcome, s)
      | (.error fault, s) => (.error fault, s)

@[simp] theorem pure_apply (value : α) (s : σ) :
    (Pure.pure value : Action σ α) s = (.ok value, s) := rfl

theorem bind_apply (first : Action σ α) (next : α → Action σ β) (s : σ) :
    (first >>= next) s =
      match first s with
      | (.ok value, s) => next value s
      | (.error fault, s) => (.error fault, s) := rfl

@[simp] theorem fail_apply (fault : Fault) (s : σ) :
    (fail fault : Action σ α) s = (.error fault, s) := rfl

@[simp] theorem ofExcept_apply (result : Except Fault α) (s : σ) :
    ofExcept result s = (result, s) := rfl

@[simp] theorem state_apply (s : σ) : state s = (.ok s, s) := rfl

@[simp] theorem modify_apply (change : σ → σ) (s : σ) : modify change s = (.ok (), change s) := rfl

theorem bind_of_ok {first : Action σ α} {s t : σ} {value : α} (h : first s = (.ok value, t))
    (next : α → Action σ β) : (first >>= next) s = next value t := by
  rw [bind_apply, h]

theorem bind_of_error {first : Action σ α} {s t : σ} {fault : Fault}
    (h : first s = (.error fault, t)) (next : α → Action σ β) :
    (first >>= next) s = (.error fault, t) := by
  rw [bind_apply, h]

theorem bind_eq_ok {first : Action σ α} {next : α → Action σ β} {s t : σ} {result : β}
    (h : (first >>= next) s = (.ok result, t)) :
    ∃ value u, first s = (.ok value, u) ∧ next value u = (.ok result, t) := by
  rw [bind_apply] at h
  split at h
  next value u produced => exact ⟨value, u, produced, h⟩
  next => simp at h

theorem returning_apply (action : Action σ α) (form : α → β) (s : σ) :
    (do return form (← action) : Action σ β) s = ((action s).1.map form, (action s).2) := by
  rw [bind_apply]
  cases action s with
  | mk result t => cases result <;> rfl

/-- Whatever comes of an action, what held before it holds after it. -/
def Keeps (holds : σ → Prop) (action : Action σ α) : Prop :=
  ∀ s, holds s → holds (action s).2

variable {holds : σ → Prop}

theorem keeps_pure (value : α) : Keeps holds (Pure.pure value) := fun _ h => h

theorem keeps_fail (fault : Fault) : Keeps holds (fail fault : Action σ α) := fun _ h => h

theorem keeps_ofExcept (result : Except Fault α) : Keeps holds (ofExcept result) := fun _ h => h

theorem keeps_state : Keeps holds (state : Action σ σ) := fun _ h => h

theorem keeps_modify {change : σ → σ} (keeps : ∀ s, holds s → holds (change s)) :
    Keeps holds (modify change) := keeps

theorem bind_keeps {first : Action σ α} {next : α → Action σ β} {s : σ}
    (between : holds (first s).2) (nextKeeps : ∀ value, Keeps holds (next value)) :
    holds ((first >>= next) s).2 := by
  rw [bind_apply]
  split
  next value t produced =>
    rw [produced] at between
    exact nextKeeps value t between
  next fault t failed =>
    rw [failed] at between
    exact between

theorem Keeps.bind {first : Action σ α} {next : α → Action σ β} (firstKeeps : Keeps holds first)
    (nextKeeps : ∀ value, Keeps holds (next value)) : Keeps holds (first >>= next) :=
  fun s h => bind_keeps (firstKeeps s h) nextKeeps

theorem Keeps.returning {action : Action σ α} (keeps : Keeps holds action) (form : α → β) :
    Keeps holds (do return form (← action)) :=
  keeps.bind fun _ => keeps_pure _

theorem Keeps.ensuring {body : Action σ α} {cleanup : Action σ Unit} (bodyKeeps : Keeps holds body)
    (cleanupKeeps : Keeps holds cleanup) : Keeps holds (body.ensuring cleanup) := by
  intro s before
  have after := cleanupKeeps (body s).2 (bodyKeeps s before)
  unfold Action.ensuring
  generalize body s = ran at after
  dsimp only
  generalize cleanup ran.2 = cleaned at after ⊢
  obtain ⟨result, t⟩ := cleaned
  cases result <;> exact after

end Action

end ForeignCall
