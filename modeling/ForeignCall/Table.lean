/-! Finite tables as lists of bindings, oldest key first. A key has at most one binding in a table
built by `set` and `erase`; setting a bound key keeps its place. -/

namespace ForeignCall.Table

variable {κ : Type u} {α : Type v} [DecidableEq κ]

def get? (key : κ) : List (κ × α) → Option α
  | [] => none
  | (k, value) :: rest => if k = key then some value else get? key rest

def set (key : κ) (value : α) : List (κ × α) → List (κ × α)
  | [] => [(key, value)]
  | (k, old) :: rest => if k = key then (key, value) :: rest else (k, old) :: set key value rest

def erase (key : κ) : List (κ × α) → List (κ × α)
  | [] => []
  | (k, value) :: rest => if k = key then erase key rest else (k, value) :: erase key rest

def keys (table : List (κ × α)) : List κ :=
  table.map Prod.fst

def contains (key : κ) (table : List (κ × α)) : Bool :=
  (get? key table).isSome

@[simp] theorem get?_nil (key : κ) : get? key ([] : List (κ × α)) = none := rfl

@[simp] theorem get?_set_self (key : κ) (value : α) (table : List (κ × α)) :
    get? key (set key value table) = some value := by
  induction table with
  | nil => simp [set, get?]
  | cons binding rest ih =>
      by_cases h : binding.1 = key
      · simp [set, get?, h]
      · simp [set, get?, h, ih]

theorem get?_set_of_ne {key other : κ} (h : other ≠ key) (value : α) (table : List (κ × α)) :
    get? other (set key value table) = get? other table := by
  induction table with
  | nil => simp [set, get?, Ne.symm h]
  | cons binding rest ih =>
      by_cases hk : binding.1 = key
      · simp [set, get?, hk, Ne.symm h]
      · by_cases ho : binding.1 = other
        · simp [set, get?, ho, h]
        · simp [set, get?, hk, ho, ih]

@[simp] theorem get?_erase_self (key : κ) (table : List (κ × α)) :
    get? key (erase key table) = none := by
  induction table with
  | nil => rfl
  | cons binding rest ih =>
      by_cases h : binding.1 = key
      · simp [erase, h, ih]
      · simp [erase, get?, h, ih]

theorem get?_erase_of_ne {key other : κ} (h : other ≠ key) (table : List (κ × α)) :
    get? other (erase key table) = get? other table := by
  induction table with
  | nil => rfl
  | cons binding rest ih =>
      by_cases hk : binding.1 = key
      · simp [erase, get?, hk, Ne.symm h, ih]
      · by_cases ho : binding.1 = other
        · simp [erase, get?, ho, h]
        · simp [erase, get?, hk, ho, ih]

omit [DecidableEq κ] in
@[simp] theorem keys_nil : keys ([] : List (κ × α)) = [] := rfl

omit [DecidableEq κ] in
@[simp] theorem keys_cons (binding : κ × α) (rest : List (κ × α)) :
    keys (binding :: rest) = binding.1 :: keys rest := rfl

theorem contains_iff {key : κ} {table : List (κ × α)} :
    contains key table = true ↔ key ∈ keys table := by
  unfold contains
  induction table with
  | nil => simp
  | cons binding rest ih =>
      by_cases h : binding.1 = key
      · simp [get?, h]
      · simp [get?, h, ih, Ne.symm h]

theorem mem_of_get? {key : κ} {value : α} {table : List (κ × α)}
    (found : get? key table = some value) : (key, value) ∈ table := by
  induction table with
  | nil => cases found
  | cons binding rest ih =>
      by_cases h : binding.1 = key
      · rw [get?, if_pos h] at found
        cases found
        exact h ▸ List.mem_cons_self ..
      · rw [get?, if_neg h] at found
        exact List.mem_cons_of_mem _ (ih found)

theorem get?_map {β : Type w} (change : α → β) (key : κ) (table : List (κ × α)) :
    get? key (table.map fun binding => (binding.1, change binding.2)) =
      (get? key table).map change := by
  induction table with
  | nil => rfl
  | cons binding rest ih =>
      by_cases h : binding.1 = key
      · simp [get?, h]
      · simp [get?, h, ih]

theorem keys_set (key : κ) (value : α) (table : List (κ × α)) :
    keys (set key value table) =
      if key ∈ keys table then keys table else keys table ++ [key] := by
  induction table with
  | nil => rfl
  | cons binding rest ih =>
      by_cases h : binding.1 = key
      · simp [set, h]
      · by_cases found : key ∈ keys rest <;> simp [set, h, ih, found, Ne.symm h]

theorem keys_erase (key : κ) (table : List (κ × α)) :
    keys (erase key table) = (keys table).filter (· ≠ key) := by
  induction table with
  | nil => rfl
  | cons binding rest ih => by_cases h : binding.1 = key <;> simp [erase, h, ih]

theorem erase_of_not_mem {key : κ} {table : List (κ × α)} (absent : key ∉ keys table) :
    erase key table = table := by
  induction table with
  | nil => rfl
  | cons binding rest ih =>
      simp only [keys_cons, List.mem_cons, not_or] at absent
      simp [erase, Ne.symm absent.1, ih absent.2]

theorem length_set (key : κ) (value : α) (table : List (κ × α)) :
    (set key value table).length =
      if key ∈ keys table then table.length else table.length + 1 := by
  induction table with
  | nil => rfl
  | cons binding rest ih =>
      by_cases h : binding.1 = key
      · simp [set, h]
      · by_cases found : key ∈ keys rest <;> simp [set, h, ih, found, Ne.symm h]

theorem length_erase_of_mem {key : κ} {table : List (κ × α)} (distinct : (keys table).Nodup)
    (member : key ∈ keys table) : (erase key table).length + 1 = table.length := by
  induction table with
  | nil => cases member
  | cons binding rest ih =>
      obtain ⟨fresh, distinct⟩ := List.nodup_cons.mp distinct
      by_cases h : binding.1 = key
      · rw [erase, if_pos h, erase_of_not_mem (h ▸ fresh), List.length_cons]
      · have later : key ∈ keys rest := (List.mem_cons.mp member).resolve_left (Ne.symm h)
        rw [erase, if_neg h, List.length_cons, List.length_cons, ih distinct later]

end ForeignCall.Table
