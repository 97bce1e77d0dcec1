import ForeignCall.Proofs.HandleMap.History
import Mathlib.Data.List.Induction

/-! Clients that share a map of handles. A handle is good for `2 ^ bits` mintings, its own and those
of the other clients together; within these each client gets what it would get on a map of its own. -/

namespace ForeignCall.HandleMap

variable {κ : Type v} {α : Type u}

/-- What a client asks for. It names each of its handles by how many it had minted before. -/
inductive Request (α : Type u) where
  | insert (object : α)
  | get (own : Nat)
  | remove (own : Nat)
  | contains (own : Nat)

/-- What a client gets, save for the handles it mints. -/
inductive Reply (α : Type u) where
  | minted
  | found (object : Option α)
  | taken (object : Option α)
  | held (held : Bool)
  deriving DecidableEq

def Request.mints : Request α → Bool
  | .insert _ => true
  | .get _ | .remove _ | .contains _ => false

def Request.uses : Request α → Option Nat
  | .insert _ => none
  | .get own | .remove own | .contains own => some own

def Request.operation (handles : List Nat) : Request α → Option (Operation α)
  | .insert object => some (.insert object)
  | .get own => handles[own]?.map fun handle => .get handle
  | .remove own => handles[own]?.map fun handle => .remove handle
  | .contains own => handles[own]?.map fun handle => .contains handle

def Deed.reply : Deed α → Reply α
  | .inserted .. => .minted
  | .got _ found => .found found
  | .removed _ found => .taken found
  | .tested _ held => .held held

structure Clients (κ : Type v) (α : Type u) where
  map : HandleMap α
  handles : κ → List Nat
  replies : κ → List (Reply α)

namespace Clients

def start (map : HandleMap α) : Clients κ α :=
  ⟨map, fun _ => [], fun _ => []⟩

variable [DecidableEq κ]

def record (clients : Clients κ α) (client : κ) (deed : Deed α) (map : HandleMap α) :
    Clients κ α where
  map
  handles := Function.update clients.handles client
    (clients.handles client ++ deed.minted?.toList)
  replies := Function.update clients.replies client (clients.replies client ++ [deed.reply])

/-- Nothing comes of an operation that fails, or of a handle the client has not minted. -/
def serve (width : Int) (clients : Clients κ α) (turn : κ × Request α) : Option (Clients κ α) :=
  match turn.2.operation (clients.handles turn.1) with
  | none => none
  | some operation =>
      match operation.perform width clients.map with
      | .error _ => none
      | .ok (deed, map) => some (clients.record turn.1 deed map)

theorem serve_of_perform {width : Int} {clients : Clients κ α} {client : κ} {request : Request α}
    {operation : Operation α} {deed : Deed α} {map : HandleMap α}
    (asked : request.operation (clients.handles client) = some operation)
    (performed : operation.perform width clients.map = .ok (deed, map)) :
    clients.serve width (client, request) = some (clients.record client deed map) := by
  simp only [serve, asked, performed]

def run (width : Int) : List (κ × Request α) → Clients κ α → Option (Clients κ α)
  | [], clients => some clients
  | turn :: rest, clients => (clients.serve width turn).bind (run width rest)

end Clients

variable [DecidableEq κ]

/-- The clients that inserted, in order. -/
def inserters (schedule : List (κ × Request α)) : List κ :=
  (schedule.filter fun turn => turn.2.mints).map Prod.fst

/-- Where the insertions of a client stand among those of all clients. -/
def births (schedule : List (κ × Request α)) (client : κ) : List Nat :=
  (inserters schedule).idxsOf client

def requestsOf (client : κ) (schedule : List (κ × Request α)) : List (Request α) :=
  (schedule.filter fun turn => turn.1 = client).map Prod.snd

/-- There have been at most `2 ^ bits` insertions since the client minted the handle, which counts as
the first of them. -/
def InWindow (bits : Nat) (past : List (κ × Request α)) (client : κ) (own : Nat) : Prop :=
  ∃ born, (births past client)[own]? = some born ∧ (inserters past).length ≤ born + 2 ^ bits

def Timely (bits : Nat) (past : List (κ × Request α)) (turn : κ × Request α) : Prop :=
  ∀ own, turn.2.uses = some own → InWindow bits past turn.1 own

/-- No handle is used after its window. -/
def Disciplined (bits : Nat) (schedule : List (κ × Request α)) : Prop :=
  ∀ past turn later, schedule = past ++ turn :: later → Timely bits past turn

instance (bits : Nat) (past : List (κ × Request α)) (client : κ) (own : Nat) :
    Decidable (InWindow bits past client own) :=
  decidable_of_iff
    ((births past client)[own]?.any (fun born => (inserters past).length ≤ born + 2 ^ bits) = true)
    (by simp [InWindow, Option.any_eq_true])

instance (bits : Nat) (past : List (κ × Request α)) (turn : κ × Request α) :
    Decidable (Timely bits past turn) :=
  decidable_of_iff (turn.2.uses.all (fun own => InWindow bits past turn.1 own) = true)
    (by simp [Timely, Option.all_eq_true])

theorem disciplined_iff {bits : Nat} {schedule : List (κ × Request α)} :
    Disciplined bits schedule ↔ ∀ (place : Nat) (inside : place < schedule.length),
      Timely bits (schedule.take place) schedule[place] := by
  constructor
  · intro disciplined place inside
    exact disciplined _ _ (schedule.drop (place + 1)) (by simp)
  · rintro timely past turn later rfl
    simpa using timely past.length (by simp)

instance (bits : Nat) (schedule : List (κ × Request α)) : Decidable (Disciplined bits schedule) :=
  decidable_of_iff _ disciplined_iff.symm

/-- The objects of one client in the order of insertion, and the replies it gets. -/
structure Ledger (α : Type u) where
  objects : List (Option α)
  replies : List (Reply α)

namespace Ledger

def empty : Ledger α := ⟨[], []⟩

def behind (ledger : Ledger α) (own : Nat) : Option α :=
  ledger.objects[own]?.join

def answer (ledger : Ledger α) : Request α → Ledger α
  | .insert object => ⟨ledger.objects ++ [some object], ledger.replies ++ [.minted]⟩
  | .get own => { ledger with replies := ledger.replies ++ [.found (ledger.behind own)] }
  | .remove own =>
      ⟨ledger.objects.set own none, ledger.replies ++ [.taken (ledger.behind own)]⟩
  | .contains own =>
      { ledger with replies := ledger.replies ++ [.held (ledger.behind own).isSome] }

def of (requests : List (Request α)) : Ledger α :=
  requests.foldl answer empty

theorem behind_insert_of_lt {ledger : Ledger α} {own : Nat} (earlier : own < ledger.objects.length)
    (object : α) : (ledger.answer (.insert object)).behind own = ledger.behind own := by
  simp [answer, behind, List.getElem?_append_left earlier]

theorem behind_insert_length (ledger : Ledger α) (object : α) :
    (ledger.answer (.insert object)).behind ledger.objects.length = some object := by
  simp [answer, behind]

theorem behind_remove (ledger : Ledger α) (own other : Nat) :
    (ledger.answer (.remove own)).behind other =
      if own = other then none else ledger.behind other := by
  by_cases same : own = other
  · subst same
    simp only [answer, behind, List.getElem?_set_self', if_true]
    cases ledger.objects[own]? <;> rfl
  · simp [answer, behind, same]

@[simp] theorem of_concat (requests : List (Request α)) (request : Request α) :
    of (requests ++ [request]) = (of requests).answer request := by
  simp [of]

end Ledger

omit [DecidableEq κ] in
theorem inserters_concat (past : List (κ × Request α)) (turn : κ × Request α) :
    inserters (past ++ [turn]) =
      inserters past ++ if turn.2.mints then [turn.1] else [] := by
  cases mints : turn.2.mints <;> simp [inserters, mints]

theorem births_concat (past : List (κ × Request α)) (turn : κ × Request α) (client : κ) :
    births (past ++ [turn]) client =
      births past client ++
        if turn.2.mints ∧ turn.1 = client then [(inserters past).length] else [] := by
  unfold births
  rw [inserters_concat, List.idxsOf_append]
  cases mints : turn.2.mints
  · simp
  · by_cases same : turn.1 = client <;> simp [same]

/-- What was born with a further turn was born before, or is what the turn inserted. -/
theorem birth_of_concat {past : List (κ × Request α)} {turn : κ × Request α} {client : κ}
    {own born : Nat} (found : (births (past ++ [turn]) client)[own]? = some born) :
    (births past client)[own]? = some born ∨
      turn.2.mints ∧ turn.1 = client ∧ own = (births past client).length ∧
        born = (inserters past).length := by
  rw [births_concat] at found
  by_cases newest : turn.2.mints ∧ turn.1 = client
  · rw [if_pos newest] at found
    rcases Nat.lt_or_ge own (births past client).length with earlier | later
    · exact .inl (by rwa [List.getElem?_append_left earlier] at found)
    · rw [List.getElem?_append_right later, List.getElem?_singleton] at found
      split at found
      · exact .inr ⟨newest.1, newest.2, by omega, (Option.some.inj found).symm⟩
      · cases found
  · rw [if_neg newest, List.append_nil] at found
    exact .inl found

theorem requestsOf_concat (client : κ) (past : List (κ × Request α)) (turn : κ × Request α) :
    requestsOf client (past ++ [turn]) =
      requestsOf client past ++ if turn.1 = client then [turn.2] else [] := by
  by_cases same : turn.1 = client <;> simp [requestsOf, same]

theorem lt_of_birth {past : List (κ × Request α)} {client : κ} {own born : Nat}
    (found : (births past client)[own]? = some born) : born < (inserters past).length := by
  simpa using List.lt_add_of_mem_idxsOf born (List.mem_of_getElem? found)

/-- No two insertions stand at one place. -/
theorem births_inj {past : List (κ × Request α)} {client other : κ} {own place born : Nat}
    (mine : (births past client)[own]? = some born)
    (theirs : (births past other)[place]? = some born) : client = other ∧ own = place := by
  have inside := lt_of_birth mine
  have first := (List.mem_idxsOf_iff_getElem_pos inside).mp (List.mem_of_getElem? mine)
  have second := (List.mem_idxsOf_iff_getElem_pos inside).mp (List.mem_of_getElem? theirs)
  obtain rfl : client = other := (eq_of_beq first).symm.trans (eq_of_beq second)
  have bound : own < (births past client).length := (List.getElem?_eq_some_iff.mp mine).1
  exact ⟨rfl, (List.getElem?_inj bound List.nodup_idxsOf).mp (mine.trans theirs.symm)⟩

theorem eq_of_mod_eq_of_close {modulus first second : Nat} (ordered : first ≤ second)
    (close : second < first + modulus) (same : first % modulus = second % modulus) :
    first = second := by
  have divides : modulus ∣ second - first :=
    Nat.dvd_of_mod_eq_zero (Nat.sub_mod_eq_zero_of_mod_eq same.symm)
  have none_between := Nat.eq_zero_of_dvd_of_lt divides (by omega)
  omega

/-- Within their windows, different insertions have different handles. -/
theorem births_inj_of_window {bits : Nat} {past : List (κ × Request α)} {client other : κ}
    {own place born later : Nat} (mine : (births past client)[own]? = some born)
    (theirs : (births past other)[place]? = some later)
    (window : (inserters past).length ≤ born + 2 ^ bits)
    (window' : (inserters past).length ≤ later + 2 ^ bits)
    (same : born % 2 ^ bits = later % 2 ^ bits) : client = other ∧ own = place := by
  have inside := lt_of_birth mine
  have inside' := lt_of_birth theirs
  have one : born = later := by
    rcases Nat.le_total born later with ordered | ordered
    · exact eq_of_mod_eq_of_close ordered (by omega) same
    · exact (eq_of_mod_eq_of_close ordered (by omega) same.symm).symm
  exact births_inj mine (one ▸ theirs)

namespace Clients

/-- What the clients have come to by a schedule: in its window every handle leads to what its client
put there, as if there were no other. -/
structure Served (bits : Nat) (past : List (κ × Request α)) (clients : Clients κ α) : Prop where
  bits_eq : clients.map.bits = bits
  counter : clients.map.counter = ((inserters past).length % 2 ^ bits : Nat)
  handles : ∀ client, clients.handles client = (births past client).map (· % 2 ^ bits)
  objects : ∀ client,
    (Ledger.of (requestsOf client past)).objects.length = (births past client).length
  behind : ∀ client own born, (births past client)[own]? = some born →
    (inserters past).length ≤ born + 2 ^ bits →
    clients.map.get? (born % 2 ^ bits : Nat) = (Ledger.of (requestsOf client past)).behind own
  replies : ∀ client, clients.replies client = (Ledger.of (requestsOf client past)).replies

theorem Served.start (map : HandleMap α) (fresh : map = HandleMap.empty map.bits) :
    Served map.bits ([] : List (κ × Request α)) (start map) where
  bits_eq := rfl
  counter := by rw [Clients.start, fresh]; rfl
  handles _ := rfl
  objects _ := rfl
  behind _ _ _ found := by cases found
  replies _ := rfl

section Steps

variable {bits : Nat} {past : List (κ × Request α)} {clients : Clients κ α} {client : κ}

/-- A turn adds one reply to those of its client, and a handle if it mints one. -/
theorem Served.record (served : Served bits past clients) {request : Request α} {deed : Deed α}
    {map : HandleMap α} (bits_eq : map.bits = bits)
    (counter : map.counter = ((inserters (past ++ [(client, request)])).length % 2 ^ bits : Nat))
    (minted : deed.minted?.toList =
      if request.mints then [(inserters past).length % 2 ^ bits] else [])
    (reply : ((Ledger.of (requestsOf client past)).answer request).replies =
      (Ledger.of (requestsOf client past)).replies ++ [deed.reply])
    (behind : ∀ other own born, (births (past ++ [(client, request)]) other)[own]? = some born →
      (inserters (past ++ [(client, request)])).length ≤ born + 2 ^ bits →
      map.get? (born % 2 ^ bits : Nat) =
        (Ledger.of (requestsOf other (past ++ [(client, request)]))).behind own) :
    Served bits (past ++ [(client, request)]) (clients.record client deed map) where
  bits_eq := bits_eq
  counter := counter
  handles other := by
    rw [births_concat, List.map_append, ← served.handles]
    by_cases same : client = other
    · subst same
      cases mints : request.mints <;> simp [Clients.record, minted, mints]
    · simp [Clients.record, same, Ne.symm same]
  objects other := by
    have objects := served.objects other
    rw [births_concat, requestsOf_concat]
    by_cases same : client = other
    · cases request <;> simp [same, Ledger.answer, Request.mints, objects]
    · simpa [same] using objects
  behind := behind
  replies other := by
    rw [requestsOf_concat, Clients.record]
    by_cases same : client = other
    · subst same
      simp [reply, served.replies]
    · simp [same, Ne.symm same, served.replies]

theorem Served.handle (served : Served bits past clients) {own born : Nat}
    (found : (births past client)[own]? = some born) :
    (clients.handles client)[own]? = some (born % 2 ^ bits) := by
  rw [served.handles, List.getElem?_map, found]
  rfl

theorem Served.insert (served : Served bits past clients) {width : Int}
    (fits : clients.map.Fits width) (object : α) :
    ∃ next, clients.serve width (client, .insert object) = some next ∧
      Served bits (past ++ [(client, .insert object)]) next := by
  obtain ⟨minted, inserted, handle, kept, counter, behind⟩ :=
    exists_insert_of_fits fits (by rw [served.counter, served.bits_eq]) object
  rw [served.bits_eq] at handle kept counter behind
  refine ⟨clients.record client (.inserted object minted.handle minted.notices) minted.map,
    serve_of_perform rfl (by rw [Operation.perform, inserted]), served.record kept ?_ ?_ rfl ?_⟩
  · simp [inserters_concat, Request.mints, counter]
  · simp [Request.mints, Deed.minted?, handle]
  · intro other own born found window
    simp only [inserters_concat, Request.mints, if_true, List.length_append,
      List.length_singleton] at window
    rw [behind, requestsOf_concat]
    rcases birth_of_concat found with found | ⟨-, rfl, rfl, rfl⟩
    · have inside := lt_of_birth found
      have apart : ¬ ((born % 2 ^ bits : Nat) : Int) = ((inserters past).length % 2 ^ bits : Nat) := by
        intro same
        have := eq_of_mod_eq_of_close (Nat.le_of_lt inside) (by omega) (Int.ofNat_inj.mp same)
        omega
      rw [if_neg apart, served.behind other own born found (by omega)]
      by_cases same : client = other
      · have earlier := (List.getElem?_eq_some_iff.mp found).1
        rw [← served.objects] at earlier
        rw [if_pos same, Ledger.of_concat, Ledger.behind_insert_of_lt earlier]
      · rw [if_neg same, List.append_nil]
    · rw [if_pos rfl, if_pos rfl, Ledger.of_concat, ← served.objects, Ledger.behind_insert_length]

/-- A turn that only asks. -/
theorem Served.ask (served : Served bits past clients) {request : Request α} {deed : Deed α}
    (mints : request.mints = false) (minted : deed.minted? = none)
    (keeps : ((Ledger.of (requestsOf client past)).answer request).objects =
      (Ledger.of (requestsOf client past)).objects)
    (reply : ((Ledger.of (requestsOf client past)).answer request).replies =
      (Ledger.of (requestsOf client past)).replies ++ [deed.reply]) :
    Served bits (past ++ [(client, request)]) (clients.record client deed clients.map) := by
  have alike : inserters (past ++ [(client, request)]) = inserters past := by
    simp [inserters_concat, mints]
  refine served.record served.bits_eq (by rw [alike, served.counter]) (by simp [minted, mints]) reply ?_
  intro other own born found window
  rw [alike] at window
  rcases birth_of_concat found with found | ⟨minting, -⟩
  · rw [served.behind other own born found window, requestsOf_concat]
    by_cases same : client = other
    · subst same
      rw [if_pos rfl, Ledger.of_concat, Ledger.behind, Ledger.behind, keeps]
    · rw [if_neg same, List.append_nil]
  · simp [mints] at minting

theorem Served.remove (served : Served bits past clients) {own born : Nat}
    (mine : (births past client)[own]? = some born)
    (inTime : (inserters past).length ≤ born + 2 ^ bits) :
    Served bits (past ++ [(client, .remove own)])
      (clients.record client
        (.removed (born % 2 ^ bits : Nat) (clients.map.get? (born % 2 ^ bits : Nat)))
        (clients.map.remove (born % 2 ^ bits : Nat)).2) := by
  have alike : inserters (past ++ [(client, .remove own)]) = inserters past := by
    simp [inserters_concat, Request.mints]
  refine served.record (by rw [remove_bits, served.bits_eq])
    (by rw [alike, remove_counter, served.counter]) rfl ?_ ?_
  · rw [served.behind client own born mine inTime]
    rfl
  · intro other place later found window
    rw [alike] at window
    rcases birth_of_concat found with found | ⟨minting, -⟩
    · rw [get?_remove, requestsOf_concat]
      by_cases same : client = other ∧ own = place
      · obtain ⟨rfl, rfl⟩ := same
        obtain rfl : born = later := Option.some.inj (mine.symm.trans found)
        rw [if_pos rfl, if_pos rfl, Ledger.of_concat, Ledger.behind_remove, if_pos rfl]
      · have apart : ¬ ((later % 2 ^ bits : Nat) : Int) = (born % 2 ^ bits : Nat) := fun equal =>
          same (births_inj_of_window mine found inTime window (Int.ofNat_inj.mp equal).symm)
        rw [if_neg apart, served.behind other place later found window]
        by_cases mineToo : client = other
        · have other_place : own ≠ place := fun equal => same ⟨mineToo, equal⟩
          rw [if_pos mineToo, Ledger.of_concat, Ledger.behind_remove, if_neg other_place]
        · rw [if_neg mineToo, List.append_nil]
    · simp [Request.mints] at minting

/-- A turn in time is served as the client's ledger says. -/
theorem Served.step (served : Served bits past clients) {width : Int}
    (fits : clients.map.Fits width) (turn : κ × Request α) (timely : Timely bits past turn) :
    ∃ next, clients.serve width turn = some next ∧ Served bits (past ++ [turn]) next := by
  obtain ⟨client, request⟩ := turn
  cases request with
  | insert object => exact served.insert fits object
  | get own =>
      obtain ⟨born, found, window⟩ := timely own rfl
      have asked : (.get own : Request α).operation (clients.handles client) =
          some (.get (born % 2 ^ bits : Nat)) := by
        rw [Request.operation, served.handle found]
        rfl
      refine ⟨_, serve_of_perform asked rfl, served.ask rfl rfl rfl ?_⟩
      rw [served.behind client own born found window]
      rfl
  | remove own =>
      obtain ⟨born, found, window⟩ := timely own rfl
      have asked : (.remove own : Request α).operation (clients.handles client) =
          some (.remove (born % 2 ^ bits : Nat)) := by
        rw [Request.operation, served.handle found]
        rfl
      exact ⟨_, serve_of_perform asked rfl, served.remove found window⟩
  | contains own =>
      obtain ⟨born, found, window⟩ := timely own rfl
      have asked : (.contains own : Request α).operation (clients.handles client) =
          some (.contains (born % 2 ^ bits : Nat)) := by
        rw [Request.operation, served.handle found]
        rfl
      refine ⟨_, serve_of_perform asked rfl, served.ask rfl rfl rfl ?_⟩
      rw [contains, served.behind client own born found window]
      rfl

end Steps

theorem Served.run {bits : Nat} {past : List (κ × Request α)} {clients : Clients κ α}
    (served : Served bits past clients) {width : Int} (fits : clients.map.Fits width)
    {rest : List (κ × Request α)} (disciplined : Disciplined bits (past ++ rest)) :
    ∃ final, run width rest clients = some final ∧ Served bits (past ++ rest) final := by
  induction rest generalizing past clients with
  | nil => exact ⟨clients, rfl, by rwa [List.append_nil]⟩
  | cons turn rest ih =>
      obtain ⟨next, done, servedNext⟩ := served.step fits turn (disciplined past turn rest rfl)
      have fitsNext : next.map.Fits width := by
        rwa [HandleMap.Fits, servedNext.bits_eq, ← served.bits_eq]
      have regrouped : past ++ turn :: rest = past ++ [turn] ++ rest := by simp
      rw [regrouped] at disciplined ⊢
      obtain ⟨final, ran, servedFinal⟩ := ih servedNext fitsNext disciplined
      exact ⟨final, by rw [Clients.run, done, Option.bind_some, ran], servedFinal⟩

end Clients

section Alone

variable {client : κ}

theorem requestsOf_alone (client : κ) (schedule : List (κ × Request α)) :
    requestsOf client (schedule.filter fun turn => turn.1 = client) = requestsOf client schedule := by
  simp [requestsOf]

/-- By itself a client mints as often, and nobody else does. -/
theorem births_alone (client : κ) (past : List (κ × Request α)) :
    births (past.filter fun turn => turn.1 = client) client =
        List.range (births past client).length ∧
      (inserters (past.filter fun turn => turn.1 = client)).length =
        (births past client).length := by
  induction past using List.reverseRecOn with
  | nil => exact ⟨rfl, rfl⟩
  | append_singleton past turn ih =>
      obtain ⟨births_eq, inserters_eq⟩ := ih
      rw [List.filter_append, births_concat]
      by_cases same : turn.1 = client
      · rw [List.filter_singleton, same]
        simp only [decide_true, cond_true]
        rw [births_concat, inserters_concat, births_eq, inserters_eq]
        cases turn.2.mints <;> simp [same, inserters_eq, List.range_succ]
      · simp [same, births_eq, inserters_eq]

/-- After an insertion of a client, all clients together insert at least as often as it does. -/
theorem births_spacing {past : List (κ × Request α)} {own born : Nat}
    (found : (births past client)[own]? = some born) :
    (births past client).length + born ≤ own + (inserters past).length := by
  induction past using List.reverseRecOn with
  | nil => cases found
  | append_singleton past turn ih =>
      rw [births_concat, inserters_concat]
      rcases birth_of_concat found with found | ⟨mints, same, rfl, rfl⟩
      · have earlier := ih found
        by_cases newest : turn.2.mints ∧ turn.1 = client
        · simp [newest]
          omega
        · simp [newest]
          omega
      · simp [mints, same]
        omega

theorem Disciplined.alone {bits : Nat} {schedule : List (κ × Request α)}
    (disciplined : Disciplined bits schedule) (client : κ) :
    Disciplined bits (schedule.filter fun turn => turn.1 = client) := by
  intro own_past turn own_later split own uses
  obtain ⟨before, rest, rfl, rfl, tail⟩ := List.filter_eq_append_iff.mp split
  obtain ⟨others, later, rfl, foreign, mine, -⟩ := List.filter_eq_cons_iff.mp tail
  obtain rfl : turn.1 = client := by simpa using mine
  obtain ⟨born, found, window⟩ := disciplined (before ++ others) turn later (by simp) own uses
  have past_alone : before.filter (fun earlier => earlier.1 = turn.1) =
      (before ++ others).filter fun earlier => earlier.1 = turn.1 := by
    have none_own : others.filter (fun earlier => earlier.1 = turn.1) = [] := by
      simpa [List.filter_eq_nil_iff] using foreign
    rw [List.filter_append, none_own, List.append_nil]
  obtain ⟨births_eq, inserters_eq⟩ := births_alone turn.1 (before ++ others)
  have minted := (List.getElem?_eq_some_iff.mp found).1
  have spacing := births_spacing found
  rw [past_alone]
  refine ⟨own, ?_, ?_⟩
  · rw [births_eq, List.getElem?_range minted]
  · rw [inserters_eq]
    omega

end Alone

/-- Clients that keep to the windows of their handles get what each would get alone, and no two of
them hold one handle within its windows. -/
theorem clients_apart {width : Int} {bits : Option Int} {map : HandleMap α}
    (accepted : ofBits width bits = .ok map) {schedule : List (κ × Request α)}
    (disciplined : Disciplined map.bits schedule) :
    ∃ shared, (Clients.start map).run width schedule = some shared ∧
      (∀ client, ∃ alone : Clients κ α,
        (Clients.start map).run width (schedule.filter fun turn => turn.1 = client) = some alone ∧
          alone.replies client = shared.replies client) ∧
      ∀ client own other place handle,
        InWindow map.bits schedule client own → InWindow map.bits schedule other place →
        (shared.handles client)[own]? = some handle → (shared.handles other)[place]? = some handle →
        client = other ∧ own = place := by
  obtain ⟨fresh, -, fits⟩ := ofBits_eq_ok accepted
  have start : Clients.Served map.bits ([] : List (κ × Request α)) (.start map) := .start map fresh
  obtain ⟨shared, ran, served⟩ := start.run fits disciplined
  refine ⟨shared, ran, fun client => ?_, ?_⟩
  · obtain ⟨alone, ranAlone, servedAlone⟩ := start.run fits (disciplined.alone client)
    refine ⟨alone, ranAlone, ?_⟩
    rw [served.replies, servedAlone.replies, List.nil_append, List.nil_append, requestsOf_alone]
  · rintro client own other place handle ⟨born, found, window⟩ ⟨later, found', window'⟩ mine theirs
    have same := (served.handle found).symm.trans mine
    have same' := (served.handle found').symm.trans theirs
    exact births_inj_of_window found found' window window'
      ((Option.some.inj same).trans (Option.some.inj same').symm)

/-- One minting too many: the first handle now leads its client to the object of the other. -/
example :
    ((Clients.start (empty 1)).run 8
      [(false, .insert "a"), (true, .insert "b"), (true, .insert "c"), (false, .get 0)]).map
        (fun clients => clients.replies false) = some [.minted, .found (some "c")] := rfl

/-- Two clients that mint five handles on a map of two. -/
def fiveOfTwo : List (Bool × Request String) :=
  [(false, .insert "a"), (true, .insert "b"), (false, .get 0), (true, .remove 0),
    (false, .insert "c"), (false, .remove 1), (false, .remove 1), (true, .insert "d"),
    (false, .insert "e"), (true, .contains 1), (false, .get 2)]

theorem clients_apart_fiveOfTwo :
    ofBits 8 (some 1) = .ok (empty 1 : HandleMap String) ∧ Disciplined 1 fiveOfTwo ∧
      ∃ shared, (Clients.start (empty 1)).run 8 fiveOfTwo = some shared ∧
        (∀ client, ∃ alone : Clients Bool String,
          (Clients.start (empty 1)).run 8 (fiveOfTwo.filter fun turn => turn.1 = client) =
              some alone ∧
            alone.replies client = shared.replies client) ∧
        ∀ client own other place handle,
          InWindow 1 fiveOfTwo client own → InWindow 1 fiveOfTwo other place →
          (shared.handles client)[own]? = some handle →
          (shared.handles other)[place]? = some handle → client = other ∧ own = place :=
  ⟨rfl, by decide,
    @clients_apart Bool String _ 8 (some 1) (empty 1) rfl fiveOfTwo (by decide)⟩

end ForeignCall.HandleMap
