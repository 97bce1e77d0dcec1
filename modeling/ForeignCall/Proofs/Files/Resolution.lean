import ForeignCall.Proofs.Files.Walk
import ForeignCall.RealPath

/-! Replacing the links of a path. What comes of it depends on the links alone: once there is enough
fuel for every link, more makes no difference, and neither do other files and directories. -/

namespace ForeignCall.FileTree

variable {link? : List String → Option String} {tree more : FileTree}

/-- So many further links may be replaced that every link is among them or among the active ones. -/
def Enough (link? : List String → Option String) (fuel : Nat) (active : List (List String)) : Prop :=
  ∃ places : List (List String), places.length ≤ fuel ∧
    ∀ place target, link? place = some target → place ∈ active ∨ place ∈ places

theorem Enough.all_active {active : List (List String)} (enough : Enough link? 0 active)
    {place : List String} {target : String} (link : link? place = some target) :
    place ∈ active := by
  obtain ⟨places, length, covered⟩ := enough
  obtain rfl := List.length_eq_zero_iff.mp (Nat.le_zero.mp length)
  simpa using covered place target link

theorem Enough.activate {fuel : Nat} {active : List (List String)} {place : List String}
    {target : String} (enough : Enough link? (fuel + 1) active) (link : link? place = some target)
    (inactive : place ∉ active) : Enough link? fuel (place :: active) := by
  obtain ⟨places, length, covered⟩ := enough
  have member : place ∈ places := (covered place target link).resolve_left inactive
  refine ⟨places.erase place, ?_, fun other target link => ?_⟩
  · rw [List.length_erase_of_mem member]
    omega
  · by_cases same : other = place
    · exact .inl (same ▸ List.mem_cons_self ..)
    · exact (covered other target link).imp (List.mem_cons_of_mem _)
        (List.mem_erase_of_ne same).mpr

theorem resolveWith_congr {follow other : List String → List String → String → Resolved}
    (alike : ∀ place link target, link? link = some target →
      follow place link target = other place link target)
    (place names : List String) :
    resolveWith follow link? place names = resolveWith other link? place names := by
  induction names generalizing place with
  | nil => rfl
  | cons name rest ih =>
      simp only [resolveWith, ih]
      cases link : link? (place ++ [name]) with
      | none => rfl
      | some target => simp only [alike _ _ _ link]

/-- Fuel beyond what is enough makes no difference. -/
theorem resolve_of_le {fuel further : Nat} {active : List (List String)}
    (enough : Enough link? fuel active) (le : fuel ≤ further) (place names : List String) :
    resolve link? fuel active place names = resolve link? further active place names := by
  induction fuel generalizing further active place names with
  | zero =>
      cases further with
      | zero => rfl
      | succ further =>
          refine resolveWith_congr (fun _ link target found => ?_) place names
          rw [if_pos (enough.all_active found)]
  | succ fuel ih =>
      obtain ⟨further, rfl⟩ : ∃ rest, further = rest + 1 := ⟨further - 1, by omega⟩
      refine resolveWith_congr (fun _ link target found => ?_) place names
      by_cases known : link ∈ active
      · rw [if_pos known, if_pos known]
      · rw [if_neg known, if_neg known]
        -- The link becomes active, so that one fewer is left to cover.
        exact ih (enough.activate found known) (Nat.le_of_succ_le_succ le) _ _

theorem resolve_of_enough {fuel other : Nat} {active : List (List String)}
    (enough : Enough link? fuel active) (enough' : Enough link? other active)
    (place names : List String) :
    resolve link? fuel active place names = resolve link? other active place names := by
  rcases Nat.le_total fuel other with le | le
  · exact resolve_of_le enough le place names
  · exact (resolve_of_le enough' le place names).symm

theorem link?_eq_some {place : List String} {target : String} :
    tree.link? place = some target ↔ tree.node? place = some (.link target) := by
  unfold link?
  split
  next other there => simp [there]
  next apart => simpa using apart target

theorem mem_entries_of_link? {place : List String} {target : String}
    (link : tree.link? place = some target) : (place, Node.link target) ∈ tree.entries := by
  have there := link?_eq_some.mp link
  unfold node? at there
  split at there
  · cases there
  · exact Table.mem_of_get? there

theorem enough_entries (tree : FileTree) : Enough tree.link? tree.entries.length [] :=
  ⟨tree.entries.map Prod.fst, by simp, fun place target link =>
    .inr (List.mem_map.mpr ⟨_, mem_entries_of_link? link, rfl⟩)⟩

/-- Trees with the same links replace them alike. -/
theorem realPath_of_links (home : more.home = tree.home) (links : more.link? = tree.link?)
    (path : Path) : more.realPath path = tree.realPath path := by
  have start : more.start path.anchor = tree.start path.anchor := by simp [start, home]
  have enough : Enough tree.link? more.entries.length [] := links ▸ more.enough_entries
  simp only [realPath, links, start, resolve_of_enough enough tree.enough_entries]

/-- No link is new. -/
def KeepsLinks (tree more : FileTree) : Prop :=
  ∀ {place : List String} {target : String},
    more.node? place = some (.link target) → tree.node? place = some (.link target)

theorem Extends.realPath (wider : tree.Extends more) (links : tree.KeepsLinks more) (path : Path) :
    more.realPath path = tree.realPath path := by
  refine realPath_of_links wider.home (funext fun place => Option.ext fun target => ?_) path
  rw [link?_eq_some, link?_eq_some]
  exact ⟨links, wider.kept⟩

theorem AddsFiles.keepsLinks (files : tree.AddsFiles more) : tree.KeepsLinks more := by
  intro place target there
  obtain old | new := files there
  · exact old
  · cases new

end ForeignCall.FileTree
