import ForeignCall.FileTree
import Mathlib.Logic.Relation

/-! How a path is followed: name by name and link by link, until the walk stops. Every walk stops, and
where it stops is what the tree finds. In a tree that has more, no walk that arrives goes elsewhere. -/

namespace ForeignCall.FileTree

/-- A walk on its way: how many links it may still follow, the directory it is in, and the names
ahead of it. -/
structure Walk where
  links : Nat
  place : List String
  names : List String

/-- A name that a directory is searched for. -/
structure Sought (name : String) : Prop where
  named : Path.isNamed name = true
  short : name.utf8ByteSize ≤ maxName
  apart : name ≠ ".."

inductive Step (tree : FileTree) : Walk → Walk → Prop
  | stay {links : Nat} {place rest : List String} {name : String}
      (blank : Path.isNamed name = false) :
      Step tree ⟨links, place, name :: rest⟩ ⟨links, place, rest⟩
  | up {links : Nat} {place rest : List String} :
      Step tree ⟨links, place, ".." :: rest⟩ ⟨links, place.dropLast, rest⟩
  | enter {links : Nat} {place rest : List String} {name : String} (sought : Sought name)
      (there : tree.node? (place ++ [name]) = some .directory) :
      Step tree ⟨links, place, name :: rest⟩ ⟨links, place ++ [name], rest⟩
  | follow {links : Nat} {place rest : List String} {name target : String} (sought : Sought name)
      (there : tree.node? (place ++ [name]) = some (.link target)) :
      Step tree ⟨links + 1, place, name :: rest⟩
        ⟨links, linkStart place target, FileTree.names target ++ rest⟩

/-- A walk can go no further, and this is what it has found. -/
inductive Stop (tree : FileTree) : Walk → Found → Prop
  | directory {links : Nat} {place : List String} :
      Stop tree ⟨links, place, []⟩ (.directory place)
  | file {links : Nat} {place : List String} {name : String} (sought : Sought name)
      (there : tree.node? (place ++ [name]) = some .file) :
      Stop tree ⟨links, place, [name]⟩ (.file (place ++ [name]))
  /-- The path goes on behind a file. -/
  | throughFile {links : Nat} {place rest : List String} {name next : String}
      (sought : Sought name) (there : tree.node? (place ++ [name]) = some .file) :
      Stop tree ⟨links, place, name :: next :: rest⟩ .absent
  | missing {links : Nat} {place rest : List String} {name : String} (sought : Sought name)
      (lacking : tree.node? (place ++ [name]) = none) :
      Stop tree ⟨links, place, name :: rest⟩ .absent
  | tooManyLinks {place rest : List String} {name target : String} (sought : Sought name)
      (there : tree.node? (place ++ [name]) = some (.link target)) :
      Stop tree ⟨0, place, name :: rest⟩ .looping
  | longName {links : Nat} {place rest : List String} {name : String}
      (long : maxName < name.utf8ByteSize) :
      Stop tree ⟨links, place, name :: rest⟩ .nameTooLong

def Steps (tree : FileTree) : Walk → Walk → Prop :=
  Relation.ReflTransGen tree.Step

variable {tree more : FileTree} {walk next last : Walk} {found : Found}

theorem named_of_long {name : String} (long : maxName < name.utf8ByteSize) :
    Path.isNamed name = true ∧ name ≠ ".." := by
  have apart : ∀ short : String, short.utf8ByteSize ≤ maxName → name ≠ short := by
    rintro short le rfl
    exact absurd long (Nat.not_lt.mpr le)
  refine ⟨?_, apart ".." (by decide)⟩
  simp [Path.isNamed, apart "" (by decide), apart "." (by decide)]

/-- What a walk does behind a link. -/
def onward (tree : FileTree) : Nat → List String → List String → Found
  | 0 => fun _ _ => .looping
  | links + 1 => tree.walk links

theorem walk_eq (tree : FileTree) (links : Nat) (place names : List String) :
    tree.walk links place names = walkWith (tree.onward links) tree (.directory place) names := by
  cases links <;> rfl

theorem walkWith_of_sought {follow : List String → List String → Found} {place rest : List String}
    {name : String} (sought : Sought name) :
    walkWith follow tree (.directory place) (name :: rest) =
      match tree.node? (place ++ [name]) with
      | none => .absent
      | some .directory => walkWith follow tree (.directory (place ++ [name])) rest
      | some .file => walkWith follow tree (.file (place ++ [name])) rest
      | some (.link target) => follow (linkStart place target) (FileTree.names target ++ rest) := by
  cases there : tree.node? (place ++ [name]) with
  | none => simp [walkWith, sought.named, Nat.not_lt.mpr sought.short, sought.apart, there]
  | some node =>
      cases node <;>
        simp [walkWith, sought.named, Nat.not_lt.mpr sought.short, sought.apart, there]

theorem walk_of_step (step : tree.Step walk next) :
    tree.walk walk.links walk.place walk.names = tree.walk next.links next.place next.names := by
  cases step with
  | stay blank => simp only [walk_eq, walkWith, blank, Bool.not_false, if_true]
  | up =>
      have short : ¬maxName < "..".utf8ByteSize := by decide
      simp [walk_eq, walkWith, Path.isNamed, short]
  | enter sought there => rw [walk_eq, walkWith_of_sought sought, there, walk_eq]
  | follow sought there =>
      rw [walk_eq, walkWith_of_sought sought, there]
      rfl

theorem walk_of_stop (stop : tree.Stop walk found) :
    tree.walk walk.links walk.place walk.names = found := by
  rw [walk_eq]
  cases stop with
  | directory => rfl
  | file sought there => rw [walkWith_of_sought sought, there]; rfl
  | throughFile sought there => rw [walkWith_of_sought sought, there]; rfl
  | missing sought lacking => rw [walkWith_of_sought sought, lacking]
  | tooManyLinks sought there => rw [walkWith_of_sought sought, there]; rfl
  | longName long =>
      rw [walkWith]
      simp only [(named_of_long long).1, long, Bool.not_true, Bool.false_eq_true, if_false, if_true]

theorem step_or_stop (tree : FileTree) (walk : Walk) :
    (∃ next, tree.Step walk next) ∨ ∃ found, tree.Stop walk found := by
  obtain ⟨links, place, names⟩ := walk
  cases names with
  | nil => exact .inr ⟨_, .directory⟩
  | cons name rest =>
      by_cases blank : Path.isNamed name = false
      · exact .inl ⟨_, .stay blank⟩
      by_cases long : maxName < name.utf8ByteSize
      · exact .inr ⟨_, .longName long⟩
      by_cases up : name = ".."
      · subst up
        exact .inl ⟨_, .up⟩
      have sought : Sought name := ⟨by simpa using blank, Nat.not_lt.mp long, up⟩
      match there : tree.node? (place ++ [name]) with
      | none => exact .inr ⟨_, .missing sought there⟩
      | some .directory => exact .inl ⟨_, .enter sought there⟩
      | some .file =>
          cases rest with
          | nil => exact .inr ⟨_, .file sought there⟩
          | cons next rest => exact .inr ⟨_, .throughFile sought there⟩
      | some (.link target) =>
          cases links with
          | zero => exact .inr ⟨_, .tooManyLinks sought there⟩
          | succ links => exact .inl ⟨_, .follow sought there⟩

/-- A step uses up a link, or else a name. -/
theorem Step.decreases (step : tree.Step walk next) :
    Prod.Lex (· < ·) (· < ·) (next.links, next.names.length) (walk.links, walk.names.length) := by
  cases step with
  | follow => exact .left _ _ (Nat.lt_succ_self _)
  | _ => exact .right _ (Nat.lt_succ_self _)

theorem exists_stop (tree : FileTree) (walk : Walk) :
    ∃ last found, tree.Steps walk last ∧ tree.Stop last found := by
  rcases tree.step_or_stop walk with ⟨next, step⟩ | ⟨found, stop⟩
  · obtain ⟨last, found, steps, stop⟩ := tree.exists_stop next
    exact ⟨last, found, .head step steps, stop⟩
  · exact ⟨walk, found, .refl, stop⟩
termination_by (walk.links, walk.names.length)
decreasing_by exact step.decreases

theorem walk_of_steps (steps : tree.Steps walk last) :
    tree.walk walk.links walk.place walk.names = tree.walk last.links last.place last.names := by
  induction steps with
  | refl => rfl
  | tail _ step ih => exact ih.trans (walk_of_step step)

/-- A walk finds what it has found when it stops. -/
theorem walk_eq_iff :
    tree.walk walk.links walk.place walk.names = found ↔
      ∃ last, tree.Steps walk last ∧ tree.Stop last found := by
  constructor
  · rintro rfl
    obtain ⟨last, found, steps, stop⟩ := tree.exists_stop walk
    rw [walk_of_steps steps, walk_of_stop stop]
    exact ⟨last, steps, stop⟩
  · rintro ⟨last, steps, stop⟩
    rw [walk_of_steps steps, walk_of_stop stop]

/-! ### Looking a path up -/

variable {path : Path}

/-- The walk that a path is followed by. -/
def walkOf (tree : FileTree) (path : Path) : Walk :=
  ⟨maxLinks, tree.start path.anchor, path.parts⟩

/-- What comes of looking a path up. A path that no file can have leads nowhere. -/
inductive Lookup (tree : FileTree) (path : Path) : Found → Prop
  | unnameable (nul : Char.ofNat 0 ∈ path.toString.toList) : Lookup tree path .absent
  | tooLong (clear : Char.ofNat 0 ∉ path.toString.toList)
      (long : pathLimit ≤ path.toString.utf8ByteSize) : Lookup tree path .nameTooLong
  | followed {last : Walk} {found : Found} (clear : Char.ofNat 0 ∉ path.toString.toList)
      (short : path.toString.utf8ByteSize < pathLimit)
      (steps : tree.Steps (tree.walkOf path) last) (stop : tree.Stop last found) :
      Lookup tree path found

theorem lookup_iff : tree.Lookup path found ↔ tree.find path = found := by
  unfold find
  constructor
  · intro lookup
    cases lookup with
    | unnameable nul => simp [nul]
    | tooLong clear long => simp [clear, long]
    | followed clear short steps stop =>
        have walked := walk_eq_iff.mpr ⟨_, steps, stop⟩
        simpa [clear, Nat.not_le.mpr short, walkOf] using walked
  · rintro rfl
    by_cases nul : Char.ofNat 0 ∈ path.toString.toList
    · simpa [nul] using Lookup.unnameable nul
    · by_cases long : pathLimit ≤ path.toString.utf8ByteSize
      · simpa [nul, long] using Lookup.tooLong nul long
      · obtain ⟨last, found, steps, stop⟩ := tree.exists_stop (tree.walkOf path)
        have walked : tree.walk maxLinks (tree.start path.anchor) path.parts = found :=
          walk_eq_iff.mpr ⟨last, steps, stop⟩
        simpa [nul, long, walked] using Lookup.followed nul (Nat.not_le.mp long) steps stop

/-- The text of a path is over-long, or a name is that its walk comes to. -/
inductive Overlong (tree : FileTree) (path : Path) : Prop
  | text (clear : Char.ofNat 0 ∉ path.toString.toList)
      (long : pathLimit ≤ path.toString.utf8ByteSize)
  | name {links : Nat} {place rest : List String} {name : String}
      (clear : Char.ofNat 0 ∉ path.toString.toList)
      (steps : tree.Steps (tree.walkOf path) ⟨links, place, name :: rest⟩)
      (long : maxName < name.utf8ByteSize)

theorem overlong_iff : tree.Overlong path ↔ tree.find path = .nameTooLong := by
  rw [← lookup_iff]
  constructor
  · intro overlong
    cases overlong with
    | text clear long => exact .tooLong clear long
    | name clear steps long =>
        rcases Nat.lt_or_ge path.toString.utf8ByteSize pathLimit with short | whole
        · exact .followed clear short steps (.longName long)
        · exact .tooLong clear whole
  · intro lookup
    cases lookup with
    | tooLong clear long => exact .text clear long
    | followed clear _ steps stop =>
        cases stop with
        | longName long => exact .name clear steps long

/-! ### Trees that have more -/

/-- All that is in the first tree is in the second. -/
structure Extends (tree more : FileTree) : Prop where
  home : more.home = tree.home
  kept : ∀ {place : List String} {node : Node},
    tree.node? place = some node → more.node? place = some node

theorem Step.widen (wider : tree.Extends more) (step : tree.Step walk next) :
    more.Step walk next := by
  cases step with
  | stay blank => exact .stay blank
  | up => exact .up
  | enter sought there => exact .enter sought (wider.kept there)
  | follow sought there => exact .follow sought (wider.kept there)

theorem Extends.steps (wider : tree.Extends more) (steps : tree.Steps walk last) :
    more.Steps walk last := by
  induction steps with
  | refl => exact .refl
  | tail _ step ih => exact ih.tail (step.widen wider)

theorem Extends.walkOf (wider : tree.Extends more) (path : Path) :
    more.walkOf path = tree.walkOf path := by
  simp [FileTree.walkOf, start, wider.home]

theorem Stop.widen (wider : tree.Extends more) (stop : tree.Stop walk found)
    (there : found.exists? = true) : more.Stop walk found := by
  cases stop with
  | directory => exact .directory
  | file sought found => exact .file sought (wider.kept found)
  | _ => cases there

theorem Lookup.widen (wider : tree.Extends more) (lookup : tree.Lookup path found)
    (there : found.exists? = true) : more.Lookup path found := by
  cases lookup with
  | followed clear short steps stop =>
      exact .followed clear short (wider.walkOf path ▸ wider.steps steps) (stop.widen wider there)
  | _ => cases there

/-- What is found in a tree is found at the same place in a tree that has more. -/
theorem Extends.find (wider : tree.Extends more) (there : (tree.find path).exists? = true) :
    more.find path = tree.find path :=
  lookup_iff.mp ((lookup_iff.mpr rfl : tree.Lookup path (tree.find path)).widen wider there)

/-- Only files are new. -/
def AddsFiles (tree more : FileTree) : Prop :=
  ∀ {place : List String} {node : Node}, more.node? place = some node →
    tree.node? place = some node ∨ node = .file

theorem Stop.across (wider : tree.Extends more) (files : tree.AddsFiles more)
    (stop : tree.Stop walk found) :
    more.Stop walk found ∨ found = .absent ∧ ∃ place, more.Stop walk (.file place) := by
  cases stop with
  | directory => exact .inl .directory
  | file sought there => exact .inl (.file sought (wider.kept there))
  | throughFile sought there => exact .inl (.throughFile sought (wider.kept there))
  | tooManyLinks sought there => exact .inl (.tooManyLinks sought (wider.kept there))
  | longName long => exact .inl (.longName long)
  | @missing links place rest name sought lacking =>
      cases there : more.node? (place ++ [name]) with
      | none => exact .inl (.missing sought there)
      | some node =>
          obtain old | rfl := files there
          · rw [lacking] at old
            cases old
          · -- The path ends with the new file, or goes on behind it and leads nowhere as before.
            cases rest with
            | nil => exact .inr ⟨rfl, _, .file sought there⟩
            | cons next rest => exact .inl (.throughFile sought there)

/-- New files are found where nothing was, and change nothing else. -/
theorem AddsFiles.find (files : tree.AddsFiles more) (wider : tree.Extends more) (path : Path) :
    more.find path = tree.find path ∨
      tree.find path = .absent ∧ ∃ place, more.find path = .file place := by
  simp only [← lookup_iff]
  have lookup : tree.Lookup path (tree.find path) := lookup_iff.mpr rfl
  generalize tree.find path = found at lookup ⊢
  cases lookup with
  | unnameable nul => exact .inl (.unnameable nul)
  | tooLong clear long => exact .inl (.tooLong clear long)
  | followed clear short steps stop =>
      have further := wider.walkOf path ▸ wider.steps steps
      obtain same | ⟨rfl, place, file⟩ := stop.across wider files
      · exact .inl (.followed clear short further same)
      · exact .inr ⟨.followed clear short steps stop, place, .followed clear short further file⟩

/-- What new files do not bring about, they do not change either. -/
theorem AddsFiles.find_eq_iff (files : tree.AddsFiles more) (wider : tree.Extends more)
    (path : Path) (present : found ≠ .absent) (apart : ∀ place, found ≠ .file place) :
    more.find path = found ↔ tree.find path = found := by
  obtain same | ⟨absent, place, file⟩ := files.find wider path
  · rw [same]
  · rw [absent, file]
    exact ⟨fun new => absurd new.symm (apart place), fun old => absurd old.symm present⟩

theorem node?_set {place other : List String} {node : Node} (free : tree.node? place = none) :
    (tree.set place node).node? other = if other = place then some node else tree.node? other := by
  unfold node? at free ⊢
  by_cases same : other = place
  · subst same
    by_cases above : other.isPrefixOf tree.home = true
    · simp [above] at free
    · simp [set, above]
  · simp [set, same, Table.get?_set_of_ne same]

theorem extends_set {place : List String} {node : Node} (free : tree.node? place = none) :
    tree.Extends (tree.set place node) where
  home := rfl
  kept {other _} there := by
    have apart : other ≠ place := fun same => by simp [same, free] at there
    rw [node?_set free, if_neg apart, there]

theorem addsFiles_set {place : List String} (free : tree.node? place = none) :
    tree.AddsFiles (tree.set place .file) := by
  intro other node there
  rw [node?_set free] at there
  split at there
  · exact .inr (Option.some.inj there).symm
  · exact .inl there

end ForeignCall.FileTree
