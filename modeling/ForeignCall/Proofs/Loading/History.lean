import ForeignCall.Proofs.Loading.Load

/-! Histories of loads, between which the settings, the files and the active allocator may change. A
ledger of the loads so far says what stands behind each path. -/

namespace ForeignCall.Loading

inductive Move where
  | load (request : Request)
  /-- The settings or the files are other ones from here on. -/
  | rehost (host : Host)
  | activate (allocator : Allocator)

/-- A load, with the caller that it found. -/
structure Episode where
  request : Request
  before : Caller

namespace Episode

def result (episode : Episode) : Except Fault (Option Nat) :=
  (episode.request.load episode.before).1

def after (episode : Episode) : Caller :=
  (episode.request.load episode.before).2

def Resolves (episode : Episode) (path : Path) : Prop :=
  episode.before.host.findLibrary episode.request.name = .ok (some path)

def Returns (episode : Episode) (number : Nat) : Prop :=
  episode.result = .ok (some number)

/-- The load made a library of what lies at the path. -/
def Binds (episode : Episode) (path : Path) : Prop :=
  episode.Resolves path ∧ episode.before.libraries.length < episode.after.libraries.length

/-- The images there are if the load has opened the path. -/
def imagesOpening (episode : Episode) (path : Path) : List Image :=
  episode.before.images ++ (episode.before.host.libraryFile? path).toList.map
    (·.image episode.before.heap.arenas.length)

end Episode

def Move.apply : Move → Caller → Caller
  | .load request, caller => (Episode.mk request caller).after
  | .rehost host, caller => { caller with host }
  | .activate allocator, caller => (Caller.activate allocator caller).2

def final (caller : Caller) (moves : List Move) : Caller :=
  moves.foldl (fun caller move => move.apply caller) caller

/-- The loads among the moves, each with the caller it finds. -/
def episodes : Caller → List Move → List Episode
  | _, [] => []
  | caller, .load request :: rest =>
      ⟨request, caller⟩ :: episodes ((Move.load request).apply caller) rest
  | caller, move :: rest => episodes (move.apply caller) rest

theorem final_cons (caller : Caller) (move : Move) (rest : List Move) :
    final caller (move :: rest) = final (move.apply caller) rest := rfl

theorem episodes_load (caller : Caller) (request : Request) (rest : List Move) :
    episodes caller (.load request :: rest) =
      ⟨request, caller⟩ :: episodes (Episode.mk request caller).after rest := rfl

/-- The library is the one that this load made of the file that lay at the path. -/
structure Episode.Made (maker : Episode) (path : Path) (library : Library) (image : Image) :
    Prop where
  binds : maker.Binds path
  bound : library.BoundTo image maker.request.wanted
  file : ∃ file arena, maker.before.host.libraryFile? path = some file ∧ image = file.image arena

/-- What a load does by itself. -/
structure Episode.Orderly (episode : Episode) : Prop where
  /-- A file named in the settings is the one found, under the path that its spelling stands for. -/
  spelled : ∀ spelling,
    Settings.present episode.before.host.settings.library = some spelling →
    (episode.before.host.files.find (.ofString spelling)).exists? = true →
    episode.Resolves (.ofString spelling)
  /-- Spellings that differ in separators and `.` components lead to the same path. -/
  respelled : ∀ spelling other,
    Settings.present episode.before.host.settings.library = some spelling →
    Path.Respells spelling other →
    (episode.before.host.files.find (.ofString other)).exists? = true →
    episode.Resolves (.ofString other)
  grown : episode.before.Grown episode.after
  kept : (∀ number, ¬episode.Returns number) →
    episode.after.loaded = episode.before.loaded ∧ episode.after.active = episode.before.active
  returned : ∀ number, episode.Returns number → ∃ path library, episode.Resolves path ∧
    Table.get? path episode.after.loaded = some number ∧
    episode.after.libraries[number]? = some library ∧
    episode.after.active =
      if episode.request.install then
        ⟨Caller.libraryAllocatorName number, .image library.image⟩
      else episode.before.active
  cached : ∀ path number, episode.Resolves path →
    Table.get? path episode.before.loaded = some number →
    episode.Returns number ∧ episode.after.images = episode.before.images ∧ ¬episode.Binds path
  opened : ∀ path, episode.Resolves path → Table.get? path episode.before.loaded = none →
    episode.after.images = episode.imagesOpening path
  unopened : ∀ path, episode.Resolves path → Table.get? path episode.before.loaded = none →
    episode.before.host.libraryFile? path = none →
    episode.result = .error (.unopenable path.toString)
  lacked : ∀ path file, episode.Resolves path → Table.get? path episode.before.loaded = none →
    episode.before.host.libraryFile? path = some file → ¬file.Binds episode.request.wanted →
    ∃ symbol, (symbol = LibraryFile.allocName episode.request.wanted ∨
        symbol = LibraryFile.freeName episode.request.wanted) ∧
      symbol ∉ file.symbols ∧ episode.result = .error (.missingSymbol symbol)
  /-- Whether it binds, adds to the paths loaded, and writes the record, comes to the same. -/
  recorded :
    (∃ path, episode.Binds path ∧ Table.get? path episode.before.loaded = none ∧
      episode.after.loaded =
        Table.set path episode.before.libraries.length episode.before.loaded ∧
      episode.after.log = episode.before.log ++ [.libraryLoaded path.toString]) ∨
    ((∀ path, ¬episode.Binds path) ∧ episode.after.loaded = episode.before.loaded ∧
      episode.after.log = episode.before.log)

/-- How a load takes up what the loads before it have left. -/
structure Episode.Heeds (episode : Episode) (earlier : List Episode) : Prop where
  kept : ∀ first ∈ earlier, first.after.Grown episode.before
  once : ∀ first ∈ earlier, ∀ path, first.Binds path → ¬episode.Binds path
  shared : ∀ first ∈ earlier, ∀ path number, first.Resolves path → first.Returns number →
    episode.Resolves path →
    episode.Returns number ∧ episode.after.images = episode.before.images
  /-- Where every load has failed so far, the next one opens the file again. -/
  retried : ∀ path, episode.Resolves path →
    (∀ first ∈ earlier, first.Resolves path → ∀ number, ¬first.Returns number) →
    episode.after.images = episode.imagesOpening path

namespace Episode

variable {episode : Episode} {path other : Path} {number : Nat}

theorem ending (episode : Episode) (shelved : episode.before.Shelved) :
    Ending episode.request episode.before episode.result episode.after :=
  episode.request.ending shelved

theorem Resolves.unique (one : episode.Resolves path) (two : episode.Resolves other) :
    path = other := by
  simpa using one.symm.trans two

theorem resolves_of_spelling {spelling : String}
    (named : Settings.present episode.before.host.settings.library = some spelling)
    (lies : (episode.before.host.files.find (.ofString spelling)).exists? = true) :
    episode.Resolves (.ofString spelling) := by
  have looked : episode.before.host.lookUp (.ofString spelling) =
      .ok (episode.before.host.files.find (.ofString spelling)) := by
    unfold Host.lookUp
    split
    next long =>
      rw [long] at lies
      cases lies
    next => rfl
  have existing : episode.before.host.existing Found.exists? (.ofString spelling) =
      .ok (some (.ofString spelling)) := by
    rw [Host.existing, looked]
    simp [lies]
  have given : episode.before.host.libraryPath = .ok (some (.ofString spelling)) := by
    rw [Host.libraryPath, Host.configured, Host.setting, named]
    exact existing
  rw [Resolves, Host.findLibrary, given]

theorem orderly (shelved : episode.before.Shelved) : episode.Orderly where
  spelled _ named lies := resolves_of_spelling named lies
  respelled _ _ named respells lies := by
    rw [← respells.ofString_eq] at lies ⊢
    exact resolves_of_spelling named lies
  grown := (episode.ending shelved).grown
  kept := (episode.ending shelved).kept
  returned _ returns := (episode.ending shelved).returned returns
  cached path number resolves known := by
    obtain ⟨returns, images, libraries⟩ := (episode.ending shelved).cached resolves known
    exact ⟨returns, images, fun binds => Nat.ne_of_lt binds.2 (congrArg List.length libraries.symm)⟩
  opened _ resolves new := (episode.ending shelved).opened resolves new
  unopened _ resolves new closed := (episode.ending shelved).unopened resolves new closed
  lacked _ _ resolves new lies lacking :=
    (episode.ending shelved).lacked resolves new lies lacking
  recorded := by
    rcases (episode.ending shelved).recorded with
      ⟨path, file, resolves, lies, binds, new, loaded, libraries, log⟩ | ⟨loaded, libraries, log⟩
    · exact .inl ⟨path, ⟨resolves, by simp [libraries]⟩, new, loaded, log⟩
    · exact .inr ⟨fun path binds => Nat.ne_of_lt binds.2 (congrArg List.length libraries.symm),
        loaded, log⟩

/-- A load that binds a path returns the library, and the path is loaded from then on. -/
theorem Orderly.of_binds (orderly : episode.Orderly) (binds : episode.Binds path) :
    (∃ number, episode.Returns number) ∧
      ∃ number, Table.get? path episode.after.loaded = some number := by
  obtain ⟨other, bound, new, loaded, -⟩ | ⟨without, -⟩ := orderly.recorded
  · obtain rfl : other = path := bound.1.unique binds.1
    have found : Table.get? other episode.after.loaded =
        some episode.before.libraries.length := by rw [loaded, Table.get?_set_self]
    refine ⟨Classical.byContradiction fun none => ?_, _, found⟩
    have kept := (orderly.kept fun number returns => none ⟨number, returns⟩).1
    rw [kept, new] at found
    cases found
  · exact absurd binds (without path)

end Episode

/-- The loads so far, with what stands behind each path that is loaded. -/
structure Ledger (past : List Episode) (caller : Caller) : Prop where
  shelved : caller.Shelved
  orderly : ∀ episode ∈ past, episode.Orderly
  kept : ∀ episode ∈ past, episode.after.Grown caller
  made : ∀ path number, Table.get? path caller.loaded = some number →
    ∃ library image, caller.Holds number library image ∧
      ∃ maker ∈ past, maker.Made path library image

namespace Ledger

variable {past earlier : List Episode} {caller : Caller} {episode : Episode}

theorem blank (unloaded : caller.loaded = []) : Ledger [] caller where
  shelved path number found := by simp [unloaded] at found
  orderly _ member := by cases member
  kept _ member := by cases member
  made path number found := by simp [unloaded] at found

/-- A change of anything but the paths loaded, the libraries and the images. -/
theorem across (ledger : Ledger past caller) {after : Caller}
    (loaded : after.loaded = caller.loaded) (libraries : after.libraries = caller.libraries)
    (images : after.images = caller.images) : caller.Grown after ∧ Ledger past after := by
  have grown : caller.Grown after := .of_eq loaded libraries images
  refine ⟨grown, ?_, ledger.orderly, fun first member => (ledger.kept first member).trans grown, ?_⟩
  · rw [Caller.Shelved, loaded, libraries]
    exact ledger.shelved
  · intro path number found
    obtain ⟨library, image, holds, maker⟩ := ledger.made path number (loaded ▸ found)
    exact ⟨library, image, grown.holds holds, maker⟩

/-- The path that a load binds is held by that load's library. -/
theorem made_of_binding (before : Ledger past episode.before) {path : Path} {file : LibraryFile}
    (resolves : episode.Resolves path)
    (lies : episode.before.host.libraryFile? path = some file)
    (binds : file.Binds episode.request.wanted)
    (new : Table.get? path episode.before.loaded = none)
    (libraries : episode.after.libraries =
      episode.before.libraries ++ [episode.before.bound file episode.request.wanted]) :
    ∃ library image, episode.after.Holds episode.before.libraries.length library image ∧
      episode.Made path library image := by
  have images := (Episode.orderly before.shelved).opened path resolves new
  refine ⟨episode.before.bound file episode.request.wanted,
    file.image episode.before.heap.arenas.length, ⟨?_, ?_⟩, ⟨resolves, ?_⟩,
    ⟨rfl, binds.1, binds.2⟩, ?_⟩
  · rw [libraries, List.getElem?_concat_length]
  · rw [images, Episode.imagesOpening, lies]
    exact List.getElem?_concat_length
  · simp [libraries]
  · exact ⟨file, _, lies, rfl⟩

/-- A path loaded after a load was loaded before it, or is the one that the load binds. -/
theorem made_after (before : Ledger past episode.before) {path : Path} {number : Nat}
    (found : Table.get? path episode.after.loaded = some number) :
    ∃ library image, episode.after.Holds number library image ∧
      ∃ maker ∈ past ++ [episode], maker.Made path library image := by
  have ending := episode.ending before.shelved
  have old : Table.get? path episode.before.loaded = some number →
      ∃ library image, episode.after.Holds number library image ∧
        ∃ maker ∈ past ++ [episode], maker.Made path library image := by
    intro found
    obtain ⟨library, image, holds, maker, member, made⟩ := before.made path number found
    exact ⟨library, image, ending.grown.holds holds, maker, List.mem_append_left _ member, made⟩
  obtain ⟨bound, file, resolves, lies, binds, new, loaded, libraries, -⟩ | ⟨loaded, -⟩ :=
    ending.recorded
  · rw [loaded] at found
    by_cases same : path = bound
    · subst same
      obtain ⟨library, image, holds, made⟩ :=
        before.made_of_binding resolves lies binds new libraries
      obtain rfl : _ = number := by simpa using found
      exact ⟨library, image, holds, episode, by simp, made⟩
    · rw [Table.get?_set_of_ne same] at found
      exact old found
  · exact old (loaded ▸ found)

theorem concat (before : Ledger past episode.before) :
    Ledger (past ++ [episode]) episode.after := by
  have ending := episode.ending before.shelved
  refine ⟨ending.shelved before.shelved, ?_, ?_, fun _ _ found => before.made_after found⟩
  · intro first member
    rcases List.mem_append.mp member with old | new
    · exact before.orderly first old
    · obtain rfl := List.mem_singleton.mp new
      exact Episode.orderly before.shelved
  · intro first member
    rcases List.mem_append.mp member with old | new
    · exact (before.kept first old).trans ending.grown
    · obtain rfl := List.mem_singleton.mp new
      exact .refl _

theorem unknown (ledger : Ledger past caller) {path : Path}
    (unbound : ∀ episode ∈ past, ¬episode.Binds path) : Table.get? path caller.loaded = none := by
  cases known : Table.get? path caller.loaded with
  | none => rfl
  | some number =>
      obtain ⟨library, image, -, maker, member, made⟩ := ledger.made path number known
      exact absurd made.binds (unbound maker member)

theorem heeds (ledger : Ledger earlier episode.before) : episode.Heeds earlier where
  kept := ledger.kept
  once first member path binds := by
    obtain ⟨number, found⟩ := ((ledger.orderly first member).of_binds binds).2
    have known := (ledger.kept first member).loaded path number found
    exact fun again => ((Episode.orderly ledger.shelved).cached path number again.1 known).2.2 again
  shared first member path number resolves returns again := by
    obtain ⟨other, library, resolved, found, -⟩ :=
      (ledger.orderly first member).returned number returns
    obtain rfl : other = path := resolved.unique resolves
    have known := (ledger.kept first member).loaded other number found
    obtain ⟨result, images, -⟩ :=
      (Episode.orderly ledger.shelved).cached other number again known
    exact ⟨result, images⟩
  retried path resolves failed := by
    refine (Episode.orderly ledger.shelved).opened path resolves (ledger.unknown ?_)
    intro maker member binds
    obtain ⟨number, returns⟩ := ((ledger.orderly maker member).of_binds binds).1
    exact failed maker member binds.1 number returns

/-- The ledger is kept up to each load of a history, and nothing is lost after it. -/
theorem at_episode {moves : List Move} (ledger : Ledger past caller) :
    caller.Grown (final caller moves) ∧
      ∀ front back, episodes caller moves = front ++ episode :: back →
        Ledger (past ++ front) episode.before ∧ episode.after.Grown (final caller moves) := by
  induction moves generalizing past caller with
  | nil => exact ⟨.refl caller, fun front back split => by simp [episodes] at split⟩
  | cons move rest ih =>
      -- Only a load makes an entry; the other moves leave what the ledger is about alone.
      cases move with
      | rehost host =>
          have next : caller.Grown { caller with host } ∧ Ledger past { caller with host } :=
            ledger.across rfl rfl rfl
          exact ⟨next.1.trans (ih next.2).1, (ih next.2).2⟩
      | activate active =>
          have next : caller.Grown { caller with active } ∧ Ledger past { caller with active } :=
            ledger.across rfl rfl rfl
          exact ⟨next.1.trans (ih next.2).1, (ih next.2).2⟩
      | load request =>
          have next := @concat past ⟨request, caller⟩ ledger
          obtain ⟨grown, later⟩ := ih next
          have first := (@Episode.orderly ⟨request, caller⟩ ledger.shelved).grown
          rw [final_cons, episodes_load]
          refine ⟨first.trans grown, fun front back split => ?_⟩
          cases front with
          | nil =>
              obtain ⟨rfl, -⟩ := List.cons.inj split
              exact ⟨by simpa using ledger, grown⟩
          | cons head front =>
              rw [List.cons_append] at split
              obtain ⟨rfl, remaining⟩ := List.cons.inj split
              rw [List.append_cons]
              exact later front back remaining

end Ledger

/-- However a history of loads goes, each load is orderly and heeds the loads before it, and what it
leaves is there to the end. -/
theorem loads_of_history {caller : Caller} (unloaded : caller.loaded = []) {moves : List Move}
    {earlier later : List Episode} {episode : Episode}
    (split : episodes caller moves = earlier ++ episode :: later) :
    episode.Orderly ∧ episode.Heeds earlier ∧ episode.after.Grown (final caller moves) := by
  obtain ⟨ledger, grown⟩ := (Ledger.blank unloaded).at_episode.2 earlier later split
  rw [List.nil_append] at ledger
  exact ⟨Episode.orderly ledger.shelved, ledger.heeds, grown⟩

/-- A file with the buffer symbols of a stem. -/
def fileOf (stem : String) : LibraryFile :=
  ⟨[LibraryFile.allocName stem, LibraryFile.freeName stem], 0, [], []⟩

/-- A host whose settings name the file at `lib/x.so`, spelled like this. -/
def hostWith (spelling : String) (file : Option LibraryFile) : Host :=
  { Host.bare with
    settings := { Settings.unset with library := some spelling }
    files := .ofLists [] ["lib/x.so"] []
    libraries := file.toList.map (["lib", "x.so"], ·) }

def start : Caller :=
  .initial (hostWith "lib/x.so" none) 8

def demo : Request := ⟨"demo", none, true⟩

/-- What lies at the path cannot be opened, then it can, and then it is another file. -/
def retrying : List Move :=
  [.load demo, .rehost (hostWith "lib/x.so" (some (fileOf "ffi_demo"))), .load demo,
    .rehost (hostWith "lib/.//x.so" (some (fileOf "ffi_other"))), .activate ⟨"main", .arena 0⟩,
    .load demo]

def failed : Episode := ⟨demo, start⟩

def retried : Episode := ⟨demo, final start (retrying.take 2)⟩

def respelled : Episode := ⟨demo, final start (retrying.take 5)⟩

theorem loads_of_retrying :
    start.loaded = [] ∧ episodes start retrying = [failed, retried] ++ respelled :: [] ∧
      failed.result = .error (.unopenable "lib/x.so") ∧ retried.Returns 0 ∧
      (respelled.Orderly ∧ respelled.Heeds [failed, retried] ∧
        respelled.after.Grown (final start retrying)) :=
  ⟨rfl, rfl, rfl, rfl, loads_of_history rfl rfl⟩

/-- A library that a load returns is bound with the stem wanted by the load that made it, and so
with the stem wanted now if no earlier load has bound the path for another stem. -/
theorem stems_of_history {caller : Caller} (unloaded : caller.loaded = []) {moves : List Move}
    {earlier later : List Episode} {episode : Episode}
    (split : episodes caller moves = earlier ++ episode :: later) :
    (∀ number, episode.Returns number → ∃ path library image, episode.Resolves path ∧
      episode.after.Holds number library image ∧
      (∃ maker ∈ earlier ++ [episode], maker.Made path library image) ∧
      ((∀ other ∈ earlier, other.Binds path →
          other.request.wanted = episode.request.wanted) →
        library.BoundTo image episode.request.wanted)) ∧
    ∀ path file, episode.Resolves path → (∀ other ∈ earlier, ¬other.Binds path) →
      episode.before.host.libraryFile? path = some file → ¬file.Binds episode.request.wanted →
      ∃ symbol, (symbol = LibraryFile.allocName episode.request.wanted ∨
          symbol = LibraryFile.freeName episode.request.wanted) ∧
        symbol ∉ file.symbols ∧ episode.result = .error (.missingSymbol symbol) ∧
        (Fault.missingSymbol symbol).kind = .family .libraryLoad := by
  have ledger := ((Ledger.blank unloaded).at_episode.2 earlier later split).1
  rw [List.nil_append] at ledger
  have orderly := Episode.orderly ledger.shelved
  refine ⟨fun number returns => ?_, fun path file resolves unbound lies lacking => ?_⟩
  · obtain ⟨path, -, resolves, found, -⟩ := orderly.returned number returns
    obtain ⟨library, image, holds, maker, member, made⟩ := ledger.concat.made path number found
    refine ⟨path, library, image, resolves, holds, ⟨maker, member, made⟩, fun agreed => ?_⟩
    have wanted : maker.request.wanted = episode.request.wanted := by
      rcases List.mem_append.mp member with old | new
      · exact agreed maker old made.binds
      · rw [List.mem_singleton.mp new]
    exact wanted ▸ made.bound
  · obtain ⟨symbol, either, absent, failed⟩ :=
      orderly.lacked path file resolves (ledger.unknown unbound) lies lacking
    exact ⟨symbol, either, absent, failed, rfl⟩

/-- The path is known by then, however it is spelled, and the other file is not looked at. -/
theorem respelled_returns : respelled.Returns 0 := by
  have found : respelled.Resolves (.ofString "lib/x.so") := rfl
  have cached : Table.get? (.ofString "lib/x.so") respelled.before.loaded = some 0 := rfl
  have there : respelled.before.libraries[0]? = some ⟨0, "ffi_demo", false⟩ := rfl
  exact congrArg Prod.fst
    (Caller.loadLibrary_of_number found (Caller.loadPath_of_known cached) there)

theorem stems_of_retrying :
    start.loaded = [] ∧ episodes start retrying = [failed, retried] ++ respelled :: [] ∧
      respelled.Returns 0 ∧
      ∃ library image, respelled.after.Holds 0 library image ∧
        library.BoundTo image "ffi_demo" := by
  refine ⟨rfl, rfl, respelled_returns, ?_⟩
  obtain ⟨path, library, image, -, holds, -, bound⟩ :=
    (@stems_of_history start rfl retrying [failed, retried] [] respelled rfl).1 0 respelled_returns
  refine ⟨library, image, holds, bound fun other member _ => ?_⟩
  simp only [List.mem_cons, List.not_mem_nil, or_false] at member
  rcases member with rfl | rfl <;> rfl

/-- Two components whose settings name one file, which has the symbols of the first only. -/
def sharing : Caller :=
  .initial (hostWith "lib/x.so" (some (fileOf "ffi_first"))) 8

def ofFirst : Episode := ⟨⟨"first", none, true⟩, sharing⟩

def ofSecond : Episode := ⟨⟨"second", none, true⟩, ofFirst.after⟩

theorem stems_of_sharing :
    ¬∀ (caller : Caller) (moves : List Move) (earlier later : List Episode) (episode : Episode)
      (number : Nat), caller.loaded = [] → episodes caller moves = earlier ++ episode :: later →
      episode.Returns number →
      ∃ library image, episode.after.Holds number library image ∧
        library.BoundTo image episode.request.wanted := by
  intro wanted
  obtain ⟨library, image, holds, bound⟩ := wanted sharing
    [.load ofFirst.request, .load ofSecond.request] [ofFirst] [] ofSecond 0 rfl rfl rfl
  have there : ofSecond.after.libraries[0]? = some ⟨0, "ffi_first", false⟩ := rfl
  obtain rfl := Option.some.inj (there.symm.trans holds.numbered)
  exact absurd bound.named (by decide)

end ForeignCall.Loading
