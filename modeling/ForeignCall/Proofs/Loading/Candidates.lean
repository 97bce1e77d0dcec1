import ForeignCall.Proofs.Loading.Search

/-! Which file a search finds: the first candidate there is. Settings that give nothing make no
difference, and further files only bring the search to an earlier candidate, or to one at all. -/

namespace ForeignCall.Host

/-- The setting is unset or blank, or names nothing that is wanted. -/
inductive Idle (host : Host) (wanted : Found → Bool) : Option String → Prop
  | unset : Idle host wanted none
  | blank {raw : String} (blank : ∀ c ∈ raw.toList, Text.isBlank c = true) :
      Idle host wanted (some raw)
  | lacking {raw : String} (short : ¬host.files.Overlong (.ofString (Text.trimmed raw)))
      (lacks : wanted (host.files.find (.ofString (Text.trimmed raw))) = false) :
      Idle host wanted (some raw)

/-- The same host with other settings that give the same, or where neither give anything. -/
structure Alike (host other : Host) : Prop where
  files : other.files = host.files
  system : other.system = host.system
  installed : other.installed = host.installed
  library : other.settings.library = host.settings.library ∨
    host.Idle Found.exists? host.settings.library ∧
      host.Idle Found.exists? other.settings.library
  directory : other.settings.directory = host.settings.directory ∨
    host.Idle Found.isDirectory host.settings.directory ∧
      host.Idle Found.isDirectory other.settings.directory

/-- The same host with more files and directories, and with more links that leave the package where
it is. -/
structure Furnished (before after : Host) : Prop where
  settings : after.settings = before.settings
  system : after.system = before.system
  installed : after.installed = before.installed
  files : before.files.Extends after.files
  package : before.files.KeepsLinks after.files ∨
    after.files.realPath after.installed = before.files.realPath before.installed

/-- What a search finds stays, or gives way to a candidate before it, or is found where nothing
was. -/
inductive Improves (candidates : List Path) : Option Path → Option Path → Prop
  | same (answer : Option Path) : Improves candidates answer answer
  | earlier {path other : Path} (order : [other, path].Sublist candidates) :
      Improves candidates (some path) (some other)
  | found (path : Path) : Improves candidates none (some path)

variable {host before after : Host} {wanted : Found → Bool} {path : Path} {name : String}

theorem Idle.configured_eq {raw : Option String} (idle : host.Idle wanted raw) :
    host.configured wanted raw = .ok none := by
  cases idle with
  | unset => rfl
  | blank blank =>
      simp [configured, setting, Settings.present, Text.trimmed_of_blank blank]
  | @lacking raw short lacks =>
      by_cases empty : Text.trimmed raw = ""
      · simp [configured, setting, Settings.present, empty]
      · have named : setting (some raw) = some (.ofString (Text.trimmed raw)) := by
          simp [setting, Settings.present, empty]
        rw [configured, named]
        simp [existing_of_short short, lacks]

theorem Idle.of_find {raw : String} (found : Found)
    (looked : host.files.find (.ofString (Text.trimmed raw)) = found) (short : found ≠ .nameTooLong)
    (lacks : wanted found = false) : host.Idle wanted (some raw) := by
  subst looked
  exact .lacking (fun long => short (FileTree.overlong_iff.mp long)) lacks

namespace Alike

variable {other : Host}

theorem existing_eq (alike : host.Alike other) (wanted : Found → Bool) (path : Path) :
    other.existing wanted path = host.existing wanted path := by
  simp only [existing, lookUp, alike.files]

theorem configured_eq (alike : host.Alike other) (wanted : Found → Bool) (raw : Option String) :
    other.configured wanted raw = host.configured wanted raw := by
  unfold configured
  cases setting raw with
  | none => rfl
  | some path => exact alike.existing_eq wanted path

theorem firstExisting_eq (alike : host.Alike other) (paths : List Path) :
    other.firstExisting paths = host.firstExisting paths := by
  induction paths with
  | nil => rfl
  | cons path rest ih => simp only [firstExisting, alike.existing_eq, ih]

theorem findLibrary_eq (alike : host.Alike other) (name : String) :
    other.findLibrary name = host.findLibrary name := by
  have library : other.libraryPath = host.libraryPath := by
    rw [libraryPath, libraryPath, alike.configured_eq]
    obtain same | ⟨idle, idle'⟩ := alike.library
    · rw [same]
    · rw [idle.configured_eq, idle'.configured_eq]
  have directory : other.libraryDirectory = host.libraryDirectory := by
    rw [libraryDirectory, libraryDirectory, alike.configured_eq]
    obtain same | ⟨idle, idle'⟩ := alike.directory
    · rw [same]
    · rw [idle.configured_eq, idle'.configured_eq]
  have package : other.packageDirectory = host.packageDirectory := by
    simp only [packageDirectory, alike.files, alike.installed]
  simp only [findLibrary, library, directory, package, alike.system, alike.firstExisting_eq]

end Alike

namespace Furnished

variable {probe : Probe} {fault : Fault} {probes : List Probe}

theorem realPath_eq (furnished : before.Furnished after) :
    after.files.realPath after.installed = before.files.realPath before.installed := by
  obtain links | same := furnished.package
  · rw [furnished.installed, furnished.files.realPath links]
  · exact same

theorem there (furnished : before.Furnished after) (there : before.Exists path) :
    after.Exists path := by
  rw [Exists, furnished.files.find there]
  exact there

theorem givenDirectory_eq (furnished : before.Furnished after) {directory : Path}
    (given : before.givenDirectory = some directory) :
    after.givenDirectory = some directory := by
  rw [givenDirectory, Option.filter_eq_some_iff] at given ⊢
  rw [furnished.settings, furnished.files.find (Found.exists_of_isDirectory given.2)]
  exact given

theorem candidates_sublist (furnished : before.Furnished after) (name : String) :
    (before.candidates name).Sublist (after.candidates name) := by
  have given : before.givenDirectory.toList.Sublist after.givenDirectory.toList := by
    cases directory : before.givenDirectory with
    | none => exact List.nil_sublist _
    | some path => simp [furnished.givenDirectory_eq directory]
  rw [candidates, candidates, inDirectories, inDirectories, furnished.settings, furnished.system,
    furnished.realPath_eq]
  exact (List.Sublist.refl _).append ((given.append (.refl _)).map _)

/-- New files are in nobody's way: what could be looked up still can be, and nothing else can. -/
theorem raises_iff (furnished : before.Furnished after)
    (files : before.files.AddsFiles after.files) :
    probe.Raises after fault ↔ probe.Raises before fault := by
  have long (path : Path) : after.files.Overlong path ↔ before.files.Overlong path := by
    rw [FileTree.overlong_iff, FileTree.overlong_iff]
    exact files.find_eq_iff furnished.files path nofun nofun
  have loops (path : Path) :
      after.files.Lookup path .looping ↔ before.files.Lookup path .looping := by
    rw [FileTree.lookup_iff, FileTree.lookup_iff]
    exact files.find_eq_iff furnished.files path nofun nofun
  constructor
  · intro raises
    exact raises.onto (fun path => (long path).mp) (fun path => (loops path).mp)
      furnished.realPath_eq.symm
  · intro raises
    exact raises.onto (fun path => (long path).mpr) (fun path => (loops path).mpr)
      furnished.realPath_eq

theorem fails (furnished : before.Furnished after) (files : before.files.AddsFiles after.files)
    (fails : Fails after probes fault) : Fails before probes fault := by
  induction fails with
  | here raises => exact .here ((furnished.raises_iff files).mp raises)
  | later passes _ ih =>
      refine .later ⟨fun fault raises => ?_, fun path file there => ?_⟩ ih
      · exact passes.quiet fault ((furnished.raises_iff files).mpr raises)
      · exact passes.lacking path file (furnished.there there)

/-- New files are no directories, so that a search goes the same way as before. -/
theorem probes_eq (furnished : before.Furnished after)
    (files : before.files.AddsFiles after.files) (name : String) :
    after.probes name = before.probes name := by
  have directory : ∀ path,
      (after.files.find path).isDirectory = (before.files.find path).isDirectory := by
    intro path
    obtain same | ⟨absent, place, file⟩ := files.find furnished.files path
    · rw [same]
    · rw [absent, file]
      rfl
  simp only [Host.probes, inDirectories, givenDirectory, furnished.settings, furnished.system,
    furnished.realPath_eq, directory]

end Furnished

theorem improves_of_find? {paths more : List Path} {p q : Path → Bool}
    (sub : paths.Sublist more) (wider : ∀ path, p path = true → q path = true) :
    Improves more (paths.find? p) (more.find? q) := by
  cases old : paths.find? p with
  | none =>
      cases more.find? q with
      | none => exact .same none
      | some path => exact .found path
  | some path =>
      have member : path ∈ more := sub.subset (List.mem_of_find?_eq_some old)
      have there : q path = true := wider path (List.find?_some old)
      -- What was found is still there, so that the search ends there at the latest.
      cases new : more.find? q with
      | none => exact absurd there (List.find?_eq_none.mp new path member)
      | some other =>
          obtain ⟨-, front, back, rfl, lacking⟩ := List.find?_eq_some_iff_append.mp new
          have late : path ∈ other :: back := by
            refine (List.mem_append.mp member).resolve_left fun early => ?_
            simpa [there] using lacking path early
          rcases List.mem_cons.mp late with rfl | late
          · exact .same _
          · refine .earlier (List.Sublist.append (List.nil_sublist front) ?_)
            exact .cons_cons _ (List.singleton_sublist.mpr late)

/-- A search finds the first candidate there is. It makes no difference in which way a setting gives
nothing, and what files are added can only improve the answer. -/
theorem finds_first_candidate (quiet : ∀ fault, ¬Fails host (host.probes name) fault) :
    host.findLibrary name = .ok ((host.candidates name).find? fun path => host.Exists path) ∧
    (host.findLibrary name = .ok none ↔ ∀ path ∈ host.candidates name, ¬host.Exists path) ∧
    (∀ other, host.Alike other → other.findLibrary name = host.findLibrary name) ∧
    ∀ after, host.Furnished after →
      (host.files.AddsFiles after.files → ∀ fault, ¬Fails after (after.probes name) fault) ∧
      ((∀ fault, ¬Fails after (after.probes name) fault) →
        ∃ answer later, host.findLibrary name = .ok answer ∧ after.findLibrary name = .ok later ∧
          Improves (after.candidates name) answer later) := by
  have first := findLibrary_of_quiet quiet
  refine ⟨first, ?_, fun other alike => alike.findLibrary_eq name,
    fun after furnished => ⟨fun files fault fails => ?_, fun later => ?_⟩⟩
  · rw [first]
    simp
  · rw [furnished.probes_eq files] at fails
    exact quiet fault (furnished.fails files fails)
  · refine ⟨_, _, first, findLibrary_of_quiet later, ?_⟩
    refine improves_of_find? (furnished.candidates_sublist name) fun path there => ?_
    simpa using furnished.there (by simpa using there)

/-- The library given is a link that leads to nothing, with blanks around its name. The directory
given has a link to the library searched for. -/
def dangling : Host :=
  { Host.bare with
    settings := ⟨some " \tlink.so\n", some "libs/ ", none⟩
    files := .ofLists ["libs", "gone"] ["real/libdemo.so"]
      [("link.so", "gone/x.so"), ("libs/libdemo.so", "../real/./libdemo.so"), ("loop", "loop/x")] }

/-- The same with a link that leads to itself. -/
def circling : Host :=
  { dangling with settings := ⟨some "loop", some "libs/ ", none⟩ }

/-- The same when the first link leads to something. -/
def mended : Host :=
  { dangling with files := dangling.files.set ["gone", "x.so"] .file }

theorem dangling_improves :
    dangling.findLibrary "demo" = .ok (some (.ofString "libs/libdemo.so")) ∧
    circling.findLibrary "demo" = .ok (some (.ofString "libs/libdemo.so")) ∧
    mended.findLibrary "demo" = .ok (some (.ofString "link.so")) ∧
    Improves (mended.candidates "demo") (some (.ofString "libs/libdemo.so"))
      (some (.ofString "link.so")) := by
  have found : dangling.findLibrary "demo" = .ok (some (.ofString "libs/libdemo.so")) := rfl
  have quiet := quiet_of_findLibrary found
  obtain ⟨-, -, alike, furnished⟩ := finds_first_candidate quiet
  have idle : dangling.Idle Found.exists? dangling.settings.library :=
    .of_find .absent rfl nofun rfl
  have idle' : dangling.Idle Found.exists? circling.settings.library :=
    .of_find .looping rfl nofun rfl
  have free : dangling.files.node? ["gone", "x.so"] = none := rfl
  have files : dangling.files.AddsFiles mended.files := FileTree.addsFiles_set free
  have more : dangling.Furnished mended :=
    ⟨rfl, rfl, rfl, FileTree.extends_set free, .inl files.keepsLinks⟩
  obtain ⟨quiet', improves⟩ := furnished mended more
  obtain ⟨answer, later, before, after, better⟩ := improves (quiet' files)
  have mends : mended.findLibrary "demo" = .ok (some (.ofString "link.so")) := rfl
  rw [found] at before
  rw [mends] at after
  cases before
  cases after
  refine ⟨found, ?_, mends, better⟩
  rw [alike circling ⟨rfl, rfl, rfl, .inr ⟨idle, idle'⟩, .inl rfl⟩]
  exact found

end ForeignCall.Host
