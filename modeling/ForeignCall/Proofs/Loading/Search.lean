import ForeignCall.Host
import ForeignCall.Proofs.Files.Resolution

/-! The search for a library as a list of things to look up, one after the other. The first that is
there ends it, and so does the first that cannot be looked up. -/

namespace ForeignCall.Host

/-- There is something at the path. -/
def Exists (host : Host) (path : Path) : Prop :=
  (host.files.find path).exists? = true

instance (host : Host) (path : Path) : Decidable (host.Exists path) :=
  inferInstanceAs (Decidable (_ = true))

/-- The directory given in the settings, if it is one. -/
def givenDirectory (host : Host) : Option Path :=
  (setting host.settings.directory).filter fun path => (host.files.find path).isDirectory

/-- The file with a library's name in the directory given, and in the one the package lies in. -/
def inDirectories (host : Host) (name : String) : List Path :=
  (host.givenDirectory.toList ++ [(host.files.realPath host.installed).parent]).map
    fun directory => directory.join (.ofString (filename host.system name))

/-- The files that a search may find, first the one that it prefers. -/
def candidates (host : Host) (name : String) : List Path :=
  (setting host.settings.library).toList ++ host.inDirectories name

/-- One thing that a search looks up. -/
inductive Probe where
  | file (path : Path)
  | directory (path : Path)
  /-- Where the package's own file lies. -/
  | package

namespace Probe

def file? : Probe → Option Path
  | .file path => some path
  | _ => none

/-- Looking it up fails. -/
inductive Raises (host : Host) : Probe → Fault → Prop
  | file {path : Path} (long : host.files.Overlong path) :
      Raises host (.file path) (.nameTooLong path.toString)
  | directory {path : Path} (long : host.files.Overlong path) :
      Raises host (.directory path) (.nameTooLong path.toString)
  | package (loops : host.files.Lookup (host.files.realPath host.installed) .looping) :
      Raises host .package (.linkLoop (host.files.realPath host.installed).toString)

/-- It can be looked up, and the search goes on. -/
structure Passes (host : Host) (probe : Probe) : Prop where
  quiet : ∀ fault, ¬probe.Raises host fault
  lacking : ∀ path, probe.file? = some path → ¬host.Exists path

def outcome (host : Host) : Probe → Except Fault (Option Path)
  | .file path => host.existing Found.exists? path
  | .directory path => (host.existing Found.isDirectory path).map fun _ => none
  | .package => host.packageDirectory.map fun _ => none

end Probe

/-- A search fails: something cannot be looked up, and nothing before it has ended the search. -/
inductive Fails (host : Host) : List Probe → Fault → Prop
  | here {probe : Probe} {rest : List Probe} {fault : Fault} (raises : probe.Raises host fault) :
      Fails host (probe :: rest) fault
  | later {probe : Probe} {rest : List Probe} {fault : Fault} (passes : probe.Passes host)
      (fails : Fails host rest fault) : Fails host (probe :: rest) fault

def search (host : Host) : List Probe → Except Fault (Option Path)
  | [] => .ok none
  | probe :: rest =>
      match probe.outcome host with
      | .ok none => search host rest
      | decided => decided

/-- All that a search looks up, in this order. -/
def probes (host : Host) (name : String) : List Probe :=
  (setting host.settings.library).toList.map .file ++
    ((setting host.settings.directory).toList.map .directory ++
      .package :: (host.inDirectories name).map .file)

variable {host : Host} {wanted : Found → Bool} {path : Path} {probe : Probe} {fault : Fault}

theorem existing_of_overlong (long : host.files.Overlong path) :
    host.existing wanted path = .error (.nameTooLong path.toString) := by
  simp only [existing, lookUp, FileTree.overlong_iff.mp long]

theorem existing_of_short (short : ¬host.files.Overlong path) :
    host.existing wanted path =
      .ok (if wanted (host.files.find path) then some path else none) := by
  rw [FileTree.overlong_iff] at short
  have looked : host.lookUp path = .ok (host.files.find path) := by
    unfold lookUp
    split
    next long => exact absurd long short
    next => rfl
  simp only [existing, looked]

theorem packageDirectory_of_loop
    (loops : host.files.Lookup (host.files.realPath host.installed) .looping) :
    host.packageDirectory = .error (.linkLoop (host.files.realPath host.installed).toString) := by
  simp only [packageDirectory, FileTree.lookup_iff.mp loops]

theorem packageDirectory_of_clear
    (clear : ¬host.files.Lookup (host.files.realPath host.installed) .looping) :
    host.packageDirectory = .ok (host.files.realPath host.installed).parent := by
  rw [FileTree.lookup_iff] at clear
  simp only [packageDirectory]

theorem Exists.short (there : host.Exists path) : ¬host.files.Overlong path := by
  rw [FileTree.overlong_iff]
  intro long
  rw [Exists, long] at there
  cases there

/-! ### The probes of a search -/

theorem Probe.Raises.outcome_eq (raises : probe.Raises host fault) :
    probe.outcome host = .error fault := by
  cases raises with
  | file long => exact existing_of_overlong long
  | directory long => rw [Probe.outcome, existing_of_overlong long]; rfl
  | package loops => rw [Probe.outcome, packageDirectory_of_loop loops]; rfl

/-- What cannot be looked up in one tree cannot be in another where the same paths are over-long and
the same go in a circle. -/
theorem Probe.Raises.onto {other : Host} (raises : probe.Raises host fault)
    (long : ∀ path, host.files.Overlong path → other.files.Overlong path)
    (loops : ∀ path, host.files.Lookup path .looping → other.files.Lookup path .looping)
    (real : other.files.realPath other.installed = host.files.realPath host.installed) :
    probe.Raises other fault := by
  cases raises with
  | file overlong => exact .file (long _ overlong)
  | directory overlong => exact .directory (long _ overlong)
  | package circle =>
      have circle := loops _ circle
      rw [← real] at circle ⊢
      exact .package circle

theorem Probe.Passes.outcome_eq (passes : probe.Passes host) : probe.outcome host = .ok none := by
  cases probe with
  | file path =>
      have short : ¬host.files.Overlong path := fun long => passes.quiet _ (.file long)
      have lacking : ¬(host.files.find path).exists? = true := passes.lacking path rfl
      rw [Probe.outcome, existing_of_short short, if_neg lacking]
  | directory path =>
      have short : ¬host.files.Overlong path := fun long => passes.quiet _ (.directory long)
      rw [Probe.outcome, existing_of_short short]
      rfl
  | package =>
      have clear := fun loops => passes.quiet _ (.package loops)
      rw [Probe.outcome, packageDirectory_of_clear clear]
      rfl

theorem Exists.outcome_eq (there : host.Exists path) :
    (Probe.file path).outcome host = .ok (some path) := by
  have found : (host.files.find path).exists? = true := there
  rw [Probe.outcome, existing_of_short there.short, if_pos found]

theorem Probe.cases (host : Host) (probe : Probe) :
    (∃ fault, probe.Raises host fault) ∨ probe.Passes host ∨
      ∃ path, probe = .file path ∧ host.Exists path := by
  by_cases loud : ∃ fault, probe.Raises host fault
  · exact .inl loud
  · rw [not_exists] at loud
    by_cases lacking : ∀ path, probe.file? = some path → ¬host.Exists path
    · exact .inr (.inl ⟨loud, lacking⟩)
    · obtain ⟨path, file, there⟩ : ∃ path, probe.file? = some path ∧ host.Exists path := by
        simpa using lacking
      cases probe with
      | file other =>
          obtain rfl : other = path := Option.some.inj file
          exact .inr (.inr ⟨other, rfl, there⟩)
      | _ => cases file

variable {probes : List Probe} {name : String}

theorem search_of_raises (raises : probe.Raises host fault) (rest : List Probe) :
    search host (probe :: rest) = .error fault := by
  rw [search, raises.outcome_eq]

theorem search_of_passes (passes : probe.Passes host) (rest : List Probe) :
    search host (probe :: rest) = search host rest := by
  rw [search, passes.outcome_eq]

theorem search_of_exists (there : host.Exists path) (rest : List Probe) :
    search host (.file path :: rest) = .ok (some path) := by
  rw [search, there.outcome_eq]

theorem Fails.search_eq (fails : Fails host probes fault) : search host probes = .error fault := by
  induction fails with
  | here raises => exact search_of_raises raises _
  | later passes _ ih => exact (search_of_passes passes _).trans ih

/-- It is the system that fails, but for a package whose own path goes in a circle. -/
theorem Fails.kind (fails : Fails host probes fault) :
    fault.kind = .system ∨ fault.kind = .runtime ∧
      host.files.Lookup (host.files.realPath host.installed) .looping := by
  induction fails with
  | here raises =>
      cases raises with
      | file | directory => exact .inl rfl
      | package loops => exact .inr ⟨rfl, loops⟩
  | later _ _ ih => exact ih

/-- A search that does not fail finds the first file there is. -/
theorem search_of_quiet (quiet : ∀ fault, ¬Fails host probes fault) :
    search host probes = .ok ((probes.filterMap Probe.file?).find? fun path => host.Exists path) := by
  induction probes with
  | nil => rfl
  | cons probe rest ih =>
      obtain ⟨fault, raises⟩ | passes | ⟨path, rfl, there⟩ := probe.cases host
      · exact absurd (.here raises) (quiet fault)
      · rw [search_of_passes passes, ih fun fault fails => quiet fault (.later passes fails)]
        cases file : probe.file? with
        | none => rw [List.filterMap_cons_none file]
        | some path =>
            have lacking := passes.lacking path file
            rw [List.filterMap_cons_some file, List.find?_cons_of_neg (by simpa using lacking)]
      · have file : (Probe.file path).file? = some path := rfl
        rw [search_of_exists there, List.filterMap_cons_some file,
          List.find?_cons_of_pos (by simpa using there)]

theorem search_eq_error : search host probes = .error fault ↔ Fails host probes fault := by
  refine ⟨fun failed => Classical.byContradiction fun sound => ?_, Fails.search_eq⟩
  by_cases quiet : ∀ other, ¬Fails host probes other
  · rw [search_of_quiet quiet] at failed
    cases failed
  · obtain ⟨other, fails⟩ := Classical.not_forall_not.mp quiet
    obtain rfl : other = fault := by simpa using fails.search_eq.symm.trans failed
    exact sound fails

theorem filterMap_probes (host : Host) (name : String) :
    (host.probes name).filterMap Probe.file? = host.candidates name := by
  have files : ∀ paths : List Path, (paths.map Probe.file).filterMap Probe.file? = paths := by
    intro paths
    rw [List.filterMap_map]
    exact List.filterMap_some
  have directories : ∀ paths : List Path, (paths.map Probe.directory).filterMap Probe.file? = [] := by
    intro paths
    simp [Probe.file?]
  rw [Host.probes, List.filterMap_append, List.filterMap_append, files, directories,
    List.filterMap_cons_none rfl, files, List.nil_append]
  rfl

/-! ### The search in the order it is made -/

theorem configured_of_overlong {raw : Option String} (named : setting raw = some path)
    (long : host.files.Overlong path) :
    host.configured wanted raw = .error (.nameTooLong path.toString) := by
  rw [configured, named]
  exact existing_of_overlong long

theorem configured_of_short {raw : Option String}
    (short : ∀ path, setting raw = some path → ¬host.files.Overlong path) :
    host.configured wanted raw =
      .ok ((setting raw).filter fun path => wanted (host.files.find path)) := by
  rw [configured]
  cases named : setting raw with
  | none => rfl
  | some path => simp only [existing_of_short (short path named), Option.filter_some]

theorem configured_cases (host : Host) (wanted : Found → Bool) (raw : Option String) :
    (∃ path, setting raw = some path ∧ host.files.Overlong path ∧
      host.configured wanted raw = .error (.nameTooLong path.toString)) ∨
    (∀ path, setting raw = some path → ¬host.files.Overlong path) ∧
      host.configured wanted raw =
        .ok ((setting raw).filter fun path => wanted (host.files.find path)) := by
  by_cases long : ∃ path, setting raw = some path ∧ host.files.Overlong path
  · obtain ⟨path, named, long⟩ := long
    exact .inl ⟨path, named, long, configured_of_overlong named long⟩
  · have short : ∀ path, setting raw = some path → ¬host.files.Overlong path :=
      fun path named overlong => long ⟨path, named, overlong⟩
    exact .inr ⟨short, configured_of_short short⟩

theorem eq_of_libraryDirectory {directory : Option Path}
    (found : host.libraryDirectory = .ok directory) : directory = host.givenDirectory := by
  obtain ⟨path, -, -, failed⟩ | ⟨-, given⟩ :=
    host.configured_cases Found.isDirectory host.settings.directory
  · cases failed.symm.trans found
  · exact Except.ok.inj (found.symm.trans given)

theorem eq_of_packageDirectory {directory : Path} (found : host.packageDirectory = .ok directory) :
    directory = (host.files.realPath host.installed).parent := by
  by_cases loops : host.files.Lookup (host.files.realPath host.installed) .looping
  · cases (packageDirectory_of_loop loops).symm.trans found
  · exact Except.ok.inj (found.symm.trans (packageDirectory_of_clear loops))

theorem search_setting (host : Host) (raw : Option String) (rest : List Probe) :
    search host ((setting raw).toList.map .file ++ rest) =
      match host.configured Found.exists? raw with
      | .ok none => search host rest
      | decided => decided := by
  unfold configured
  cases setting raw <;> rfl

theorem search_files (host : Host) (paths : List Path) :
    search host (paths.map .file) = host.firstExisting paths := by
  induction paths with
  | nil => rfl
  | cons path rest ih =>
      simp only [List.map_cons, search, Probe.outcome, firstExisting, ih]
      cases host.existing Found.exists? path with
      | error fault => rfl
      | ok found => cases found <;> rfl

theorem search_directory (host : Host) (rest : List Probe) :
    search host ((setting host.settings.directory).toList.map .directory ++ rest) =
      match host.libraryDirectory with
      | .error fault => .error fault
      | .ok _ => search host rest := by
  unfold libraryDirectory configured
  cases setting host.settings.directory with
  | none => rfl
  | some path =>
      simp only [Option.toList_some, List.map_cons, List.map_nil, List.cons_append, List.nil_append,
        search, Probe.outcome]
      cases host.existing Found.isDirectory path <;> rfl

theorem search_package (host : Host) (rest : List Probe) :
    search host (.package :: rest) =
      match host.packageDirectory with
      | .error fault => .error fault
      | .ok _ => search host rest := by
  rw [search, Probe.outcome]
  cases host.packageDirectory <;> rfl

theorem findLibrary_eq (host : Host) (name : String) :
    host.findLibrary name = search host (host.probes name) := by
  rw [probes, search_setting, findLibrary, libraryPath]
  cases host.configured Found.exists? host.settings.library with
  | error fault => rfl
  | ok found =>
      cases found with
      | some path => rfl
      | none =>
          rw [search_directory, search_package, search_files]
          cases directory : host.libraryDirectory with
          | error fault => rfl
          | ok found =>
              cases lies : host.packageDirectory with
              | error fault => rfl
              | ok place =>
                  -- The files listed follow what the tree finds, the search what its steps gave.
                  rw [eq_of_libraryDirectory directory, eq_of_packageDirectory lies]
                  rfl

theorem findLibrary_eq_error :
    host.findLibrary name = .error fault ↔ Fails host (host.probes name) fault := by
  rw [findLibrary_eq, search_eq_error]

theorem findLibrary_of_quiet (quiet : ∀ fault, ¬Fails host (host.probes name) fault) :
    host.findLibrary name = .ok ((host.candidates name).find? fun path => host.Exists path) := by
  rw [findLibrary_eq, search_of_quiet quiet, filterMap_probes]

theorem quiet_of_findLibrary {answer : Option Path} (found : host.findLibrary name = .ok answer)
    (fault : Fault) : ¬Fails host (host.probes name) fault := by
  intro fails
  rw [findLibrary_eq_error.mpr fails] at found
  cases found

/-- A setting gives the path it names if that is what is wanted, and nothing if not, unless the path
is over-long. -/
structure Gives (host : Host) (wanted : Found → Bool) (raw : Option String)
    (outcome : Except Fault (Option Path)) : Prop where
  returns : outcome = .ok ((setting raw).filter fun path => wanted (host.files.find path)) ↔
    ∀ path, setting raw = some path → ¬host.files.Overlong path
  raises : ∀ fault, outcome = .error fault ↔
    ∃ path, setting raw = some path ∧ host.files.Overlong path ∧
      fault = .nameTooLong path.toString
  kind : ∀ fault, outcome = .error fault → fault.kind = .system

theorem configured_gives (host : Host) (wanted : Found → Bool) (raw : Option String) :
    host.Gives wanted raw (host.configured wanted raw) := by
  obtain ⟨path, named, long, failed⟩ | ⟨short, given⟩ := host.configured_cases wanted raw
  · constructor
    · rw [failed]
      exact ⟨nofun, fun short => absurd long (short path named)⟩
    · intro fault
      rw [failed]
      constructor
      · rintro ⟨⟩
        exact ⟨path, named, long, rfl⟩
      · rintro ⟨other, same, -, rfl⟩
        rw [Option.some.inj (named.symm.trans same)]
    · rw [failed]
      rintro _ ⟨⟩
      rfl
  · refine ⟨⟨fun _ => short, fun _ => given⟩, fun fault => ?_, ?_⟩
    · rw [given]
      exact ⟨nofun, fun ⟨path, named, long, _⟩ => absurd long (short path named)⟩
    · rw [given]
      exact nofun

/-- What does not exist is passed over, be it missing, a link that leads to nothing or to itself, or
behind a file. Only an over-long path is refused, and a package whose own path goes in a circle. -/
theorem found_unless_overlong (host : Host) (name : String) :
    (∀ path found, host.files.find path = found ↔ host.files.Lookup path found) ∧
    host.Gives Found.exists? host.settings.library host.libraryPath ∧
    host.Gives Found.isDirectory host.settings.directory host.libraryDirectory ∧
    (host.findLibrary name = .ok ((host.candidates name).find? fun path => host.Exists path) ↔
      ∀ fault, ¬Fails host (host.probes name) fault) ∧
    ∀ fault, (host.findLibrary name = .error fault ↔ Fails host (host.probes name) fault) ∧
      (host.findLibrary name = .error fault → fault.kind = .system ∨ fault.kind = .runtime ∧
        host.files.Lookup (host.files.realPath host.installed) .looping) := by
  refine ⟨fun path found => FileTree.lookup_iff.symm, host.configured_gives _ _,
    host.configured_gives _ _, ⟨quiet_of_findLibrary, findLibrary_of_quiet⟩,
    fun fault => ⟨findLibrary_eq_error, fun failed => ?_⟩⟩
  exact (findLibrary_eq_error.mp failed).kind

/-- A name of so many bytes. -/
def nameOf (length : Nat) : String :=
  String.ofList (List.replicate length 'x')

theorem eq_of_mem_nameOf {length : Nat} {c : Char} (member : c ∈ (nameOf length).toList) :
    c = 'x' := by
  rw [nameOf, String.toList_ofList] at member
  exact List.eq_of_mem_replicate member

theorem utf8ByteSize_nameOf (length : Nat) : (nameOf length).utf8ByteSize = length := by
  induction length with
  | zero => rfl
  | succ length ih =>
      have first : (String.singleton 'x').utf8ByteSize = 1 := rfl
      rw [nameOf, List.replicate_succ, String.ofList_cons, String.utf8ByteSize_append, first]
      rw [nameOf] at ih
      omega

theorem setting_of_plain {text : String} (clear : ∀ c ∈ text.toList, Text.isBlank c = false)
    (plain : '/' ∉ text.toList) (named : Path.isNamed text = true) :
    setting (some text) = some ⟨.here, [text]⟩ := by
  have nonempty : text ≠ "" := fun empty => by simp [empty, Path.isNamed] at named
  simp [setting, Settings.present, Text.trimmed_of_clear clear, nonempty,
    Path.ofString_of_plain plain named]

theorem overlong_of_name {name : String} (clear : Char.ofNat 0 ∉ name.toList)
    (long : FileTree.maxName < name.utf8ByteSize) (tree : FileTree) :
    tree.Overlong ⟨.here, [name]⟩ :=
  .name (by rwa [Path.toString_name]) .refl long

/-- Both settings give a name that is one byte too long. -/
def misnaming : Host :=
  { Host.bare with
    settings := ⟨some (nameOf 256), some (nameOf 256), none⟩ }

/-- The working directory is searched. -/
def searchingHere : Host :=
  { Host.bare with settings := ⟨none, some ".", none⟩ }

theorem configured_longName (host : Host) (wanted : Found → Bool) :
    host.configured wanted (some (nameOf 256)) = .error (.nameTooLong (nameOf 256)) := by
  have long : FileTree.maxName < (nameOf 256).utf8ByteSize := by
    rw [utf8ByteSize_nameOf]
    decide
  have named : setting (some (nameOf 256)) = some ⟨.here, [nameOf 256]⟩ := by
    refine setting_of_plain (fun c member => ?_) (fun member => ?_) (FileTree.named_of_long long).1
    · rw [eq_of_mem_nameOf member]
      decide
    · exact absurd (eq_of_mem_nameOf member) (by decide)
  have overlong := overlong_of_name (fun member => absurd (eq_of_mem_nameOf member) (by decide))
    long host.files
  rw [configured_of_overlong named overlong, Path.toString_name]

theorem not_mem_filename {c : Char} (other : c ≠ 'x') (front : c ∉ "lib".toList)
    (back : c ∉ ".so".toList) (length : Nat) :
    c ∉ (filename "Linux" (nameOf length)).toList := by
  have spelled : filename "Linux" (nameOf length) = "lib" ++ nameOf length ++ ".so" := rfl
  rw [spelled, String.toList_append, String.toList_append, List.mem_append, List.mem_append]
  rintro ((member | member) | member)
  · exact front member
  · exact other (eq_of_mem_nameOf member)
  · exact back member

theorem searchingHere_fails : Fails searchingHere (searchingHere.probes (nameOf 256))
    (.nameTooLong (filename "Linux" (nameOf 256))) := by
  have spelled : filename "Linux" (nameOf 256) = "lib" ++ nameOf 256 ++ ".so" := rfl
  have long : FileTree.maxName < (filename "Linux" (nameOf 256)).utf8ByteSize := by
    rw [spelled, String.utf8ByteSize_append, String.utf8ByteSize_append, utf8ByteSize_nameOf]
    decide
  have file : Path.ofString (filename "Linux" (nameOf 256)) =
      ⟨.here, [filename "Linux" (nameOf 256)]⟩ :=
    Path.ofString_of_plain (not_mem_filename (by decide) (by decide) (by decide) 256)
      (FileTree.named_of_long long).1
  have overlong : searchingHere.files.Overlong ⟨.here, [filename "Linux" (nameOf 256)]⟩ :=
    overlong_of_name (not_mem_filename (by decide) (by decide) (by decide) 256) long _
  have directory : (Probe.directory ⟨.here, []⟩).Passes searchingHere := by
    refine ⟨fun fault raises => ?_, nofun⟩
    cases raises with
    | directory long => cases FileTree.overlong_iff.mp long
  have package : Probe.package.Passes searchingHere := by
    refine ⟨fun fault raises => ?_, nofun⟩
    cases raises with
    | package loops => cases FileTree.lookup_iff.mp loops
  have probes : searchingHere.probes (nameOf 256) =
      .directory ⟨.here, []⟩ :: .package ::
        .file (Path.join ⟨.here, []⟩ (.ofString (filename "Linux" (nameOf 256)))) ::
        [.file (Path.join ⟨.root, ["package"]⟩ (.ofString (filename "Linux" (nameOf 256))))] := rfl
  have raises := Probe.Raises.file overlong
  rw [Path.toString_name] at raises
  rw [probes, file]
  exact .later directory (.later package (.here raises))

/-- An over-long setting is no setting that names nothing, and an over-long name no name that nothing
has. -/
theorem unfound_of_longName :
    (¬∃ answer, misnaming.libraryPath = .ok answer) ∧
    (¬∃ answer, misnaming.libraryDirectory = .ok answer) ∧
    ¬∃ answer, searchingHere.findLibrary (nameOf 256) = .ok answer := by
  refine ⟨?_, ?_, ?_⟩
  · rintro ⟨answer, found⟩
    cases (misnaming.configured_longName Found.exists?).symm.trans found
  · rintro ⟨answer, found⟩
    cases (misnaming.configured_longName Found.isDirectory).symm.trans found
  · rintro ⟨answer, found⟩
    exact quiet_of_findLibrary found _ searchingHere_fails

end ForeignCall.Host
