import ForeignCall.Loading

/-! What one load does: how it can end, and what each ending leaves behind. The endings are derived
from the program once; what holds of every load is read off them. -/

namespace ForeignCall

namespace LibraryFile

/-- The file as it is when it has just been opened. -/
def image (file : LibraryFile) (arena : Nat) : Image :=
  ⟨file.symbols, file.version, arena, file.allocScript, file.freeScript, [], 0⟩

def Binds (file : LibraryFile) (stem : String) : Prop :=
  allocName stem ∈ file.symbols ∧ freeName stem ∈ file.symbols

end LibraryFile

/-- The library calls the buffer symbols with this stem, and its image has them. -/
structure Library.BoundTo (library : Library) (image : Image) (stem : String) : Prop where
  named : library.stem = stem
  allocs : LibraryFile.allocName stem ∈ image.symbols
  frees : LibraryFile.freeName stem ∈ image.symbols

namespace Caller

def opening (caller : Caller) (file : LibraryFile) : Caller :=
  { caller with
    heap := caller.heap.addArena.2
    images := caller.images ++ [file.image caller.heap.arenas.length] }

/-- The library that a file gives under a stem, if it is opened next. -/
def bound (caller : Caller) (file : LibraryFile) (stem : String) : Library :=
  ⟨caller.images.length, stem, file.symbols.contains (LibraryFile.versionName stem)⟩

/-- The file is opened, its library is remembered under the path, and a record says so. -/
def binding (caller : Caller) (path : Path) (file : LibraryFile) (stem : String) : Caller :=
  { caller.opening file with
    libraries := caller.libraries ++ [caller.bound file stem]
    loaded := Table.set path caller.libraries.length caller.loaded
    log := caller.log ++ [.libraryLoaded path.toString] }

def installing (caller : Caller) (install : Bool) (number : Nat) (library : Library) : Caller :=
  if install then
    { caller with active := ⟨libraryAllocatorName number, .image library.image⟩ }
  else caller

/-- The numbers that paths are remembered with are numbers of libraries. -/
def Shelved (caller : Caller) : Prop :=
  ∀ path number, Table.get? path caller.loaded = some number → number < caller.libraries.length

section Fields

variable (caller : Caller) (install : Bool) (number : Nat) (library : Library)

@[simp] theorem installing_loaded :
    (caller.installing install number library).loaded = caller.loaded := by
  cases install <;> rfl

@[simp] theorem installing_libraries :
    (caller.installing install number library).libraries = caller.libraries := by
  cases install <;> rfl

@[simp] theorem installing_images :
    (caller.installing install number library).images = caller.images := by
  cases install <;> rfl

@[simp] theorem installing_log :
    (caller.installing install number library).log = caller.log := by
  cases install <;> rfl

theorem installing_active :
    (caller.installing install number library).active =
      if install then ⟨libraryAllocatorName number, .image library.image⟩ else caller.active := by
  cases install <;> rfl

end Fields

/-- The number is that of a library made of an image. -/
structure Holds (caller : Caller) (number : Nat) (library : Library) (image : Image) : Prop where
  numbered : caller.libraries[number]? = some library
  opened : caller.images[library.image]? = some image

/-- Paths keep their numbers, and numbers their libraries and images. -/
structure Grown (before after : Caller) : Prop where
  loaded : ∀ path number, Table.get? path before.loaded = some number →
    Table.get? path after.loaded = some number
  libraries : before.libraries <+: after.libraries
  images : before.images <+: after.images

namespace Grown

variable {before middle after : Caller}

theorem refl (caller : Caller) : caller.Grown caller :=
  ⟨fun _ _ found => found, List.prefix_refl _, List.prefix_refl _⟩

theorem trans (first : before.Grown middle) (second : middle.Grown after) : before.Grown after where
  loaded path number found := second.loaded path number (first.loaded path number found)
  libraries := first.libraries.trans second.libraries
  images := first.images.trans second.images

theorem of_eq (loaded : after.loaded = before.loaded) (libraries : after.libraries = before.libraries)
    (images : after.images = before.images) : before.Grown after :=
  ⟨fun _ _ found => loaded ▸ found, libraries ▸ List.prefix_refl _, images ▸ List.prefix_refl _⟩

theorem installing (grown : before.Grown after) (install : Bool) (number : Nat)
    (library : Library) : before.Grown (after.installing install number library) where
  loaded path number found := by simpa using grown.loaded path number found
  libraries := by simpa using grown.libraries
  images := by simpa using grown.images

theorem opening (caller : Caller) (file : LibraryFile) : caller.Grown (caller.opening file) :=
  ⟨fun _ _ found => found, List.prefix_refl _, List.prefix_append ..⟩

theorem binding {caller : Caller} {path : Path} (new : Table.get? path caller.loaded = none)
    (file : LibraryFile) (stem : String) : caller.Grown (caller.binding path file stem) where
  loaded other number found := by
    have apart : other ≠ path := fun same => by simp [same, new] at found
    exact (Table.get?_set_of_ne apart ..).trans found
  libraries := List.prefix_append ..
  images := List.prefix_append ..

theorem holds (grown : before.Grown after) {number : Nat} {library : Library} {image : Image}
    (holds : before.Holds number library image) : after.Holds number library image := by
  obtain ⟨numbered, there⟩ := List.getElem?_eq_some_iff.mp holds.numbered
  obtain ⟨indexed, here⟩ := List.getElem?_eq_some_iff.mp holds.opened
  exact ⟨by rw [List.prefix_iff_getElem?.mp grown.libraries number numbered, there],
    by rw [List.prefix_iff_getElem?.mp grown.images library.image indexed, here]⟩

end Grown

end Caller

namespace Loading

/-- What a load is asked for. -/
structure Request where
  name : String
  stem : Option String
  install : Bool

def Request.wanted (request : Request) : String :=
  Caller.stemFor request.name request.stem

def Request.load (request : Request) : Action Caller (Option Nat) :=
  Caller.loadLibrary request.name request.stem request.install

/-- How a load can end. -/
inductive Ending (request : Request) (before : Caller) : Except Fault (Option Nat) → Caller → Prop
  | unsearchable {fault : Fault}
      (search : before.host.findLibrary request.name = .error fault) :
      Ending request before (.error fault) before
  | notFound (search : before.host.findLibrary request.name = .ok none) :
      Ending request before (.ok none) before
  | known {path : Path} {number : Nat} {library : Library}
      (search : before.host.findLibrary request.name = .ok (some path))
      (cached : Table.get? path before.loaded = some number)
      (there : before.libraries[number]? = some library) :
      Ending request before (.ok (some number)) (before.installing request.install number library)
  | unopenable {path : Path}
      (search : before.host.findLibrary request.name = .ok (some path))
      (new : Table.get? path before.loaded = none)
      (closed : before.host.libraryFile? path = none) :
      Ending request before (.error (.unopenable path.toString)) before
  | unbound {path : Path} {file : LibraryFile} {symbol : String}
      (search : before.host.findLibrary request.name = .ok (some path))
      (new : Table.get? path before.loaded = none)
      (opened : before.host.libraryFile? path = some file)
      (required : symbol = LibraryFile.allocName request.wanted ∨
        symbol = LibraryFile.freeName request.wanted)
      (lacking : symbol ∉ file.symbols) :
      Ending request before (.error (.missingSymbol symbol)) (before.opening file)
  | bound {path : Path} {file : LibraryFile}
      (search : before.host.findLibrary request.name = .ok (some path))
      (new : Table.get? path before.loaded = none)
      (opened : before.host.libraryFile? path = some file)
      (binds : file.Binds request.wanted) :
      Ending request before (.ok (some before.libraries.length))
        ((before.binding path file request.wanted).installing request.install
          before.libraries.length (before.bound file request.wanted))

end Loading

namespace Caller

variable {caller : Caller} {path : Path} {file : LibraryFile} {stem : String}

theorem bindSymbols_of_binds {image : Nat} {opened : Image}
    (found : caller.images[image]? = some opened)
    (allocs : LibraryFile.allocName stem ∈ opened.symbols)
    (frees : LibraryFile.freeName stem ∈ opened.symbols) :
    bindSymbols image stem caller =
      (.ok ⟨image, stem, opened.symbols.contains (LibraryFile.versionName stem)⟩, caller) := by
  simp [bindSymbols, found, allocs, frees]

theorem bindSymbols_of_lacking {image : Nat} {opened : Image}
    (found : caller.images[image]? = some opened)
    (lacking : ¬(LibraryFile.allocName stem ∈ opened.symbols ∧
      LibraryFile.freeName stem ∈ opened.symbols)) :
    ∃ symbol, (symbol = LibraryFile.allocName stem ∨ symbol = LibraryFile.freeName stem) ∧
      symbol ∉ opened.symbols ∧
      bindSymbols image stem caller = (.error (.missingSymbol symbol), caller) := by
  by_cases allocs : LibraryFile.allocName stem ∈ opened.symbols
  · have frees : LibraryFile.freeName stem ∉ opened.symbols := fun frees => lacking ⟨allocs, frees⟩
    exact ⟨_, .inr rfl, frees, by simp [bindSymbols, found, allocs, frees]⟩
  · exact ⟨_, .inl rfl, allocs, by simp [bindSymbols, found, allocs]⟩

theorem openFile_eq (caller : Caller) (file : LibraryFile) :
    openFile file caller = (.ok caller.images.length, caller.opening file) := rfl

theorem opening_images (caller : Caller) (file : LibraryFile) :
    (caller.opening file).images[caller.images.length]? =
      some (file.image caller.heap.arenas.length) :=
  List.getElem?_concat_length

theorem openPath_of_file (opened : caller.host.libraryFile? path = some file) :
    openPath path caller = (.ok file, caller) := by
  rw [openPath, Action.bind_of_ok (Action.state_apply caller), opened]
  rfl

theorem openPath_of_none (closed : caller.host.libraryFile? path = none) :
    openPath path caller = (.error (.unopenable path.toString), caller) := by
  rw [openPath, Action.bind_of_ok (Action.state_apply caller), closed]
  rfl

theorem loadPath_of_known {number : Nat} (cached : Table.get? path caller.loaded = some number) :
    loadPath path stem caller = (.ok number, caller) := by
  rw [loadPath, Action.bind_of_ok (Action.state_apply caller), cached]
  rfl

theorem loadPath_of_new (new : Table.get? path caller.loaded = none) :
    loadPath path stem caller = (do
      let number ← bindFile (← openPath path) stem
      remember path number
      return number) caller := by
  rw [loadPath, Action.bind_of_ok (Action.state_apply caller), new]

theorem bindFile_of_binds (binds : file.Binds stem) :
    bindFile file stem caller = (.ok caller.libraries.length,
      { caller.opening file with libraries := caller.libraries ++ [caller.bound file stem] }) := by
  have bound := bindSymbols_of_binds (caller.opening_images file) binds.1 binds.2
  rw [bindFile, Action.bind_of_ok (caller.openFile_eq file), Action.bind_of_ok bound]
  rfl

theorem bindFile_of_lacking (lacking : ¬file.Binds stem) :
    ∃ symbol, (symbol = LibraryFile.allocName stem ∨ symbol = LibraryFile.freeName stem) ∧
      symbol ∉ file.symbols ∧
      bindFile file stem caller = (.error (.missingSymbol symbol), caller.opening file) := by
  obtain ⟨symbol, required, absent, failed⟩ :=
    bindSymbols_of_lacking (caller.opening_images file) lacking
  refine ⟨symbol, required, absent, ?_⟩
  rw [bindFile, Action.bind_of_ok (caller.openFile_eq file), Action.bind_of_error failed]

theorem loadPath_of_unopenable (new : Table.get? path caller.loaded = none)
    (closed : caller.host.libraryFile? path = none) :
    loadPath path stem caller = (.error (.unopenable path.toString), caller) := by
  rw [loadPath_of_new new, Action.bind_of_error (openPath_of_none closed)]

theorem loadPath_of_lacking (new : Table.get? path caller.loaded = none)
    (opened : caller.host.libraryFile? path = some file) (lacking : ¬file.Binds stem) :
    ∃ symbol, (symbol = LibraryFile.allocName stem ∨ symbol = LibraryFile.freeName stem) ∧
      symbol ∉ file.symbols ∧
      loadPath path stem caller = (.error (.missingSymbol symbol), caller.opening file) := by
  obtain ⟨symbol, required, absent, failed⟩ := bindFile_of_lacking lacking
  refine ⟨symbol, required, absent, ?_⟩
  rw [loadPath_of_new new, Action.bind_of_ok (openPath_of_file opened),
    Action.bind_of_error failed]

theorem loadPath_of_binds (new : Table.get? path caller.loaded = none)
    (opened : caller.host.libraryFile? path = some file) (binds : file.Binds stem) :
    loadPath path stem caller =
      (.ok caller.libraries.length, caller.binding path file stem) := by
  rw [loadPath_of_new new, Action.bind_of_ok (openPath_of_file opened),
    Action.bind_of_ok (bindFile_of_binds binds)]
  rfl

theorem install_of_library {number : Nat} {library : Library}
    (there : caller.libraries[number]? = some library) (install : Bool) :
    (do
      if install then
        let _ ← activate (← libraryAllocator (libraryAllocatorName number) number)
      return some number : Action Caller (Option Nat)) caller =
      (.ok (some number), caller.installing install number library) := by
  cases install with
  | false => rfl
  | true =>
      have allocator : libraryAllocator (libraryAllocatorName number) number caller =
          (.ok ⟨libraryAllocatorName number, .image library.image⟩, caller) := by
        rw [libraryAllocator, Action.bind_of_ok (Action.state_apply caller), there]
        rfl
      rw [if_pos rfl, Action.bind_of_ok allocator]
      rfl

variable {name : String} {prefer : Option String} {install : Bool}

theorem loadLibrary_of_path (search : caller.host.findLibrary name = .ok (some path)) :
    loadLibrary name prefer install caller = (do
      let number ← loadPath path (stemFor name prefer)
      if install then
        let _ ← activate (← libraryAllocator (libraryAllocatorName number) number)
      return some number) caller := by
  have found : Action.ofExcept (caller.host.findLibrary name) caller = (.ok (some path), caller) :=
    congrArg (·, caller) search
  rw [loadLibrary, Action.bind_of_ok (Action.state_apply caller), Action.bind_of_ok found]

theorem loadLibrary_of_number {number : Nat} {after : Caller} {library : Library}
    (search : caller.host.findLibrary name = .ok (some path))
    (loads : loadPath path (stemFor name prefer) caller = (.ok number, after))
    (there : after.libraries[number]? = some library) :
    loadLibrary name prefer install caller =
      (.ok (some number), after.installing install number library) := by
  rw [loadLibrary_of_path search, Action.bind_of_ok loads, install_of_library there]

theorem loadLibrary_of_failure {fault : Fault} {after : Caller}
    (search : caller.host.findLibrary name = .ok (some path))
    (fails : loadPath path (stemFor name prefer) caller = (.error fault, after)) :
    loadLibrary name prefer install caller = (.error fault, after) := by
  rw [loadLibrary_of_path search, Action.bind_of_error fails]

end Caller

namespace Loading

variable {caller : Caller}

theorem Request.ending_of_path {path : Path} (request : Request) (shelved : caller.Shelved)
    (search : caller.host.findLibrary request.name = .ok (some path)) :
    Ending request caller (request.load caller).1 (request.load caller).2 := by
  cases cached : Table.get? path caller.loaded with
  | some number =>
      have there := List.getElem?_eq_getElem (shelved path number cached)
      rw [Request.load, Caller.loadLibrary_of_number search (Caller.loadPath_of_known cached) there]
      exact .known search cached there
  | none =>
      cases opened : caller.host.libraryFile? path with
      | none =>
          rw [Request.load,
            Caller.loadLibrary_of_failure search (Caller.loadPath_of_unopenable cached opened)]
          exact .unopenable search cached opened
      | some file =>
          by_cases binds : file.Binds request.wanted
          · have there : (caller.binding path file request.wanted).libraries[
                caller.libraries.length]? = some (caller.bound file request.wanted) :=
              List.getElem?_concat_length
            rw [Request.load, Caller.loadLibrary_of_number search
              (Caller.loadPath_of_binds cached opened binds) there]
            exact .bound search cached opened binds
          · obtain ⟨symbol, required, lacking, fails⟩ :=
              Caller.loadPath_of_lacking cached opened binds
            rw [Request.load, Caller.loadLibrary_of_failure search fails]
            exact .unbound search cached opened required lacking

/-- Every load ends in one of these ways. -/
theorem Request.ending (request : Request) (shelved : caller.Shelved) :
    Ending request caller (request.load caller).1 (request.load caller).2 := by
  cases search : caller.host.findLibrary request.name with
  | error fault =>
      have failed : Action.ofExcept (caller.host.findLibrary request.name) caller =
          (.error fault, caller) := congrArg (·, caller) search
      rw [Request.load, Caller.loadLibrary, Action.bind_of_ok (Action.state_apply caller),
        Action.bind_of_error failed]
      exact .unsearchable search
  | ok found =>
      cases found with
      | none =>
          have found : Action.ofExcept (caller.host.findLibrary request.name) caller =
              (.ok none, caller) := congrArg (·, caller) search
          rw [Request.load, Caller.loadLibrary, Action.bind_of_ok (Action.state_apply caller),
            Action.bind_of_ok found]
          exact .notFound search
      | some path => exact request.ending_of_path shelved search

namespace Ending

variable {request : Request} {before after : Caller} {result : Except Fault (Option Nat)}

theorem grown (ending : Ending request before result after) : before.Grown after := by
  cases ending with
  | unsearchable | notFound | unopenable => exact .refl before
  | known search cached there => exact (Caller.Grown.refl before).installing ..
  | unbound => exact .opening before _
  | bound search new opened binds => exact (Caller.Grown.binding new ..).installing ..

theorem shelved (ending : Ending request before result after) (shelved : before.Shelved) :
    after.Shelved := by
  cases ending with
  | unsearchable | notFound | unopenable | unbound => exact shelved
  | known search cached there => simpa [Caller.Shelved] using shelved
  | @bound path file search new opened binds =>
      intro other number found
      simp only [Caller.installing_loaded, Caller.installing_libraries] at found ⊢
      rw [Caller.binding] at found ⊢
      rw [List.length_append]
      by_cases same : other = path
      · rw [same, Table.get?_set_self] at found
        cases found
        exact Nat.lt_succ_self _
      · rw [Table.get?_set_of_ne same] at found
        exact Nat.lt_add_right 1 (shelved other number found)

/-- A load that returns no library leaves the paths loaded and the active allocator alone. -/
theorem kept (ending : Ending request before result after)
    (without : ∀ number, result ≠ .ok (some number)) :
    after.loaded = before.loaded ∧ after.active = before.active := by
  cases ending with
  | unsearchable | notFound | unopenable | unbound => exact ⟨rfl, rfl⟩
  | known | bound => exact absurd rfl (without _)

theorem returned {number : Nat} (ending : Ending request before result after)
    (returns : result = .ok (some number)) :
    ∃ path library, before.host.findLibrary request.name = .ok (some path) ∧
      Table.get? path after.loaded = some number ∧ after.libraries[number]? = some library ∧
      after.active =
        if request.install then ⟨Caller.libraryAllocatorName number, .image library.image⟩
        else before.active := by
  cases ending with
  | unsearchable | notFound | unopenable | unbound => cases returns
  | known search cached there =>
      cases returns
      exact ⟨_, _, search, by simpa using cached, by simpa using there,
        Caller.installing_active ..⟩
  | bound search new opened binds =>
      cases returns
      exact ⟨_, _, search, by simp [Caller.binding], by simp [Caller.binding],
        Caller.installing_active ..⟩

/-- A path that has been loaded is not opened again, whatever file lies there now. -/
theorem cached {path : Path} {number : Nat} (ending : Ending request before result after)
    (found : before.host.findLibrary request.name = .ok (some path))
    (cached : Table.get? path before.loaded = some number) :
    result = .ok (some number) ∧ after.images = before.images ∧
      after.libraries = before.libraries := by
  cases ending with
  | unsearchable search | notFound search => simp [search] at found
  | unopenable search new | unbound search new | bound search new =>
      obtain rfl : _ = path := by simpa [search] using found
      simp [new] at cached
  | known search there =>
      obtain rfl : _ = path := by simpa [search] using found
      obtain rfl : _ = number := by simpa [there] using cached
      simp

/-- What becomes of a path that has not been loaded depends on what lies there now. -/
theorem fresh {path : Path} (ending : Ending request before result after)
    (found : before.host.findLibrary request.name = .ok (some path))
    (new : Table.get? path before.loaded = none) :
    (before.host.libraryFile? path = none ∧ result = .error (.unopenable path.toString) ∧
      after = before) ∨
    ∃ file, before.host.libraryFile? path = some file ∧
      ((∃ symbol, (symbol = LibraryFile.allocName request.wanted ∨
            symbol = LibraryFile.freeName request.wanted) ∧
          symbol ∉ file.symbols ∧ result = .error (.missingSymbol symbol) ∧
          after = before.opening file) ∨
        (file.Binds request.wanted ∧
          after = (before.binding path file request.wanted).installing request.install
            before.libraries.length (before.bound file request.wanted))) := by
  cases ending with
  | unsearchable search | notFound search => simp [search] at found
  | known search cached =>
      obtain rfl : _ = path := by simpa [search] using found
      simp [new] at cached
  | unopenable search _ closed =>
      obtain rfl : _ = path := by simpa [search] using found
      exact .inl ⟨closed, rfl, rfl⟩
  | unbound search _ lies required lacking =>
      obtain rfl : _ = path := by simpa [search] using found
      exact .inr ⟨_, lies, .inl ⟨_, required, lacking, rfl, rfl⟩⟩
  | bound search _ lies binds =>
      obtain rfl : _ = path := by simpa [search] using found
      exact .inr ⟨_, lies, .inr ⟨binds, rfl⟩⟩

/-- A path that has not been loaded is opened, if what lies there can be. -/
theorem opened {path : Path} (ending : Ending request before result after)
    (found : before.host.findLibrary request.name = .ok (some path))
    (new : Table.get? path before.loaded = none) :
    after.images = before.images ++
      (before.host.libraryFile? path).toList.map (·.image before.heap.arenas.length) := by
  obtain ⟨closed, -, rfl⟩ | ⟨file, lies, ⟨_, -, -, -, rfl⟩ | ⟨-, rfl⟩⟩ := ending.fresh found new
  · simp [closed]
  · simp [lies, Caller.opening]
  · simp [lies, Caller.binding, Caller.opening]

theorem unopened {path : Path} (ending : Ending request before result after)
    (found : before.host.findLibrary request.name = .ok (some path))
    (new : Table.get? path before.loaded = none)
    (closed : before.host.libraryFile? path = none) :
    result = .error (.unopenable path.toString) := by
  obtain ⟨-, failed, -⟩ | ⟨file, lies, -⟩ := ending.fresh found new
  · exact failed
  · simp [closed] at lies

theorem lacked {path : Path} {file : LibraryFile} (ending : Ending request before result after)
    (found : before.host.findLibrary request.name = .ok (some path))
    (new : Table.get? path before.loaded = none)
    (lies : before.host.libraryFile? path = some file) (lacking : ¬file.Binds request.wanted) :
    ∃ symbol, (symbol = LibraryFile.allocName request.wanted ∨
        symbol = LibraryFile.freeName request.wanted) ∧
      symbol ∉ file.symbols ∧ result = .error (.missingSymbol symbol) := by
  obtain ⟨closed, -⟩ | ⟨other, there, ending⟩ := ending.fresh found new
  · simp [closed] at lies
  · obtain rfl : other = file := Option.some.inj (there.symm.trans lies)
    obtain ⟨symbol, required, absent, failed, -⟩ | ⟨binds, -⟩ := ending
    · exact ⟨symbol, required, absent, failed⟩
    · exact absurd binds lacking

/-- A load either makes a library of an opened file and remembers and records it, or it adds to
none of the three. -/
theorem recorded (ending : Ending request before result after) :
    (∃ path file, before.host.findLibrary request.name = .ok (some path) ∧
      before.host.libraryFile? path = some file ∧ file.Binds request.wanted ∧
      Table.get? path before.loaded = none ∧
      after.loaded = Table.set path before.libraries.length before.loaded ∧
      after.libraries = before.libraries ++ [before.bound file request.wanted] ∧
      after.log = before.log ++ [.libraryLoaded path.toString]) ∨
    (after.loaded = before.loaded ∧ after.libraries = before.libraries ∧
      after.log = before.log) := by
  cases ending with
  | unsearchable | notFound | unopenable | unbound => exact .inr ⟨rfl, rfl, rfl⟩
  | known => exact .inr (by simp)
  | bound search new opened binds =>
      exact .inl ⟨_, _, search, opened, binds, new, by simp [Caller.binding]⟩

end Ending

end Loading

end ForeignCall
