import ForeignCall.Allocator

/-! Opening library files, binding their symbols, and the libraries loaded so far. -/

namespace ForeignCall.Caller

/-- Opens a library file, with an arena of its own behind its buffer symbols. -/
def openFile (file : LibraryFile) : Action Caller Nat := fun caller =>
  let (arena, heap) := caller.heap.addArena
  let image : Image := {
    symbols := file.symbols
    version := file.version
    arena
    allocScript := file.allocScript
    freeScript := file.freeScript
    lends := []
    freeCalls := 0 }
  (.ok caller.images.length, { caller with heap, images := caller.images ++ [image] })

/-- The library that an image makes with a stem. Both buffer symbols must be there. -/
def bindSymbols (image : Nat) (stem : String) : Action Caller Library := fun caller =>
  let symbols := (caller.images[image]?.map Image.symbols).getD []
  if !symbols.contains (LibraryFile.allocName stem) then
    (.error (.missingSymbol (LibraryFile.allocName stem)), caller)
  else if !symbols.contains (LibraryFile.freeName stem) then
    (.error (.missingSymbol (LibraryFile.freeName stem)), caller)
  else (.ok ⟨image, stem, symbols.contains (LibraryFile.versionName stem)⟩, caller)

def addLibrary (library : Library) : Action Caller Nat := fun caller =>
  (.ok caller.libraries.length, { caller with libraries := caller.libraries ++ [library] })

def bindFile (file : LibraryFile) (stem : String) : Action Caller Nat := do
  let image ← openFile file
  addLibrary (← bindSymbols image stem)

def openPath (path : Path) : Action Caller LibraryFile := do
  match (← Action.state).host.libraryFile? path with
  | some file => return file
  | none => .fail (.unopenable path.toString)

def remember (path : Path) (number : Nat) : Action Caller Unit := do
  .modify fun caller => { caller with loaded := Table.set path number caller.loaded }
  note (.libraryLoaded path.toString)

def stemFor (name : String) (stem : Option String) : String :=
  match stem with
  | none => s!"ffi_{name}"
  | some stem => if stem.isEmpty then s!"ffi_{name}" else stem

def loadPath (path : Path) (stem : String) : Action Caller Nat := do
  match Table.get? path (← Action.state).loaded with
  | some number => return number
  | none =>
      let number ← bindFile (← openPath path) stem
      remember path number
      return number

def libraryAllocatorName (number : Nat) : String :=
  s!"lib{number}"

def libraryAllocator (name : String) (number : Nat) : Action Caller Allocator := do
  match (← Action.state).libraries[number]? with
  | some library => return ⟨name, .image library.image⟩
  | none => .fail (.missing s!"{number}")

/-- Finds and loads a library, and makes its allocator the active one if asked to. -/
def loadLibrary (name : String) (stem : Option String) (install : Bool) :
    Action Caller (Option Nat) := do
  match ← .ofExcept ((← Action.state).host.findLibrary name) with
  | none => return none
  | some path =>
      let number ← loadPath path (stemFor name stem)
      if install then
        let _ ← activate (← libraryAllocator (libraryAllocatorName number) number)
      return some number

def checkContract (number : Nat) (expected : Int) : Action Caller Unit := do
  let caller ← Action.state
  match caller.libraries[number]? with
  | none => .fail (.missing s!"{number}")
  | some library =>
      let version := (caller.images[library.image]?.map Image.version).getD 0
      if !library.reportsVersion then .fail .noContract
      else if version ≠ expected then .fail (.contractMismatch expected version)
      else return ()

end ForeignCall.Caller
