import ForeignCall.Codec
import ForeignCall.RealPath

/-! Where libraries are looked for: the settings, the files and the name of the platform. -/

namespace ForeignCall

/-- How foreign code fills a status: a code, a payload to allocate, and a length that overrides the
payload's own. -/
structure Fill where
  code : Int
  payload : Option (List UInt8)
  length : Option Int

/-- What a library file offers: its symbols, the contract version it reports, and how its buffer
symbols answer their calls, in order. `none` in a script, or its end, is the ordinary answer. -/
structure LibraryFile where
  symbols : List String
  version : Int
  allocScript : List (Option Fill)
  freeScript : List (Option Fill)

namespace LibraryFile

def allocName (stem : String) : String := stem ++ "_rustbuffer_from_bytes"
def freeName (stem : String) : String := stem ++ "_rustbuffer_free"
def versionName (stem : String) : String := stem ++ "_uniffi_contract_version"

end LibraryFile

structure Host where
  settings : Settings
  files : FileTree
  libraries : List (List String × LibraryFile)
  system : String
  installed : Path

namespace Host

def bare : Host := ⟨.unset, .empty, [], "Linux", ⟨.root, ["package", "module"]⟩⟩

def lookUp (host : Host) (path : Path) : Except Fault Found :=
  match host.files.find path with
  | .nameTooLong => .error (.nameTooLong path.toString)
  | found => .ok found

def existing (host : Host) (wanted : Found → Bool) (path : Path) : Except Fault (Option Path) :=
  match host.lookUp path with
  | .error fault => .error fault
  | .ok found => .ok (if wanted found then some path else none)

def setting (raw : Option String) : Option Path :=
  (Settings.present raw).map Path.ofString

/-- The path that a setting names, if it leads to what is wanted. -/
def configured (host : Host) (wanted : Found → Bool) (raw : Option String) :
    Except Fault (Option Path) :=
  match setting raw with
  | none => .ok none
  | some path => host.existing wanted path

def libraryPath (host : Host) : Except Fault (Option Path) :=
  host.configured Found.exists? host.settings.library

def libraryDirectory (host : Host) : Except Fault (Option Path) :=
  host.configured Found.isDirectory host.settings.directory

def filename (system name : String) : String :=
  if system = "Darwin" then s!"lib{name}.dylib"
  else if system = "Windows" then s!"{name}.dll"
  else s!"lib{name}.so"

/-- The directory that this package's own file really lies in. -/
def packageDirectory (host : Host) : Except Fault Path :=
  let real := host.files.realPath host.installed
  match host.files.find real with
  | .looping => .error (.linkLoop real.toString)
  | _ => .ok real.parent

def firstExisting (host : Host) : List Path → Except Fault (Option Path)
  | [] => .ok none
  | path :: rest =>
      match host.existing Found.exists? path with
      | .error fault => .error fault
      | .ok (some path) => .ok (some path)
      | .ok none => firstExisting host rest

/-- The library file with a name: the one the settings give, else the one in the directory the
settings give, else the one in the package directory. -/
def findLibrary (host : Host) (name : String) : Except Fault (Option Path) :=
  match host.libraryPath with
  | .error fault => .error fault
  | .ok (some path) => .ok (some path)
  | .ok none =>
      match host.libraryDirectory with
      | .error fault => .error fault
      | .ok directory =>
          match host.packageDirectory with
          | .error fault => .error fault
          | .ok package =>
              let file := Path.ofString (filename host.system name)
              host.firstExisting ((directory.toList ++ [package]).map fun d => d.join file)

def libraryFile? (host : Host) (path : Path) : Option LibraryFile :=
  match host.files.find path with
  | .file place => Table.get? place host.libraries
  | _ => none

end Host

end ForeignCall
