import ForeignCall.Path
import ForeignCall.Table

/-! A tree of directories, files and symbolic links, and what a path leads to in it. A place in the
tree is the list of names that lead to it from the root. -/

namespace ForeignCall

inductive Node where
  | directory
  | file
  | link (target : String)
  deriving DecidableEq

structure FileTree where
  /-- The place of the working directory. -/
  home : List String
  entries : List (List String × Node)

inductive Found where
  | directory (place : List String)
  | file (place : List String)
  | absent
  | looping
  | nameTooLong
  deriving DecidableEq

namespace Found

def exists? : Found → Bool
  | .directory _ => true
  | .file _ => true
  | _ => false

def isDirectory : Found → Bool
  | .directory _ => true
  | _ => false

theorem exists_of_isDirectory {found : Found} (lies : found.isDirectory = true) :
    found.exists? = true := by
  cases found with
  | directory => rfl
  | _ => cases lies

end Found

namespace FileTree

def emptyAt (home : List String) : FileTree := ⟨home, []⟩

def empty : FileTree := emptyAt []

def maxName : Nat := 255

/-- A path this long in bytes cannot be looked up. -/
def pathLimit : Nat := 4096

def maxLinks : Nat := 40

/-- The working directory and what it lies in are there whatever the entries are. -/
def node? (tree : FileTree) (place : List String) : Option Node :=
  if place.isPrefixOf tree.home then some .directory else Table.get? place tree.entries

/-- The names a link or a path is written with. A link's target keeps its empty and `.` components,
which only a directory can be followed by. -/
def names (s : String) : List String :=
  (Path.components s.toList).map String.ofList

/-- Where a link in a directory is followed from. -/
def linkStart (directory : List String) (target : String) : List String :=
  match Path.anchorOf target.toList with
  | .here => directory
  | _ => []

/-- Follows names from a place. `follow` goes on after a link. -/
def walkWith (follow : List String → List String → Found) (tree : FileTree) :
    Found → List String → Found
  | found, [] => found
  | .absent, _ :: _ => .absent
  | .looping, _ :: _ => .looping
  | .nameTooLong, _ :: _ => .nameTooLong
  | .file _, _ :: _ => .absent
  | .directory place, name :: rest =>
      if !Path.isNamed name then walkWith follow tree (.directory place) rest
      else if maxName < name.utf8ByteSize then .nameTooLong
      else if name = ".." then walkWith follow tree (.directory place.dropLast) rest
      else
        match tree.node? (place ++ [name]) with
        | none => .absent
        | some .directory => walkWith follow tree (.directory (place ++ [name])) rest
        | some .file => walkWith follow tree (.file (place ++ [name])) rest
        | some (.link target) => follow (linkStart place target) (names target ++ rest)

/-- Follows names from a directory, and so many links on the way. -/
def walk (tree : FileTree) : Nat → List String → List String → Found
  | 0, place, names => walkWith (fun _ _ => .looping) tree (.directory place) names
  | links + 1, place, names => walkWith (walk tree links) tree (.directory place) names

def start (tree : FileTree) : Anchor → List String
  | .here => tree.home
  | .root => []
  | .doubleRoot => []

def find (tree : FileTree) (path : Path) : Found :=
  let text := path.toString
  if text.toList.contains (Char.ofNat 0) then .absent
  else if pathLimit ≤ text.utf8ByteSize then .nameTooLong
  else walk tree maxLinks (tree.start path.anchor) path.parts

def set (tree : FileTree) (place : List String) (node : Node) : FileTree :=
  { tree with entries := Table.set place node tree.entries }

def enter (tree : FileTree) (place : List String) (name : String) :
    FileTree × Option (List String) :=
  match walk tree maxLinks place [name], tree.node? (place ++ [name]) with
  | .directory place, _ => (tree, some place)
  | .absent, none => (tree.set (place ++ [name]) .directory, some (place ++ [name]))
  | _, _ => (tree, none)

def enterAll (tree : FileTree) (place : List String) :
    List String → FileTree × Option (List String)
  | [] => (tree, some place)
  | name :: rest =>
      match tree.enter place name with
      | (tree, some place) => enterAll tree place rest
      | (tree, none) => (tree, none)

def add (tree : FileTree) (path : String) (node : Node) : FileTree :=
  let parts := (Path.ofString path).parts
  match tree.enterAll tree.home parts.dropLast, parts.getLast? with
  | (tree, some place), some name =>
      match node with
      | .directory => (tree.enter place name).1
      | node => tree.set (place ++ [name]) node
  | (tree, _), _ => tree

/-- A tree with directories, then files, then links added to it. -/
def addLists (tree : FileTree) (directories files : List String)
    (links : List (String × String)) : FileTree :=
  let tree := directories.foldl (fun tree path => tree.add path .directory) tree
  let tree := files.foldl (fun tree path => tree.add path .file) tree
  links.foldl (fun tree (path, target) => tree.add path (.link target)) tree

def ofLists (directories files : List String) (links : List (String × String)) : FileTree :=
  empty.addLists directories files links

def filePlace? (tree : FileTree) (path : String) : Option (List String) :=
  match tree.find (Path.ofString path) with
  | .file place => some place
  | _ => none

end FileTree

end ForeignCall
