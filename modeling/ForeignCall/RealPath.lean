import ForeignCall.FileTree

/-! The path that a path becomes when its links are replaced by what they lead to. Names that nothing
has are kept as they are, and so is the rest of a path from a link that leads back to itself. -/

namespace ForeignCall

/-- A path with its links replaced, and whether all of them could be. -/
structure Resolved where
  path : Path
  complete : Bool

namespace FileTree

def link? (tree : FileTree) (place : List String) : Option String :=
  match tree.node? place with
  | some (.link target) => some target
  | _ => none

/-- The link that could not be replaced, with the names after it as they are written. -/
def unresolved (path : Path) (rest : List String) : Resolved :=
  ⟨path.join (Path.ofString (Path.joined rest)), false⟩

/-- Follows names from a place without links. `follow` replaces a link in a directory. -/
def resolveWith (follow : List String → List String → String → Resolved)
    (link? : List String → Option String) : List String → List String → Resolved
  | place, [] => ⟨⟨.root, place⟩, true⟩
  | place, name :: rest =>
      if !Path.isNamed name then resolveWith follow link? place rest
      else if name = ".." then resolveWith follow link? place.dropLast rest
      else
        match link? (place ++ [name]) with
        | none => resolveWith follow link? (place ++ [name]) rest
        | some target =>
            match follow place (place ++ [name]) target with
            | ⟨reached, true⟩ => resolveWith follow link? reached.parts rest
            | ⟨reached, false⟩ => unresolved reached rest

/-- Follows names while the links of `active` are being replaced. No more links can be than there
are. -/
def resolve (link? : List String → Option String) :
    Nat → List (List String) → List String → List String → Resolved
  | 0, _, place, names => resolveWith (fun _ link _ => ⟨⟨.root, link⟩, false⟩) link? place names
  | links + 1, active, place, names =>
      resolveWith
        (fun directory link target =>
          if link ∈ active then ⟨⟨.root, link⟩, false⟩
          else
            resolve link? links (link :: active) (linkStart directory target)
              (FileTree.names target))
        link? place names

def realPath (tree : FileTree) (path : Path) : Path :=
  let names := tree.start path.anchor ++ path.parts
  (resolve tree.link? tree.entries.length [] [] names).path.normalized

end FileTree

end ForeignCall
