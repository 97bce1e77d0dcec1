/-! File paths. Parsing drops repeated separators, `.` components and a trailing separator, and
keeps `..`, so that spellings that differ only in these are the same path. -/

namespace ForeignCall

inductive Anchor where
  | here
  | root
  /-- A path written with exactly two leading separators. -/
  | doubleRoot
  deriving DecidableEq

structure Path where
  anchor : Anchor
  parts : List String
  deriving DecidableEq

namespace Path

/-- The components between separators; adjacent separators have an empty one between them. -/
def components : List Char → List (List Char)
  | [] => [[]]
  | c :: rest =>
      match components rest with
      | [] => [[c]]
      | first :: others => if c = '/' then [] :: first :: others else (c :: first) :: others

def anchorOf : List Char → Anchor
  | '/' :: '/' :: '/' :: _ => .root
  | '/' :: '/' :: _ => .doubleRoot
  | '/' :: _ => .root
  | _ => .here

def isNamed (component : String) : Bool :=
  component ≠ "" && component ≠ "."

def ofString (s : String) : Path where
  anchor := anchorOf s.toList
  parts := ((components s.toList).map String.ofList).filter isNamed

theorem components_ne_nil (text : List Char) : components text ≠ [] := by
  cases text with
  | nil => simp [components]
  | cons c rest =>
      unfold components
      cases components rest with
      | nil => simp
      | cons first others => by_cases slash : c = '/' <;> simp [slash]

theorem components_append_separator (front back : List Char) :
    components (front ++ '/' :: back) = components front ++ components back := by
  induction front with
  | nil =>
      obtain ⟨first, others, split⟩ := List.exists_cons_of_ne_nil (components_ne_nil back)
      simp [components, split]
  | cons c rest ih =>
      obtain ⟨first, others, split⟩ := List.exists_cons_of_ne_nil (components_ne_nil rest)
      by_cases slash : c = '/' <;> simp [components, ih, split, slash]

theorem parts_ofString_separator (front back : String) :
    (ofString (front ++ "/" ++ back)).parts = (ofString front).parts ++ (ofString back).parts := by
  simp [ofString, components_append_separator]

theorem components_of_plain {text : List Char} (plain : '/' ∉ text) : components text = [text] := by
  induction text with
  | nil => rfl
  | cons c rest ih =>
      rw [List.mem_cons, not_or] at plain
      simp [components, ih plain.2, Ne.symm plain.1]

theorem ofString_of_plain {text : String} (plain : '/' ∉ text.toList)
    (named : isNamed text = true) : ofString text = ⟨.here, [text]⟩ := by
  have anchor : anchorOf text.toList = .here := by
    unfold anchorOf
    split <;> simp_all
  simp [ofString, anchor, components_of_plain plain, named]

/-- The text starts with a component, and not with a separator. -/
def StartsNamed (text : String) : Prop :=
  ∃ c rest, text.toList = c :: rest ∧ c ≠ '/'

theorem StartsNamed.append {front : String} (starts : StartsNamed front) (back : String) :
    StartsNamed (front ++ back) := by
  obtain ⟨c, rest, text, other⟩ := starts
  exact ⟨c, rest ++ back.toList, by simp [text], other⟩

theorem StartsNamed.anchor {text : String} (starts : StartsNamed text) :
    (ofString text).anchor = .here := by
  obtain ⟨c, rest, text, other⟩ := starts
  rw [ofString, text]
  unfold anchorOf
  split <;> simp_all

theorem StartsNamed.ofString_eq {text other : String} (starts : StartsNamed text)
    (alike : StartsNamed other) (parts : (ofString text).parts = (ofString other).parts) :
    ofString text = ofString other := by
  rw [Path.mk.injEq]
  exact ⟨starts.anchor.trans alike.anchor.symm, parts⟩

/-- A spelling with more separators and `.` components than the other, inside it or at its end. -/
inductive Respells : String → String → Prop
  | gap {front gap back : String} (starts : StartsNamed front) (blank : (ofString gap).parts = []) :
      Respells (front ++ "/" ++ gap ++ "/" ++ back) (front ++ "/" ++ back)
  | trailing {front gap : String} (starts : StartsNamed front)
      (blank : (ofString gap).parts = []) : Respells (front ++ "/" ++ gap) front

theorem Respells.ofString_eq {spelling other : String} (respells : Respells spelling other) :
    ofString spelling = ofString other := by
  cases respells with
  | gap starts blank =>
      refine StartsNamed.ofString_eq ((((starts.append _).append _).append _).append _)
        ((starts.append _).append _) ?_
      simp only [parts_ofString_separator, blank, List.append_nil]
  | trailing starts blank =>
      refine StartsNamed.ofString_eq ((starts.append _).append _) starts ?_
      rw [parts_ofString_separator, blank, List.append_nil]

example : ofString "lib/.//x.so/" = ofString "lib/x.so" := by decide

def joined (parts : List String) : String :=
  String.intercalate "/" parts

def toString (path : Path) : String :=
  match path.anchor with
  | .here => if path.parts.isEmpty then "." else joined path.parts
  | .root => "/" ++ joined path.parts
  | .doubleRoot => "//" ++ joined path.parts

theorem toString_name (name : String) : toString ⟨.here, [name]⟩ = name := by
  simp [toString, joined]

def join (directory path : Path) : Path :=
  match path.anchor with
  | .here => { directory with parts := directory.parts ++ path.parts }
  | _ => path

def child (path : Path) (name : String) : Path :=
  { path with parts := path.parts ++ [name] }

/-- The path one component shorter. The root is its own parent; above the working directory only
`..` leads on. -/
def parent (path : Path) : Path :=
  match path.anchor with
  | .root => { path with parts := path.parts.dropLast }
  | .doubleRoot => { path with parts := path.parts.dropLast }
  | .here =>
      if path.parts.isEmpty || path.parts.getLast? = some ".." then path.child ".."
      else { path with parts := path.parts.dropLast }

/-- One name further, with `..` taken back on paper. -/
def descend (path : Path) (name : String) : Path :=
  if !isNamed name then path
  else if name = ".." then path.parent
  else path.child name

def normalized (path : Path) : Path :=
  path.parts.foldl descend { path with parts := [] }

end Path

end ForeignCall
