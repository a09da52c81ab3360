/-!
# Trees of files

A tree of files in memory, with paths that are looked up the way an operating system does it: part
by part, each part but the last naming a directory.
-/

set_option autoImplicit false

namespace Lipogram

/-- Why a file cannot be read or written. -/
inductive FileError where
  | notFound
  | notDirectory
  | isDirectory
  | nameTooLong
  | notText
  | refused (reason : String)

/-- The wording of the error. -/
def FileError.message : FileError → String
  | notFound => "No such file or directory (os error 2)"
  | notDirectory => "Not a directory (os error 20)"
  | isDirectory => "Is a directory (os error 21)"
  | nameTooLong => "File name too long (os error 36)"
  | notText => "stream did not contain valid UTF-8"
  | refused reason => reason

/-- The text that bytes encode in UTF-8. -/
def decodeText (bytes : ByteArray) : Except FileError String :=
  match String.fromUTF8? bytes with
  | some text => .ok text
  | none => .error .notText

/-- A place in a tree: the names on the way from the root to it. -/
abbrev Place := List String

/-- What stands at a place. -/
inductive Entry where
  | file (content : ByteArray)
  | directory

/-- A tree of files. The root is a directory and is not listed; of two entries for one place the
first counts. -/
structure FileTree where
  entries : List (Place × Entry)

namespace FileTree

/-- What stands at a place. -/
def what? (tree : FileTree) (place : Place) : Option Entry :=
  if place.isEmpty then some .directory else tree.entries.lookup place

/-- The tree with an entry put at a place. -/
def put (tree : FileTree) (place : Place) (entry : Entry) : FileTree :=
  ⟨(place, entry) :: tree.entries⟩

/-- After an entry is put at a place below the root it stands there, and all else is as before. -/
theorem what_put (tree : FileTree) (place other : Place) (entry : Entry) (h : place ≠ []) :
    (tree.put place entry).what? other =
      if other = place then some entry else tree.what? other := by
  by_cases same : other = place
  · subst same
    simp [what?, put, h]
  · have differs : (other == place) = false := by simpa using same
    simp [what?, put, same, List.lookup_cons, differs]

/-- The most bytes that a name in a directory may have. -/
def longestName : Nat := 255

/-- The most bytes that a path may have. -/
def longestPath : Nat := 4095

/-- The place that parts of a path lead to from a place. -/
def walk (tree : FileTree) : Place → List String → Except FileError Place
  | place, [] => .ok place
  | place, part :: parts =>
    match tree.what? place with
    | none => .error .notFound
    | some (.file _) => .error .notDirectory
    | some .directory =>
      if part.isEmpty || part == "." then walk tree place parts
      else if part == ".." then walk tree place.dropLast parts
      else if longestName < part.utf8ByteSize then .error .nameTooLong
      else walk tree (place ++ [part]) parts

/-- The place that a path leads to; a path that does not begin at the root begins at `base`. -/
def locate (tree : FileTree) (base : Place) (path : String) : Except FileError Place :=
  if path.isEmpty then .error .notFound
  else if longestPath < path.utf8ByteSize then .error .nameTooLong
  else tree.walk (if path.startsWith "/" then [] else base) (path.splitOn "/")

/-- The content of the file that a path leads to. -/
def read (tree : FileTree) (base : Place) (path : String) : Except FileError ByteArray :=
  match tree.locate base path with
  | .error e => .error e
  | .ok place =>
    match tree.what? place with
    | some (.file content) => .ok content
    | some .directory => .error .isDirectory
    | none => .error .notFound

/-- Whether a path leads to a file or directory. -/
def has (tree : FileTree) (base : Place) (path : String) : Bool :=
  match tree.locate base path with
  | .ok place => (tree.what? place).isSome
  | .error _ => false

/-- The tree after a file with a content is written at a path; a file that was there is replaced. -/
def write (tree : FileTree) (base : Place) (path : String) (content : ByteArray) :
    Except FileError FileTree :=
  match tree.locate base path with
  | .error e => .error e
  | .ok place =>
    match tree.what? place with
    | some .directory => .error .isDirectory
    | _ => .ok (tree.put place (.file content))

end FileTree

end Lipogram
