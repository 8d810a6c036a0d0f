/-
**Files by their paths.**

A file system is a tree of directories with files in it, and one of its directories is the working
directory.  A path that begins with a slash starts at the root of the tree, any other path at the
working directory.  A path is followed component by component: every place that is left must be a
directory, a single dot or nothing between two slashes stays where it is, and two dots go up, at
the root nowhere.

Main definitions:

* `Tabular.FileError` — why a file cannot be opened;
* `Tabular.FileSystem` — files and directories by location;
* `Tabular.FileSystem.locate` — the location that a path names;
* `Tabular.FileSystem.read`, `Tabular.FileSystem.write` — **opening a file for reading and for
  writing**.

Main results:

* `Tabular.FileSystem.get?_put` — only the location that is written changes.
-/

import Tabular.Utf8

set_option autoImplicit false

namespace Tabular

/-! ### Errors -/

/-- Why a file cannot be opened. -/
inductive FileError
  /-- The file or a directory above it does not exist. -/
  | notFound
  | isDirectory
  | notADirectory
  | nameTooLong
  /-- The path holds the character that ends a path. -/
  | nulInPath
  /-- A reason in words. -/
  | other (reason : String)
  deriving DecidableEq, Repr

/-- The reason in words. -/
def FileError.text : FileError → String
  | .notFound => "No such file or directory (os error 2)"
  | .isDirectory => "Is a directory (os error 21)"
  | .notADirectory => "Not a directory (os error 20)"
  | .nameTooLong => "File name too long (os error 36)"
  | .nulInPath => "file name contained an unexpected NUL byte"
  | .other reason => reason

/-! ### Entries -/

/-- The names on the way from the root to a file or directory. -/
abbrev Location := List String

/-- What can stand at a location. -/
inductive Entry
  | file (content : Bytes)
  | directory
  deriving DecidableEq, Repr

/-- Files and directories, and the working directory among them. -/
structure FileSystem where
  /-- What stands where. -/
  entries : List (Location × Entry) := []
  home : Location := []
  deriving DecidableEq, Repr

namespace FileSystem

/-- What stands at a location.  The root is always there. -/
def get? (fs : FileSystem) (location : Location) : Option Entry :=
  if location = [] then some .directory else fs.entries.lookup location

/-- Puts something at a location, in place of what was there. -/
def put (fs : FileSystem) (location : Location) (entry : Entry) : FileSystem :=
  { fs with entries := (location, entry) :: fs.entries.filter fun other => other.1 ≠ location }

/-- The files below the working directory, with the names on the way from there. -/
def files (fs : FileSystem) : List (Location × Bytes) :=
  fs.entries.filterMap fun (location, entry) =>
    match entry with
    | .file content =>
        if fs.home.isPrefixOf location then some (location.drop fs.home.length, content) else none
    | .directory => none

/-- Looking up a location other than the one that is removed. -/
theorem lookup_filter_ne {location other : Location} (entries : List (Location × Entry))
    (h : other ≠ location) :
    (entries.filter fun entry => entry.1 ≠ location).lookup other = entries.lookup other := by
  induction entries with
  | nil => rfl
  | cons entry entries ih =>
      obtain ⟨place, content⟩ := entry
      by_cases he : place = location
      · have hne : (other == place) = false := beq_false_of_ne (he ▸ h)
        rw [List.filter_cons_of_neg (by simpa using he), ih, List.lookup_cons, hne]
      · rw [List.filter_cons_of_pos (by simpa using he), List.lookup_cons, List.lookup_cons, ih]

/-- **Only the location that is written changes.** -/
theorem get?_put (fs : FileSystem) (location other : Location) (entry : Entry)
    (h : location ≠ []) :
    (fs.put location entry).get? other
      = if other = location then some entry else fs.get? other := by
  by_cases ho : other = location
  · subst ho
    simp [get?, put, h]
  · have hne : (other == location) = false := beq_false_of_ne ho
    rw [if_neg ho]
    simp only [get?, put, List.lookup_cons, hne]
    rw [lookup_filter_ne _ ho]

/-! ### Paths -/

/-- The parts of a path between its slashes. -/
def components (path : String) : List String := (path.toList.splitOn '/').map String.ofList

/-- The number of bytes that one component of a path may have. -/
def maxNameSize : Nat := 255

/-- The number of bytes that a path may have. -/
def maxPathSize : Nat := 4095

/-- Where a component of a path leads from a place, which must be a directory. -/
def enter (fs : FileSystem) (here : Location) (name : String) : Except FileError Location :=
  match fs.get? here with
  | none => .error .notFound
  | some (.file _) => .error .notADirectory
  | some .directory =>
      if name = "" ∨ name = "." then .ok here
      else if name = ".." then .ok here.dropLast
      else if maxNameSize < name.utf8ByteSize then .error .nameTooLong
      else .ok (here ++ [name])

/-- Follows the components of a path. -/
def walk (fs : FileSystem) (here : Location) (names : List String) : Except FileError Location :=
  names.foldlM fs.enter here

/-- Where following a path starts, unless nothing can have this path. -/
def start (fs : FileSystem) (path : String) : Except FileError Location :=
  if path.toList.contains '\x00' then .error .nulInPath
  else if path.isEmpty then .error .notFound
  else if maxPathSize < path.utf8ByteSize then .error .nameTooLong
  else if path.toList.head? = some '/' then .ok []
  else .ok fs.home

/-- The location that a path names, whether or not something stands there. -/
def locate (fs : FileSystem) (path : String) : Except FileError Location := do
  fs.walk (← fs.start path) (components path)

/-- The components of a path without the slashes at its end. -/
def trimmed (names : List String) : List String := (names.reverse.dropWhile (· = "")).reverse

/-- The location of the file that opening a path for writing makes or replaces.  A path that ends
with a slash names a directory, even one that does not exist. -/
def target (fs : FileSystem) (path : String) : Except FileError Location := do
  let here ← fs.start path
  let names := components path
  if names.getLast? = some "" then
    let above ← fs.walk here (trimmed names).dropLast
    let _ ← fs.enter above ""
    .error .isDirectory
  else
    let location ← fs.walk here names
    if fs.get? location = some .directory then .error .isDirectory else .ok location

/-! ### Opening files -/

/-- **The content of the file that a path names.** -/
def read (fs : FileSystem) (path : String) : Except FileError Bytes := do
  match fs.get? (← fs.locate path) with
  | none => .error .notFound
  | some .directory => .error .isDirectory
  | some (.file content) => .ok content

/-- **Makes or replaces the file that a path names.** -/
def write (fs : FileSystem) (path : String) (content : Bytes) : Except FileError FileSystem := do
  return fs.put (← fs.target path) (.file content)

end FileSystem

end Tabular
