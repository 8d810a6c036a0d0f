/-
**Writing a file leaves the others alone.**

A path is followed through directories only, and writing makes or replaces a file, never a
directory.  So after a write every path still leads where it led before: the file that was written
is found again under its path, and all other places hold what they held.

Main definitions:

* `Tabular.FileSystem.SetTo` — the files after one path was set to a content;
* `Tabular.FileSystem.SetAll` — the same for several paths, one after the other.

Main results:

* `Tabular.FileSystem.walk_put_file_eq_ok_iff` — **paths lead where they led before a write**;
* `Tabular.FileSystem.setTo_of_write` — a write sets its path and changes nothing else.
-/

import Tabular.FileSystem

set_option autoImplicit false

namespace Tabular

namespace FileSystem

/-! ### Files that were set -/

/-- **The files after a path was set to a content.** -/
structure SetTo (before : FileSystem) (path : String) (content : Bytes) (after : FileSystem) :
    Prop where
  /-- The path can be opened, and no other place changes. -/
  get?_eq : ∃ location, before.target path = .ok location ∧
    ∀ other, after.get? other = if other = location then some (.file content) else before.get? other
  home_eq : after.home = before.home
  /-- The content is found under the path. -/
  read_eq : after.read path = .ok content

/-- The files after paths were set to contents, one after the other. -/
inductive SetAll : FileSystem → List (String × Bytes) → FileSystem → Prop
  | nil (fs : FileSystem) : SetAll fs [] fs
  | cons {before between after : FileSystem} {path : String} {content : Bytes}
      {more : List (String × Bytes)} : before.SetTo path content between →
        SetAll between more after → SetAll before ((path, content) :: more) after

/-! ### Following a path -/

theorem bind_eq_ok_iff {ε α β : Type} {x : Except ε α} {f : α → Except ε β} {b : β} :
    (x >>= f) = .ok b ↔ ∃ a, x = .ok a ∧ f a = .ok b := by
  cases x <;> simp [bind, Except.bind]

theorem directory_of_enter {fs : FileSystem} {here there : Location} {name : String}
    (h : fs.enter here name = .ok there) : fs.get? here = some .directory := by
  rw [enter] at h
  split at h
  · cases h
  · cases h
  · assumption

theorem read_eq_ok_iff {fs : FileSystem} {path : String} {content : Bytes} :
    fs.read path = .ok content ↔
      ∃ location, fs.locate path = .ok location ∧ fs.get? location = some (.file content) := by
  rw [read, bind_eq_ok_iff]
  refine exists_congr ?_
  intro location
  cases fs.get? location with
  | none => simp
  | some entry => cases entry <;> simp

/-- A file can be made where a path leads, unless that is a directory or the path says so. -/
theorem target_eq_ok_iff {fs : FileSystem} {path : String} {location : Location} :
    fs.target path = .ok location ↔ (components path).getLast? ≠ some "" ∧
      fs.locate path = .ok location ∧ fs.get? location ≠ some .directory := by
  rw [target, locate, bind_eq_ok_iff, bind_eq_ok_iff]
  by_cases hlast : (components path).getLast? = some ""
  · refine iff_of_false ?_ fun h => h.1 hlast
    rintro ⟨here, -, h⟩
    rw [if_pos hlast, bind_eq_ok_iff] at h
    obtain ⟨above, -, h⟩ := h
    obtain ⟨_, -, h⟩ := bind_eq_ok_iff.1 h
    cases h
  · simp only [if_neg hlast, bind_eq_ok_iff]
    constructor
    · rintro ⟨here, hhere, place, hplace, h⟩
      split at h
      · cases h
      · next hdirectory =>
          cases h
          exact ⟨hlast, ⟨here, hhere, hplace⟩, hdirectory⟩
    · rintro ⟨-, ⟨here, hhere, hplace⟩, hdirectory⟩
      exact ⟨here, hhere, location, hplace, if_neg hdirectory⟩

theorem write_eq_ok_iff {fs after : FileSystem} {path : String} {content : Bytes} :
    fs.write path content = .ok after ↔
      ∃ location, fs.target path = .ok location ∧ fs.put location (.file content) = after := by
  rw [write, bind_eq_ok_iff]
  simp [pure, Except.pure]

/-- A file cannot be written where it cannot be opened, and for no other reason. -/
theorem write_eq_error_iff {fs : FileSystem} {path : String} {content : Bytes} {error : FileError} :
    fs.write path content = .error error ↔ fs.target path = .error error := by
  rw [write]
  cases fs.target path <;> simp [bind, Except.bind, pure, Except.pure]

/-! ### After a write -/

section Put

variable {fs : FileSystem} {location : Location} {content : Bytes}

theorem ne_nil_of_get?_ne (h : fs.get? location ≠ some .directory) : location ≠ [] := by
  rintro rfl
  exact h rfl

theorem get?_put_file_eq_directory_iff (h : fs.get? location ≠ some .directory) (content : Bytes)
    (other : Location) :
    (fs.put location (.file content)).get? other = some .directory ↔
      fs.get? other = some .directory := by
  rw [get?_put fs location other _ (ne_nil_of_get?_ne h)]
  by_cases hother : other = location
  · subst hother
    simp [h]
  · rw [if_neg hother]

theorem enter_put_file_eq_ok_iff (h : fs.get? location ≠ some .directory) (here there : Location)
    (name : String) :
    (fs.put location (.file content)).enter here name = .ok there ↔
      fs.enter here name = .ok there := by
  have hput := get?_put_file_eq_directory_iff h content here
  by_cases hhere : fs.get? here = some .directory
  · rw [enter, enter, hput.2 hhere, hhere]
  · refine iff_of_false ?_ ?_
    · intro henter
      exact hhere (hput.1 (directory_of_enter henter))
    · intro henter
      exact hhere (directory_of_enter henter)

/-- **Paths lead where they led before a file was written**: each step leads through a directory,
and no directory is made or lost. -/
theorem walk_put_file_eq_ok_iff (h : fs.get? location ≠ some .directory) (here there : Location)
    (names : List String) :
    (fs.put location (.file content)).walk here names = .ok there ↔
      fs.walk here names = .ok there := by
  induction names generalizing here with
  | nil => rfl
  | cons name names ih =>
      rw [walk, walk, List.foldlM_cons, List.foldlM_cons, bind_eq_ok_iff, bind_eq_ok_iff]
      refine exists_congr ?_
      intro next
      rw [enter_put_file_eq_ok_iff h]
      exact and_congr_right fun _ => ih next

theorem locate_put_file_eq_ok_iff (h : fs.get? location ≠ some .directory) (path : String)
    (there : Location) :
    (fs.put location (.file content)).locate path = .ok there ↔ fs.locate path = .ok there := by
  -- a path starts at the root or at the working directory, which a write does not move
  have hstart : (fs.put location (.file content)).start path = fs.start path := rfl
  rw [locate, locate, bind_eq_ok_iff, bind_eq_ok_iff, hstart]
  refine exists_congr ?_
  intro here
  rw [walk_put_file_eq_ok_iff h]

/-- What could be opened for writing before a write can be opened after it, at the same place. -/
theorem target_put_file_eq_ok_iff (h : fs.get? location ≠ some .directory) (path : String)
    (there : Location) :
    (fs.put location (.file content)).target path = .ok there ↔ fs.target path = .ok there := by
  rw [target_eq_ok_iff, target_eq_ok_iff, locate_put_file_eq_ok_iff h, Ne, Ne,
    get?_put_file_eq_directory_iff h]

/-- What stands at other places is the same whether or not a file was written before. -/
theorem get?_put_put (h : fs.get? location ≠ some .directory) {place there : Location}
    (hplace : place ≠ []) (hthere : there ≠ location) (bytes : Bytes) :
    ((fs.put location (.file content)).put place (.file bytes)).get? there
      = (fs.put place (.file bytes)).get? there := by
  rw [get?_put _ _ _ _ hplace, get?_put _ _ _ _ hplace, get?_put _ _ _ _ (ne_nil_of_get?_ne h),
    if_neg hthere]

/-- A file that was written can be read after another one was written. -/
theorem read_put_put {path : String} (hpath : fs.target path = .ok location) {place : Location}
    (hplace : fs.get? place ≠ some .directory) (hne : location ≠ place) (bytes : Bytes) :
    ((fs.put location (.file content)).put place (.file bytes)).read path = .ok content := by
  obtain ⟨-, hlocate, h⟩ := target_eq_ok_iff.1 hpath
  have hbetween : (fs.put location (.file content)).get? place ≠ some .directory :=
    mt (get?_put_file_eq_directory_iff h content place).1 hplace
  refine read_eq_ok_iff.2 ⟨location, ?_, ?_⟩
  · rwa [locate_put_file_eq_ok_iff hbetween, locate_put_file_eq_ok_iff h]
  · rw [get?_put _ _ _ _ (ne_nil_of_get?_ne hplace), if_neg hne,
      get?_put _ _ _ _ (ne_nil_of_get?_ne h), if_pos rfl]

end Put

/-- **A write sets its path and changes nothing else.** -/
theorem setTo_of_write {fs after : FileSystem} {path : String} {content : Bytes}
    (h : fs.write path content = .ok after) : fs.SetTo path content after := by
  obtain ⟨location, htarget, rfl⟩ := write_eq_ok_iff.1 h
  obtain ⟨-, hlocate, hdirectory⟩ := target_eq_ok_iff.1 htarget
  have hget := fun other =>
    get?_put fs location other (.file content) (ne_nil_of_get?_ne hdirectory)
  refine ⟨⟨location, htarget, hget⟩, rfl, ?_⟩
  refine read_eq_ok_iff.2 ⟨location, (locate_put_file_eq_ok_iff hdirectory ..).2 hlocate, ?_⟩
  rw [hget, if_pos rfl]

end FileSystem

end Tabular
