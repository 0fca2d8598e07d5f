import Scenario.Proofs.FileTree.Missing

/-!
# Opening a file for writing

A file is opened for writing before anything is written to it.  The path has to
be one, and it has to lead to a place for a file; a missing directory on its
way and a directory at its end are each refused with the error that tells of
it.  A file that can be opened may still take no text, as a device does that is
always full.
-/

namespace Scenario.FileTree

/-- The place of the file that a path opens for writing. -/
def opening (tree : FileTree) (path : String) : Except IoError Location := do
  let path ← Path.check path
  (tree.writingPlace path).mapError .os

section

variable
    {tree : FileTree}
    {path text : String}
    {place : Location}

theorem opening_eq_ok_iff :
    tree.opening path = .ok place ↔
      Path.check path = .ok (Path.ofText path) ∧
        tree.writingPlace (Path.ofText path) = .ok place := by
  rw [opening, bind_eq_ok_iff]
  constructor
  · rintro ⟨checked, isPath, leads⟩
    cases Path.eq_ofText_of_check isPath
    exact ⟨isPath, mapError_eq_ok_iff.mp leads⟩
  · rintro ⟨isPath, leads⟩
    exact ⟨_, isPath, mapError_eq_ok_iff.mpr leads⟩

/-- A text has a place where its file is opened, and no full device stands
there. -/
theorem placeFor_eq_ok_iff_opening :
    tree.placeFor path text = .ok place ↔
      tree.opening path = .ok place ∧
        ∀ changed, tree.find? place ≠ some (.fullDevice changed) := by
  rw [placeFor_eq_ok_iff, opening_eq_ok_iff, and_assoc]

/-- A text has no place if its file cannot be opened, for the same reason. -/
theorem placeFor_of_opening_error
    {error : IoError}
    (unopened : tree.opening path = .error error) :
    tree.placeFor path text = .error error := by
  rw [opening, bind_eq_error_iff] at unopened
  rw [placeFor, bind_eq_error_iff]
  rcases unopened with refused | ⟨checked, isPath, closed⟩
  · exact .inl refused
  · exact .inr ⟨checked, isPath, bind_eq_error_iff.mpr (.inl closed)⟩

/-- A path that lacks a directory opens no file. -/
theorem LacksDirectory.opening_eq (lacks : tree.LacksDirectory path) :
    tree.opening path = .error (.os .noSuchFile) := by
  rw [LacksDirectory, bind_eq_error_iff] at lacks
  rw [opening, bind_eq_error_iff]
  rcases lacks with refused | ⟨checked, isPath, missing⟩
  · exact .inl refused
  · rw [mapError_os_eq_error_iff, place_eq_error_iff] at missing
    refine .inr ⟨checked, isPath, mapError_os_eq_error_iff.mpr ?_⟩
    rw [writingPlace, writingPlaceFrom_eq, missing]

/-! ## Paths of directories -/

section

variable
    {links left : Nat}
    {path : Path}
    {place reached : Location}

/-- Whoever follows a path to a directory comes through the directory of its
last name. -/
theorem exists_parent_of_walk
    (walked :
      tree.walk links path.steps (path.start place) = .ok (left, reached))
    (ends : tree.isDirectory reached) :
    ∃ between directory,
      tree.parent links path place = .ok (between, directory) ∧
        ∀ back, path.steps = path.names.dropLast ++ back →
          tree.walk between back directory = .ok (left, reached) := by
  rcases exists_steps_eq path with ⟨back, steps⟩
  rw [steps, walk_append] at walked
  split at walked
  · cases walked
  · next between directory gone =>
    have inside : tree.isDirectory directory := by
      apply Classical.byContradiction
      intro outside
      rw [eq_of_walk_of_not_isDirectory outside walked] at ends
      exact outside ends
    refine ⟨between, directory, parent_eq_ok_iff.mpr ⟨gone, inside⟩, ?_⟩
    intro back' steps'
    rw [← List.append_cancel_left (steps.symm.trans steps')]
    exact walked

/-- A name that leads to a directory is that of a directory, or of a link that
leads to one. -/
theorem find?_of_walk_to_directory
    {name : String}
    {directory : Location}
    (inside : tree.isDirectory directory)
    (notDot : name ≠ ".")
    (notDots : name ≠ "..")
    (walked : tree.walk links [name] directory = .ok (left, reached))
    (ends : tree.isDirectory reached) :
    ¬Path.greatestNameLength < name.utf8ByteSize ∧
      (tree.find? (name :: directory) = some .directory ∨
        ∃ fewer target,
          links = fewer + 1 ∧
            tree.find? (name :: directory) = some (.link target) ∧
            tree.walk fewer (Path.ofText target).steps
                ((Path.ofText target).start directory) =
              .ok (left, reached)) := by
  have short : ¬Path.greatestNameLength < name.utf8ByteSize := by
    intro long
    rw [walk_long inside notDot notDots long] at walked
    cases walked
  refine ⟨short, ?_⟩
  rw [walk_plain inside ⟨notDot, notDots, Nat.not_lt.mp short⟩] at walked
  split at walked
  · cases walked
  · next target link =>
    split at walked
    · cases walked
    · next fewer =>
      rw [List.append_nil] at walked
      exact .inr ⟨fewer, target, rfl, link, walked⟩
  · -- What is no link is the end of the way.
    rw [walk] at walked
    cases walked
    exact .inl ((isDirectory_iff _ _).mp ends)

/-- A path that leads to a directory is no path to write under, over however
many links it leads there. -/
theorem writingPlaceFrom_of_directory
    (walked :
      tree.walk links path.steps (path.start place) = .ok (left, reached))
    (ends : tree.isDirectory reached) :
    tree.writingPlaceFrom links path place = .error .isDirectory := by
  -- The induction is on the links that may still be followed.
  induction links using Nat.strongRecOn generalizing path place with
  | ind links induction =>
    rcases exists_parent_of_walk walked ends with
      ⟨between, directory, parent, behind⟩
    rw [writingPlaceFrom_eq, parent]
    dsimp only
    cases named : entryName? path with
    | none => rfl
    | some name =>
      dsimp only
      have steps := steps_eq_of_entryName? named
      by_cases slash : path.endsInSlash
      · rw [if_pos slash]
      · rw [if_neg slash] at steps ⊢
        rcases entryName?_eq_some_iff.mp named with ⟨-, notDot, notDots⟩
        rcases find?_of_walk_to_directory (parent_eq_ok_iff.mp parent).2 notDot
            notDots (behind [name] steps) ends with
          ⟨short, found | ⟨fewer, target, rfl, link, beyond⟩⟩
        · rw [if_neg short, found]
        · rw [if_neg short, link]
          exact induction fewer (parent_links_le parent) beyond

end

/-- A path that names a directory opens no file. -/
theorem opening_of_directory
    (named : tree.status path = .ok .directory) :
    tree.opening path = .error (.os .isDirectory) := by
  rcases exists_walk_of_status named with
    ⟨checked, left, reached, isPath, walked, there⟩
  rw [opening, bind_eq_error_iff]
  refine .inr ⟨checked, isPath, mapError_os_eq_error_iff.mpr ?_⟩
  exact writingPlaceFrom_of_directory walked ((isDirectory_iff _ _).mpr there)

end

end Scenario.FileTree
