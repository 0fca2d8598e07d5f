import Scenario.Proofs.FileTree.Moving

/-!
# File trees without their change times

No operation on a file tree looks at a change time.  So a tree may have its
change times taken away before an operation as well as after it, and two trees
that differ in change times alone still do so after the same operation, which
does on both what it does on one.
-/

namespace Scenario

namespace Entry

/-- The entry with its change time, if it has one, taken away. -/
def untimed (entry : Entry) : Entry :=
  entry.touched 0

@[simp]
theorem untimed_touched (entry : Entry) (time : Int) :
    (entry.touched time).untimed = entry.untimed := by
  cases entry <;> rfl

@[simp]
theorem touched_untimed (entry : Entry) :
    entry.untimed.touched 0 = entry.untimed := by
  cases entry <;> rfl

@[simp]
theorem isDirectory_untimed (entry : Entry) :
    entry.untimed.isDirectory = entry.isDirectory := by
  cases entry <;> rfl

end Entry

namespace FileTree

/-- The tree with all change times taken away. -/
def untimed (tree : FileTree) : FileTree :=
  { tree with
    entries := tree.entries.map fun entry => (entry.1, entry.2.untimed) }

variable (tree : FileTree)

/-! ## Looking at a tree -/

@[simp]
theorem workingDirectory_untimed :
    tree.untimed.workingDirectory = tree.workingDirectory :=
  rfl

@[simp]
theorem find?_untimed (location : Location) :
    tree.untimed.find? location = (tree.find? location).map Entry.untimed := by
  unfold find? untimed
  split
  · rfl
  · rw [List.find?_map, Option.map_map, Option.map_map]
    rfl

@[simp]
theorem isDirectory_untimed (location : Location) :
    tree.untimed.isDirectory location = tree.isDirectory location := by
  rw [isDirectory, isDirectory, find?_untimed]
  cases tree.find? location <;> simp

@[simp]
theorem isOccupied_untimed (directory : Location) :
    tree.untimed.isOccupied directory = tree.isOccupied directory := by
  simp [isOccupied, untimed, Function.comp_def]

@[simp]
theorem mountOf_untimed (location : Location) :
    tree.untimed.mountOf location = tree.mountOf location := by
  induction location with
  | nil => rfl
  | cons name directory induction =>
    rw [mountOf, mountOf, induction]
    rfl

/-! ## Following paths -/

@[simp]
theorem walk_untimed
    (links : Nat)
    (names : List String)
    (place : Location) :
    tree.untimed.walk links names place = tree.walk links names place := by
  have kept {location : Location} (inside : ¬¬tree.isDirectory location) :
      tree.untimed.isDirectory location := by
    rw [isDirectory_untimed]
    exact Classical.not_not.mp inside
  fun_induction walk tree links names place with
  | case1 => rw [walk]
  | case2 links place name rest outside =>
    rw [← isDirectory_untimed] at outside
    exact walk_outside outside
  | case3 links place rest inside induction =>
    rw [walk_dot (kept inside), induction]
  | case4 links place rest inside dots induction =>
    rw [walk_dots (kept inside), induction]
  | case5 links place name rest inside notDot notDots long =>
    exact walk_long (kept inside) notDot notDots long
  | case6 links place name rest inside notDot notDots short absent =>
    rw [walk_plain (kept inside) ⟨notDot, notDots, Nat.not_lt.mp short⟩,
      find?_untimed, absent]
    rfl
  | case7 place name rest inside notDot notDots short target found =>
    rw [walk_plain (kept inside) ⟨notDot, notDots, Nat.not_lt.mp short⟩,
      find?_untimed, found]
    rfl
  | case8 place name rest inside notDot notDots short target found links path
      induction =>
    rw [walk_plain (kept inside) ⟨notDot, notDots, Nat.not_lt.mp short⟩,
      find?_untimed, found]
    exact induction
  | case9 links place name rest inside notDot notDots short entry noLink found
      induction =>
    rw [walk_plain (kept inside) ⟨notDot, notDots, Nat.not_lt.mp short⟩,
      find?_untimed, found]
    cases entry with
    | link target => exact (noLink target rfl).elim
    | _ => exact induction

@[simp]
theorem parent_untimed
    (links : Nat)
    (path : Path)
    (place : Location) :
    tree.untimed.parent links path place = tree.parent links path place := by
  simp [parent]

@[simp]
theorem locate_untimed (path : Path) :
    tree.untimed.locate path = tree.locate path := by
  simp [locate]

@[simp]
theorem place_untimed (path : Path) :
    tree.untimed.place path = tree.place path := by
  simp [place]

@[simp]
theorem writingPlaceFrom_untimed
    (links : Nat)
    (path : Path)
    (place : Location) :
    tree.untimed.writingPlaceFrom links path place =
      tree.writingPlaceFrom links path place := by
  induction links using Nat.strongRecOn generalizing path place with
  | ind links induction =>
    rw [writingPlaceFrom_eq, writingPlaceFrom_eq, parent_untimed]
    cases found : tree.parent links path place with
    | error error => rfl
    | ok reached =>
      rcases reached with ⟨left, directory⟩
      have left_le := parent_links_le found
      dsimp only
      cases entryName? path with
      | none => rfl
      | some name =>
        dsimp only
        rw [find?_untimed]
        split
        · rfl
        · split
          · rfl
          · rcases tree.find? (name :: directory) with _ | entry
            · rfl
            · cases entry with
              | link target =>
                cases left with
                | zero => rfl
                | succ fewer => exact induction fewer left_le _ _
              | _ => rfl

@[simp]
theorem writingPlace_untimed (path : Path) :
    tree.untimed.writingPlace path = tree.writingPlace path := by
  simp [writingPlace]

/-! ## Changing a tree -/

@[simp]
theorem untimed_erase (location : Location) :
    (tree.erase location).untimed = tree.untimed.erase location := by
  simp [erase, untimed, List.filter_map, Function.comp_def]

@[simp]
theorem untimed_insert (location : Location) (entry : Entry) :
    (tree.insert location entry).untimed =
      tree.untimed.insert location entry.untimed := by
  simp [insert, erase, untimed, List.filter_map, Function.comp_def]

@[simp]
theorem untimed_move (source target : Location) :
    (tree.move source target).untimed = tree.untimed.move source target := by
  simp [move, erase, untimed, List.filter_map, Function.comp_def]

variable (time : Int)

theorem map_untimed_create (path : String) :
    (tree.create time path).map untimed = tree.untimed.create 0 path := by
  unfold create
  cases Path.check path with
  | error error => rfl
  | ok path =>
    simp only [bind, Except.bind, writingPlace_untimed]
    cases tree.writingPlace path with
    | error error => rfl
    | ok place =>
      simp only [mapError_ok, find?_untimed]
      cases tree.find? place with
      | none => exact congrArg Except.ok (untimed_insert tree _ _)
      | some entry => rfl

@[simp]
theorem placeFor_untimed (path text : String) :
    tree.untimed.placeFor path text = tree.placeFor path text := by
  unfold placeFor
  rcases Path.check path with error | path
  · rfl
  simp only [bind, Except.bind, writingPlace_untimed]
  rcases tree.writingPlace path with error | place
  · rfl
  simp only [mapError_ok, find?_untimed]
  rcases tree.find? place with _ | entry
  · rfl
  · cases entry <;> rfl

theorem map_untimed_replace (path text : String) :
    (tree.replace time path text).map untimed =
      tree.untimed.replace 0 path text := by
  rw [replace_eq, replace_eq, placeFor_untimed]
  rcases tree.placeFor path text with error | place
  · rfl
  · exact congrArg Except.ok (untimed_insert tree _ _)

theorem map_untimed_remove (path : String) :
    (tree.remove path).map untimed = tree.untimed.remove path := by
  unfold remove
  cases Path.check path with
  | error error => rfl
  | ok path =>
    simp only [bind, Except.bind, place_untimed]
    rcases tree.place path with error | ⟨directory, _ | name⟩
    · rfl
    · rfl
    · simp only [mapError_ok, find?_untimed]
      by_cases long : Path.greatestNameLength < name.utf8ByteSize
      · simp only [long, if_true]
        rfl
      · simp only [long, if_false]
        rcases tree.find? (name :: directory) with _ | entry
        · rfl
        · cases entry with
          | directory => rfl
          | _ =>
            by_cases slash : path.endsInSlash
            · simp only [slash, Option.map_some]
              rfl
            · simp only [slash, Option.map_some]
              exact congrArg Except.ok (untimed_erase tree _)

@[simp]
theorem replacementError?_untimed (target : Location) (moving : Entry) :
    tree.untimed.replacementError? target moving.untimed =
      tree.replacementError? target moving := by
  unfold replacementError?
  rw [find?_untimed]
  cases tree.find? target <;> simp

/-- A move with the change time of what it moves taken away. -/
def Move.untimed (move : Move) : Move :=
  { move with moving := move.moving.untimed }

theorem moveBetween_untimed
    (path newPath : Path)
    (directory newDirectory : Location)
    (name newName : String) :
    tree.untimed.moveBetween path newPath directory newDirectory name
        newName =
      (tree.moveBetween path newPath directory newDirectory name
        newName).map (Option.map Move.untimed) := by
  unfold moveBetween
  rw [find?_untimed]
  split
  · rfl
  rcases tree.find? (name :: directory) with _ | moving
  · rfl
  simp only [Option.map_some, Entry.isDirectory_untimed,
    replacementError?_untimed]
  split
  · rfl
  split
  · rfl
  split
  · rfl
  split
  · rfl
  split
  · rfl
  cases tree.replacementError? (newName :: newDirectory) moving <;> rfl

theorem moveFor_untimed (path newPath : String) :
    tree.untimed.moveFor path newPath =
      (tree.moveFor path newPath).map (Option.map Move.untimed) := by
  unfold moveFor
  split
  · rfl
  rcases Path.check path with error | path
  · rfl
  simp only [bind, Except.bind, place_untimed, mountOf_untimed]
  rcases tree.place path with error | ⟨directory, name?⟩
  · rfl
  dsimp only [mapError_ok]
  rcases Path.check newPath with error | newPath
  · rfl
  dsimp only
  rcases tree.place newPath with error | ⟨newDirectory, newName?⟩
  · rfl
  dsimp only [mapError_ok]
  split
  · rfl
  rcases name? with _ | name
  · rfl
  rcases newName? with _ | newName
  · rfl
  dsimp only
  rw [moveBetween_untimed]
  rcases tree.moveBetween path newPath directory newDirectory name newName
    with error | move?
  · rfl
  · rfl

theorem untimed_afterMove (move? : Option Move) :
    (tree.afterMove time move?).untimed =
      tree.untimed.afterMove 0 (move?.map Move.untimed) := by
  cases move? with
  | none => rfl
  | some move => simp [afterMove, Move.untimed]

theorem map_untimed_rename (path newPath : String) :
    (tree.rename time path newPath).map untimed =
      tree.untimed.rename 0 path newPath := by
  rw [rename_eq, rename_eq, moveFor_untimed]
  rcases tree.moveFor path newPath with error | move?
  · rfl
  · exact congrArg Except.ok (untimed_afterMove tree time move?)

theorem map_untimed_status (path : String) :
    (tree.status path).map Entry.untimed = tree.untimed.status path := by
  unfold status
  rcases Path.check path with error | path
  · rfl
  simp only [bind, Except.bind, locate_untimed]
  rcases tree.locate path with error | place
  · rfl
  simp only [mapError_ok, find?_untimed]
  cases tree.find? place <;> rfl

end FileTree

end Scenario
