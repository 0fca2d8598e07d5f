import Scenario.FileTree.Change
import Scenario.Proofs.Failure

/-!
# Where names lead

Names are followed one after the other, and a link is replaced by the names of
its target.  Names that lead to a directory lead there in every tree that has
the same directories and links.
-/

namespace Scenario

/-- A path that can be one is the text taken apart. -/
theorem Path.eq_ofText_of_check
    {text : String}
    {path : Path}
    (checked : check text = .ok path) :
    path = ofText text := by
  unfold check at checked
  split at checked
  · cases checked
  · split at checked
    · cases checked
    · split at checked
      · cases checked
      · exact (Except.ok.inj checked).symm

namespace FileTree

/-! ## Names followed one after the other -/

/-- The name is one that an entry can have. -/
structure IsPlain (name : String) : Prop where
  ne_dot : name ≠ "."
  ne_dots : name ≠ ".."
  length_le : name.utf8ByteSize ≤ Path.greatestNameLength

section

variable
    {tree : FileTree}
    {links : Nat}
    {name : String}
    {rest : List String}
    {place : Location}

theorem walk_outside (outside : ¬tree.isDirectory place) :
    tree.walk links (name :: rest) place = .error .notDirectory := by
  rw [walk, if_pos outside]

theorem walk_dot (inside : tree.isDirectory place) :
    tree.walk links ("." :: rest) place = tree.walk links rest place := by
  rw [walk, if_neg (not_not_intro inside), if_pos rfl]

theorem walk_dots (inside : tree.isDirectory place) :
    tree.walk links (".." :: rest) place =
      tree.walk links rest place.directory := by
  rw [walk, if_neg (not_not_intro inside), if_neg (by decide), if_pos rfl]

theorem walk_long
    (inside : tree.isDirectory place)
    (notDot : name ≠ ".")
    (notDots : name ≠ "..")
    (long : Path.greatestNameLength < name.utf8ByteSize) :
    tree.walk links (name :: rest) place = .error .nameTooLong := by
  rw [walk, if_neg (not_not_intro inside), if_neg notDot, if_neg notDots,
    if_pos long]

/-- A plain name leads to the entry that it names. -/
theorem walk_plain
    (inside : tree.isDirectory place)
    (plain : IsPlain name) :
    tree.walk links (name :: rest) place =
      match tree.find? (name :: place) with
      | none => .error .noSuchFile
      | some (.link target) =>
        match links with
        | 0 => .error .tooManyLinks
        | links + 1 =>
          tree.walk links ((Path.ofText target).steps ++ rest)
            ((Path.ofText target).start place)
      | some _ => tree.walk links rest (name :: place) := by
  rw [walk, if_neg (not_not_intro inside), if_neg plain.ne_dot,
    if_neg plain.ne_dots]
  exact if_neg (Nat.not_lt.mpr plain.length_le)

theorem walk_entry
    (inside : tree.isDirectory place)
    (plain : IsPlain name)
    {entry : Entry}
    (found : tree.find? (name :: place) = some entry)
    (noLink : ∀ target, entry ≠ .link target) :
    tree.walk links (name :: rest) place =
      tree.walk links rest (name :: place) := by
  rw [walk_plain inside plain, found]
  cases entry with
  | link target => exact (noLink target rfl).elim
  | _ => rfl

theorem walk_link
    (inside : tree.isDirectory place)
    (plain : IsPlain name)
    {target : String}
    (found : tree.find? (name :: place) = some (.link target)) :
    tree.walk (links + 1) (name :: rest) place =
      tree.walk links ((Path.ofText target).steps ++ rest)
        ((Path.ofText target).start place) := by
  rw [walk_plain inside plain, found]

end

/-- Names are followed from where the names in front of them lead. -/
theorem walk_append
    (tree : FileTree)
    (links : Nat)
    (front back : List String)
    (place : Location) :
    tree.walk links (front ++ back) place =
      match tree.walk links front place with
      | .error error => .error error
      | .ok (left, reached) => tree.walk left back reached := by
  fun_induction walk tree links front place with
  | case1 => rfl
  | case2 links place name rest outside => exact walk_outside outside
  | case3 links place rest inside induction =>
    rw [← induction]
    exact walk_dot (Classical.not_not.mp inside)
  | case4 links place rest inside dots induction =>
    rw [← induction]
    exact walk_dots (Classical.not_not.mp inside)
  | case5 links place name rest inside notDot notDots long =>
    exact walk_long (Classical.not_not.mp inside) notDot notDots long
  | case6 links place name rest inside notDot notDots short absent =>
    rw [List.cons_append, walk_plain (Classical.not_not.mp inside)
      ⟨notDot, notDots, Nat.not_lt.mp short⟩, absent]
  | case7 place name rest inside notDot notDots short target found =>
    rw [List.cons_append, walk_plain (Classical.not_not.mp inside)
      ⟨notDot, notDots, Nat.not_lt.mp short⟩, found]
  | case8 place name rest inside notDot notDots short target found links path
      induction =>
    rw [← induction, List.append_assoc]
    exact walk_link (Classical.not_not.mp inside)
      ⟨notDot, notDots, Nat.not_lt.mp short⟩ found
  | case9 links place name rest inside notDot notDots short entry noLink found
      induction =>
    rw [← induction]
    exact walk_entry (Classical.not_not.mp inside)
      ⟨notDot, notDots, Nat.not_lt.mp short⟩ found noLink

/-- From what is no directory, names lead nowhere. -/
theorem eq_of_walk_of_not_isDirectory
    {tree : FileTree}
    {links left : Nat}
    {names : List String}
    {place reached : Location}
    (outside : ¬tree.isDirectory place)
    (walked : tree.walk links names place = .ok (left, reached)) :
    reached = place := by
  cases names with
  | nil =>
    rw [walk] at walked
    cases walked
    rfl
  | cons name rest =>
    rw [walk_outside outside] at walked
    cases walked

/-! ## Trees with the same directories and links -/

theorem isDirectory_iff (tree : FileTree) (location : Location) :
    tree.isDirectory location ↔ tree.find? location = some .directory := by
  rw [isDirectory]
  rcases tree.find? location with _ | entry
  · simp
  · cases entry <;> simp [Entry.isDirectory]

/-- Every directory and every link of a tree stands in the other one too. -/
structure KeepsWays (tree other : FileTree) : Prop where
  directory :
    ∀ location, tree.find? location = some .directory →
      other.find? location = some .directory
  link :
    ∀ location target, tree.find? location = some (.link target) →
      other.find? location = some (.link target)

section

variable {tree other : FileTree}

theorem KeepsWays.isDirectory
    (keeps : tree.KeepsWays other)
    {location : Location}
    (inside : tree.isDirectory location) :
    other.isDirectory location := by
  rw [isDirectory_iff] at inside ⊢
  exact keeps.directory location inside

/-- Names that lead to a directory lead there in the other tree too. -/
theorem KeepsWays.walk_eq
    (keeps : tree.KeepsWays other)
    {links left : Nat}
    {names : List String}
    {place reached : Location}
    (walked : tree.walk links names place = .ok (left, reached))
    (ends : tree.isDirectory reached) :
    other.walk links names place = .ok (left, reached) := by
  have kept {location : Location} (inside : ¬¬tree.isDirectory location) :=
    keeps.isDirectory (Classical.not_not.mp inside)
  have noLink (target : String) : Entry.directory ≠ .link target := nofun
  fun_induction walk tree links names place with
  | case1 links place =>
    rw [walk]
    exact walked
  | case2 => cases walked
  | case3 links place rest inside induction =>
    rw [walk_dot (kept inside)]
    exact induction walked
  | case4 links place rest inside dots induction =>
    rw [walk_dots (kept inside)]
    exact induction walked
  | case5 => cases walked
  | case6 => cases walked
  | case7 => cases walked
  | case8 place name rest inside notDot notDots short target found links path
      induction =>
    rw [walk_link (kept inside) ⟨notDot, notDots, Nat.not_lt.mp short⟩
      (keeps.link _ _ found)]
    exact induction walked
  | case9 links place name rest inside notDot notDots short _ _ found
      induction =>
    -- What is no directory can only be the end of the names.
    have deeper : tree.isDirectory (name :: place) := by
      apply Classical.byContradiction
      intro outside
      rw [eq_of_walk_of_not_isDirectory outside walked] at ends
      exact outside ends
    rw [walk_entry (kept inside) ⟨notDot, notDots, Nat.not_lt.mp short⟩
      (keeps.directory _ ((isDirectory_iff _ _).mp deeper)) noLink]
    exact induction walked

theorem parent_eq_ok_iff
    {links left : Nat}
    {path : Path}
    {place reached : Location} :
    tree.parent links path place = .ok (left, reached) ↔
      tree.walk links path.names.dropLast (path.start place) =
          .ok (left, reached) ∧
        tree.isDirectory reached := by
  unfold parent
  rcases tree.walk links path.names.dropLast (path.start place) with
    error | ⟨here, found⟩
  · simp
  · dsimp only
    split
    · constructor
      · rintro ⟨⟩
        exact ⟨rfl, ‹_›⟩
      · exact And.left
    · constructor
      · rintro ⟨⟩
      · rintro ⟨⟨⟩, inside⟩
        exact absurd inside ‹_›

end

end FileTree

end Scenario
