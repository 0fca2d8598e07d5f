import Scenario.Moment
import Scenario.Proofs.FileTree.Untimed

/-!
# File trees whose change times the calendar has

The change time of an entry may lie beyond the calendar, and then it cannot be
told.  An operation on a tree sets change times to its own time and leaves all
others, so a tree in which every change time can be told stays one.
-/

namespace Scenario

/-- The calendar has the moment that is the given number of seconds after the
beginning of 1970. -/
def Moment.InCalendar (seconds : Int) : Prop :=
  (Moment.ofSeconds? seconds).isSome

instance (seconds : Int) : Decidable (Moment.InCalendar seconds) :=
  inferInstanceAs (Decidable (_ = true))

namespace Entry

/-- The change time of an entry, if it has one. -/
def changed? : Entry → Option Int
  | file _ changed => some changed
  | fullDevice changed => some changed
  | _ => none

/-- The calendar has the change time of the entry. -/
def Dated (entry : Entry) : Prop :=
  ∀ changed ∈ entry.changed?, Moment.InCalendar changed

instance (entry : Entry) : Decidable entry.Dated :=
  inferInstanceAs (Decidable (∀ _ ∈ _, _))

theorem Dated.touched
    {entry : Entry}
    (dated : entry.Dated)
    {time : Int}
    (inCalendar : Moment.InCalendar time) :
    (entry.touched time).Dated := by
  cases entry with
  | file contents changed =>
    rintro _ ⟨⟩
    exact inCalendar
  | fullDevice changed =>
    rintro _ ⟨⟩
    exact inCalendar
  | directory => exact dated
  | link target => exact dated

theorem dated_file
    (contents : ByteArray)
    {time : Int}
    (inCalendar : Moment.InCalendar time) :
    (file contents time).Dated := by
  rintro _ ⟨⟩
  exact inCalendar

end Entry

namespace FileTree

/-- The calendar has all change times of the tree. -/
def Dated (tree : FileTree) : Prop :=
  ∀ entry ∈ tree.entries, entry.2.Dated

instance (tree : FileTree) : Decidable tree.Dated :=
  inferInstanceAs (Decidable (∀ _ ∈ _, _))

namespace Dated

variable
    {tree after : FileTree}
    (dated : tree.Dated)

include dated

theorem find?
    {location : Location}
    {entry : Entry}
    (found : tree.find? location = some entry) :
    entry.Dated := by
  unfold FileTree.find? at found
  split at found
  · cases found
    rintro _ ⟨⟩
  · rw [Option.map_eq_some_iff] at found
    rcases found with ⟨pair, found, rfl⟩
    exact dated pair (List.mem_of_find?_eq_some found)

theorem status
    {path : String}
    {entry : Entry}
    (told : tree.status path = .ok entry) :
    entry.Dated := by
  unfold FileTree.status at told
  rw [bind_eq_ok_iff] at told
  rcases told with ⟨checked, -, told⟩
  rw [bind_eq_ok_iff] at told
  rcases told with ⟨place, -, told⟩
  split at told
  next found =>
    cases told
    exact dated.find? found
  · cases told

theorem erase (location : Location) : (tree.erase location).Dated := by
  intro entry kept
  exact dated entry ((List.mem_filter.mp kept).1)

theorem insert
    (location : Location)
    {entry : Entry}
    (entryDated : entry.Dated) :
    (tree.insert location entry).Dated := by
  intro other member
  rcases List.mem_cons.mp member with rfl | kept
  · exact entryDated
  · exact dated.erase location other kept

theorem move (source target : Location) : (tree.move source target).Dated := by
  intro entry member
  rcases List.mem_map.mp member with ⟨moved, kept, rfl⟩
  exact dated.erase target moved kept

theorem remove
    {path : String}
    (removed : tree.remove path = .ok after) :
    after.Dated := by
  unfold FileTree.remove at removed
  rw [bind_eq_ok_iff] at removed
  rcases removed with ⟨checked, -, removed⟩
  rw [bind_eq_ok_iff] at removed
  rcases removed with ⟨⟨directory, name?⟩, -, removed⟩
  rcases name? with _ | name
  · cases removed
  dsimp only at removed
  split at removed
  · cases removed
  split at removed
  · cases removed
  · cases removed
  split at removed
  · cases removed
  cases removed
  exact dated.erase _

section

variable
    {time : Int}
    (inCalendar : Moment.InCalendar time)

include inCalendar

theorem create
    {path : String}
    (created : tree.create time path = .ok after) :
    after.Dated := by
  rcases create_eq_ok_iff.mp created with ⟨place, -, -, rfl⟩
  split
  · exact dated.insert place (Entry.dated_file _ inCalendar)
  · exact dated

theorem replace
    {path text : String}
    (replaced : tree.replace time path text = .ok after) :
    after.Dated := by
  rcases replace_eq_ok_iff.mp replaced with ⟨place, -, rfl⟩
  exact dated.insert place (Entry.dated_file _ inCalendar)

theorem rename
    {path newPath : String}
    (done : tree.rename time path newPath = .ok after) :
    after.Dated := by
  rw [rename_eq] at done
  rcases sought : tree.moveFor path newPath with error | _ | move
  · rw [sought] at done
    cases done
  · rw [sought] at done
    cases done
    exact dated
  · rw [sought] at done
    cases done
    have moving := dated.find? (find?_source_of_moveFor sought)
    exact (dated.move move.source move.target).insert move.target
      (moving.touched inCalendar)

end

end Dated

end FileTree

end Scenario
