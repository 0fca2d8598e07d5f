import Scenario.Host
import Scenario.Proofs.Course
import Scenario.Proofs.FileTree.Place
import Scenario.Sink.JsonFile

/-!
# What is left of a document in a file

The sink that writes files makes the text of a document the whole contents of
one file.  It does nothing else to the tree, and nothing at all if the file
cannot be written.
-/

namespace Scenario

theorem Document.text_not_isEmpty (document : Document) :
    ¬document.text.isEmpty := by
  rw [String.isEmpty_iff]
  intro empty
  have characters := congrArg String.toList empty
  rw [text, Json.print, String.toList_ofList] at characters
  cases characters

/-- The sink makes the text of the document the contents of the file at the
time of the clock. -/
theorem Sink.jsonFile_run
    (out : String)
    (document : Document)
    (host : Host) :
    ∃ log,
      (jsonFile out document : StateM Host _).run host =
        match host.files.replace host.second out document.text with
        | .error error =>
          ({ value := .error { path := out, error }, log }, host)
        | .ok files => ({ value := .ok (), log }, host.advance files) := by
  have replaced :
      (FileAccess.replace out document.text : StateM Host _).run host =
        match host.files.replace host.second out document.text with
        | .error error => (.error error, host)
        | .ok files => (.ok (), host.advance files) :=
    rfl
  unfold jsonFile
  rw [run_bind_world, replaced]
  rcases host.files.replace host.second out document.text with error | files
  · exact ⟨_, rfl⟩
  · exact ⟨_, rfl⟩

/-- A document that the sink has accepted is read from the file. -/
theorem Sink.contents_of_jsonFile
    {out : String}
    {document : Document}
    {host : Host}
    (accepted :
      ((jsonFile out document : StateM Host _).run host).1.value = .ok ()) :
    ((jsonFile out document : StateM Host _).run host).2.files.contents out =
      .ok document.text := by
  rcases jsonFile_run out document host with ⟨log, written⟩
  rw [written] at accepted ⊢
  rcases replaced : host.files.replace host.second out document.text with
    error | files
  · rw [replaced] at accepted
    cases accepted
  · rcases FileTree.exists_written_of_replace replaced with ⟨place, written⟩
    exact written.contents_eq

end Scenario
