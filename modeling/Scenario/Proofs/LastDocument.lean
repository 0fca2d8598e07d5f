import Mathlib
import Scenario.Proofs.Document.Text
import Scenario.Proofs.FileTree.Opening
import Scenario.Proofs.ResultFile

/-!
# Documents kept one after the other

One sink that writes a file is given a list of documents.  Whatever the file
held before, it holds the text of the last document afterwards, and this text
alone; nothing else in the tree is touched.  If the file cannot be opened, every
document is refused with an error that names the path, and the host stays as it
is.
-/

namespace Scenario

/-- Give documents to a sink, one after the other, and collect its answers. -/
def Sink.persistAll
    {m : Type → Type}
    [Monad m]
    (sink : Sink m) :
    List Document → m (List (Except PersistError Unit))
  | [] => return []
  | document :: rest => do
    let persisted ← sink document
    let later ← persistAll sink rest
    return persisted.value :: later

namespace Sink

section

variable
    {World : Type}
    (sink : Sink (StateM World))

theorem persistAll_run_cons
    (document : Document)
    (rest : List Document)
    (world : World) :
    let first := (sink document).run world
    let later := (sink.persistAll rest).run first.2
    (sink.persistAll (document :: rest)).run world =
      (first.1.value :: later.1, later.2) :=
  rfl

/-- Each document is given to the sink in the world that the documents in front
of it have left. -/
theorem persistAll_getElem?
    {documents : List Document}
    {position : Nat}
    {document : Document}
    (here : documents[position]? = some document)
    (world : World) :
    let before := ((sink.persistAll (documents.take position)).run world).2
    let persisted := (sink document).run before
    ((sink.persistAll documents).run world).1[position]? =
        some persisted.1.value ∧
      ((sink.persistAll (documents.take (position + 1))).run world).2 =
        persisted.2 := by
  induction documents generalizing position world with
  | nil => cases here
  | cons first rest induction =>
    cases position with
    | zero =>
      cases here
      exact ⟨rfl, rfl⟩
    | succ position =>
      exact induction here ((sink first).run world).2

end

/-! ## One document -/

section

variable
    {out : String}
    {document : Document}
    {host : Host}

/-- A text without a place is refused, and nothing happens. -/
theorem jsonFile_run_of_unplaced
    {error : IoError}
    (unplaced : host.files.placeFor out document.text = .error error) :
    ∃ log,
      (jsonFile out document : StateM Host _).run host =
        ({ value := .error { path := out, error }, log }, host) := by
  rcases jsonFile_run out document host with ⟨log, run⟩
  rw [FileTree.replace_eq, unplaced] at run
  exact ⟨log, run⟩

/-- A text with a place is written there at the time of the clock. -/
theorem jsonFile_run_of_placed
    {place : Location}
    (placed : host.files.placeFor out document.text = .ok place) :
    ∃ log,
      (jsonFile out document : StateM Host _).run host =
        ({ value := .ok (), log },
          host.advance
            (host.files.insert place
              (.file document.text.toUTF8 host.second))) := by
  rcases jsonFile_run out document host with ⟨log, run⟩
  rw [FileTree.replace_eq, placed] at run
  exact ⟨log, run⟩

end

/-- What a sink that writes a file answers to a document, and what it leaves of
the host. -/
structure Persists
    (out : String)
    (document : Document)
    (before after : Host)
    (answer : Except PersistError Unit) : Prop where
  /-- A document is accepted where its file can be opened, and takes bytes. -/
  accepted_iff :
    answer = .ok () ↔
      ∃ place,
        before.files.opening out = .ok place ∧
          ∀ changed, before.files.find? place ≠ some (.fullDevice changed)
  /-- The text of the document is the whole contents of the file, and nothing
  else has changed. -/
  written :
    answer = .ok () →
      ∃ place,
        before.files.opening out = .ok place ∧
          before.files.Written after.files out document.text place
  /-- The document is read back from the file. -/
  decoded :
    answer = .ok () → document.summary.FitsWord →
      ∃ text value,
        after.files.contents out = .ok text ∧
          Json.parse text = .ok value ∧
          Document.decode value = .ok document.withoutErrorKind
  unopened :
    ∀ error, before.files.opening out = .error error →
      answer = .error { path := out, error }
  missing :
    before.files.LacksDirectory out →
      answer = .error { path := out, error := .os .noSuchFile }
  directory :
    before.files.status out = .ok .directory →
      answer = .error { path := out, error := .os .isDirectory }
  /-- A document that is refused leaves the host as it was. -/
  refused :
    ∀ failure, answer = .error failure → failure.path = out ∧ after = before

section

variable
    {out : String}
    {document : Document}
    {before : Host}

theorem persists_of_unplaced
    {error : IoError}
    (unplaced : before.files.placeFor out document.text = .error error) :
    Persists out document before before (.error { path := out, error }) := by
  have unopened
      (reason : IoError)
      (closed : before.files.opening out = .error reason) :
      (.error { path := out, error } : Except PersistError Unit) =
        .error { path := out, error := reason } := by
    rw [FileTree.placeFor_of_opening_error closed] at unplaced
    cases unplaced
    rfl
  exact {
    accepted_iff := by
      refine ⟨nofun, ?_⟩
      rintro ⟨place, opened⟩
      rw [FileTree.placeFor_eq_ok_iff_opening.mpr opened] at unplaced
      cases unplaced
    written := nofun
    decoded := nofun
    unopened
    missing := fun lacks => unopened _ lacks.opening_eq
    directory := fun named =>
      unopened _ (FileTree.opening_of_directory named)
    refused := by
      rintro failure ⟨⟩
      exact ⟨rfl, rfl⟩ }

theorem persists_of_placed
    {place : Location}
    (placed : before.files.placeFor out document.text = .ok place)
    (time : Int) :
    let files :=
      before.files.insert place (.file document.text.toUTF8 time)
    Persists out document before (before.advance files) (.ok ()) := by
  intro files
  have opened := FileTree.placeFor_eq_ok_iff_opening.mp placed
  have written : before.files.Written files out document.text place :=
    FileTree.written_insert placed time
  have open_ne (error : IoError) : before.files.opening out ≠ .error error := by
    rw [opened.1]
    exact nofun
  exact {
    accepted_iff := iff_of_true rfl ⟨place, opened⟩
    written := fun _ => ⟨place, opened.1, written⟩
    decoded := fun _ fits =>
      ⟨document.text, document.encode.inOrder, written.contents_eq,
        Document.parse_text fits, document.decode_inOrder_encode⟩
    unopened := fun error closed => (open_ne error closed).elim
    missing := fun lacks => (open_ne _ lacks.opening_eq).elim
    directory := fun named =>
      (open_ne _ (FileTree.opening_of_directory named)).elim
    refused := nofun }

end

/-- The step: what becomes of one document, on whatever host. -/
theorem persists_jsonFile
    (out : String)
    (document : Document)
    (host : Host) :
    let persisted := (jsonFile out document : StateM Host _).run host
    Persists out document host persisted.2 persisted.1.value := by
  intro persisted
  dsimp only [persisted]
  rcases placed : host.files.placeFor out document.text with error | place
  · rcases jsonFile_run_of_unplaced placed with ⟨log, run⟩
    rw [run]
    exact persists_of_unplaced placed
  · rcases jsonFile_run_of_placed placed with ⟨log, run⟩
    rw [run]
    exact persists_of_placed placed _

/-! ## One document after the other -/

section

variable
    {out : String}
    {host : Host}
    (documents : List Document)

/-- If the texts have no place, every document is refused. -/
theorem persistAll_of_unplaced
    {error : IoError}
    (unplaced :
      ∀ document : Document,
        host.files.placeFor out document.text = .error error) :
    ((jsonFile out : Sink (StateM Host)).persistAll documents).run host =
      (List.replicate documents.length (.error { path := out, error }),
        host) := by
  induction documents with
  | nil => rfl
  | cons document rest induction =>
    rcases jsonFile_run_of_unplaced (unplaced document) with ⟨log, run⟩
    rw [persistAll_run_cons, run]
    dsimp only
    rw [induction]
    rfl

/-- If the texts have a place, every document is accepted, and the last one is
there in the end as if it had been the only one. -/
theorem persistAll_of_placed
    {place : Location}
    (placed :
      ∀ document : Document,
        host.files.placeFor out document.text = .ok place) :
    let persisted :=
      ((jsonFile out : Sink (StateM Host)).persistAll documents).run host
    persisted.1 = List.replicate documents.length (.ok ()) ∧
      ∀ last ∈ documents.getLast?,
        ∃ time,
          persisted.2.files =
            host.files.insert place (.file last.text.toUTF8 time) := by
  induction documents generalizing host with
  | nil => exact ⟨rfl, nofun⟩
  | cons document rest induction =>
    rcases jsonFile_run_of_placed (placed document) with ⟨log, run⟩
    rw [persistAll_run_cons, run]
    dsimp only
    let after :=
      host.advance
        (host.files.insert place (.file document.text.toUTF8 host.second))
    -- The file that has been written keeps the place for the texts behind it.
    have kept (other : Document) :
        after.files.placeFor out other.text = .ok place :=
      FileTree.placeFor_insert (placed document) _ _ other.text
    rcases induction kept with ⟨answers, ends⟩
    refine ⟨congrArg (Except.ok () :: ·) answers, ?_⟩
    cases rest with
    | nil =>
      rintro last ⟨⟩
      exact ⟨host.second, rfl⟩
    | cons next rest =>
      intro last isLast
      rw [List.getLast?_cons_cons] at isLast
      rcases ends last isLast with ⟨time, files⟩
      refine ⟨time, files.trans ?_⟩
      exact FileTree.insert_insert host.files place _ _

end

/-- The result file is what the last document makes it.  Each document is
written as a whole or refused without any effect, on the host that the documents
in front of it have left.  Either all of them are refused, or the file is opened
at one place all the while, and the tree differs from the first one in nothing
but the text of the last document there. -/
theorem persistAll_jsonFile_holds_last
    (out : String)
    (documents : List Document)
    (host : Host) :
    let sink : Sink (StateM Host) := jsonFile out
    let persisted := (sink.persistAll documents).run host
    let after (count : Nat) :=
      ((sink.persistAll (documents.take count)).run host).2
    (∀ position document, documents[position]? = some document →
        ∃ answer,
          persisted.1[position]? = some answer ∧
            Persists out document (after position) (after (position + 1))
              answer) ∧
      ((∃ error,
          persisted =
            (List.replicate documents.length (.error { path := out, error }),
              host)) ∨
        ∃ place,
          host.files.opening out = .ok place ∧
            persisted.1 = List.replicate documents.length (.ok ()) ∧
            ∀ last ∈ documents.getLast?,
              host.files.Written persisted.2.files out last.text place) := by
  intro sink persisted after
  constructor
  · intro position document here
    rcases sink.persistAll_getElem? here host with ⟨answer, left⟩
    refine ⟨_, answer, ?_⟩
    dsimp only [after]
    rw [left]
    exact persists_jsonFile out document _
  · have same (document : Document) :
        host.files.placeFor out document.text =
          host.files.placeFor out (Document.text { steps := [] }) :=
      host.files.placeFor_eq_of_not_isEmpty out document.text_not_isEmpty
        (Document.text_not_isEmpty _)
    rcases placed :
        host.files.placeFor out (Document.text { steps := [] }) with
      error | place
    · exact .inl ⟨error,
        persistAll_of_unplaced documents fun document =>
          (same document).trans placed⟩
    · have all (document : Document) := (same document).trans placed
      rcases persistAll_of_placed documents all with ⟨answers, ends⟩
      have opened := (FileTree.placeFor_eq_ok_iff_opening.mp placed).1
      refine .inr ⟨place, opened, answers, fun last isLast => ?_⟩
      rcases ends last isLast with ⟨time, files⟩
      dsimp only [persisted]
      rw [files]
      exact FileTree.written_insert (all last) time

/-- A longer document and a shorter one are written through a link, over the
texts of both. -/
theorem persistAll_jsonFile_holds_last_link :
    let long : Document :=
      { steps := [{ kind := .create, arguments := ["a"] }] }
    let short : Document := { steps := [] }
    let old : Entry := .file (long.text ++ short.text).toUTF8 0
    let files : FileTree :=
      { entries := [(["out"], old), (["link"], .link "out")] }
    let host : Host := { files }
    let persisted :=
      ((jsonFile "link" : Sink (StateM Host)).persistAll [long, short]).run
        host
    short.text.utf8ByteSize < long.text.utf8ByteSize ∧
      persisted.1 = [.ok (), .ok ()] ∧
      (∃ changed,
        persisted.2.files.find? ["out"] =
          some (.file short.text.toUTF8 changed)) ∧
      persisted.2.files.find? ["link"] = some (.link "out") ∧
      ∃ text value,
        persisted.2.files.contents "link" = .ok text ∧
          Json.parse text = .ok value ∧
          Document.decode value = .ok short := by
  intro long short old files host persisted
  have target :
      files.writingPlaceFrom 39 (Path.ofText "out") [] = .ok ["out"] :=
    (FileTree.opens_name rfl ⟨by decide, by decide, by decide⟩
      (.inl ⟨FileTree.takesFile_of_file nofun rfl,
        rfl⟩)).writingPlaceFrom_eq
  have leads : files.writingPlace (Path.ofText "link") = .ok ["out"] :=
    (FileTree.opens_name rfl ⟨by decide, by decide, by decide⟩
      (.inr ⟨39, "out", rfl, rfl, target⟩)).writingPlaceFrom_eq
  have opened : files.opening "link" = .ok ["out"] :=
    FileTree.opening_eq_ok_iff.mpr ⟨rfl, leads⟩
  rcases persistAll_jsonFile_holds_last "link" [long, short] host with
    ⟨each, all⟩
  rcases each 0 long rfl with ⟨answer, first, persists⟩
  have accepted : answer = .ok () :=
    persists.accepted_iff.mpr ⟨["out"], opened, nofun⟩
  rcases all with ⟨error, refused⟩ | ⟨place, found, answers, ends⟩
  · rw [refused, accepted] at first
    cases first
  · cases opened.symm.trans found
    have written := ends short rfl
    rcases each 1 short rfl with ⟨answer', second, persists'⟩
    rw [answers] at second
    cases second
    have fits : short.summary.FitsWord := {
      total_lt := by decide
      success_lt := by decide
      failed_lt := by decide
      failedStep_lt := nofun }
    exact ⟨by cbv, answers, written.holds,
      written.others ["link"] (by simp), persists'.decoded rfl fits⟩

end Sink

end Scenario
