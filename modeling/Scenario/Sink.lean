import Scenario.Document
import Scenario.IoError
import Scenario.Log

/-!
# Sinks

A sink takes the document that a run leaves.  It may refuse it.
-/

namespace Scenario

/-- Why a document was not kept. -/
structure PersistError where
  path : String
  error : IoError
deriving DecidableEq, Repr

/-- The text of the error. -/
def PersistError.message (failure : PersistError) : String :=
  s!"failed write result to {failure.path}: {failure.error.message}"

/-- What takes a document and keeps it. -/
abbrev Sink (m : Type → Type) :=
  Document → m (Logged (Except PersistError Unit))

/-- The sink that keeps every document it is given in a list, the latest one
last. -/
def Sink.memory {m : Type → Type} [Monad m] [MonadStateOf (List Document) m] :
    Sink m :=
  fun document => do
    modifyThe (List Document) (· ++ [document])
    return { value := .ok () }

/-- The sink that refuses every document with the same error. -/
def Sink.failing {m : Type → Type} [Monad m] (error : PersistError) : Sink m :=
  fun _ => pure { value := .error error }

end Scenario
