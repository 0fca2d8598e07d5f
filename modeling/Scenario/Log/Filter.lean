import Scenario.Log.Directive

/-!
# Log filters

A filter says which events are written.  Its text is a list of directives
between commas.  Of the directives that speak of an event, the one with the
longest target decides; of several, one with a field, and of several still, the
last.  An event that no directive speaks of is not written, so a filter without
directives lets nothing through.
-/

namespace Scenario

/-- A list of directives. -/
structure LogFilter where
  directives : List Directive
deriving DecidableEq, Repr

namespace LogFilter

/-- The filter for programs that are given none, or one that cannot be
read. -/
def standard : LogFilter where
  directives := [{ greatestRank := Level.info.rank }]

/-! ## Reading -/

/-- Read a filter, if the text is one. -/
def ofText? (text : String) : Option LogFilter := do
  let parts := (Text.cutAt ',' text.toList).filter (· ≠ [])
  return { directives := ← parts.mapM Directive.ofText? }

/-- The filter that a program uses, given the text it was started with. -/
def chosen (text? : Option String) : LogFilter :=
  (text?.bind ofText?).getD standard

/-! ## Filtering -/

/-- Of two directives that speak of an event, the one that decides. -/
def narrower (earlier later : Directive) : Directive :=
  if later.narrowness < earlier.narrowness then earlier else later

/-- The directive that decides about events from a path. -/
def deciding? (filter : LogFilter) (path : String) : Option Directive :=
  (filter.directives.filter (·.speaksOf path)).foldl
    (fun chosen? directive =>
      some ((chosen?.map (narrower · directive)).getD directive))
    none

/-- The filter lets an event through. -/
def lets (filter : LogFilter) (event : LogEvent) : Bool :=
  (filter.deciding? event.source.path).any fun directive =>
    event.level.rank ≤ directive.greatestRank

end LogFilter

end Scenario
