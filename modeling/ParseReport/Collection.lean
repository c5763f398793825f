import ParseReport.Diagnosis
import ParseReport.Parsing.Recovery

/-!
The failures of a source text under a grammar.
-/

namespace ParseReport

/-- How texts are parsed: by tables, or by a parser of which only the errors are known. Such a
parser offers some errors to recover from, if it recovers at all, and gives up with a last one or
succeeds. -/
inductive Engine
  | table (table : Table)
  | known (recovers : Bool) (offered : List ParseError) (last : Option ParseError)

/-- A grammar that is ready to parse. -/
structure Grammar where
  vocabulary : Vocabulary
  engine : Engine

/-- The errors to report for a text. A parser whose stack is not at hand cannot recover: the first
error that it offers is reported and ends the parse. -/
def Engine.errors (engine : Engine) (limit : Int) (source : Text) :
    Except TableFlaw (List ParseError) :=
  match engine with
  | .table t =>
    match t.recover limit source with
    | (_, .broken flaw) => .error flaw
    | (incidents, _) => .ok ((incidents.filter Incident.recorded).map Incident.error)
  | .known true (first :: _) _ => .ok [first]
  | .known _ _ last => .ok last.toList

/-- The failures of a text: those of each error in turn. -/
def Grammar.failures (g : Grammar) (limit : Int) (source : Text) :
    Except TableFlaw (List Failure) :=
  (g.engine.errors limit source).map fun errors =>
    errors.flatMap fun e => e.failures source g.vocabulary

end ParseReport
