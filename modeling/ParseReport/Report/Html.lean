import ParseReport.Report

/-!
Reports as a preformatted block of HTML.
-/

namespace ParseReport.Html

/-- The three characters with a meaning in markup are written as entities. -/
def escapeChar (c : Char) : Text :=
  if c = '&' then "&amp;".toList
  else if c = '<' then "&lt;".toList
  else if c = '>' then "&gt;".toList
  else [c]

/-- A text without markup in it. -/
def escape (t : Text) : Text :=
  t.flatMap escapeChar

/-- A fragment inside a span of a class. -/
def span (cssClass fragment : Text) : Text :=
  "<span class=\"deadends-".toList ++ cssClass ++ "\">".toList ++ fragment ++ "</span>".toList

/-- Fragments are escaped texts; the caret and the contexts stand in spans. -/
def markup : Markup Text where
  text := escape
  caret := span "caret".toList
  context := span "context".toList
  newline := ['\n']

/-- The block around the fragments; there is none around nothing. -/
def wrap : List Text → Text
  | [] => []
  | fragments => "<pre class=\"deadends\">".toList ++ fragments.flatten ++ "</pre>".toList

/-- A report as HTML; it is empty if there are no failures. -/
def report {ε : Type} (x : Extraction ε) (extra : Nat) (source : Text) (failures : List Failure) :
    Except ε Text :=
  (render markup x extra source failures).map wrap

end ParseReport.Html
