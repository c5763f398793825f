import ParseReport.Report

/-!
Reports as Markdown.
-/

namespace ParseReport.Markdown

/-- The characters that mean something in Markdown. -/
def specials : Text :=
  "\\`*_\x7b\x7d[]()#+-.!|<>".toList

/-- An ampersand is written as an entity, and a special character behind a backslash. -/
def escapeChar (c : Char) : Text :=
  if c = '&' then "&amp;".toList
  else if specials.contains c then ['\\', c]
  else [c]

/-- A blank that Markdown keeps. -/
def hardBlank : Text := "&nbsp;".toList

/-- Writes the blanks that Markdown would drop as hard ones: those next to another blank, and those
at the beginning. The first argument tells that the text before ends in a hard blank or that there
is none. -/
def keepBlanks : Bool → Text → Text
  | _, [] => []
  | hard, ' ' :: rest =>
    if hard || rest.head? = some ' ' then hardBlank ++ keepBlanks true rest
    else ' ' :: keepBlanks false rest
  | _, c :: rest => c :: keepBlanks false rest

/-- A text without markup in it. -/
def escape (t : Text) : Text :=
  keepBlanks true (t.flatMap escapeChar)

/-- A fragment between marks. -/
def between (mark fragment : Text) : Text :=
  mark ++ fragment ++ mark

/-- Fragments are escaped texts; the caret is strong, contexts are emphasised, and a line ends in a
hard break. -/
def markup : Markup Text where
  text := escape
  caret := between ['*', '*']
  context := between ['*']
  newline := [' ', ' ', '\n']

/-- A report as Markdown; it is empty if there are no failures. -/
def report {ε : Type} (x : Extraction ε) (extra : Nat) (source : Text) (failures : List Failure) :
    Except ε Text :=
  (render markup x extra source failures).map List.flatten

end ParseReport.Markdown
