import ParseReport.Report

/-!
Reports as plain text.
-/

namespace ParseReport.Plain

/-- Fragments are texts without decoration. -/
def markup : Markup Text where
  text := id
  caret := id
  context := id
  newline := ['\n']

/-- A report as plain text; it is empty if there are no failures. -/
def report {ε : Type} (x : Extraction ε) (extra : Nat) (source : Text) (failures : List Failure) :
    Except ε Text :=
  (render markup x extra source failures).map List.flatten

end ParseReport.Plain
