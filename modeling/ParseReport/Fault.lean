import ParseReport.Value

/-!
What can be wrong with the dead ends a report is made from.
-/

namespace ParseReport

/-- What a position belongs to. -/
inductive Owner
  | failure
  | context
deriving DecidableEq, Repr

/-- An attribute that a foreign frame can lack. -/
inductive Attribute
  | row
  | col
  | context
deriving DecidableEq, Repr

/-- Why no report can be made. -/
inductive Fault
  /-- A row or a column lies below one. -/
  | position (owner : Owner) (row col : Int)
  /-- A problem has no phrase. -/
  | unknownProblem (value : Value)
  /-- A value is no dead end at all. -/
  | unsupportedItem (value : Value)
  /-- A foreign frame of some kind lacks an attribute. -/
  | missingAttribute (kind : Text) (missing : Attribute)
  /-- The number of extra source lines is below zero. -/
  | negativeExtra (count : Int)

/-- The word for the owner of a position. -/
def Owner.word : Owner → Text
  | .failure => "failure".toList
  | .context => "context".toList

/-- The name of an attribute. -/
def Attribute.word : Attribute → Text
  | .row => "row".toList
  | .col => "col".toList
  | .context => "context".toList

/-- A fault in words. -/
def Fault.message : Fault → Text
  | .position owner row col =>
    "invalid ".toList ++ owner.word ++ " position ".toList ++ signedDecimal row ++ ":".toList
      ++ signedDecimal col ++ ", rows and columns start at 1".toList
  | .unknownProblem value => "Unknown parser problem: ".toList ++ value.quoted
  | .unsupportedItem value => "Unsupported dead end type: ".toList ++ value.kind
  | .missingAttribute kind missing =>
    "'".toList ++ kind ++ "' object has no attribute '".toList ++ missing.word ++ "'".toList
  | .negativeExtra count =>
    "lines_of_extra_context must be non-negative, got ".toList ++ signedDecimal count

end ParseReport
