import TypeAncestry.Text.Classes

/-!
# Settings of the log

* `LogFormat` : the forms in which a log can be written; `LogFormat.ofText` reads one.
* `LogSettings` : the settings that decide whether and how there is a log.
-/

namespace TypeAncestry

/-- The forms in which a log can be written. -/
inductive LogFormat where
  | text
  | tree
  | json
  deriving DecidableEq, Repr

namespace LogFormat

/-- The name of a form. -/
def name : LogFormat → String
  | text => "text"
  | tree => "tree"
  | json => "json"

/-- The form with the given name, whatever its case and the white space around it; any other name
leads to plain text.  No letter of the names is the lower case of a letter beyond ASCII. -/
def ofText (s : String) : LogFormat :=
  let word := String.ofList ((Text.trim s.toList).map Char.toLower)
  if word = "tree" then tree else if word = "json" then json else text

end LogFormat

/-- The settings that decide whether and how there is a log. -/
structure LogSettings where
  /-- What to log. -/
  directives : Option String
  /-- What to log if `directives` does not say it. -/
  fallback : Option String
  /-- The name of the form. -/
  format : Option String
  deriving DecidableEq, Repr

namespace LogSettings

/-- A log is asked for. -/
def isAsked (s : LogSettings) : Bool := s.directives.isSome || s.fallback.isSome

/-- The form of the log. -/
def logFormat (s : LogSettings) : LogFormat := (s.format.map LogFormat.ofText).getD .text

end LogSettings

end TypeAncestry
