import PythonStyle.Checking.Error
import PythonStyle.Facts.Basic

/-!
# Events

What happens during a check besides diagnostics, for those who want to follow it.
-/

namespace PythonStyle

/-- The name of the language that is checked. -/
def languageName : String := "python"

/-- How much an event matters, from the least on. -/
inductive Level where
  | trace
  | debug
  | info
  | warn
  | error
  deriving DecidableEq, Repr, Inhabited

namespace Level

/-- The name of a level. -/
def name : Level → String
  | trace => "TRACE"
  | debug => "DEBUG"
  | info => "INFO"
  | warn => "WARN"
  | error => "ERROR"

/-- The rank of a level: more important events have a higher one. -/
def rank : Level → Nat
  | trace => 0
  | debug => 1
  | info => 2
  | warn => 3
  | error => 4

end Level

/-- Something that happens during a check. -/
inductive Event where
  /-- The check of a file starts.  Here as elsewhere a path is named by its label. -/
  | fileStarted (path : String)
  /-- A file is no program, so that the rules for functions do not apply. -/
  | functionsSkipped (path : String)
  /-- A file is not checked at all. -/
  | fileFailed (error : CheckError)
  /-- All files are checked. -/
  | finished (files diagnostics : Nat)
  /-- A target of an assignment is not judged. -/
  | targetSkipped (path : String) (target : UnsupportedTarget)
  /-- A default is no constant. -/
  | defaultNotConstant (path : String) (value : DefaultValue)
  /-- A file is left out because of its name. -/
  | fileSkipped (path : String)
  /-- There is no file to check. -/
  | nothingToCheck (path : String)
  deriving DecidableEq, Repr, Inhabited

namespace Event

/-- How much an event matters. -/
def level : Event → Level
  | fileStarted _ | functionsSkipped _ | targetSkipped .. => .debug
  | fileSkipped _ | nothingToCheck _ => .warn
  | fileFailed error => if error.isUnread then .warn else .error
  | finished .. => .info
  | defaultNotConstant .. => .trace

/-- What is said about an event. -/
def message : Event → String
  | fileStarted path => "checking " ++ path
  | functionsSkipped path => path ++ " does not parse, syntax rules skipped"
  | fileFailed error => error.message
  | finished files diagnostics =>
    "checked " ++ toString files ++ " files, " ++ toString diagnostics ++ " diagnostics"
  | targetSkipped path target => path ++ ": skipping " ++ target.message
  | defaultNotConstant path value =>
    path ++ ":" ++ toString value.line ++ ": non-constant default \x60" ++ value.kind ++ "\x60"
  | fileSkipped path => "skipping " ++ path ++ ": not a " ++ languageName ++ " source file"
  | nothingToCheck path => "no files to check in " ++ path

/-- The line that shows an event. -/
def render (e : Event) : String := e.level.name ++ " " ++ e.message

end Event

end PythonStyle
