import PythonStyle.FileSystem.Path

/-!
# Command line arguments

The command line has one path, a format and a flag for more messages.  The value of
an option may follow it as the next word.  A value is looked at only once the word
behind it is known to be an option, a path or the end: unknown options, surplus paths
and values that no option takes are found first.

Main definitions:

- `Options`: what the command line asks for.
- `Stop`: why it asks for no check.
- `readArguments`: the options on a command line.
-/

namespace PythonStyle

/-- The form of a report. -/
inductive Format where
  | text
  | json
  deriving DecidableEq, Repr, Inhabited

/-- The format with a name. -/
def Format.ofName? : String → Option Format
  | "text" => some .text
  | "json" => some .json
  | _ => none

/-- What a command line asks for. -/
structure Options where
  path : Path
  format : Format
  verbose : Bool
  deriving DecidableEq, Repr, Inhabited

/-- What is wrong with a command line. -/
inductive UsageError where
  /-- There is no path. -/
  | missingPath
  /-- An option is unknown, or there is a second path. -/
  | unknownArgument
  /-- A value is missing, empty or none of those allowed. -/
  | invalidValue
  /-- An option is given twice. -/
  | repeatedOption
  /-- An option has a value that it does not take. -/
  | unexpectedValue
  deriving DecidableEq, Repr, Inhabited

/-- Why a command line asks for no check. -/
inductive Stop where
  | help
  | version
  | misuse (error : UsageError)
  deriving DecidableEq, Repr, Inhabited

/-- A word whose meaning is known and whose value is not looked at yet. -/
inductive Pending where
  | path (value : String)
  /-- A format; its value may be the next word. -/
  | format (value : Option String)
  deriving DecidableEq, Repr, Inhabited

/-- What is known of a command line so far. -/
structure Arguments where
  path : Option String := none
  format : Option Format := none
  verbose : Bool := false
  pending : Option Pending := none
  deriving DecidableEq, Repr, Inhabited

namespace Arguments

/-- Sets the format. -/
def setFormat (a : Arguments) (value : String) : Except Stop Arguments :=
  if a.format.isSome then .error (.misuse .repeatedOption)
  else match Format.ofName? value with
    | some format => .ok { a with format := some format }
    | none => .error (.misuse .invalidValue)

/-- Asks for more messages. -/
def setVerbose (a : Arguments) : Except Stop Arguments :=
  if a.verbose then .error (.misuse .repeatedOption) else .ok { a with verbose := true }

/-- Looks at the value that was put off. -/
def settle (a : Arguments) : Except Stop Arguments :=
  let settled := { a with pending := none }
  match a.pending with
  | none => .ok a
  | some (.path value) =>
    if value.isEmpty then .error (.misuse .invalidValue)
    else .ok { settled with path := some value }
  | some (.format none) => .error (.misuse .invalidValue)
  | some (.format (some value)) => settled.setFormat value

/-- Reads a format whose value may be attached. -/
def readFormat (a : Arguments) (attached : Option String) : Except Stop Arguments := do
  let a ← a.settle
  match attached with
  | some value => a.setFormat value
  | none => return { a with pending := some (.format none) }

/-- Reads an option that takes no value. -/
def readFlag (a : Arguments) (act : Arguments → Except Stop Arguments)
    (attached : Option String) : Except Stop Arguments :=
  if attached.isSome then .error (.misuse .unexpectedValue) else a.settle >>= act

/-- Reads an option with a long name. -/
def readLong (a : Arguments) (name : List Char) (attached : Option String) :
    Except Stop Arguments :=
  match String.ofList name with
  | "format" => a.readFormat attached
  | "verbose" => a.readFlag setVerbose attached
  | "help" => a.readFlag (fun _ => .error .help) attached
  | "version" => a.readFlag (fun _ => .error .version) attached
  | _ => .error (.misuse .unknownArgument)

/-- Reads options with short names, one behind the other.  What follows the letter of
a format is its value. -/
def readShort (a : Arguments) : List Char → Except Stop Arguments
  | [] => .ok a
  | 'f' :: [] => a.readFormat none
  | 'f' :: '=' :: value => a.readFormat (some (String.ofList value))
  | 'f' :: value => a.readFormat (some (String.ofList value))
  | 'v' :: more => do (← a.readFlag setVerbose none).readShort more
  | 'h' :: _ => a.readFlag (fun _ => .error .help) none
  | 'V' :: _ => a.readFlag (fun _ => .error .version) none
  | _ => .error (.misuse .unknownArgument)

/-- Whether a path was given. -/
def hasPath (a : Arguments) : Bool :=
  a.path.isSome || a.pending matches some (.path _)

/-- Reads a word that is no option and no value. -/
def readPath (a : Arguments) (word : String) : Except Stop Arguments :=
  if a.hasPath then .error (.misuse .unknownArgument)
  else do return { ← a.settle with pending := some (.path word) }

/-- Reads a word in front of which options are not switched off. -/
def readWord (a : Arguments) (word : String) : Except Stop Arguments :=
  match word.toList with
  | '-' :: '-' :: long =>
    let attached := (long.dropWhile (· != '=')).tail?
    a.readLong (long.takeWhile (· != '=')) (attached.map String.ofList)
  | '-' :: c :: short => a.readShort (c :: short)
  | _ =>
    if a.pending = some (.format none) then
      .ok { a with pending := some (.format (some word)) }
    else a.readPath word

/-- Reads words.  A word of two dashes switches options off for the words behind it. -/
def readWords : Bool → Arguments → List String → Except Stop Arguments
  | _, a, [] => a.settle
  | true, a, word :: more => do readWords true (← a.readPath word) more
  | false, a, word :: more =>
    if word = "--" then readWords true a more
    else do readWords false (← a.readWord word) more

end Arguments

/-- The options on a command line. -/
def readArguments (words : List String) : Except Stop Options := do
  let a ← Arguments.readWords false {} words
  match a.path with
  | none => .error (.misuse .missingPath)
  | some path => return ⟨.ofText path, a.format.getD .text, a.verbose⟩

end PythonStyle
