import PythonStyle.CommandLine.Arguments

/-!
# Usage

What the program says about its command line.
-/

namespace PythonStyle

/-- How the program is called. -/
def usage : String :=
  "Usage: pystylecheck [OPTIONS] <PATH>\n\n" ++
  "Checks the style of a .py file, or of the .py files in a directory.\n\n" ++
  "Options:\n" ++
  "  -f, --format <FORMAT>  Output format: text (default) or json\n" ++
  "  -v, --verbose          Show debug messages on stderr\n" ++
  "  -h, --help             Show this help\n" ++
  "  -V, --version          Show the version\n"

/-- What is said about a misuse of the command line. -/
def UsageError.message : UsageError → String
  | missingPath => "a path is required"
  | unknownArgument => "an argument is not expected"
  | invalidValue => "a value is missing or not allowed"
  | repeatedOption => "an option is given more than once"
  | unexpectedValue => "an option has a value that it does not take"

end PythonStyle
