import Conformance.Run.Report
/-!
# Help

How to call the tool, for each way to run.
-/
namespace Conformance

namespace Command

def usageLine : Mode → String
  | .direct => "Usage: " ++ toolName ++ " [OPTIONS] [FILES]..."
  | .build => "Usage: " ++ toolName ++ " -b [OPTIONS] [PROJECTS]..."

def purpose : Mode → String
  | .direct => "Type-check-time conformance rules for TypeScript programs"
  | .build => "Build a project and everything it references, then run conformance checks"

def nameHelp : Mode → List String
  | .direct =>
    ["Arguments:",
      "  [FILES]...  Typed-tree files to check. When given, no tsconfig.json is loaded"]
  | .build =>
    ["Arguments:",
      "  [PROJECTS]...  At most one project (directory or config file). Defaults to the current" ++
        " directory"]

def ownSwitchHelp : Mode → List String
  | .direct =>
    ["  -p, --project <PROJECT>        Project config file, or a directory containing" ++
        " tsconfig.json",
      "      --list-rules               Print the built-in rule catalog and exit"]
  | .build => []

def sharedSwitchHelp : List String :=
  ["      --format <FORMAT>          Diagnostic output format [default: text]" ++
      " [possible values: text, github]",
    "      --report-out <REPORT_OUT>  Also write a JSON report to this path",
    "  -h, --help                     Print help"]

def helpEnd : Mode → List String
  | .direct =>
    ["  -V, --version                  Print version", "",
      "Run `" ++ toolName ++ " -b [project]` to build a project and its references."]
  | .build => []

def helpText (mode : Mode) : String :=
  String.join (([purpose mode, "", usageLine mode, ""] ++ nameHelp mode ++ ["", "Options:"] ++
    ownSwitchHelp mode ++ sharedSwitchHelp ++ helpEnd mode).map (· ++ "\n"))

def usageText (mode : Mode) : String :=
  "error: the arguments cannot be read\n\n" ++ usageLine mode ++
    "\n\nFor more information, try '--help'.\n"

end Command

end Conformance
