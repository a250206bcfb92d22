import MoveBindings.CommandLine.Arguments

/-!
# Usage texts

The usage lists all options in three lines. It precedes every report of wrong
arguments, and starts the help text.
-/

namespace MoveBindings.CommandLine

/-- The name of the command. -/
def commandName : String := "move2ts"

/-- Lines as text, each ended by a newline. -/
def ofLines (lines : List String) : String := String.join (lines.map (· ++ "\n"))

/-- The usage of the command. -/
def usage : String :=
  ofLines
    [ "usage: move2ts [-h] [-o OUTPUT] [-c FILE] [-n NAME] [--stdout] [--no-scaffold]",
      "               [-v]",
      "               manifest" ]

/-- The help text. -/
def help : String :=
  usage ++ ofLines
    [ "",
      "Move to TypeScript binding generator",
      "",
      "positional arguments:",
      "  manifest              JSON manifest describing packages, modules and structs",
      "",
      "options:",
      "  -h, --help            show this help message and exit",
      "  -o OUTPUT, --output OUTPUT",
      "                        Output directory",
      "  -c FILE, --config FILE",
      "                        Generator settings (JSON)",
      "  -n NAME, --name NAME  Name for package.json",
      "  --stdout              Print to stdout instead of writing files",
      "  --no-scaffold         Skip package.json, tsconfig.json and jest.config.js",
      "  -v, --verbose         Show every diagnostic" ]

/-- The report of wrong arguments. -/
def UsageError.report (error : UsageError) : String :=
  usage ++ commandName ++ ": error: " ++ error.message ++ "\n"

end MoveBindings.CommandLine
