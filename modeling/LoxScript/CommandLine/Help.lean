import LoxScript.Log

/-! # Help
The texts that tell how the program is called. -/

namespace LoxScript.CommandLine

/-- The version of the program. -/
def version : String := "0.1.0"

/-- The answer to a question for the version. -/
def versionText : String := Log.program ++ " " ++ version ++ "\n"

/-- The line that shows all flags. -/
def usage : String :=
  "usage: " ++ Log.program ++ " [-h] [--tokens | --ast] [-c FILE] [-v] [--version] [script]\n"

/-- The answer to a question for help. -/
def helpText : String :=
  usage ++ "\nTree-walking interpreter for a small Lox-style language\n" ++
  "\npositional arguments:\n" ++
  "  script                Source file to run (omit for a prompt)\n" ++
  "\noptions:\n" ++
  "  -h, --help            show this help message and exit\n" ++
  "  --tokens              Print the tokens of SCRIPT instead of running it\n" ++
  "  --ast                 Print the parsed tree of SCRIPT instead of running it\n" ++
  "  -c FILE, --config FILE\n" ++
  "                        YAML configuration file\n" ++
  "  -v, --verbose         Enable debug logging\n" ++
  "  --version             show program's version number and exit\n"

/-- What is written of a command that cannot be understood. -/
def complaint (message : String) : String := usage ++ Log.program ++ ": error: " ++ message

end LoxScript.CommandLine
