import UsageContracts.Text.Basic

/-!
# Help texts

The usage lines and the help texts of the program and its commands, for lines
of eighty characters.
-/

namespace UsageContracts.Help

/-- Lines of text, each with its end. -/
def lines (parts : List Text) : Text :=
  parts.flatMap (· ++ ("\n" : Text))

/-- The name of the program. -/
def program : Text := "usage-patterns"

/-- The version of the program. -/
def version : Text := "0.1.0"

/-- The names of the commands, in the order in which they are offered. -/
def commands : List Text :=
  ["classify", "example", "patterns", "validate", "serve"]

/-- The names of the commands as one choice. -/
def commandChoice : Text :=
  "\x7b" ++ Text.join "," commands ++ "\x7d"

/-- The usage lines of the program. -/
def mainUsage : Text :=
  lines
    [ "usage: usage-patterns [-h] [-V] [-c FILE] [--json] [-v]",
      "                      " ++ commandChoice ++ " ..." ]

/-- The help text of the program. -/
def mainHelp : Text :=
  mainUsage ++ lines
    [ "",
      "Usage-control policy pattern engine",
      "",
      "positional arguments:",
      "  " ++ commandChoice,
      "                        Available commands",
      "    classify            Detect the pattern of a policy",
      "    example             Print an example policy",
      "    patterns            List known patterns",
      "    validate            Validate a policy document",
      "    serve               Run the HTTP API",
      "",
      "options:",
      "  -h, --help            show this help message and exit",
      "  -V, --version         show program's version number and exit",
      "  -c FILE, --config FILE",
      "                        Path to configuration file",
      "  --json                Output in JSON format",
      "  -v, --verbose         Enable verbose logging" ]

/-- The usage line of a command that reads a document. -/
def documentUsage (command : Text) : Text :=
  lines ["usage: usage-patterns " ++ command ++ " [-h] file"]

/-- The help text of a command that reads a document. -/
def documentHelp (command : Text) : Text :=
  documentUsage command ++ lines
    [ "",
      "positional arguments:",
      "  file        Policy document ('-' for stdin)",
      "",
      "options:",
      "  -h, --help  show this help message and exit" ]

/-- The usage line of the command for examples. -/
def exampleUsage : Text :=
  lines ["usage: usage-patterns example [-h] [-o OUTPUT] pattern"]

/-- The help text of the command for examples. -/
def exampleHelp : Text :=
  exampleUsage ++ lines
    [ "",
      "positional arguments:",
      "  pattern               Pattern name, e.g. N_TIMES_USAGE",
      "",
      "options:",
      "  -h, --help            show this help message and exit",
      "  -o OUTPUT, --output OUTPUT",
      "                        Output file (default: stdout)" ]

/-- The usage line of the command for the catalogue. -/
def patternsUsage : Text :=
  lines ["usage: usage-patterns patterns [-h]"]

/-- The help text of the command for the catalogue. -/
def patternsHelp : Text :=
  patternsUsage ++ lines
    [ "",
      "options:",
      "  -h, --help  show this help message and exit" ]

/-- The usage line of the command for the service. -/
def serveUsage : Text :=
  lines ["usage: usage-patterns serve [-h] [--host HOST] [--port PORT]"]

/-- The help text of the command for the service. -/
def serveHelp : Text :=
  serveUsage ++ lines
    [ "",
      "options:",
      "  -h, --help   show this help message and exit",
      "  --host HOST  Bind address",
      "  --port PORT  Bind port" ]

end UsageContracts.Help
