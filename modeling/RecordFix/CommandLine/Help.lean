import RecordFix.CommandLine.Arguments

/-!
# Help texts
-/

namespace RecordFix.CommandLine

/-- The name that the program is called by. -/
def programName : String := "metafix"

def Topic.about : Topic → String
  | .all => "Transform metadata records with Fix scripts"
  | .run => "Full transformation: JSON or CSV records -> fix -> JSON records"
  | .events => "Print the event stream emitted for each record"
  | .parse => "Parse a CSV file and output JSON"
  | .commands => "List registered methods, conditionals and binds"
  | .exampleFix => "Show an example fix"
  | .help => "Print this message or the help of the given subcommand(s)"

/-- How a command is called. -/
def Topic.usage : Topic → String
  | .all => programName ++ " <COMMAND>"
  | .run => programName ++ " run [OPTIONS] --fix <FIX> <INPUT>"
  | .events => programName ++ " events [OPTIONS] --fix <FIX> <INPUT>"
  | .parse => programName ++ " parse [OPTIONS] <INPUT>"
  | .commands => programName ++ " commands"
  | .exampleFix => programName ++ " example-fix"
  | .help => programName ++ " help [COMMAND]..."

/-- Titled lists of words and what they mean. -/
def Topic.sections : Topic → List (String × List (String × String))
  | .all =>
    [("Commands",
      [("run", Topic.about .run), ("events", Topic.about .events), ("parse", Topic.about .parse),
       ("commands", Topic.about .commands), ("example-fix", Topic.about .exampleFix),
       ("help", Topic.about .help)]),
     ("Options", [("-h, --help", "Print help")])]
  | .run | .events =>
    [("Arguments", [("<INPUT>", "Input file (.csv, or JSON object / array of objects)")]),
     ("Options",
      [("-f, --fix <FIX>", "Fix file (JSON)"), ("    --options <OPTIONS>", "Transformation options file (JSON)"),
       ("-s, --strictness <STRICTNESS>", "Error handling: process, record or expression"),
       ("    --var <NAME=VALUE>", "Fix variable, as name=value (repeatable)"),
       ("    --id-field <ID_FIELD>", "Input field to use as record id"),
       ("-o, --output <OUTPUT>", "Output file (default: stdout)"), ("-h, --help", "Print help")])]
  | .parse =>
    [("Arguments", [("<INPUT>", "Input CSV file")]),
     ("Options", [("-o, --output <OUTPUT>", "Output file (default: stdout)"), ("-h, --help", "Print help")])]
  | .commands | .exampleFix => [("Options", [("-h, --help", "Print help")])]
  | .help => [("Arguments", [("[COMMAND]...", "Print help for the subcommand(s)")])]

/-- A titled list, its words as wide as the longest. -/
def sectionText (title : String) (entries : List (String × String)) : String :=
  let width := (entries.map (·.1.length)).foldl max 0
  let line (entry : String × String) : String :=
    "  " ++ entry.1 ++ "".pushn ' ' (width - entry.1.length) ++ "  " ++ entry.2 ++ "\n"
  title ++ ":\n" ++ String.join (entries.map line)

def Topic.text (t : Topic) : String :=
  t.about ++ "\n\nUsage: " ++ t.usage ++ "\n\n" ++
    "\n".intercalate (t.sections.map fun (title, entries) => sectionText title entries)

end RecordFix.CommandLine
