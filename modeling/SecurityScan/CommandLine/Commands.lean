import SecurityScan.CommandLine.Reader
import SecurityScan.Report.Format
import SecurityScan.Scaffold.Workflow
import SecurityScan.Scan.Mode

/-!
# Commands

The commands of the program with their switches. Where no command is named, a scan is meant.
-/

namespace SecurityScan.CommandLine

/-! ## Grammars -/

def helpSwitch : Switch := { names := ["-h", "--help"], field := "help", effect := .help }

def verboseSwitch : Switch := { names := ["--verbose", "-v"], field := "verbose", effect := .flag }

/-- A switch with one name. -/
def single (name field : String) (effect : Effect) : Switch :=
  { names := [name], field := field, effect := effect }

def scanSwitches : List Switch := [
  helpSwitch, verboseSwitch,
  { single "--diff" "explicit_mode" (.constant ScanMode.diff.name) with rivals := ["--all"] },
  { single "--all" "explicit_mode" (.constant ScanMode.all.name) with rivals := ["--diff"] },
  single "--format" "format" (.text (ReportFormat.all.map ReportFormat.name)),
  single "--ai" "ai" .flag,
  single "--force-scan-ignored" "force_scan_ignored" .flag,
  single "--chunk-size" "chunk_size" .whole,
  single "--provider" "provider" (.text ["auto", "anthropic", "openai", "ollama"]),
  single "--model" "model" (.text []),
  single "--language" "language" (.text []),
  single "--output-path" "output_path" (.text [])]

def scanUsage : String :=
  "usage: codeward scan [-h] [--verbose] [--diff | --all]\n" ++
  "                     [--format \x7bconsole,json,markdown,html\x7d] [--ai]\n" ++
  "                     [--force-scan-ignored] [--chunk-size CHUNK_SIZE]\n" ++
  "                     [--provider \x7bauto,anthropic,openai,ollama\x7d]\n" ++
  "                     [--model MODEL] [--language LANGUAGE]\n" ++
  "                     [--output-path OUTPUT_PATH]\n" ++
  "                     [PATH ...]\n"

def scanDetails : String :=
  "positional arguments:\n" ++
  "  PATH                  Files or directories to scan\n" ++
  "\n" ++
  "options:\n" ++
  "  -h, --help            show this help message and exit\n" ++
  "  --verbose, -v         Enable debug logging\n" ++
  "  --diff                Scan only the staged differences (default if no PATH\n" ++
  "                        is given)\n" ++
  "  --all                 Scan the entire codebase\n" ++
  "  --format \x7bconsole,json,markdown,html\x7d\n" ++
  "                        Output format\n" ++
  "  --ai                  Run only AI analysis, skipping static analyzers\n" ++
  "  --force-scan-ignored  Scan files matched by the ignore file\n" ++
  "  --chunk-size CHUNK_SIZE\n" ++
  "                        Characters per analysis unit\n" ++
  "  --provider \x7bauto,anthropic,openai,ollama\x7d\n" ++
  "                        AI provider\n" ++
  "  --model MODEL         AI model name\n" ++
  "  --language LANGUAGE   Language of the finding details\n" ++
  "  --output-path OUTPUT_PATH\n" ++
  "                        Prefix for json/markdown report files\n"

def scan : Grammar where
  name := "scan"
  title := "codeward scan"
  switches := scanSwitches
  operands := some "paths"
  usual := [("format", .str ReportFormat.console.name)]
  usage := scanUsage
  details := scanDetails

def init : Grammar where
  name := "init"
  title := "codeward init"
  switches := [helpSwitch, verboseSwitch]
  operands := none
  usual := []
  usage :=
    "usage: codeward init [-h] [--verbose]\n"
  details :=
    "options:\n" ++
    "  -h, --help     show this help message and exit\n" ++
    "  --verbose, -v  Enable debug logging\n"

def ciSetup : Grammar where
  name := "ci-setup"
  title := "codeward ci-setup"
  switches := [helpSwitch, verboseSwitch,
    { single "--ci" "ci" (.text (CiService.all.map CiService.name)) with isRequired := true }]
  operands := none
  usual := []
  usage :=
    "usage: codeward ci-setup [-h] [--verbose] --ci \x7bgithub_actions,gitlab_ci\x7d\n"
  details :=
    "options:\n" ++
    "  -h, --help            show this help message and exit\n" ++
    "  --verbose, -v         Enable debug logging\n" ++
    "  --ci \x7bgithub_actions,gitlab_ci\x7d\n" ++
    "                        CI service\n"

/-- The program itself, which only shows its help. -/
def program : Grammar where
  name := "codeward"
  title := "codeward"
  switches := [helpSwitch]
  operands := none
  usual := []
  usage :=
    "usage: codeward [-h] \x7bscan,init,ci-setup\x7d ...\n"
  details :=
    "Security scanner combining Brakeman, bundler-audit and AI analysis\n" ++
    "\n" ++
    "positional arguments:\n" ++
    "  \x7bscan,init,ci-setup\x7d  Command\n" ++
    "    scan                Scan files/directories or the staged changes (default)\n" ++
    "    init                Generate .codewardrc and .codewardignore\n" ++
    "    ci-setup            Generate a CI workflow\n" ++
    "\n" ++
    "options:\n" ++
    "  -h, --help            show this help message and exit\n"

def commands : List Grammar := [scan, init, ciSetup]

/-! ## Reading -/

def isVerbose (word : String) : Bool := verboseSwitch.names.contains word

/-- The words with a command in front; the first ones may ask to be verbose before it. -/
def withCommand (words : List String) : List String :=
  let leading := words.takeWhile isVerbose
  match words.dropWhile isVerbose with
  | [] => scan.name :: leading
  | w :: rest =>
    if helpSwitch.names.contains w then w :: rest
    else if (commands.map Grammar.name).contains w then w :: leading ++ rest
    else scan.name :: leading ++ w :: rest

/-- The fields of a command line that starts with a command. Left over words are refused. -/
def read (words : List String) : Except Stop Entries :=
  match words with
  | [] => .error (.help program)
  | w :: rest =>
    match commands.find? (·.name == w) with
    | none => .error (.help program)
    | some g => do
      match ← g.read rest with
      | (fields, []) => return fields
      | (_, extras) => throw (program.refuse ("unrecognized arguments: " ++ " ".intercalate extras))

end SecurityScan.CommandLine
