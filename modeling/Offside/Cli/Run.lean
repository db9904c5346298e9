import Offside.Cli.Arguments
import Offside.Consumers
import Offside.Report.Json
import Offside.Report.Yaml
import Offside.Settings.Layers

/-!
# A run of the program

What the program prints and how it ends, for given arguments and files.
-/

namespace Offside.Cli

open Settings (Layer Override Tree)

/-- What a run of the program leaves behind. -/
structure Ending where
  /-- The exit code: zero for success, one for a rejected text, two for anything else. -/
  code : UInt32
  stdout : String := ""
  stderr : String := ""
deriving DecidableEq, Repr

def versionText : String := "prelex 0.1.0\n"

def aboutText : String :=
  "Rewrites indentation-structured platform descriptions into brace-delimited source"

def actionText : Action → String
  | .process => "Print the pre-lexed lines"
  | .check => "Validate a file without printing it"

def helpWordText : String :=
  "Print this message or the help of the given subcommand(s)"

def Topic.text : Topic → String
  | program => joinLines
    [aboutText, "", "Usage: prelex [OPTIONS] <COMMAND>", "", "Commands:",
      "  process  " ++ actionText .process,
      "  check    " ++ actionText .check,
      "  help     " ++ helpWordText, "", "Options:",
      "  -v, --verbose  Log pre-lexer decisions to stderr",
      "  -h, --help     Print help",
      "  -V, --version  Print version", ""]
  | action subject => joinLines <|
    [actionText subject, "", "Usage: prelex " ++ subject.word ++ " [OPTIONS] <path>", "",
      "Arguments:",
      "  <path>  Path to the description file", "", "Options:",
      "  -c, --config <config>  Configuration file layered over the defaults",
      "      --pad-comments     Keep blanked multi-line comment tails as spaces",
      "      --relaxed          Allow comments anywhere outside strings"] ++
    (match subject with
      | .process =>
        ["  -f, --format <format>  Output format (overrides the configured one) " ++
          "[possible values: text, json, yaml]"]
      | .check => []) ++
    ["  -v, --verbose          Log pre-lexer decisions to stderr",
      "  -h, --help             Print help", ""]
  | help => joinLines
    [helpWordText, "", "Usage: prelex help [COMMAND]...", "", "Arguments:",
      "  [COMMAND]...  Print help for the subcommand(s)", ""]

/-- The file of settings that is looked for in the working directory. -/
def localConfig : String := "prelex.toml"

namespace Request

/-- The files of settings of a request, the strongest last. -/
def layers (request : Request) : List Layer :=
  ⟨localConfig, false⟩ :: (request.config?.map fun path => ⟨path, true⟩).toList

def overrides (request : Request) : List Override :=
  (if request.padComments then [⟨"comments.block_tail", .text "pad"⟩] else []) ++
  (if request.relaxed then [⟨"comments.strict_placement", .bool false⟩] else []) ++
  (request.format?.map fun format =>
    ⟨"output.format", .text (Settings.outputFormats.nameOf format)⟩).toList

def paths (request : Request) : List String :=
  request.path :: request.layers.flatMap fun layer =>
    layer.path :: (Settings.withEnding? layer.path).toList

end Request

def faultReport (path : String) (fault : Fault) : String :=
  s!"error: {path}:{fault.line}: {fault.cause.message} ({fault.cause.kind.title})\n"

def closed (document : String) : String :=
  trimEnd document ++ "\n"

/-- How a run ends that has met a fault, with what it has written by then. -/
def failed (request : Request) (fault : Fault) (written : String) : Ending :=
  { code := 1, stdout := written, stderr := faultReport request.path fault }

/-- How a run over a text ends, by what the request does with its lines: it looks for a fault, it
writes the lines as they come, or it gathers them for a document. -/
def endingOf (request : Request) (settings : Settings) (text : String) : Ending :=
  let document (render : List String → String) : Ending :=
    match Session.throughText settings.options text Session.gather with
    | .ok lines => { code := 0, stdout := closed (render lines) }
    | .error fault => failed request fault ""
  match request.action, settings.format with
  | .check, _ =>
    match Session.throughText settings.options text Session.firstFault? with
    | none => { code := 0, stdout := request.path ++ ": ok\n" }
    | some fault => failed request fault ""
  | .process, .text =>
    match Session.throughText settings.options text (Session.write 0) with
    | (written, none) => { code := 0, stdout := written }
    | (written, some fault) => failed request fault written
  | .process, .json => document Report.Json.document
  | .process, .yaml => document Report.Yaml.document

/-- Carries out a request. The settings are read before the file is. -/
def Request.carryOut (files : Files) (request : Request) : Ending :=
  match Settings.load files request.layers request.overrides with
  | .error refusal => { code := 2, stderr := "Configuration error: " ++ refusal.message ++ "\n" }
  | .ok settings =>
    match (files request.path).bind FileContent.text? with
    | none => { code := 2, stderr := s!"Error reading {request.path}: no readable text\n" }
    | some text => endingOf request settings text

def Invocation.carryOut (files : Files) : Invocation → Ending
  | .run request => request.carryOut files
  | .help topic => { code := 0, stdout := topic.text }
  | .version => { code := 0, stdout := versionText }
  | .overview => { code := 2, stderr := Topic.program.text }
  | .misuse cause =>
    { code := 2
      stderr := "error: " ++ cause.message ++ "\n\nFor more information, try '--help'.\n" }

def Invocation.paths : Invocation → List String
  | .run request => request.paths
  | _ => []

end Offside.Cli
