import Offside.Settings.Choice

/-!
# Command line arguments

What the arguments ask for. They are read from left to right; a request for help or for the
version and a misuse end the reading at once.
-/

namespace Offside.Cli

open Settings (OutputFormat outputFormats)

/-- What is done with a file. -/
inductive Action where
  | process
  | check
deriving DecidableEq, Repr

def Action.word : Action → String
  | process => "process"
  | check => "check"

def Action.ofWord? (word : String) : Option Action :=
  [process, check].find? fun action => action.word == word

/-- What a description can be asked for. -/
inductive Topic where
  | program
  | action (action : Action)
  | help
deriving DecidableEq, Repr

/-- A switch without a value. -/
inductive Flag where
  | verbose
  | padComments
  | relaxed
  | help
  | version
deriving DecidableEq, Repr

/-- A switch with a value. -/
inductive Parameter where
  | config
  | format
deriving DecidableEq, Repr

/-- A switch. -/
inductive Switch where
  | flag (flag : Flag)
  | parameter (parameter : Parameter)
deriving DecidableEq, Repr

/-- How arguments were misused. -/
inductive Misuse where
  | unexpected (argument : String)
  | repeated (argument : String)
  | needlessValue (argument : String)
  | missingValue (argument : String)
  | unknownFormat (value : String)
  | missingAction
  | missingPath
deriving DecidableEq, Repr

def Misuse.message : Misuse → String
  | unexpected argument => s!"unexpected argument '{argument}' found"
  | repeated argument => s!"the argument '{argument}' cannot be used multiple times"
  | needlessValue argument => s!"unexpected value for '{argument}' found; no more were expected"
  | missingValue argument => s!"a value is required for '{argument}' but none was supplied"
  | unknownFormat value => s!"invalid value '{value}' for '--format <format>'"
  | missingAction => "'prelex' requires a subcommand but one was not provided"
  | missingPath => "the following required arguments were not provided:\n  <path>"

/-- A request to read a file. -/
structure Request where
  action : Action
  path : String
  config? : Option String
  format? : Option OutputFormat
  padComments : Bool
  relaxed : Bool
  verbose : Bool
deriving DecidableEq, Repr

/-- What the arguments ask for. -/
inductive Invocation where
  | run (request : Request)
  | help (topic : Topic)
  | version
  | overview
  | misuse (misuse : Misuse)
deriving DecidableEq, Repr

/-- The arguments read so far. -/
structure Arguments where
  /-- The action, once it is named. -/
  action? : Option Action := none
  /-- What is to be described, once the word for it has been read. -/
  topic? : Option Topic := none
  /-- The flags since the start, or since the action. -/
  flags : List Flag := []
  verboseBefore : Bool := false
  path? : Option String := none
  config? : Option String := none
  format? : Option OutputFormat := none
  /-- A switch that waits for its value, and how it was written. -/
  awaiting? : Option (Parameter × String) := none
  plain : Bool := false

namespace Arguments

abbrev Reading (α : Type) : Type := Except Invocation α

def refuse (misuse : Misuse) : Reading α :=
  .error (.misuse misuse)

/-- The switches that stand for themselves in full, in the given place. -/
def longSwitch? (action? : Option Action) (name : String) : Option Switch :=
  match action?, name with
  | _, "verbose" => some (.flag .verbose)
  | _, "help" => some (.flag .help)
  | none, "version" => some (.flag .version)
  | some _, "pad-comments" => some (.flag .padComments)
  | some _, "relaxed" => some (.flag .relaxed)
  | some _, "config" => some (.parameter .config)
  | some .process, "format" => some (.parameter .format)
  | _, _ => none

/-- The switches of one letter, in the given place. -/
def shortSwitch? (action? : Option Action) (letter : Char) : Option Switch :=
  match action?, letter with
  | _, 'v' => some (.flag .verbose)
  | _, 'h' => some (.flag .help)
  | none, 'V' => some (.flag .version)
  | some _, 'c' => some (.parameter .config)
  | some .process, 'f' => some (.parameter .format)
  | _, _ => none

def raise (flag : Flag) (written : String) (arguments : Arguments) : Reading Arguments :=
  match flag with
  | .help => .error (.help (arguments.action?.elim .program .action))
  | .version => .error .version
  | flag =>
    if arguments.flags.contains flag then refuse (.repeated written)
    else .ok { arguments with flags := flag :: arguments.flags }

def give (parameter : Parameter) (written value : String) (arguments : Arguments) :
    Reading Arguments :=
  let arguments := { arguments with awaiting? := none }
  match parameter with
  | .config =>
    if arguments.config?.isSome then refuse (.repeated written)
    else .ok { arguments with config? := some value }
  | .format =>
    if arguments.format?.isSome then refuse (.repeated written)
    else
      match outputFormats.values.lookup value with
      | some format => .ok { arguments with format? := some format }
      | none => refuse (.unknownFormat value)

/-- Takes in a switch that is written in full; its value may follow an equals sign. -/
def readLong (written : String) (body : List Char) (arguments : Arguments) : Reading Arguments :=
  let name := body.takeWhile (· != '=')
  let value? := match body.dropWhile (· != '=') with
    | _ :: value => some (String.ofList value)
    | [] => none
  match longSwitch? arguments.action? (String.ofList name), value? with
  | none, _ => refuse (.unexpected written)
  | some (.flag _), some _ => refuse (.needlessValue written)
  | some (.flag flag), none => arguments.raise flag written
  | some (.parameter parameter), some value => arguments.give parameter written value
  | some (.parameter parameter), none => .ok { arguments with awaiting? := some (parameter, written) }

/-- Takes in switches of one letter each; what follows one that takes a value is the value, with or
without an equals sign. -/
def readShort (written : String) : List Char → Arguments → Reading Arguments
  | [], arguments => .ok arguments
  | letter :: rest, arguments =>
    match shortSwitch? arguments.action? letter with
    | none => refuse (.unexpected written)
    | some (.flag flag) => do readShort written rest (← arguments.raise flag written)
    | some (.parameter parameter) =>
      match rest with
      | [] => .ok { arguments with awaiting? := some (parameter, written) }
      | '=' :: value => arguments.give parameter written (String.ofList value)
      | value => arguments.give parameter written (String.ofList value)

/-- Takes in an argument that is no switch: the action, and behind it the path. -/
def readPlain (argument : String) (arguments : Arguments) : Reading Arguments :=
  match arguments.action? with
  | some _ =>
    if arguments.path?.isSome then refuse (.unexpected argument)
    else .ok { arguments with path? := some argument }
  | none =>
    if arguments.plain then refuse (.unexpected argument)
    else if argument == "help" then .ok { arguments with topic? := some .program }
    else
      match Action.ofWord? argument with
      | some action =>
        let verboseBefore := arguments.flags.contains .verbose
        .ok { arguments with action? := some action, verboseBefore, flags := [] }
      | none => refuse (.unexpected argument)

/-- The narrower topic that an argument names; only the whole program has narrower ones. -/
def readTopic (argument : String) : Topic → Reading Topic
  | .program =>
    match Action.ofWord? argument with
    | some action => .ok (.action action)
    | none => if argument == "help" then .ok .help else refuse (.unexpected argument)
  | _ => refuse (.unexpected argument)

def read (arguments : Arguments) (argument : String) : Reading Arguments :=
  match arguments.topic?, arguments.awaiting?, argument.toList with
  | some topic, _, _ => return { arguments with topic? := some (← readTopic argument topic) }
  | none, some (_, written), '-' :: _ :: _ => refuse (.missingValue written)
  | none, some (parameter, written), _ => arguments.give parameter written argument
  | none, none, chars =>
    if arguments.plain then arguments.readPlain argument
    else
      match chars with
      | ['-', '-'] => .ok { arguments with plain := true }
      | '-' :: '-' :: body => arguments.readLong argument body
      | '-' :: letter :: letters => readShort argument (letter :: letters) arguments
      | _ => arguments.readPlain argument

def conclude (arguments : Arguments) : Invocation :=
  match arguments.topic?, arguments.awaiting?, arguments.action?, arguments.path? with
  | some topic, _, _, _ => .help topic
  | none, some (_, written), _, _ => .misuse (.missingValue written)
  | none, none, none, _ =>
    if arguments.flags.isEmpty then .overview else .misuse .missingAction
  | none, none, some _, none => .misuse .missingPath
  | none, none, some action, some path =>
    .run
      { action, path
        config? := arguments.config?
        format? := arguments.format?
        padComments := arguments.flags.contains .padComments
        relaxed := arguments.flags.contains .relaxed
        verbose := arguments.verboseBefore || arguments.flags.contains .verbose }

end Arguments

def Invocation.ofArguments (arguments : List String) : Invocation :=
  match arguments.foldlM Arguments.read {} with
  | .ok arguments => arguments.conclude
  | .error invocation => invocation

end Offside.Cli
