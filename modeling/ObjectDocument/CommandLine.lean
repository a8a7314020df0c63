import ObjectDocument.Descriptor.Build
import ObjectDocument.Index.Mapping

/-!
# Command line

The command line inspects the JSON definition of an entity type: it renders the index mapping or the
index settings, or reports diagnostics about field names. A failure has the exit code 1, and a
command line that cannot be understood the exit code 2.
-/

namespace ObjectDocument

namespace CommandLine

/-- Where a command reads from or writes to. -/
inductive Stream where
  | standard
  | file (path : String)
deriving DecidableEq, Repr

/-- The stream of an argument; a hyphen is the standard one. -/
def Stream.ofArgument (s : String) : Stream :=
  if s = "-" then standard else file s

/-- What is asked for. -/
inductive Command where
  | mapping
  | settings
  | validate
deriving DecidableEq, Repr

def Command.ofName? (name : String) : Option Command :=
  if name = "mapping" then some mapping
  else if name = "settings" then some settings
  else if name = "validate" then some validate
  else none

def Command.arity : Command → Nat
  | validate => 1
  | _ => 2

structure Invocation where
  config : String
  command : Command
  input : Stream
  output : Stream
deriving DecidableEq, Repr

inductive Request where
  | run (invocation : Invocation)
  | help
  | misuse
deriving DecidableEq, Repr

/-- Whether an argument looks like an option. -/
def isOption (s : String) : Bool :=
  match s.toList with
  | '-' :: _ :: _ => true
  | _ => false

/-- Whether an argument of a command asks for help. A short option that comes first in an argument
is the one that counts. -/
def isHelp (s : String) : Bool :=
  match s.toList with
  | '-' :: 'h' :: _ => true
  | _ => s = "--help"

/-- Whether an argument in front of the command asks for the version. -/
def isVersion (s : String) : Bool :=
  match s.toList with
  | '-' :: 'V' :: _ => true
  | _ => s = "--version"

/-- At most so many operands. -/
def atMost (limit : Nat) (args : List String) : Except Request (List String) :=
  if args.length ≤ limit then .ok args else .error .misuse

/-- The arguments of a command that are not options, up to a limit. After a double hyphen every
argument is one; an option asks for help or is misuse. -/
def operands (limit : Nat) : List String → Except Request (List String)
  | [] => .ok []
  | "--" :: args => atMost limit args
  | arg :: args =>
    if isHelp arg then .error .help
    else if isOption arg then .error .misuse
    else
      match limit with
      | 0 => .error .misuse
      | limit + 1 => (operands limit args).map (arg :: ·)

/-- The command that arguments give, after its name. -/
def parseCommand (config : String) (command : Command) (args : List String) : Request :=
  match operands command.arity args with
  | .error request => request
  | .ok streams =>
    .run
      { config := config
        command := command
        input := Stream.ofArgument ((streams[0]?).getD "-")
        output := Stream.ofArgument ((streams[1]?).getD "-") }

/-- The request of arguments after `help`: nothing, or the name of what help is asked about. -/
def parseHelp : List String → Request
  | [] => .help
  | [name] => if name = "help" ∨ (Command.ofName? name).isSome then .help else .misuse
  | _ => .misuse

/-- The value that is attached to the option of the configuration in one argument. -/
def attachedConfig? (arg : String) : Option String :=
  match "--config=".toList.isPrefixOf? arg.toList with
  | some value => some (String.ofList value)
  | none =>
    match arg.toList with
    | '-' :: 'c' :: '=' :: value => some (String.ofList value)
    | '-' :: 'c' :: c :: value => some (String.ofList (c :: value))
    | _ => none

/-- Read the arguments. The configuration may be given once, in front of the command. -/
def parseArguments (fallback : String) (given : Option String) : List String → Request
  | [] => .misuse
  | arg :: args =>
    if arg = "-c" ∨ arg = "--config" then
      match args with
      | [] => .misuse
      | value :: args =>
        if given.isSome ∨ isOption value then .misuse else parseArguments fallback (some value) args
    else
      match attachedConfig? arg with
      | some value =>
        if given.isSome then .misuse else parseArguments fallback (some value) args
      | none =>
        if isHelp arg ∨ isVersion arg then .help
        else if arg = "help" then parseHelp args
        else
          match Command.ofName? arg with
          | some command => parseCommand (given.getD fallback) command args
          | none => .misuse

/-- The environment variable that gives the configuration where no argument does. -/
def configVariable : String := "DOCMAP_CONFIG"

/-- The request that arguments make; the environment may give the configuration. -/
def parse (args : List String) (environment : Option String) : Request :=
  parseArguments (environment.getD "") none args

/-- What a command leads to: an exit code, and a text for its output. -/
structure Outcome where
  code : Nat
  text : String := ""
deriving DecidableEq, Repr

def failure : Outcome :=
  ⟨1, ""⟩

def misuse : Outcome :=
  ⟨2, ""⟩

def renderMapping (config : Config) (definition : EntityDefinition) : Outcome :=
  match Descriptor.build config definition with
  | .error _ => failure
  | .ok d =>
    match (Mapping.build ⟨[]⟩ d).eval (Family.describe ⟨[]⟩ config) with
    | .ok mapping => ⟨0, mapping.toJson.indented⟩
    | .error _ => failure

def renderSettings (config : Config) (definition : EntityDefinition) : Outcome :=
  match Descriptor.build config definition with
  | .error _ => failure
  | .ok d => ⟨0, (d.settings?.getD .null).indented⟩

/-- Report the diagnostics of a definition. It is a failure if one of them is an error. -/
def report (config : Config) (definition : EntityDefinition) : Outcome :=
  match Descriptor.build { config with strict := false } definition with
  | .error _ => failure
  | .ok d =>
    let diagnostics := d.validate config.strict
    ⟨if diagnostics.any (·.isError) then 1 else 0,
      String.join (diagnostics.map fun diagnostic => diagnostic.display ++ "\n")⟩

/-- Carry out a command on the text of its input, if that could be read. -/
def execute (configText : String) (command : Command) (input : Option String) : Outcome :=
  match Config.parse configText, input.bind EntityDefinition.parse? with
  | .ok config, some definition =>
    match command with
    | .mapping => renderMapping config definition
    | .settings => renderSettings config definition
    | .validate => report config definition
  | _, _ => failure

def usage : String :=
  "Usage: objdoc [-c CONFIG] COMMAND\n\n" ++
  "Commands:\n" ++
  "  mapping [INPUT] [OUTPUT]   render the index mapping of an entity definition\n" ++
  "  settings [INPUT] [OUTPUT]  render the index settings of an entity definition\n" ++
  "  validate [INPUT]           report diagnostics about field names\n"

end CommandLine

end ObjectDocument
