/-!
# Command lines

A command line names a command and gives it options. Options are read from left to right; the first
that cannot be taken ends the reading, and so does a request for help or for the version. What a
command line leaves out may come from the environment.
-/

namespace ServiceContract

/-- Options of every command. -/
structure WalkOptions where
  /-- The path of the document. -/
  spec : String
  /-- The path of the settings. -/
  config : Option String := none
  defaultSuccessType : Option String := none
  defaultErrorType : Option String := none
  noRequestTypes : Bool := false
  noResponseDecoders : Bool := false
  strictInterfaces : Bool := false
  deriving DecidableEq, Repr

/-- A command with its options. -/
inductive Invocation where
  /-- Shows what would be written. -/
  | inspect (options : WalkOptions)
  /-- Writes the artifacts below a directory, with a copy of the document if a path for it is
  given. -/
  | generate (options : WalkOptions) (outDir : String) (snapshot : Option String)
  deriving DecidableEq, Repr

/-- Why a command line gives no command to run. -/
inductive Stop where
  | help
  | version
  /-- The command line cannot be understood. -/
  | usage
  deriving DecidableEq, Repr

namespace Arguments

/-- An option that takes a value. -/
structure ValueOption where
  name : String
  /-- The value is a path, which cannot be empty. -/
  isPath : Bool := false
  /-- The environment variable that may give the value instead. -/
  fallback : Option String := none

/-- The options with a value that every command has. -/
def walkValues : List ValueOption := [
  { name := "spec", isPath := true, fallback := some "SWAGGER_DESC_SPEC" },
  { name := "config", isPath := true, fallback := some "SWAGGER_DESC_CONFIG" },
  { name := "default-success-type" },
  { name := "default-error-type" }]

/-- The options with a value of the command that writes. -/
def generateValues : List ValueOption := walkValues ++ [
  { name := "out-dir", isPath := true, fallback := some "SWAGGER_DESC_OUT" },
  { name := "snapshot", isPath := true }]

/-- The options without a value. -/
def flags : List String := ["no-request-types", "no-response-decoders", "strict-interfaces"]

/-- What a command line gives. -/
structure Given where
  values : List (String × String) := []
  flags : List String := []

/-- Takes a value for an option. It can be given once, and a path cannot be empty. -/
def Given.addValue (given : Given) (option : ValueOption) (value : String) :
    Except Stop Given :=
  if given.values.any (·.1 == option.name) || (option.isPath && value.isEmpty) then .error .usage
  else .ok { given with values := given.values ++ [(option.name, value)] }

/-- Takes an option without value. It can be given once. -/
def Given.addFlag (given : Given) (name : String) : Except Stop Given :=
  if given.flags.contains name then .error .usage
  else .ok { given with flags := given.flags ++ [name] }

/-- Whether an argument is written as an option and so cannot be the value of one before it. -/
def isOption (argument : String) : Bool :=
  ['-'].isPrefixOf argument.toList && argument != "-"

/-- An argument with two dashes: the name and, after an equals sign, a value. -/
def longOption? (argument : String) : Option (String × Option String) :=
  match argument.toList with
  | '-' :: '-' :: rest =>
    let name := String.ofList (rest.takeWhile (· != '='))
    match rest.dropWhile (· != '=') with
    | [] => some (name, none)
    | _ :: value => some (name, some (String.ofList value))
  | _ => none

/-- What an argument asks for. -/
inductive Meaning where
  /-- The end of the options. -/
  | endOfOptions
  | help
  /-- An option with the value that stands in the same argument. -/
  | valued (option : ValueOption) (value : String)
  /-- An option whose value is the next argument. -/
  | awaiting (option : ValueOption)
  | flag (name : String)
  | unknown

/-- The meaning of an argument for a command with the given options. -/
def Meaning.of (values : List ValueOption) (argument : String) : Meaning :=
  if argument = "--" then endOfOptions
  else
    match longOption? argument with
    | some ("help", none) => help
    | some (name, value) =>
      match values.find? (·.name == name), value with
      | some option, some value => valued option value
      | some option, none => awaiting option
      | none, none => if flags.contains name then flag name else unknown
      | none, some _ => unknown
    | none => if ['-', 'h'].isPrefixOf argument.toList then help else unknown

/-- Reads the options of a command. There are no other arguments. -/
def readOptions (values : List ValueOption) (given : Given) : List String → Except Stop Given
  | [] => .ok given
  | argument :: rest =>
    match Meaning.of values argument with
    | .endOfOptions => if rest.isEmpty then .ok given else .error .usage
    | .help => .error .help
    | .valued option value => do readOptions values (← given.addValue option value) rest
    | .awaiting option =>
      match rest with
      | [] => .error .usage
      | value :: rest =>
        if isOption value then .error .usage
        else do readOptions values (← given.addValue option value) rest
    | .flag name => do readOptions values (← given.addFlag name) rest
    | .unknown => .error .usage

/-- Takes the values that a command line leaves out from the environment. -/
def addEnvironment (environment : List (String × String)) (given : Given) :
    List ValueOption → Except Stop Given
  | [] => .ok given
  | option :: rest => do
    let value := option.fallback.bind fun name => environment.lookup name
    match given.values.lookup option.name, value with
    | none, some value => addEnvironment environment (← given.addValue option value) rest
    | _, _ => addEnvironment environment given rest

/-- The options that every command has. The document's path has to be given. -/
def Given.walk (given : Given) : Except Stop WalkOptions :=
  match given.values.lookup "spec" with
  | none => .error .usage
  | some spec => .ok
    { spec
      config := given.values.lookup "config"
      defaultSuccessType := given.values.lookup "default-success-type"
      defaultErrorType := given.values.lookup "default-error-type"
      noRequestTypes := given.flags.contains "no-request-types"
      noResponseDecoders := given.flags.contains "no-response-decoders"
      strictInterfaces := given.flags.contains "strict-interfaces" }

/-- The directory that artifacts go to if none is given. -/
def defaultOutDir : String := "generated"

/-- Reads the options of a command, from the command line and from the environment. -/
def readAll (environment : List (String × String)) (values : List ValueOption)
    (arguments : List String) : Except Stop Given := do
  addEnvironment environment (← readOptions values {} arguments) values

/-- Reads a command line without the name of the program. -/
def read (environment : List (String × String)) : List String → Except Stop Invocation
  | [] => .error .usage
  | "inspect" :: arguments => do
    let given ← readAll environment walkValues arguments
    .ok (.inspect (← given.walk))
  | "generate" :: arguments => do
    let given ← readAll environment generateValues arguments
    .ok (.generate (← given.walk) ((given.values.lookup "out-dir").getD defaultOutDir)
      (given.values.lookup "snapshot"))
  | "help" :: arguments =>
    match arguments with
    | [] | ["inspect"] | ["generate"] | ["help"] => .error .help
    | _ => .error .usage
  | argument :: _ =>
    if argument = "--version" || ['-', 'V'].isPrefixOf argument.toList then .error .version
    else if argument = "--help" || ['-', 'h'].isPrefixOf argument.toList then .error .help
    else .error .usage

end Arguments

end ServiceContract
