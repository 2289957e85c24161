import ContractBinder.Files.Path

/-!
The command line: which commands and options there are, and how a list of arguments names them.
Arguments are bytes: a path may be any bytes, other values have to be texts. Main statement:
`parseArguments` takes the arguments from left to right, and the first one that has no meaning makes
the whole list wrong.
-/

namespace ContractBinder.CommandLine

open Files (Path)
open Text (bytes decode?)

abbrev Word := List UInt8

/-- The byte that options start with. -/
@[match_pattern]
abbrev dash : UInt8 := 0x2d

/-- The byte between the name of an option and its value. -/
@[match_pattern]
abbrev equalsSign : UInt8 := 0x3d

structure Settings where
  outputDir : Option Path
  config : Option Path
  wireTypes : Bool
  noEvents : Bool
  runtime : Option String
  rustfmt : Bool
  json : Bool
  deriving DecidableEq, Repr

inductive Command where
  /-- Generate bindings for one ABI file. -/
  | generate (abiFile : Path) (name : Option String) (settings : Settings)
  /-- Generate bindings for every ABI file below a directory. -/
  | batch (directory : Path) (settings : Settings)
  deriving DecidableEq, Repr

def Command.settings : Command → Settings
  | generate _ _ settings => settings
  | batch _ settings => settings

structure Arguments where
  command : Command
  verbose : Bool
  quiet : Bool
  deriving DecidableEq, Repr

inductive Request where
  | run (arguments : Arguments)
  | version
  | help
  deriving DecidableEq, Repr

inductive OptionKey where
  | verbose
  | quiet
  | outputDir
  | config
  | wireTypes
  | noEvents
  | runtime
  | rustfmt
  | json
  | name
  | help
  | version
  deriving DecidableEq, Repr

/-- Which value an option takes: none, any text, or a path, which is not empty. -/
inductive ValueRule where
  | none
  | text
  | path
  deriving DecidableEq, Repr

def ValueRule.allows : ValueRule → Word → Bool
  | none, _ => true
  | text, value => (decode? value).isSome
  | path, value => !value.isEmpty

namespace OptionKey

def long : OptionKey → String
  | verbose => "verbose"
  | quiet => "quiet"
  | outputDir => "output-dir"
  | config => "config"
  | wireTypes => "wire-types"
  | noEvents => "no-events"
  | runtime => "runtime"
  | rustfmt => "rustfmt"
  | json => "json"
  | name => "name"
  | help => "help"
  | version => "version"

def short? : OptionKey → Option Char
  | verbose => some 'v'
  | quiet => some 'q'
  | outputDir => some 'o'
  | help => some 'h'
  | version => some 'V'
  | _ => .none

def hasShort (key : OptionKey) (byte : UInt8) : Bool :=
  key.short?.map (·.toUInt8) = some byte

def valueRule : OptionKey → ValueRule
  | outputDir | config => .path
  | runtime | name => .text
  | _ => .none

def general : List OptionKey :=
  [verbose, quiet, help, version]

def forBatch : List OptionKey :=
  [verbose, quiet, help, outputDir, config, wireTypes, noEvents, runtime, rustfmt, json]

def forGenerate : List OptionKey :=
  name :: forBatch

end OptionKey

/-- Options that were given, with their values, and the other arguments. -/
structure Given where
  options : List (OptionKey × Word)
  others : List Word
  deriving DecidableEq, Repr

namespace Given

def has (given : Given) (key : OptionKey) : Bool :=
  given.options.any (·.1 = key)

def value? (given : Given) (key : OptionKey) : Option Word :=
  given.options.lookup key

def text? (given : Given) (key : OptionKey) : Option String :=
  (given.value? key).bind decode?

/-- Adds an option. No option is given twice. -/
def addOption (given : Given) (key : OptionKey) (value : Word) : Option Given :=
  if given.has key || !key.valueRule.allows value then none
  else some { given with options := given.options ++ [(key, value)] }

end Given

/-- Whether an argument can be the value of an option in front of it, and whether it stands for
itself: it does not start with a dash, or it is nothing but a dash. -/
def isPlainArgument : Word → Bool
  | dash :: _ :: _ => false
  | _ => true

def takeValue? : List Word → Option (Word × List Word)
  | [] => none
  | value :: rest => if isPlainArgument value then some (value, rest) else none

/-- Reads an option by its long name, which may have its value behind an equals sign. -/
def readLong (known : List OptionKey) (text : Word) (rest : List Word) (given : Given) :
    Option (Given × List Word) := do
  let name := text.takeWhile (· != equalsSign)
  let key ← known.find? (bytes ·.long = name)
  match key.valueRule, text.dropWhile (· != equalsSign) with
  | .none, [] => (given.addOption key []).map (·, rest)
  | .none, _ => none
  | _, _ :: value => (given.addOption key value).map (·, rest)
  | _, [] => do
    let (value, after) ← takeValue? rest
    (given.addOption key value).map (·, after)

/-- Reads options by their short names, one directly behind the other. The rest of the argument is
the value of the first that takes one. -/
def readShort (known : List OptionKey) (rest : List Word) :
    Word → Given → Option (Given × List Word)
  | [], given => some (given, rest)
  | byte :: text, given => do
    let key ← known.find? (·.hasShort byte)
    match key.valueRule, text with
    | .none, _ => do
      let next ← given.addOption key []
      if key = .help || key = .version then some (next, []) else readShort known rest text next
    | _, [] => do
      let (value, after) ← takeValue? rest
      (given.addOption key value).map (·, after)
    | _, equalsSign :: value => (given.addOption key value).map (·, rest)
    | _, value => (given.addOption key value).map (·, rest)

/-- Adds an argument that is no option. There is room for one, and it is not empty. -/
def Given.addOther (given : Given) (argument : Word) : Option Given :=
  if given.others.isEmpty && !argument.isEmpty then some { given with others := [argument] }
  else none

/-- Reads arguments up to the first that is no option if `stops`, else all of them. Two dashes end
the options. A request for help or for the version ends the reading. Each step takes one argument at
least. -/
def readArguments (known : List OptionKey) (stops : Bool) :
    Nat → List Word → Given → Option (Given × List Word)
  | 0, _, _ => none
  | bound + 1, arguments, given =>
    if given.has .help || given.has .version then some (given, [])
    else
      match arguments with
      | [] => some (given, [])
      | argument :: rest =>
        match argument with
        | [dash, dash] =>
          if stops then (if rest.isEmpty then some (given, []) else none)
          else (rest.foldlM Given.addOther given).map (·, [])
        | dash :: dash :: text => do
          let (next, after) ← readLong known text rest given
          readArguments known stops bound after next
        | dash :: byte :: text => do
          let (next, after) ← readShort known rest (byte :: text) given
          readArguments known stops bound after next
        | _ =>
          if stops then some (given, argument :: rest)
          else do
            let next ← given.addOther argument
            readArguments known stops bound rest next

def Settings.ofGiven (given : Given) : Settings :=
  { outputDir := given.value? .outputDir
    config := given.value? .config
    wireTypes := given.has .wireTypes
    noEvents := given.has .noEvents
    runtime := given.text? .runtime
    rustfmt := given.has .rustfmt
    json := given.has .json }

/-- The command with a name. Its only other argument is a path. -/
def Command.ofGiven? (name : Word) (given : Given) : Option Command :=
  match given.others with
  | [path] =>
    if name = bytes "generate" then
      some (.generate path (given.text? .name) (.ofGiven given))
    else if name = bytes "batch" then some (.batch path (.ofGiven given))
    else none
  | _ => none

def optionsOf? (name : Word) : Option (List OptionKey) :=
  if name = bytes "generate" then some OptionKey.forGenerate
  else if name = bytes "batch" then some OptionKey.forBatch
  else none

def readCommand (general : Given) (name : Word) (arguments : List Word) : Option Request := do
  let known ← optionsOf? name
  let (given, _) ← readArguments known false (arguments.length + 1) arguments ⟨[], []⟩
  if given.has .help then some .help
  else
    let command ← Command.ofGiven? name given
    some (.run
      { command
        verbose := general.has .verbose || given.has .verbose
        quiet := general.has .quiet || given.has .quiet })

/-- Reads what follows the command for help: nothing, or a command that help is wanted for. -/
def readHelp (arguments : List Word) : Option Request :=
  match arguments with
  | [] => some .help
  | [name] => if name = bytes "help" || (optionsOf? name).isSome then some .help else none
  | _ => none

def parseArguments (arguments : List Word) : Option Request := do
  let (general, rest) ←
    readArguments OptionKey.general true (arguments.length + 1) arguments ⟨[], []⟩
  if general.has .version then some .version
  else if general.has .help then some .help
  else
    match rest with
    | [] => none
    | name :: others =>
      if name = bytes "help" then readHelp others else readCommand general name others

end ContractBinder.CommandLine
