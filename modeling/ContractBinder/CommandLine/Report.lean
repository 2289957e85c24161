import ContractBinder.CommandLine.Run
import ContractBinder.Text.Split

/-!
What a run prints: a summary on success, the fault with its causes on failure, both either as a text
or as JSON, and the log.
-/

namespace ContractBinder.CommandLine

open Text (shown)

/-! ## Success -/

def countJson (count : Nat) : Json :=
  .number (.natural count)

def GeneratedFile.members (file : GeneratedFile) : List (String × Json) :=
  [("contract_name", .string file.contractName), ("abi_file", .string (shown file.abiFile)),
    ("source_path", .string (shown file.sourcePath))] ++
  (file.manifestPath.toList.map fun path => ("manifest_path", .string (shown path))) ++
  [("functions", countJson file.functions), ("events", countJson file.events),
    ("warnings", .array (file.warnings.map .string))]

def Outcome.toJson : Outcome → Json
  | .one file =>
    .object ([("status", .string "success"), ("command", .string "generate")] ++ file.members)
  | .many files =>
    .object [("status", .string "success"), ("command", .string "batch"),
      ("generated", .array (files.map fun file => .object file.members))]

def GeneratedFile.lines (file : GeneratedFile) : List String :=
  ["✅ Generated bindings for " ++ file.contractName, "📄 Created files:",
    "   - " ++ shown file.sourcePath] ++
  (file.manifestPath.toList.map fun path => "   - " ++ shown path) ++
  ["   - " ++ Nat.repr file.functions ++ " functions, " ++ Nat.repr file.events ++ " events"] ++
  file.warnings.map fun warning => "⚠️  " ++ warning

def Outcome.lines : Outcome → List String
  | .one file => file.lines
  | .many files =>
    files.flatMap GeneratedFile.lines ++ ["✅ Generated " ++ Nat.repr files.length ++ " modules"]

def endLines (lines : List String) : String :=
  String.join (lines.map (· ++ "\n"))

/-- What is printed on success. -/
def Outcome.text (outcome : Outcome) (json : Bool) : String :=
  endLines (if json then [outcome.toJson.compact] else outcome.lines)

/-! ## Failure -/

/-- A fault as JSON. The causes are named behind the fault. -/
def RunFault.toJson (fault : RunFault) : Json :=
  .object [("status", .string "error"), ("error_type", .string fault.kind),
    ("message", .string (": ".intercalate fault.chain))]

def linesOf (text : String) : List String :=
  (Text.splitOn '\n' text.toList).map String.ofList

/-- Lines with `first` in front of the first one and `later` in front of the others. Nothing is put
in front of an empty line. -/
def indented (first later : String) (lines : List String) : List String :=
  let put (lead line : String) : String := if line.isEmpty then line else lead ++ line
  match lines with
  | [] => []
  | line :: rest => put first line :: rest.map (put later)

/-- A cause as lines, with its number if there are several. -/
def causeLines (numbered : Bool) (number : Nat) (cause : String) : List String :=
  if numbered then
    let digits := Nat.repr number
    let lead := String.ofList (List.replicate (4 - digits.length) ' ') ++ digits ++ ": "
    indented lead "      " (linesOf cause)
  else indented "    " "    " (linesOf cause)

/-- A fault as lines, followed by its causes. -/
def RunFault.lines (fault : RunFault) : List String :=
  match fault.chain with
  | [] => []
  | message :: causes =>
    linesOf ("❌ " ++ message) ++
      if causes.isEmpty then []
      else
        "" :: "Caused by:" ::
          (causes.mapIdx fun number cause => causeLines (1 < causes.length) number cause).flatten

/-- What is printed on failure. After an abrupt end nothing is. -/
def RunFault.text (fault : RunFault) (json : Bool) : String :=
  if fault.isAbrupt then ""
  else endLines (if json then [fault.toJson.compact] else fault.lines)

/-! ## The log -/

/-- A control character that could steer a terminal, spelled out. -/
def escapeControl (c : Char) : List Char :=
  match c with
  | '\x1b' => "\\x1b".toList
  | '\x07' => "\\x07".toList
  | '\x08' => "\\x08".toList
  | '\x0c' => "\\x0c".toList
  | '\x7f' => "\\x7f".toList
  | _ =>
    if 0x80 ≤ c.toNat && c.toNat ≤ 0x9f then
      "\\u\x7b".toList ++ Nat.toDigits 16 c.toNat ++ ['\x7d']
    else [c]

def levelWord : Level → String
  | .debug => "DEBUG"
  | .info => "INFO"
  | .warning => "WARN"

def recordText (record : Record) : String :=
  levelWord record.level ++ " " ++ String.ofList (record.message.toList.flatMap escapeControl)

/-- Whether a record belongs to the log. A quiet log has errors only, a verbose one has everything.
-/
def isLogged (verbose quiet : Bool) (record : Record) : Bool :=
  !quiet && (verbose || record.level ≠ .debug)

/-! ## The whole run -/

/-- All that can be seen of a run. -/
structure Report where
  exitCode : Nat
  output : String
  errors : String
  log : List String
  files : Files.FileSystem

def versionText : String :=
  "abi-bindgen 0.1.0\n"

/-- A run that only prints something. -/
def Report.plain (exitCode : Nat) (output : String) (files : Files.FileSystem) : Report :=
  { exitCode, output, errors := "", log := [], files }

def report (formatter : Formatter) (arguments : Arguments) (fs : Files.FileSystem) : Report :=
  let json := arguments.command.settings.json
  let (computed, files) := arguments.command.run formatter fs
  let log := (computed.records.filter (isLogged arguments.verbose arguments.quiet)).map recordText
  match computed.outcome with
  | .ok outcome => { exitCode := 0, output := outcome.text json, errors := "", log, files }
  | .error fault =>
    { exitCode := if fault.isAbrupt then 101 else 1
      output := "", errors := fault.text json, log, files }

def runArguments (formatter : Formatter) (arguments : List Word) (fs : Files.FileSystem) :
    Report :=
  match parseArguments arguments with
  | none => .plain 2 "" fs
  | some .version => .plain 0 versionText fs
  | some .help => .plain 0 "" fs
  | some (.run parsed) => report formatter parsed fs

end ContractBinder.CommandLine
