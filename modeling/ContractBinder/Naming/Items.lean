import ContractBinder.Naming.Sanitize
import ContractBinder.Text.Words

/-!
Names of generated items, derived from the names of ABI entries.
-/

namespace ContractBinder.Naming

def upperName (name : String) : String :=
  String.ofList (Text.upper name.toList)

def snakeName (name : String) : String :=
  String.ofList (Text.snakeCase name.toList)

def pascalName (name : String) : String :=
  String.ofList (Text.pascalCase name.toList)

/-- The constant that holds a function's literal name. -/
def functionConstant (name : String) : String :=
  sanitize ("FUNC_" ++ upperName name) 0

/-- The static that holds an event's descriptor. -/
def eventConstant (name : String) : String :=
  sanitize (upperName name ++ "_EVENT") 0

def methodName (name : String) : String :=
  sanitize (snakeName name) 0

def typeName (name : String) : String :=
  sanitize (pascalName name) 0

/-- The stem of the file that holds a contract's module. -/
def fileStem (contract : String) : String :=
  snakeName contract

structure EventNames where
  constant : String
  topicConstant : String
  response : String
  extractMethod : String
  streamMethod : String
  rangeStreamMethod : String
  deriving DecidableEq, Repr

/-- The names for an event before they are made distinct. -/
def EventNames.ofEvent (event : String) : EventNames :=
  let snake := methodName event
  let constant := eventConstant event
  { constant
    topicConstant := constant ++ "_TOPIC"
    response := sanitize (pascalName event ++ "EventResponse") 0
    extractMethod := "get_" ++ snake ++ "_events"
    streamMethod := snake ++ "_event_stream"
    rangeStreamMethod := snake ++ "_event_stream_in_range" }

end ContractBinder.Naming
