import ContractBinder.Binding.Event
import ContractBinder.Binding.Function
import ContractBinder.Config

/-!
What is generated for a contract: all its functions and events, under names that do not clash. One
scope holds the names of the module's items, another one those of the contract's methods.
Main statement: `compile` handles the entries one after the other, and an entry sees of the earlier
ones only the names that they took.
-/

namespace ContractBinder

open Abi (Entry)
open Naming (Registry EventNames)

/-- A constant that holds a function's literal name. -/
structure NameConstant where
  name : String
  value : String
  deriving DecidableEq, Repr

structure ContractBindings where
  /-- The contract's type. -/
  contractName : String
  nameConstants : List NameConstant
  functions : List FunctionBinding
  events : List EventBinding
  deriving DecidableEq, Repr

/-- The methods that every contract has. -/
def reservedMethods : List String :=
  ["load", "contract_address"]

/-- What is generated so far, and the names that are taken. -/
structure Progress where
  methods : Registry
  items : Registry
  bindings : ContractBindings
  deriving DecidableEq, Repr

namespace Progress

/-- The start, where only the contract's type and the methods of every contract have names. -/
def start (config : Config) : Progress :=
  let contractName := Naming.typeName config.contractName
  { methods := Registry.empty.reserveAll reservedMethods
    items := Registry.empty.reserve contractName
    bindings := ⟨contractName, [], [], []⟩ }

/-- Finds the constant for a function's literal name, or takes a name for a new one. -/
def constantFor (progress : Progress) (value wanted : String) : String × Progress :=
  match progress.bindings.nameConstants.find? (·.value = value) with
  | some constant => (constant.name, progress)
  | none =>
    let (name, items) := progress.items.unique wanted
    let bindings := progress.bindings
    (name, { progress with
      items
      bindings := { bindings with nameConstants := bindings.nameConstants ++ [⟨name, value⟩] } })

/-- Adds a function under names that are not taken. -/
def addFunction (progress : Progress) (function : FunctionBinding) : Progress :=
  let (methodName, methods) := progress.methods.unique function.methodName
  let (constantName, next) :=
    { progress with methods }.constantFor function.name function.constantName
  let bindings := next.bindings
  { next with
    bindings := { bindings with
      functions := bindings.functions ++ [{ function with methodName, constantName }] } }

/-- Adds an event under names that are not taken. -/
def addEvent (progress : Progress) (event : EventBinding) : Progress :=
  let (constant, items₁) := progress.items.unique event.names.constant
  let (topicConstant, items₂) := items₁.unique event.names.topicConstant
  let (response, items₃) := items₂.unique event.names.response
  let (extractMethod, methods₁) := progress.methods.unique event.names.extractMethod
  let (streamMethod, methods₂) := methods₁.unique event.names.streamMethod
  let (rangeStreamMethod, methods₃) := methods₂.unique event.names.rangeStreamMethod
  let names : EventNames :=
    { constant, topicConstant, response, extractMethod, streamMethod, rangeStreamMethod }
  let bindings := progress.bindings
  { methods := methods₃
    items := items₃
    bindings := { bindings with events := bindings.events ++ [{ event with names }] } }

/-- Handles one entry: functions, and events if they are wanted, are added, others are skipped. -/
def add (generateEvents : Bool) (progress : Progress) (entry : Entry) :
    Logged BindingFault Progress :=
  match entry.kind, generateEvents with
  | .function, _ => do
    let function ← (FunctionBinding.synthesize entry).mapFailure (.inEntry entry.name)
    return progress.addFunction function
  | .event, true => do
    let event ← (EventBinding.synthesize entry).mapFailure (.inEntry entry.name)
    return progress.addEvent event
  | kind, _ => do
    Logged.say .debug ("Skipping " ++ kind.title ++ " entry `" ++ entry.name ++ "`")
    return progress

end Progress

/-- How many functions and events there are, as said at the end. -/
def ContractBindings.summary (bindings : ContractBindings) : String :=
  Nat.repr bindings.functions.length ++ " functions, " ++ Nat.repr bindings.events.length ++
    " events"

/-- Makes what is generated for a contract from its entries in order. -/
def compile (config : Config) (entries : List Entry) : Logged BindingFault ContractBindings := do
  let progress ← entries.foldlM (Progress.add config.generateEvents) (Progress.start config)
  let bindings := progress.bindings
  Logged.say .info ("Compiled " ++ bindings.contractName ++ ": " ++ bindings.summary)
  return bindings

end ContractBinder
