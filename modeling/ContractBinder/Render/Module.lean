import ContractBinder.Binding.Contract
import ContractBinder.Render.Event
import ContractBinder.Render.Function

/-!
The rendered module of a contract: name constants, event items, the contract's type, and its
methods.
-/

namespace ContractBinder

open Code (Token)

/-- The constant that holds a function's literal name. -/
def NameConstant.tokens (constant : NameConstant) : List Token :=
  Code.word "pub" ++ Code.statement (Code.word "const" ++
    Code.typed constant.name (Code.referenceTo (Code.word "str")) ++
    Code.mark '=' :: Code.textOf constant.value)

namespace Renderer

def contractItem (r : Renderer) (contractName : String) : List Token :=
  r.doc ("Typed bindings for the `" ++ contractName ++ "` contract.") ++ recordAttribute ++
    Code.word "pub" ++ Code.word "struct" ++ Code.word contractName ++
    Code.block (Code.commaTerminated [Code.typed "contract" (r.item ["Contract"])])

def commonMethods (r : Renderer) : List Token :=
  Code.methodOf "load" (Code.typed "contract" (r.item ["Contract"])) (Code.word "Self")
      (Code.word "Self" ++ Code.block (Code.word "contract")) ++
    Code.methodOf "contract_address" (Code.referenceTo (Code.word "self"))
      (Code.referenceTo (Code.word "str"))
      (Code.call (Code.dot (Code.dot (Code.word "self") "contract") "address") [])

def contractMethods (r : Renderer) (contractName : String) (functions events : List Token) :
    List Token :=
  Code.attributeOf (Code.call (Code.word "allow")
      [Code.word "non_snake_case", Code.pathOf false ["clippy", "too_many_arguments"]]) ++
    Code.word "impl" ++ Code.word contractName ++
    Code.block (r.commonMethods ++ functions ++ events)

def render (r : Renderer) (bindings : ContractBindings) : Except BindingFault (List Token) := do
  requireIdentifiers (bindings.contractName :: bindings.nameConstants.map NameConstant.name)
  let functions ← bindings.functions.mapM r.renderFunction
  let items ← bindings.events.mapM r.renderEventItems
  let methods ← bindings.events.mapM r.renderEventMethods
  return bindings.nameConstants.flatMap NameConstant.tokens ++ items.flatten ++
    r.contractItem bindings.contractName ++
    r.contractMethods bindings.contractName functions.flatten methods.flatten

end Renderer

/-- Tokens as code that was read and written again has them, if no tokens are unfit for their
places: an empty parameter list of a closure is two marks. -/
def spreadBars (tokens : List Token) : List Token :=
  tokens.map fun token => if token = .mark '|' true then Code.mark '|' else token

/-- The tokens of a rendered module, read and written again. Only the path of the runtime library
can be unfit for a place where it is used, so nothing has to be read if it fits everywhere
(`renderSource_eq_read`). -/
def Renderer.reread (r : Renderer) (tokens : List Token) : Except BindingFault (List Token) :=
  if r.runtime.fitsEverywhere then .ok (spreadBars tokens)
  else (Code.Grammar.readModule tokens).mapError fun fault => .render (.unparsable fault.message)

def renderSource (config : Config) (bindings : ContractBindings) : Except BindingFault String := do
  let r ← Renderer.ofConfig config
  let tokens ← r.render bindings
  return Code.print (← r.reread tokens)

end ContractBinder
