import ContractBinder.Code.Grammar.Statements
import ContractBinder.Code.Lexer

/-!
Reading texts as paths, and tokens as modules.
Main statement: a text is a path if its tokens are one path and nothing else; `SyntaxFault` says why
another text is none.
-/

namespace ContractBinder.Code

namespace Grammar

open Reader

/-- The reader of a kind of code, given the readers of the kinds inside it. -/
def readConstruct (nested : Nested) : Construct → Reader Form
  | .type sums => type nested sums
  | .bound captures constants => bound nested captures constants
  | .expression records => expression nested records
  | .operand records => operand nested records
  | .operations first base records => do
    operationsUpTo nested base records (← get).limit first
  | .rightOperand precedence records => rightOperand nested precedence records
  | .earlyExpression => earlyExpression nested
  | .pattern => pattern nested
  | .statements => do
    statements nested
    return .plain
  | .item => do
    item nested
    return .plain

/-- The readers of code that is nested at most so deeply. -/
def nestedUpTo : Nat → Nested
  | 0, _ => missing "less nested code"
  | depth + 1, construct => readConstruct (nestedUpTo depth) construct

/-- A bound for the depth of nesting. Between two tokens there are fewer than eight levels. -/
def depthOf (tokens : List Token) : Nat :=
  8 * tokens.length + 8

/-- A module: attributes and items. Its tokens are given as code has them that was read and written.
-/
def readModule (tokens : List Token) : Except SyntaxFault (List Token) := do
  let spelled := spellDocs tokens
  let nested := nestedUpTo (depthOf spelled)
  let body : Reader Unit := do
    innerAttributes nested
    repeatWhile do
      if ← ends then return false
      discard (nested .item)
      return true
  return (← readAll body spelled).2

end Grammar

namespace Path

def ofTokens (tokens : List Token) : Except SyntaxFault Path := do
  let spelled := spellDocs tokens
  let nested := Grammar.nestedUpTo (Grammar.depthOf spelled)
  return (← Reader.readAll (Grammar.path nested false) spelled).1

def parse (text : String) : Except SyntaxFault Path :=
  match tokens? text with
  | none => .error .notTokens
  | some tokens => ofTokens tokens

end Path

end ContractBinder.Code
