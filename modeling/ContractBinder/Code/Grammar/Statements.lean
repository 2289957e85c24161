import ContractBinder.Code.Grammar.Items

/-!
Reading statements, of which blocks consist.
-/

namespace ContractBinder.Code.Grammar

open Reader

/-- A local value, perhaps with a block for the case that its pattern does not fit. An expression
that ends with a brace has no such block. -/
def localValue (nested : Nested) : Reader Unit := do
  take (.word "let")
  discard (nested .pattern)
  if ← accept (.mark ":") then discard nested.type
  if ← accept (.mark "=") then
    discard nested.expression
    let braced := (← get).written.head? = some (.closing .brace)
    if !braced then
      if ← accept (.word "else") then nested.block
  take (.mark ";")

inductive StatementMacro where
  /-- No macro, or one that is part of an expression. -/
  | none
  /-- A macro with a name of its own, which is an item. -/
  | item
  /-- A macro with its argument in braces, which is a whole statement. -/
  | whole
  deriving DecidableEq, Repr

def statementMacro : Reader StatementMacro := do
  let origin ← get
  let found ← attempt modulePath
  let called := found.isSome && (← comes (.mark "!"))
  let named := (← comesSecond .name) || (← comesSecond (.word "try"))
  let braced ← comesSecond (.opening .brace)
  let continued := (← comesThird (.mark ".")) && !(← comesThird (.mark "..")) ||
    (← comesThird (.mark "?"))
  set origin
  if called && named then return .item
  else if called && braced && !continued then return .whole
  else return .none

/-- Whether an item comes next where a statement may start. -/
def comesItem : Reader Bool := do
  let second (words : List String) : Reader Bool := do
    let behind := afterFirst (← upcoming)
    return words.any fun word => (Sign.word word).starts behind
  let third (signs : List Sign) : Reader Bool := do
    let behind := afterFirst (afterFirst (← upcoming))
    return signs.any (·.starts behind)
  let block ← comesSecond (.opening .brace)
  let functionBehind ← second ["unsafe", "extern", "fn"]
  let plain ← comesAny <|
    ["pub", "extern", "use", "fn", "mod", "type", "struct", "enum", "trait", "impl", "macro"].map
      Sign.word
  let ofCrate := (← comes (.word "crate")) && !(← comesSecond (.mark "::"))
  let asyncStatic := (← second ["async"]) && (← third [.word "move", .mark "|"])
  let ofStatic := (← comes (.word "static")) &&
    ((← second ["mut"]) || (← comesSecond .name) && !asyncStatic)
  let asyncConst := (← second ["async"]) &&
    !(← third [.word "unsafe", .word "extern", .word "fn"])
  let closureConst := (← second ["static", "move"]) || (← comesSecond (.mark "|")) || asyncConst
  let ofConst := (← comes (.word "const")) && !(block || closureConst)
  let ofUnsafe := (← comes (.word "unsafe")) && !block
  let ofAsync := (← comes (.word "async")) && functionBehind
  let ofUnion := (← comes (.word "union")) && (← comesSecond .name)
  let ofAuto := (← comes (.word "auto")) && (← second ["trait"])
  let ofDefault := (← comes (.word "default")) && (← second ["unsafe", "impl"])
  return plain || ofCrate || ofStatic || ofConst || ofUnsafe || ofAsync || ofUnion || ofAuto ||
    ofDefault

/-- A statement. Says whether it has to be the last one, as it lacks its semicolon. -/
def statement (nested : Nested) : Reader Bool := do
  let origin ← get
  discard (outerAttributes nested)
  match ← statementMacro with
  | .whole =>
    modulePath
    discard macroArgument
    discard (accept (.mark ";"))
    return false
  | called =>
    if ← comes (.word "let") then
      localValue nested
      return false
    else if called = .item || (← comesItem) then
      itemFrom nested origin
      return false
    else
      let form ← nested .earlyExpression
      let ended ← accept (.mark ";")
      return !(ended || form = .blockLike || form = .bracedMacro)

def statements (nested : Nested) : Reader Unit :=
  repeatWhile do
    if ← accept (.mark ";") then return true
    else if ← ends then return false
    else
      let last ← statement nested
      if last && !(← ends) then forbid .unendedStatement
      return true

end ContractBinder.Code.Grammar
