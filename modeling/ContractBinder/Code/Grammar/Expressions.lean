import ContractBinder.Code.Grammar.Patterns

/-!
Reading expressions. Operators are read by precedence: the right operand of an operator takes in
what binds more tightly.
-/

namespace ContractBinder.Code.Grammar

open Reader

/-! ## Operators -/

/-- The operators with two operands. Where one begins with another, it comes first. -/
def binaryOperators : List (String × Precedence) :=
  [("+=", .assign), ("-=", .assign), ("*=", .assign), ("/=", .assign), ("%=", .assign),
   ("^=", .assign), ("&=", .assign), ("|=", .assign), ("<<=", .assign), (">>=", .assign),
   ("&&", .and), ("||", .or), ("<<", .shift), (">>", .shift), ("==", .compare), ("<=", .compare),
   ("!=", .compare), (">=", .compare), ("+", .sum), ("-", .sum), ("*", .product), ("/", .product),
   ("%", .product), ("^", .bitXor), ("&", .bitAnd), ("|", .bitOr), ("<", .compare), (">", .compare)]

/-- The operator with two operands that comes first. -/
def binaryOperator? (tokens : List Token) : Option (String × Precedence) :=
  binaryOperators.find? fun (spelling, _) => (Sign.mark spelling).starts tokens

/-- Whether an assignment's sign comes first. -/
def startsAssignment (tokens : List Token) : Bool :=
  (Sign.mark "=").starts tokens && !(Sign.mark "=>").starts tokens

/-- How tightly the operator that comes first binds. -/
def upcomingPrecedence (tokens : List Token) : Precedence :=
  match binaryOperator? tokens with
  | some (_, precedence) => precedence
  | none =>
    if startsAssignment tokens then .assign
    else if (Sign.mark "..").starts tokens then .range
    else if (Sign.word "as").starts tokens then .cast
    else .jump

/-- Fails if something that binds more tightly follows a conversion. -/
def checkConversion : Reader Unit := do
  if (← comes (.mark ".")) && !(← comes (.mark "..")) then
    let calls := (← comesSecond .name) &&
      ((← comesThird (.opening .paren)) || (← comesThird (.mark "::")))
    if ← comesSecond (.word "await") then forbid (.afterConversion "`.await`")
    else if calls then forbid (.afterConversion "a method call")
    else forbid (.afterConversion "a field access")
  else if ← comes (.mark "?") then forbid (.afterConversion "`?`")
  else if ← comes (.opening .bracket) then forbid (.afterConversion "indexing")
  else if ← comes (.opening .paren) then forbid (.afterConversion "a function call")

/-- What cannot start the end of a range. -/
def afterOpenRange : List Sign :=
  [.mark ",", .mark ";", .mark "?", .mark "=>", .mark "=", .mark "+", .mark "/", .mark "%",
   .mark "^", .mark ">", .mark "<=", .mark "!=", .mark "-=", .mark "*=", .mark "&=", .mark "|=",
   .mark "<<=", .word "as"]

/-- The dots of a range and its end, if it has one. -/
def rangeTail (nested : Nested) (records : Bool) : Reader Unit := do
  let closed ← rangeDots false
  let stops ← comesAny afterOpenRange
  let member := (← comes (.mark ".")) && !(← comes (.mark ".."))
  let braced := !records && (← comes (.opening .brace))
  if closed || !((← ends) || stops || member || braced) then
    discard (nested (.rightOperand .range records))

/-- The operators that bind at least as tightly as `base`, with their right operands, behind a first
operand. A range is no left operand. -/
def operationsUpTo (nested : Nested) (base : Precedence) (records : Bool) :
    Nat → Form → Reader Form
  | 0, first => return first
  | limit + 1, first => do
    let ahead ← upcoming
    if first = .range then return first
    else
      match binaryOperator? ahead with
      | some (spelling, precedence) =>
        if precedence.rank < base.rank then return first
        else if precedence = .compare && first = .comparison then forbid .chainedComparison
        else
          take (.mark spelling)
          discard (nested (.rightOperand precedence records))
          operationsUpTo nested base records limit
            (if precedence = .compare then .comparison else .plain)
      | none =>
        if base.rank ≤ Precedence.assign.rank && startsAssignment ahead then
          take (.mark "=")
          discard (nested (.rightOperand .assign records))
          operationsUpTo nested base records limit .plain
        else if base.rank ≤ Precedence.range.rank && (Sign.mark "..").starts ahead then
          rangeTail nested records
          return .range
        else if (Sign.word "as").starts ahead then
          take (.word "as")
          discard nested.tightType
          checkConversion
          operationsUpTo nested base records limit .plain
        else return first

/-- What binds more tightly than an operator, behind the first part of the operator's right operand.
-/
def tighterUpTo (nested : Nested) (precedence : Precedence) (records : Bool) :
    Nat → Form → Reader Form
  | 0, first => return first
  | limit + 1, first => do
    let ahead ← upcoming
    let next := upcomingPrecedence ahead
    let again := next = precedence && precedence = .assign
    if precedence.rank < next.rank || again then
      let form ← nested (.operations first next records)
      if (← upcoming).length = ahead.length then return form
      else tighterUpTo nested precedence records limit form
    else return first

def rightOperand (nested : Nested) (precedence : Precedence) (records : Bool) : Reader Form := do
  let first ← nested (.operand records)
  tighterUpTo nested precedence records (← get).limit first

/-! ## Parts behind a value -/

def callArguments (nested : Nested) : Reader Unit :=
  brackets .paren (commaItemsInside (discard nested.expression))

/-- A member behind its point: a position, a name, or a method with its arguments. -/
def memberAccess (nested : Nested) : Reader Unit := do
  if ← acceptPositions then return
  else if ← accept (.word "await") then return
  else
    let named ← member
    let separated ← comes (.mark "::")
    if named && separated then
      take (.mark "::")
      discard (angleItems (argument nested) (take (.mark ",")))
    if named && (separated || (← comes (.opening .paren))) then callArguments nested

/-- Calls, members, elements and passed on failures behind a value. -/
def trailersUpTo (nested : Nested) : Nat → Form → Reader Form
  | 0, form => return form
  | limit + 1, form => do
    let member := (← comes (.mark ".")) && !(← comes (.mark ".."))
    if ← comes (.opening .paren) then
      callArguments nested
      trailersUpTo nested limit .plain
    else if member && form ≠ .range then
      take (.mark ".")
      memberAccess nested
      trailersUpTo nested limit .plain
    else if ← comes (.opening .bracket) then
      brackets .bracket (discard nested.expression)
      trailersUpTo nested limit .plain
    else if (← comes (.mark "?")) && form ≠ .range then
      take (.mark "?")
      trailersUpTo nested limit .plain
    else return form

/-! ## Values -/

/-- What an expression can start with where it may be missing. -/
def beginsExpression : Reader Bool := do
  let plain ← comesAny
    [.anyName, .opening .paren, .opening .bracket, .opening .brace, .literal, .mark "..",
     .mark "::", .lifetime, .mark "#"]
  let alone (sign : String) (longer : List String) : Reader Bool := do
    return (← comes (.mark sign)) && !(← comesAny (longer.map Sign.mark))
  return plain || (← alone "!" ["!="]) || (← alone "-" ["-=", "->"]) ||
    (← alone "*" ["*="]) || (← alone "|" ["|="]) || (← alone "&" ["&="]) ||
    (← alone "<" ["<=", "<<="])

def closureParameter (nested : Nested) : Reader Bool := do
  discard (outerAttributes nested)
  discard (nested .pattern)
  if ← accept (.mark ":") then discard nested.type
  return true

/-- A closure. Its body is a block if its result has a type. -/
def closure (nested : Nested) (records : Bool) : Reader Unit := do
  if ← comes (.word "for") then binder nested
  discard (accept (.word "const"))
  discard (accept (.word "static"))
  discard (accept (.word "async"))
  discard (accept (.word "move"))
  take (.mark "|")
  commaItems (comes (.mark "|")) (closureParameter nested)
  take (.mark "|")
  if ← accept (.mark "->") then
    discard nested.type
    nested.block
  else discard (nested (.expression records))

/-- A field of a record. Two dots stand for the fields of another record; nothing may follow them.
-/
def recordField (nested : Nested) : Reader Bool := do
  if ← accept (.mark "..") then
    if !(← ends) then discard nested.expression
    return false
  else
    discard (outerAttributes nested)
    let named ← member
    if !named || (← comes (.mark ":")) then
      take (.mark ":")
      discard nested.expression
    return true

/-- A value that starts with a path: a macro, a record, or the path alone. -/
def pathValue (nested : Nested) (records : Bool) : Reader Form := do
  let found ← valuePath nested
  write (found.map Path.tokens |>.getD [])
  let calls ← (found.map comesMacro).getD (pure false)
  if calls then
    return if (← macroArgument) = .brace then .bracedMacro else .plain
  else
    if records && (← comes (.opening .brace)) then
      brackets .brace (commaItems ends (recordField nested))
    return .plain

/-- The elements of an array, or one element and how often it is repeated. -/
def arrayElements (nested : Nested) : Reader Unit := do
  if ← ends then return
  else
    discard nested.expression
    if ← ends then return
    else if ← accept (.mark ",") then commaItemsInside (discard nested.expression)
    else if ← accept (.mark ";") then discard nested.expression
    else missingAny [.mark ",", .mark ";"]

/-- Conditions with their blocks, each behind the `else` of the one before. -/
def conditionalUpTo (nested : Nested) : Nat → Reader Unit
  | 0 => return
  | limit + 1 => do
    take (.word "if")
    discard (nested (.expression false))
    nested.block
    if ← accept (.word "else") then
      if ← comes (.word "if") then conditionalUpTo nested limit
      else if ← comes (.opening .brace) then nested.block
      else missingAny [.word "if", .opening .brace]

/-- One case of a choice. Only a case that ends with a block can do without a comma. -/
def choiceCase (nested : Nested) : Reader Unit := do
  discard (outerAttributes nested)
  discard (alternatives nested)
  if ← accept (.word "if") then discard nested.expression
  take (.mark "=>")
  let form ← nested .earlyExpression
  if form ≠ .blockLike && !(← ends) then take (.mark ",") else discard (accept (.mark ","))

def repetition (nested : Nested) : Reader Unit := do
  if ← accept (.word "while") then discard (nested (.expression false))
  else if ← accept (.word "for") then
    discard (alternatives nested)
    take (.word "in")
    discard (nested (.expression false))
  else discard (accept (.word "loop"))
  attributedBlock nested

def repetitionStarts : List Sign :=
  [.word "while", .word "for", .word "loop", .opening .brace]

def labelled (nested : Nested) : Reader Unit := do
  take .lifetime
  take (.mark ":")
  if ← comesAny repetitionStarts then repetition nested
  else missing "loop or block expression"

/-- The end of a repetition, perhaps with its value. -/
def breaking (nested : Nested) (records : Bool) : Reader Unit := do
  take (.word "break")
  if (← comes .lifetime) && (← comesSecond (.mark ":")) then
    discard nested.expression
    forbid .labelledValue
  discard (accept .lifetime)
  if (← beginsExpression) && (records || !(← comes (.opening .brace))) then
    discard nested.expression

/-- A value that is taken apart by a pattern, as a condition. -/
def matching (nested : Nested) (records : Bool) : Reader Unit := do
  take (.word "let")
  discard (alternatives nested)
  take (.mark "=")
  let first ← nested (.operand records)
  discard (nested (.operations first .compare records))

/-- Whether the parameters of a closure's lifetimes come next, and not a repetition. -/
def comesBinder : Reader Bool := do
  let bound := (← comesThird .lifetime) || (← comesThird (.mark ">"))
  return (← comes (.word "for")) && (← comesSecond (.mark "<")) && bound

def comesClosure : Reader Bool := do
  let marked ← comesAny [.mark "|", .word "move", .word "static"]
  let binds ← comesBinder
  let constant := (← comes (.word "const")) && !(← comesSecond (.opening .brace))
  let awaits := (← comes (.word "async")) &&
    ((← comesSecond (.mark "|")) || (← comesSecond (.word "move")))
  return marked || binds || constant || awaits

/-- Whether a block comes next whose value is there later. -/
def comesAsyncBlock : Reader Bool := do
  let direct ← comesSecond (.opening .brace)
  let moving := (← comesSecond (.word "move")) && (← comesThird (.opening .brace))
  return (← comes (.word "async")) && (direct || moving)

def comesPath : Reader Bool := do
  let attempted := (← comes (.word "try")) &&
    ((← comesSecond (.mark "!")) || (← comesSecond (.mark "::")))
  return (← comesAny pathStarts) || attempted

/-- An expression that starts with a word or a bracket of its own. -/
def markedValue (nested : Nested) (records : Bool) : Reader Form := do
  let origin ← get
  if ← comes (.opening .paren) then
    brackets .paren (commaItemsInside (discard nested.expression))
    return .plain
  else if ← comes (.word "break") then
    breaking nested records
    return .plain
  else if ← accept (.word "continue") then
    discard (accept .lifetime)
    return .plain
  else if ← acceptAny [.word "return", .word "yield"] then
    if ← beginsExpression then discard nested.expression
    return .plain
  else if ← accept (.word "become") then
    discard nested.expression
    copySince origin
    return .plain
  else if ← comes (.opening .bracket) then
    brackets .bracket (arrayElements nested)
    return .plain
  else if ← comes (.word "let") then
    matching nested records
    return .plain
  else if ← comes (.word "if") then
    conditionalUpTo nested (← get).limit
    return .blockLike
  else if ← comesAny repetitionStarts then
    repetition nested
    return .blockLike
  else if ← accept (.word "match") then
    discard (nested (.expression false))
    brackets .brace do
      innerAttributes nested
      repeatWhile do
        if ← ends then return false
        choiceCase nested
        return true
    return .blockLike
  else if ← acceptAny [.word "unsafe", .word "const"] then
    attributedBlock nested
    return .blockLike
  else if ← comes (.mark "..") then
    rangeTail nested records
    return .range
  else if ← accept (.word "_") then return .plain
  else if ← comes .lifetime then
    labelled nested
    return .blockLike
  else missing "an expression"

/-- An expression without operators and without parts behind it. -/
def value (nested : Nested) (records : Bool) : Reader Form := do
  let origin ← get
  if ← accept .literal then return .plain
  else if ← comesAsyncBlock then
    take (.word "async")
    discard (accept (.word "move"))
    nested.block
    return .plain
  else if (← comes (.word "try")) && (← comesSecond (.opening .brace)) then
    take (.word "try")
    nested.block
    return .blockLike
  else if ← comesClosure then
    closure nested records
    return .plain
  else if (← comes (.word "builtin")) && (← comesSecond (.mark "#")) then
    take .anyName
    take (.mark "#")
    take .name
    if ← comes (.opening .paren) then discard takeAnyBrackets else take (.opening .paren)
    copySince origin
    return .plain
  else if ← comesPath then pathValue nested records
  else markedValue nested records

def operand (nested : Nested) (records : Bool) : Reader Form := do
  let attributed ← outerAttributes nested
  if ← accept (.mark "&") then
    let raw := (← comes (.word "raw")) &&
      ((← comesSecond (.word "mut")) || (← comesSecond (.word "const")))
    if raw then
      take .anyName
      takeAny [.word "mut", .word "const"]
    else discard (accept (.word "mut"))
    discard (nested (.operand records))
    return .plain
  else if ← acceptAny [.mark "*", .mark "!", .mark "-"] then
    discard (nested (.operand records))
    return .plain
  else
    let first ← value nested records
    let form ← trailersUpTo nested (← get).limit first
    if attributed && form = .range then forbid .attributedRange
    return form

def expression (nested : Nested) (records : Bool) : Reader Form := do
  let first ← nested (.operand records)
  nested (.operations first .jump records)

/-- Whether an expression comes next that ends with a block. -/
def comesBlockLike : Reader Bool := do
  let binds ← comesBinder
  let braced ← comesSecond (.opening .brace)
  return (← comesAny [.word "if", .word "while", .word "loop", .word "match", .word "unsafe",
      .opening .brace, .lifetime]) || (← comes (.word "for")) && !binds ||
    (← comesAny [.word "try", .word "const"]) && braced

/-- An expression that ends with its block if it is a statement. A member or a passed on failure may
still follow the block. -/
def earlyExpression (nested : Nested) : Reader Form := do
  discard (outerAttributes nested)
  let first ← if ← comesBlockLike then value nested true else nested (.operand true)
  if first = .blockLike then
    let member := (← comes (.mark ".")) && !(← comes (.mark ".."))
    if member || (← comes (.mark "?")) then
      let form ← trailersUpTo nested (← get).limit first
      nested (.operations form .jump true)
    else return first
  else nested (.operations first .jump true)

end ContractBinder.Code.Grammar
