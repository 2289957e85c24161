import ContractBinder.Code.Grammar.Paths

/-!
Reading types, bounds, and the parameters of generic items.
-/

namespace ContractBinder.Code.Grammar

open Reader

/-! ## Parameters of generic items -/

/-- A lifetime with the lifetimes that it has to outlive. Without any, the colon is not written. -/
def lifetimeParameter (stops : Reader Bool) : Reader Unit := do
  take .lifetime
  if ← comes (.mark ":") then
    let (_, colon) ← capture (take (.mark ":"))
    let (_, bounds) ← capture <| repeatWhile do
      if ← stops then return false
      take .lifetime
      accept (.mark "+")
    if !bounds.isEmpty then write (colon ++ bounds)

/-- A type with its bounds, and the type that it is if nothing else is said. Without bounds, the
colon is not written. -/
def typeParameter (nested : Nested) : Reader Unit := do
  take .name
  if ← comes (.mark ":") then
    let (_, colon) ← capture (take (.mark ":"))
    let (_, bounds) ← capture <| namedBounds nested [.mark ",", .mark ">", .mark "="]
    if !bounds.isEmpty then write (colon ++ bounds)
  if ← accept (.mark "=") then discard nested.type

/-- A constant with its type, and the value that it has if nothing else is said. -/
def constParameter (nested : Nested) : Reader Unit := do
  take (.word "const")
  take .name
  take (.mark ":")
  discard nested.type
  if ← accept (.mark "=") then
    if ← acceptAny [.literal, .name] then return
    else if ← comes (.opening .brace) then attributedBlock nested
    else forbid .noConstant

/-- A parameter of a generic item. Says whether it is a lifetime. Only an item's own parameters may
have a placeholder for a name. -/
def parameter (nested : Nested) (ofItem : Bool) : Reader Bool := do
  discard (outerAttributes nested)
  if ← comes .lifetime then
    lifetimeParameter (do return (← ends) || (← comesAny [.mark ",", .mark ">"]))
    return true
  else if ← comes .name then
    typeParameter nested
    return false
  else if ← comes (.word "const") then
    constParameter nested
    return false
  else if ofItem && (← comes (.word "_")) then
    take .anyName
    return false
  else if ofItem then missingAny [.lifetime, .name, .word "const"]
  else missingAny [.name, .lifetime, .word "const"]

/-- The parameters for all of which a type or a bound holds. -/
def binder (nested : Nested) : Reader Unit := do
  take (.word "for")
  take (.mark "<")
  commaItems (comes (.mark ">")) do
    discard (parameter nested false)
    return true
  take (.mark ">")

/-- The parameters of an item, if it has any. -/
def parameters (nested : Nested) : Reader Unit := do
  if ← comes (.mark "<") then
    let (found, written) ← capture (angleItems (parameter nested true) (take (.mark ",")))
    if found then write written

def requirements (nested : Nested) : Reader Unit := do
  let stops : Reader Bool := do
    return (← ends) || (← comesAny [.opening .brace, .mark ",", .mark ";", .mark "="]) ||
      (← comes (.mark ":")) && !(← comes (.mark "::"))
  if ← comes (.word "where") then
    let (_, word) ← capture (take (.word "where"))
    let (_, conditions) ← capture <| repeatWhile do
      if ← stops then return false
      if (← comes .lifetime) && (← comesSecond (.mark ":")) then
        take .lifetime
        take (.mark ":")
        repeatWhile do
          if ← stops then return false
          take .lifetime
          accept (.mark "+")
      else
        if ← comes (.word "for") then binder nested
        discard nested.type
        take (.mark ":")
        repeatWhile do
          if ← stops then return false
          discard (nested (.bound false true))
          accept (.mark "+")
      accept (.mark ",")
    if !conditions.isEmpty then write (word ++ conditions)

/-! ## Bounds -/

def returned (nested : Nested) (sums : Bool) : Reader Unit := do
  if ← accept (.mark "->") then discard (nested (.type sums))

/-- Whether a token can belong to arguments in angle brackets that hold nothing. -/
def isAngleMark : Token → Bool
  | .mark symbol _ => [':', '<', '>'].contains symbol
  | _ => false

/-- A path whose last segment may have arguments in round brackets instead of angle brackets. -/
def callablePath (nested : Nested) : Reader Path := do
  let found ← path nested false
  let direct ← comes (.opening .paren)
  let separated := (← comes (.mark "::")) && (← comesThird (.opening .paren))
  -- Angle brackets that hold nothing give way to round brackets.
  let free := found.lastArguments.all isAngleMark
  if free && (direct || separated) then
    discard (silently (accept (.mark "::")))
    let (_, arguments) ← capture do
      brackets .paren (commaItemsInside (discard nested.type))
      returned nested false
    return found.withLastArguments arguments
  else return found

/-- A bound that names a trait. Says whether it is marked constant. -/
def traitBound (nested : Nested) (constants : Bool) : Reader Bool := do
  let binds ← comes (.word "for")
  if binds then binder nested
  let bracketed ← comes (.opening .bracket)
  let constant ← comes (.word "const")
  if bracketed then
    brackets .bracket (take (.word "const"))
  else if constant then take (.word "const")
  if (bracketed || constant) && !constants then forbid (.misplacedConst bracketed)
  let optional ← accept (.mark "?")
  let bindsLater := !binds && optional && (← comes (.word "for"))
  if bindsLater then binder nested
  write (← callablePath nested).tokens
  if optional && (binds || bindsLater) then forbid .boundOptional
  return bracketed || constant

def captured : Reader Unit := do
  take (.word "use")
  let item : Reader Bool := do
    if ← accept .lifetime then return true
    else if ← acceptAny [.name, .word "Self"] then return false
    else missingAny [.lifetime, .name, .mark ">"]
  discard (angleItems item (takeAny [.mark ",", .mark ">"]))

/-- A bound: a lifetime, captured parameters, or a trait. -/
def bound (nested : Nested) (captures constants : Bool) : Reader Form := do
  if ← accept .lifetime then return .plain
  else if ← comes (.word "use") then
    captured
    if captures then return .plain else forbid .misplacedCapture
  else
    let origin ← get
    let copied ←
      if ← comes (.opening .paren) then brackets .paren (traitBound nested constants)
      else traitBound nested constants
    if copied then copySince origin
    return .traitBound

/-- What a further bound starts with. -/
def boundStarts : List Sign :=
  [.anyName, .mark "::", .mark "?", .lifetime, .opening .paren]

/-- Bounds with plus signs between them, if sums are allowed, and perhaps behind the last. Says
whether one of them names a trait. -/
def boundsUpTo (nested : Nested) (sums captures constants : Bool) : Nat → Reader Bool
  | 0 => return false
  | limit + 1 => do
    let named := (← nested (.bound captures constants)) = .traitBound
    let adds ← if sums then accept (.mark "+") else pure false
    if adds then
      let more ← comesAny (if constants then .opening .bracket :: boundStarts else boundStarts)
      if more then return (← boundsUpTo nested sums captures constants limit) || named
      else return named
    else return named

/-- The bounds of a type that hides another one behind traits. -/
def objectBounds (nested : Nested) (sums : Bool) : Reader Unit := do
  if !(← boundsUpTo nested sums false false (← get).limit) then forbid .objectWithoutTrait

/-- Further bounds behind a first one. Each plus sign needs a bound. -/
def addedBounds (nested : Nested) : Reader Unit :=
  repeatWhile do
    if ← accept (.mark "+") then
      discard (nested (.bound false false))
      return true
    else return false

/-! ## Types -/

def typeStarts : List Sign :=
  [.word "for", .opening .paren, .word "fn", .word "unsafe", .word "extern", .name, .mark "::",
   .mark "<", .word "dyn", .opening .bracket, .mark "*", .mark "&", .mark "!", .word "impl",
   .word "_", .lifetime]

/-- What a type starts with behind the parameters that it holds for. -/
def boundTypeStarts : List Sign :=
  [.name, .word "fn", .word "unsafe", .word "extern", .word "super", .word "self", .word "Self",
   .word "crate"]

/-- What is in the brackets at the start of a type. -/
inductive Parenthesised where
  /-- Nothing, or several types, or a type behind which no bound can be added. -/
  | closed
  /-- One type. -/
  | single (form : Form)
  /-- One bound, which is optional. -/
  | optionalBound
  deriving DecidableEq, Repr

/-- What is in the round brackets at the start of a type. -/
def parenthesised (nested : Nested) : Reader Parenthesised :=
  brackets .paren do
    if ← ends then return .closed
    else if ← comes .lifetime then
      objectBounds nested true
      return .closed
    else if ← comes (.mark "?") then
      discard (traitBound nested false)
      return .optionalBound
    else
      let form ← nested.type
      if ← accept (.mark ",") then
        commaItemsInside (discard nested.type)
        return .closed
      else return .single form

/-- A type in round brackets: a tuple, another type, or the first bound of a sum. -/
def parenthesisedType (nested : Nested) (sums : Bool) : Reader Form := do
  let found ← parenthesised nested
  let adds ← comes (.mark "+")
  match found with
  | .closed => return .plain
  | .optionalBound =>
    addedBounds nested
    return if adds then .plain else .boundType
  | .single form =>
    if sums && [Form.nameType, .pathType, .boundType].contains form then addedBounds nested
    return .plain

/-- A parameter of a function pointer: a type, perhaps with a name in front. The first one may be
the receiver. -/
def pointerParameter (nested : Nested) (first : Bool) : Reader Unit := do
  let origin ← get
  let mutable := first && (← comes (.word "mut")) && (← comesSecond (.word "self"))
  if mutable then take (.word "mut")
  let nameable ← comesAny [.name, .word "_"]
  let receives := first && (← comes (.word "self"))
  let typed := (← comesSecond (.mark ":")) && !(← comesSecond (.mark "::"))
  let named := (nameable || receives) && typed
  if named then
    take .anyName
    take (.mark ":")
  let mutableType := first && !(named && receives) && (← comes (.word "mut")) &&
    (← comesSecond (.word "self"))
  if mutableType then
    take (.word "mut")
    take (.word "self")
  else if mutable && !named then take (.word "self")
  else discard nested.type
  if mutable || mutableType then copySince origin

/-- The parameters of a function pointer. Three dots end them. -/
def pointerParametersUpTo (nested : Nested) (first : Bool) : Nat → Reader Unit
  | 0 => return
  | limit + 1 => do
    if ← ends then return
    discard (outerAttributes nested)
    let named := (← comesAny [.name, .word "_"]) && (← comesSecond (.mark ":"))
    if ← accept (.mark "...") then discard (accept (.mark ","))
    else if named && (← comesThird (.mark "...")) then
      take .anyName
      take (.mark ":")
      take (.mark "...")
      discard (accept (.mark ","))
    else
      pointerParameter nested first
      if ← ends then return
      take (.mark ",")
      pointerParametersUpTo nested false limit

/-- The calling convention of a function, if it says one. -/
def callingConvention : Reader Unit := do
  if ← accept (.word "extern") then discard (accept .text)

def functionPointer (nested : Nested) : Reader Unit := do
  discard (accept (.word "unsafe"))
  callingConvention
  take (.word "fn")
  brackets .paren do pointerParametersUpTo nested true (← get).limit
  returned nested false

/-- A type that starts with a path, behind the parameters that it holds for. -/
def namedType (nested : Nested) (sums binds : Bool) (bindings : List Token) : Reader Form := do
  if ← comes (.mark "<") then
    pathOfType nested false
    return .plain
  else
    let found ← path nested false
    if ← comesMacro found then
      write found.tokens
      discard macroArgument
      return .plain
    else
      write (bindings ++ found.tokens)
      let adds := sums && (← comes (.mark "+"))
      if adds then
        repeatWhile do
          if ← accept (.mark "+") then
            if ← comesAny boundStarts then
              discard (nested (.bound false false))
              return true
          return false
        return .plain
      else if binds then return .boundType
      else if !found.absolute && found.segments.length = 1 then return .nameType
      else return .pathType

/-- A type that starts with a word or a mark of its own. -/
def markedType (nested : Nested) (sums : Bool) : Reader Form := do
  let origin ← get
  if ← accept (.word "dyn") then
    let copied ← accept (.mark "*")
    objectBounds nested sums
    if copied then copySince origin
  else if ← comes (.opening .bracket) then
    brackets .bracket do
      discard nested.type
      if ← accept (.mark ";") then discard nested.expression
  else if ← accept (.mark "*") then
    takeAny [.word "const", .word "mut"]
    discard nested.tightType
  else if ← accept (.mark "&") then
    discard (accept .lifetime)
    discard (accept (.word "mut"))
    discard nested.tightType
  else if ← acceptAny [.mark "!", .word "_"] then return .plain
  else if ← accept (.word "impl") then
    if !(← boundsUpTo nested sums true true (← get).limit) then forbid .unknownWithoutTrait
  else if ← comes .lifetime then objectBounds nested true
  else missingAny typeStarts
  return .plain

def type (nested : Nested) (sums : Bool) : Reader Form := do
  let binds ← comes (.word "for")
  let (_, bindings) ← capture (if binds then binder nested else return)
  if binds && !(← comesAny boundTypeStarts) then missingAny boundTypeStarts
  else if ← comes (.opening .paren) then parenthesisedType nested sums
  else if ← comesAny [.word "fn", .word "unsafe", .word "extern"] then
    write bindings
    functionPointer nested
    return .plain
  else if ← comesAny [.name, .mark "::", .mark "<", .word "super", .word "self", .word "Self",
      .word "crate"] then
    namedType nested sums binds bindings
  else markedType nested sums

end ContractBinder.Code.Grammar
