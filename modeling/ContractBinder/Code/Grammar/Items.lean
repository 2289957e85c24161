import ContractBinder.Code.Grammar.Expressions

/-!
Reading items, of which modules consist. An item that is well formed but has a part that it cannot
have is written as it is spelled.
-/

namespace ContractBinder.Code.Grammar

open Reader

/-! ## Parts of items -/

/-- Who can see an item, if it says that. -/
def visibility : Reader Unit := do
  if ← accept (.word "pub") then
    if ← comes (.opening .paren) then
      let inside := (← upcoming).drop 1
      let enclosing : List Sign := [.word "crate", .word "self", .word "super"]
      if enclosing.any (·.starts inside) then
        if atEnd (inside.drop 1) then brackets .paren (take .anyName)
      else if (Sign.word "in").starts inside then
        brackets .paren do
          take (.word "in")
          modulePath

/-- What comes before the word that starts a function. -/
def functionQualifiers : Reader Unit := do
  discard (accept (.word "const"))
  discard (accept (.word "async"))
  discard (accept (.word "unsafe"))
  callingConvention

def comesFunction : Reader Bool := do
  let origin ← get
  functionQualifiers
  let found ← comes (.word "fn")
  set origin
  return found

/-- The value that a method is called on. -/
def receiverParameter (nested : Nested) : Reader Unit := do
  let referenced ← accept (.mark "&")
  if referenced then discard (accept .lifetime)
  discard (accept (.word "mut"))
  take (.word "self")
  if !referenced then
    if ← accept (.mark ":") then discard nested.type

/-- A parameter of a function that is no receiver: a pattern with its type, or a type alone. Says
whether other parameters may follow; three dots end them. -/
def typedParameter (nested : Nested) : Reader Bool := do
  if (← comes .name) && (← comesSecond (.mark "<")) then
    write [.name "_", mark ':']
    discard nested.type
    return true
  else
    discard (nested .pattern)
    take (.mark ":")
    if ← accept (.mark "...") then return false
    else
      discard nested.type
      return true

/-- The parameters of a function. The first one may be the receiver. -/
def functionParametersUpTo (nested : Nested) (first received : Bool) : Nat → Reader Unit
  | 0 => return
  | limit + 1 => do
    if ← ends then return
    discard (outerAttributes nested)
    let receives := (← attempt (receiverParameter nested)).isSome
    if receives && !first then forbid (.lateReceiver received)
    let continues ←
      if ← accept (.mark "...") then pure false
      else if receives then pure true
      else typedParameter nested
    if ← ends then return
    take (.mark ",")
    if continues then functionParametersUpTo nested false (received || receives) limit

def signature (nested : Nested) : Reader Unit := do
  functionQualifiers
  take (.word "fn")
  take .name
  parameters nested
  brackets .paren do functionParametersUpTo nested true false (← get).limit
  returned nested true
  requirements nested

/-- A function. Without a body it ends with a semicolon, and is written as it is spelled. -/
def function (nested : Nested) (origin : Progress) : Reader Unit := do
  signature nested
  if ← accept (.mark ";") then copySince origin else attributedBlock nested

/-- A constant. One with parameters, or one without a value that needs one, is written as it is
spelled. -/
def constant (nested : Nested) (origin : Progress) (needsValue : Bool) : Reader Unit := do
  take (.word "const")
  takeAny [.name, .word "_"]
  let generic ← comes (.mark "<")
  parameters nested
  take (.mark ":")
  discard nested.type
  let valued ← accept (.mark "=")
  if valued then discard nested.expression
  let required ← comes (.word "where")
  requirements nested
  take (.mark ";")
  if generic || needsValue && !valued || required then copySince origin

/-- Which bounds and definition a type's name has. -/
structure TypeParts where
  bounded : Bool
  defined : Bool
  deriving DecidableEq, Repr

/-- The name of a type. What is required of its parameters stands before the definition, or behind
it. -/
def typeName (nested : Nested) (early late : Bool) : Reader TypeParts := do
  take (.word "type")
  take .name
  parameters nested
  let (bounded, colon) ← capture (accept (.mark ":"))
  if bounded then
    let (_, bounds) ← capture (namedBounds nested [.word "where", .mark "=", .mark ";"])
    if !bounds.isEmpty then write (colon ++ bounds)
  let required := early && (← comes (.word "where"))
  if early then requirements nested
  let defined ← accept (.mark "=")
  if defined then discard nested.type
  if late && !required then requirements nested
  take (.mark ";")
  return ⟨bounded, defined⟩

/-- A static value. One without a type or without a value is written as it is spelled. -/
def staticValue (nested : Nested) (origin : Progress) : Reader Unit := do
  take (.word "static")
  discard (accept (.word "mut"))
  take .name
  if ← accept (.mark "=") then
    discard nested.expression
    take (.mark ";")
    copySince origin
  else
    take (.mark ":")
    discard nested.type
    if ← accept (.mark ";") then copySince origin
    else
      take (.mark "=")
      discard nested.expression
      take (.mark ";")

def macroStarts : List Sign :=
  [.name, .word "self", .word "super", .word "crate", .mark "::"]

/-- A macro as an item, perhaps with a name of its own. Brackets other than braces need a semicolon.
-/
def macroItem (nameable : Bool) : Reader Unit := do
  modulePath
  take (.mark "!")
  if nameable then discard (acceptAny [.name, .word "try"])
  if (← takeAnyBrackets) ≠ .brace then take (.mark ";")

/-! ## Records and choices -/

/-- A field of a record. A field of a tuple has no name. -/
def fieldItem (nested : Nested) (named : Bool) : Reader Unit := do
  discard (outerAttributes nested)
  visibility
  if named then
    if !(← accept (.word "_")) then take .name
    take (.mark ":")
  discard nested.type

def namedFields (nested : Nested) : Reader Unit :=
  brackets .brace (commaItemsInside (fieldItem nested true))

def tupleFields (nested : Nested) : Reader Unit :=
  brackets .paren (commaItemsInside (fieldItem nested false))

def record (nested : Nested) : Reader Unit := do
  take (.word "struct")
  take .name
  parameters nested
  let required ← comes (.word "where")
  requirements nested
  if !required && (← comes (.opening .paren)) then
    tupleFields nested
    let requiredLater ← comes (.word "where")
    requirements nested
    if !(← accept (.mark ";")) then
      missingAny (if requiredLater then [.mark ";"] else [.word "where", .mark ";"])
  else if ← comes (.opening .brace) then namedFields nested
  else if !(← accept (.mark ";")) then
    missingAny ((if required then [] else [.word "where", .opening .paren]) ++
      [.opening .brace, .mark ";"])

/-- One of the values of a choice. Who can see it is not written. -/
def variant (nested : Nested) : Reader Unit := do
  discard (outerAttributes nested)
  silently visibility
  take .name
  if ← comes (.opening .brace) then namedFields nested
  else if ← comes (.opening .paren) then tupleFields nested
  if ← accept (.mark "=") then discard nested.expression

def choice (nested : Nested) : Reader Unit := do
  take (.word "enum")
  take .name
  parameters nested
  requirements nested
  brackets .brace (commaItemsInside (variant nested))

/-- A record whose fields share their place. -/
def sharedRecord (nested : Nested) : Reader Unit := do
  take (.word "union")
  take .name
  parameters nested
  requirements nested
  namedFields nested

/-! ## Traits and implementations -/

/-- Members up to the end of the braces, behind attributes. -/
def membersInside (nested : Nested) (member : Reader Unit) : Reader Unit :=
  brackets .brace do
    innerAttributes nested
    repeatWhile do
      if ← ends then return false
      member
      return true

/-- Whether a preset comes next, which other implementations may replace. -/
def comesPreset : Reader Bool := do
  return (← comes (.word "default")) && !(← comesSecond (.mark "!"))

def implementationMember (nested : Nested) : Reader Unit := do
  let origin ← get
  discard (outerAttributes nested)
  let visible ← comes (.word "pub")
  visibility
  let preset ← comesPreset
  if preset then take .anyName
  if ← comesFunction then function nested origin
  else if ← comes (.word "const") then constant nested origin true
  else if ← comes (.word "type") then
    let parts ← typeName nested false true
    if parts.bounded || !parts.defined then copySince origin
  else if !visible && !preset && (← comesAny macroStarts) then macroItem false
  else
    let starts : List Sign := [.word "fn", .word "const", .word "type"]
    missingAny ((if preset then [] else [.word "default"]) ++ starts ++
      if visible || preset then [] else macroStarts)

/-- A member of a trait. One that says who can see it is written as it is spelled. -/
def traitMember (nested : Nested) : Reader Unit := do
  let origin ← get
  discard (outerAttributes nested)
  let visible ← comes (.word "pub")
  visibility
  let preset ← accept (.word "default")
  if ← comesFunction then
    signature nested
    if ← comes (.opening .brace) then attributedBlock nested
    else takeAny [.opening .brace, .mark ";"]
  else if ← comes (.word "const") then constant nested origin false
  else if ← comes (.word "type") then discard (typeName nested false true)
  else if !visible && !preset && (← comesAny macroStarts) then macroItem false
  else
    missingAny ([.word "fn", .word "const", .word "type"] ++
      if visible || preset then [] else macroStarts)
  if visible || preset then copySince origin

/-- Bounds with plus signs between them, up to one of the signs. -/
def boundsBefore (nested : Nested) (stops : List Sign) : Reader Unit :=
  repeatWhile do
    if ← comesAny stops then return false
    discard (nested (.bound false true))
    if ← comesAny stops then return false
    take (.mark "+")
    return true

/-- What a trait holds: its bounds, what is required of its parameters, and its members. -/
def traitBody (nested : Nested) : Reader Unit := do
  let (bounded, colon) ← capture (accept (.mark ":"))
  if bounded then
    let (_, bounds) ← capture (boundsBefore nested [.word "where", .opening .brace])
    if !bounds.isEmpty then write (colon ++ bounds)
  requirements nested
  membersInside nested (traitMember nested)

def traitItem (nested : Nested) : Reader Unit := do
  let marked ← comesAny [.word "unsafe", .word "auto"]
  discard (accept (.word "unsafe"))
  discard (accept (.word "auto"))
  take (.word "trait")
  take .name
  parameters nested
  if marked || (← comesAny [.opening .brace, .mark ":", .word "where"]) then traitBody nested
  else if ← accept (.mark "=") then
    boundsBefore nested [.word "where", .mark ";"]
    requirements nested
    take (.mark ";")
  else missingAny [.opening .brace, .mark ":", .word "where", .mark "="]

/-- Whether the parameters of an implementation come next, and not a type in angle brackets. -/
def comesParameters : Reader Bool := do
  let direct := (← comesSecond (.mark ">")) || (← comesSecond (.mark "#"))
  let named := (← comesSecond .lifetime) || (← comesSecond .name)
  let ended := (← comesThird (.mark ">")) || (← comesThird (.mark ",")) ||
    (← comesThird (.mark ":")) && !(← comesThird (.mark "::")) || (← comesThird (.mark "="))
  return (← comes (.mark "<")) && (direct || named && ended || (← comesSecond (.word "const")))

/-- The functions and constants of a type, perhaps for a trait. -/
def implementation (nested : Nested) (origin : Progress) : Reader Unit := do
  discard (accept (.word "default"))
  discard (accept (.word "unsafe"))
  take (.word "impl")
  if ← comesParameters then parameters nested
  let conditional := (← comes (.mark "?")) && (← comesSecond (.word "const"))
  let constant ← comes (.word "const")
  if conditional then take (.mark "?")
  if conditional || constant then take (.word "const")
  let negative := (← comes (.mark "!")) && !(← comesSecond (.opening .brace))
  if negative then take (.mark "!")
  let form ← nested.type
  let ofTrait ← accept (.word "for")
  if ofTrait then discard nested.type
  else if negative then forbid .negativeInherent
  requirements nested
  membersInside nested (implementationMember nested)
  let named := form = .nameType || form = .pathType
  if conditional || constant || ofTrait && !named then copySince origin

/-! ## Modules and what comes from elsewhere -/

/-- Imported paths with commas between them, inside braces. Says whether one of them starts at the
root. -/
def importsUpTo (imported : Bool → Reader Bool) (rootable : Bool) : Nat → Reader Bool
  | 0 => return false
  | limit + 1 => do
    if ← ends then return false
    let rooted ← if rootable then accept (.mark "::") else pure false
    let inner ← imported (rootable && !rooted)
    if ← ends then return rooted || inner
    take (.mark ",")
    let others ← importsUpTo imported rootable limit
    return rooted || inner || others

/-- An imported path, or several in braces. Says whether one of those in braces starts at the root,
which is possible only where no path has started yet. -/
def importedUpTo : Nat → Bool → Reader Bool
  | 0, _ => return false
  | limit + 1, rootable => do
    let starts : List Sign :=
      [.name, .word "self", .word "super", .word "crate", .word "try"]
    if ← comesAny starts then
      take .anyName
      if ← accept (.mark "::") then importedUpTo limit false
      else
        if ← accept (.word "as") then
          if !(← acceptAny [.name, .word "_"]) then missing "identifier or underscore"
        return false
    else if ← accept (.mark "*") then return false
    else if ← comes (.opening .brace) then
      brackets .brace do importsUpTo (importedUpTo limit) rootable (← get).limit
    else missingAny (starts ++ [.mark "*", .opening .brace])

/-- Names from elsewhere. Where a path in braces starts at the root, they are written as they are
spelled. -/
def imports (origin : Progress) : Reader Unit := do
  take (.word "use")
  let rooted ← accept (.mark "::")
  let inner ← importedUpTo (← get).limit (!rooted)
  take (.mark ";")
  if inner then copySince origin

/-- Another library, perhaps under a name of its own. -/
def library : Reader Unit := do
  take (.word "extern")
  take (.word "crate")
  if !(← accept (.word "self")) then take .name
  if ← accept (.word "as") then
    if !(← accept (.word "_")) then take .name
  take (.mark ";")

/-- A function or a static value from elsewhere, or a type or a macro. What it cannot have there is
written as it is spelled. -/
def foreignMember (nested : Nested) : Reader Unit := do
  let origin ← get
  discard (outerAttributes nested)
  let visible ← comes (.word "pub")
  visibility
  let beforeStatic ← comesSecond (.word "static")
  let promised ← comesAny [.word "unsafe", .word "safe"]
  let functional := (← comesSecond (.word "unsafe")) || (← comesSecond (.word "extern")) ||
    (← comesSecond (.word "fn"))
  let safe := (← comes (.word "safe")) && functional
  if safe || (← comesFunction) then
    if safe then take .anyName
    signature nested
    if ← comes (.opening .brace) then
      attributedBlock nested
      copySince origin
    else
      take (.mark ";")
      if safe then copySince origin
  else if (← comes (.word "static")) || promised && beforeStatic then
    discard (acceptAny [.word "unsafe", .word "safe"])
    take (.word "static")
    discard (accept (.word "mut"))
    take .name
    take (.mark ":")
    discard nested.type
    let valued ← accept (.mark "=")
    if valued then discard nested.expression
    take (.mark ";")
    if valued || promised then copySince origin
  else if ← comes (.word "type") then
    let parts ← typeName nested true true
    if parts.bounded || parts.defined then copySince origin
  else if !visible && (← comesAny macroStarts) then macroItem false
  else
    missingAny ([.word "fn", .word "static", .word "type"] ++ if visible then [] else macroStarts)

/-- Items from elsewhere, with their calling convention. -/
def foreignItems (nested : Nested) : Reader Unit := do
  discard (accept (.word "unsafe"))
  take (.word "extern")
  discard (accept .text)
  membersInside nested (foreignMember nested)

def externalItem (nested : Nested) (visible : Bool) : Reader Unit := do
  let textual ← comesSecond .text
  let braced := (← comesSecond (.opening .brace)) || textual && (← comesThird (.opening .brace))
  if ← comesSecond (.word "crate") then library
  else if braced then
    if visible then throw (.missing (Sign.word "extern").wanted false)
    foreignItems nested
  else
    silently (take (.word "extern"))
    if textual then
      silently (take .text)
      missingAny [.opening .brace]
    else missingAny [.word "crate", .opening .brace, .text]

def moduleItem (nested : Nested) : Reader Unit := do
  discard (accept (.word "unsafe"))
  take (.word "mod")
  if !(← accept (.word "try")) then take .name
  if ← comes (.opening .brace) then
    membersInside nested (discard (nested .item))
  else if !(← accept (.mark ";")) then missingAny [.mark ";", .opening .brace]

def macroDefinition (origin : Progress) : Reader Unit := do
  take (.word "macro")
  take .name
  let parameterised ← comes (.opening .paren)
  if parameterised then discard takeAnyBrackets
  if ← comes (.opening .brace) then discard takeAnyBrackets
  else missingAny ((if parameterised then [] else [.opening .paren]) ++ [.opening .brace])
  copySince origin

/-! ## Items -/

/-- What an item starts with behind its visibility. -/
def itemStarts : List Sign :=
  [.word "fn", .word "extern", .word "use", .word "static", .word "const", .word "unsafe",
   .word "mod", .word "type", .word "struct", .word "enum", .word "union", .word "trait",
   .word "auto", .word "impl", .word "default", .word "macro"]

/-- An item that starts with `unsafe` and is no function. -/
def unsafeItem (nested : Nested) (origin : Progress) (visible : Bool) : Reader Unit := do
  let ofAuto := (← comesSecond (.word "auto")) && (← comesThird (.word "trait"))
  if ofAuto || (← comesSecond (.word "trait")) then traitItem nested
  else if ← comesSecond (.word "impl") then
    implementation nested origin
    if visible then copySince origin
  else if ← comesSecond (.word "extern") then
    if visible then throw (.missing (Sign.word "extern").wanted false)
    foreignItems nested
  else if ← comesSecond (.word "mod") then moduleItem nested
  else
    silently (take (.word "unsafe"))
    missingAny [.word "trait", .word "auto", .word "impl", .word "extern", .word "mod"]

/-- An item behind its attributes, which start at `origin`. -/
def itemFrom (nested : Nested) (origin : Progress) : Reader Unit := do
  let visible ← comes (.word "pub")
  visibility
  let shared := (← comes (.word "union")) && (← comesSecond .name)
  let ofAuto := (← comes (.word "auto")) && (← comesSecond (.word "trait"))
  if ← comesFunction then function nested origin
  else if ← comes (.word "extern") then externalItem nested visible
  else if ← comes (.word "use") then imports origin
  else if ← comes (.word "static") then staticValue nested origin
  else if ← comes (.word "const") then constant nested origin true
  else if ← comes (.word "unsafe") then unsafeItem nested origin visible
  else if ← comes (.word "mod") then moduleItem nested
  else if ← comes (.word "type") then
    let parts ← typeName nested true false
    if parts.bounded || !parts.defined then copySince origin
  else if ← comes (.word "struct") then record nested
  else if ← comes (.word "enum") then choice nested
  else if shared then sharedRecord nested
  else if ofAuto || (← comes (.word "trait")) then traitItem nested
  else if (← comesPreset) || (← comes (.word "impl")) then
    implementation nested origin
    if visible then copySince origin
  else if ← comes (.word "macro") then macroDefinition origin
  else if !visible && (← comesAny macroStarts) then macroItem true
  else missingAny (if visible then itemStarts else itemStarts ++ macroStarts)

def item (nested : Nested) : Reader Unit := do
  let origin ← get
  discard (outerAttributes nested)
  itemFrom nested origin

end ContractBinder.Code.Grammar
