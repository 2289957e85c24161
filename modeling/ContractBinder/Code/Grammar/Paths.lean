import ContractBinder.Code.Grammar.Construct
import ContractBinder.Code.Path

/-!
Reading paths with their arguments. In an expression, an angle bracket directly behind a name is a
comparison; elsewhere it opens arguments.
Among arguments in angle brackets, lifetimes are written first.
-/

namespace ContractBinder.Code.Grammar

open Reader

def modulePath : Reader Unit := do
  let segmentSigns : List Sign :=
    [.name, .word "super", .word "self", .word "Self", .word "crate"]
  discard (accept (.mark "::"))
  if !(← comesAny segmentSigns) then take .name
  repeatWhile do
    if !(← comesAny segmentSigns) then missing "path segment after `::`"
    take .anyName
    accept (.mark "::")

def attributeContent (nested : Nested) : Reader Unit := do
  if !(← accept (.word "unsafe")) then modulePath
  if ← comesAny [.opening .paren, .opening .bracket, .opening .brace] then
    discard takeAnyBrackets
  else if (← comes (.mark "=")) && !(← comesAny [.mark "==", .mark "=>"]) then
    take (.mark "=")
    if (← comes (.mark "#")) && (← comesSecond (.opening .bracket)) then forbid .nestedAttribute
    else discard nested.expression

/-- Attributes in front of something. Says whether there are any. -/
def outerAttributes (nested : Nested) : Reader Bool := do
  let found ← comes (.mark "#")
  repeatWhile do
    if ← accept (.mark "#") then
      brackets .bracket (attributeContent nested)
      return true
    else return false
  return found

def innerAttributes (nested : Nested) : Reader Unit :=
  repeatWhile do
    if (← comes (.mark "#")) && (← comesSecond (.mark "!")) then
      take (.mark "#")
      take (.mark "!")
      brackets .bracket (attributeContent nested)
      return true
    else return false

/-- A block in which attributes may come first. -/
def attributedBlock (nested : Nested) : Reader Unit :=
  brackets .brace do
    innerAttributes nested
    discard (nested .statements)

/-- The words that are segments without arguments. -/
def bareSegments : List Sign :=
  [.word "super", .word "self", .word "crate", .word "try"]

/-- Whether arguments in angle brackets come next. -/
def comesArguments (inExpression : Bool) : Reader Bool := do
  let direct ← comes (.mark "<")
  let compares ← comesAny [.mark "<=", .mark "<<="]
  let separated ← comes (.mark "::")
  let behind ← comesThird (.mark "<")
  return !inExpression && direct && !compares || separated && behind

/-- A block or a literal as the value of a constant. -/
def constantArgument (nested : Nested) : Reader Unit := do
  if !(← accept .literal) then attributedBlock nested

def comesConstant : Reader Bool :=
  comesAny [.literal, .opening .brace]

/-- The bounds of a type's name, with plus signs between them, up to one of the signs. -/
def namedBounds (nested : Nested) (stops : List Sign) : Reader Unit :=
  repeatWhile do
    if ← comesAny stops then return false
    discard (nested (.bound false true))
    accept (.mark "+")

/-- One argument: a lifetime, a constant, a type, or what a type's name stands for. Says whether it
is a lifetime. -/
def argument (nested : Nested) : Reader Bool := do
  if (← comes .lifetime) && !(← comesSecond (.mark "+")) then
    take .lifetime
    return true
  else if ← comesConstant then
    constantArgument nested
    return false
  else
    let form ← nested.type
    if form = .nameType then
      if ← accept (.mark "=") then
        if ← comesConstant then constantArgument nested else discard nested.type
      else if ← accept (.mark ":") then namedBounds nested [.mark ",", .mark ">"]
    return false

/-- Arguments in angle brackets, perhaps with a separator in front. -/
def angleArguments (nested : Nested) : Reader Unit := do
  discard (accept (.mark "::"))
  discard (angleItems (argument nested) (take (.mark ",")))

/-- One segment, which is given instead of being written. -/
def segment (nested : Nested) (inExpression : Bool) : Reader Segment := do
  if ← comesAny bareSegments then
    return ⟨← readAnyName, []⟩
  else
    let name ← if ← comes (.word "Self") then readAnyName else readName
    if ← comesArguments inExpression then
      let (_, arguments) ← capture (angleArguments nested)
      return ⟨name, arguments⟩
    else return ⟨name, []⟩

/-- The segments from here on. A separator in front of a round bracket does not belong to them. -/
def segmentsUpTo (nested : Nested) (inExpression : Bool) : Nat → Reader (List Segment)
  | 0 => return []
  | bound + 1 => do
    let first ← segment nested inExpression
    if (← comes (.mark "::")) && !(← comesThird (.opening .paren)) then
      silently (take (.mark "::"))
      return first :: (← segmentsUpTo nested inExpression bound)
    else return [first]

/-- A path, which is given instead of being written. -/
def path (nested : Nested) (inExpression : Bool) : Reader Path := do
  let absolute ← silently (accept (.mark "::"))
  return ⟨absolute, ← segmentsUpTo nested inExpression (← get).limit⟩

/-- A path that begins with a type in angle brackets. -/
def pathOfType (nested : Nested) (inExpression : Bool) : Reader Unit := do
  take (.mark "<")
  discard nested.type
  if ← accept (.word "as") then write (← path nested false).tokens
  take (.mark ">")
  take (.mark "::")
  repeatWhile do
    let found ← segment nested inExpression
    write (.name found.name :: found.arguments)
    accept (.mark "::")

/-- A path that names a value. It is given and not written unless it begins with a type. -/
def valuePath (nested : Nested) : Reader (Option Path) := do
  if ← comes (.mark "<") then
    pathOfType nested true
    return none
  else return some (← path nested true)

/-- Whether a macro's argument follows a path. -/
def comesMacro (found : Path) : Reader Bool := do
  return found.isPlain && (← comes (.mark "!")) && !(← comes (.mark "!="))

/-- The argument of a macro, behind its path. -/
def macroArgument : Reader Delimiter := do
  take (.mark "!")
  takeAnyBrackets

end ContractBinder.Code.Grammar
