import ContractBinder.Code.Grammar.Members
import ContractBinder.Code.Grammar.Types

/-!
Reading patterns, which take values apart.
-/

namespace ContractBinder.Code.Grammar

open Reader

/-- What a path starts with, some reserved words included. -/
def pathStarts : List Sign :=
  [.name, .mark "::", .mark "<", .word "self", .word "Self", .word "super", .word "crate"]

/-- The dots of a range. Says whether the range holds its end. An older spelling with three dots is
allowed only if that is said. -/
def rangeDots (threeDots : Bool) : Reader Bool := do
  if ← accept (.mark "..=") then return true
  else if ← comes (.mark "...") then
    if threeDots then
      silently (take (.mark "..."))
      write (operatorTokens "..=")
      return true
    else missing (Sign.mark "..=").wanted
  else
    takeAny [.mark "..", .mark "..="]
    return false

/-- A block whose value is constant. -/
def constantBlock (nested : Nested) : Reader Unit := do
  take (.word "const")
  attributedBlock nested

/-- An end of a range in a pattern. Says whether there is one. -/
def rangeEnd (nested : Nested) : Reader Bool := do
  let stops ← comesAny [.mark "|", .mark "=", .mark ",", .mark ";", .word "if"]
  let typed := (← comes (.mark ":")) && !(← comes (.mark "::"))
  if (← ends) || stops || typed then return false
  else if ← accept .literal then return true
  else if ← comesAny pathStarts then
    if let some found ← valuePath nested then write found.tokens
    return true
  else if ← comes (.word "const") then
    constantBlock nested
    return true
  else missingAny (.literal :: pathStarts ++ [.word "const"])

def rangeFromDots (nested : Nested) (started : Bool) : Reader Form := do
  let closed ← rangeDots started
  let ended ← rangeEnd nested
  if closed && !ended then missing "range upper bound"
  else if ended then return if started then .plain else .openRange
  else return if started then .openRange else .restPattern

/-- Patterns with bars between them, and perhaps in front of the first. -/
def alternatives (nested : Nested) : Reader Form := do
  let separates : Reader Bool := do
    return (← comes (.mark "|")) && !(← comesAny [.mark "||", .mark "|="])
  let led ← accept (.mark "|")
  let first ← nested .pattern
  if led || (← separates) then
    repeatWhile do
      if ← separates then
        take (.mark "|")
        discard (nested .pattern)
        return true
      else return false
    return .plain
  else return first

/-- A field of a record in a pattern. Two dots stand for the fields that are not named; nothing may
follow them. -/
def fieldPattern (nested : Nested) : Reader Bool := do
  discard (outerAttributes nested)
  if ← accept (.mark "..") then return false
  else
    let origin ← get
    let boxed ← accept (.word "box")
    let byReference ← accept (.word "ref")
    let mutable ← accept (.word "mut")
    let marked := boxed || byReference || mutable
    let named ← if marked then (do take .name; return true) else member
    if !named || !marked && (← comes (.mark ":")) then
      take (.mark ":")
      discard (alternatives nested)
    else if boxed then copySince origin
    return true

def pathPattern (nested : Nested) : Reader Form := do
  let found ← valuePath nested
  write (found.map Path.tokens |>.getD [])
  let calls ← (found.map comesMacro).getD (pure false)
  if calls then
    discard macroArgument
    return .plain
  else if ← comes (.opening .brace) then
    brackets .brace (commaItems ends (fieldPattern nested))
    return .plain
  else if ← comes (.opening .paren) then
    brackets .paren (commaItemsInside (discard (alternatives nested)))
    return .plain
  else if ← comes (.mark "..") then rangeFromDots nested true
  else return .plain

/-- A name for the matched value, perhaps with a pattern for it. -/
def namePattern (nested : Nested) : Reader Unit := do
  discard (accept (.word "ref"))
  discard (accept (.word "mut"))
  if !(← accept (.word "self")) then take .name
  if ← accept (.mark "@") then discard (nested .pattern)

def elementPattern (nested : Nested) : Reader Unit := do
  if (← alternatives nested) = .openRange then forbid .openRangeElement

/-- A pattern without alternatives. -/
def pattern (nested : Nested) : Reader Form := do
  let origin ← get
  let named ← comes .name
  let continued ← (do
    let behind := afterFirst (← upcoming)
    let signs : List Sign :=
      [.mark "::", .mark "!", .opening .brace, .opening .paren, .mark ".."]
    return signs.any (·.starts behind))
  let ofSelf := (← comes (.word "self")) && (← comesSecond (.mark "::"))
  let pathed ← comesAny [.mark "::", .mark "<", .word "Self", .word "super", .word "crate"]
  if named && continued || ofSelf || pathed then pathPattern nested
  else if ← accept (.word "_") then return .plain
  else if ← accept (.word "box") then
    discard (nested .pattern)
    copySince origin
    return .plain
  else if ← comesAny [.mark "-", .literal, .word "const"] then
    discard (rangeEnd nested)
    if ← comes (.mark "..") then rangeFromDots nested true else return .plain
  else if ← comesAny [.word "ref", .word "mut", .word "self", .name] then
    namePattern nested
    return .plain
  else if ← accept (.mark "&") then
    discard (accept (.word "mut"))
    discard (nested .pattern)
    return .plain
  else if ← comes (.opening .paren) then
    brackets .paren (commaItemsInside (discard (alternatives nested)))
    return .plain
  else if ← comes (.opening .bracket) then
    brackets .bracket (commaItemsInside (elementPattern nested))
    return .plain
  else if (← comes (.mark "..")) && !(← comes (.mark "...")) then rangeFromDots nested false
  else missingAny [.name, .mark "::", .mark "<", .word "_", .literal, .word "const", .word "ref",
    .word "mut", .mark "&", .opening .paren, .opening .bracket, .mark ".."]

end ContractBinder.Code.Grammar
