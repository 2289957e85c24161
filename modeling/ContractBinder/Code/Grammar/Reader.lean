import ContractBinder.Code.Grammar.Sign

/-!
Readers of code. A reader takes tokens and writes them again, in the order and the spelling that
code has after it was read: the characters of an operator are joint and nothing else is. What a
reader leaves inside brackets counts as a fault only if nothing else is one.
-/

namespace ContractBinder.Code

/-- How far a reader has come. -/
structure Progress where
  /-- The tokens that come next. -/
  rest : List Token
  /-- The tokens that were written, the last one first. -/
  written : List Token
  /-- The brackets in which tokens were left over first. -/
  unread : Option Delimiter
  /-- More than the number of all tokens, which bounds every repetition. -/
  limit : Nat
  deriving Repr

/-- Takes tokens and writes tokens, or fails. -/
abbrev Reader := StateT Progress (Except SyntaxFault)

namespace Reader

def start (tokens : List Token) : Progress :=
  { rest := tokens, written := [], unread := none, limit := tokens.length + 1 }

def upcoming : Reader (List Token) :=
  return (← get).rest

def comes (sign : Sign) : Reader Bool :=
  return sign.starts (← upcoming)

def comesAny (signs : List Sign) : Reader Bool := do
  let ahead ← upcoming
  return signs.any (·.starts ahead)

/-- Whether a sign comes behind the first token. -/
def comesSecond (sign : Sign) : Reader Bool :=
  return sign.starts (afterFirst (← upcoming))

/-- Whether a sign comes behind the first two tokens. -/
def comesThird (sign : Sign) : Reader Bool :=
  return sign.starts (afterFirst (afterFirst (← upcoming)))

def ends : Reader Bool :=
  return atEnd (← upcoming)

/-- Fails, as something else than `wanted` comes next. -/
def missing {α : Type} (wanted : String) : Reader α := do
  throw (.missing wanted (← ends))

/-- Fails, as none of the signs comes next. -/
def missingAny {α : Type} (signs : List Sign) : Reader α :=
  missing (wantedOf signs)

def forbid {α : Type} (restriction : Restriction) : Reader α :=
  throw (.forbidden restriction)

def write (tokens : List Token) : Reader Unit :=
  modify fun progress => { progress with written := tokens.reverse ++ progress.written }

def continueWith (rest : List Token) : Reader Unit :=
  modify fun progress => { progress with rest }

/-- Takes a name that is not reserved, and writes nothing. -/
def readName : Reader String := do
  match ← upcoming with
  | .name name :: rest =>
    if isReserved name then throw (.reservedName name)
    else
      continueWith rest
      return name
  | _ => missing Sign.name.wanted

/-- Takes a name or a reserved word, and writes nothing. -/
def readAnyName : Reader String := do
  match ← upcoming with
  | .name name :: rest =>
    continueWith rest
    return name
  | _ => missing Sign.anyName.wanted

/-- Takes what a sign stands for. A missing operator is reported in the same way everywhere. -/
def take (sign : Sign) : Reader Unit := do
  let ahead ← upcoming
  match sign with
  | .mark spelling =>
    if sign.starts ahead then
      continueWith (ahead.drop spelling.length)
      write (operatorTokens spelling)
    else throw (.missing sign.wanted false)
  | .name => write [.name (← readName)]
  | .literal | .text =>
    match literal? ahead with
    | some (tokens, rest) =>
      if sign.starts ahead then
        continueWith rest
        write tokens
      else missing sign.wanted
    | none => missing sign.wanted
  | .lifetime =>
    match ahead with
    | .mark '\'' true :: .name name :: rest =>
      continueWith rest
      write [.mark '\'' true, .name name]
    | _ => missing sign.wanted
  | .word _ | .anyName | .opening _ =>
    match ahead with
    | token :: rest =>
      if sign.starts ahead then
        continueWith rest
        write [token]
      else missing sign.wanted
    | [] => missing sign.wanted

/-- Takes what a sign stands for if it comes next. -/
def accept (sign : Sign) : Reader Bool := do
  if ← comes sign then
    take sign
    return true
  else return false

/-- Takes what the first sign that comes next stands for. -/
def acceptAny (signs : List Sign) : Reader Bool := do
  let ahead ← upcoming
  match signs.find? (·.starts ahead) with
  | some sign =>
    take sign
    return true
  | none => return false

def takeAny (signs : List Sign) : Reader Unit := do
  unless ← acceptAny signs do missingAny signs

/-- Runs a reader and gives what it wrote instead of writing it. -/
def capture {α : Type} (body : Reader α) : Reader (α × List Token) := do
  let outer := (← get).written
  modify fun progress => { progress with written := [] }
  let result ← body
  let inner := (← get).written.reverse
  modify fun progress => { progress with written := outer }
  return (result, inner)

/-- Runs a reader without writing anything. -/
def silently {α : Type} (body : Reader α) : Reader α :=
  return (← capture body).1

/-- Writes what was taken since `origin` as it was spelled, instead of what was written since then.
-/
def copySince (origin : Progress) : Reader Unit :=
  modify fun progress =>
    let taken := origin.rest.take (origin.rest.length - progress.rest.length)
    { progress with written := taken.reverse ++ origin.written }

/-- Runs a reader, or stays where it is if the reader fails. -/
def attempt {α : Type} (body : Reader α) : Reader (Option α) := fun progress =>
  match body progress with
  | .ok (result, after) => .ok (some result, after)
  | .error _ => .ok (none, progress)

/-- Repeats a step until it says no, or as often as the bound allows. -/
def repeatUpTo : Nat → Reader Bool → Reader Unit
  | 0, _ => return
  | bound + 1, step => do if ← step then repeatUpTo bound step

/-- Repeats a step until it says no. Every step that says yes has to take a token. -/
def repeatWhile (step : Reader Bool) : Reader Unit := do
  repeatUpTo (← get).limit step

/-- Takes brackets of the given kind, and reads what they hold. -/
def brackets {α : Type} (delimiter : Delimiter) (body : Reader α) : Reader α := do
  take (.opening delimiter)
  let result ← body
  modify fun progress =>
    { progress with
      rest := afterBrackets 0 progress.rest
      written := .closing delimiter :: progress.written
      unread := progress.unread.or (if atEnd progress.rest then none else some delimiter) }
  return result

/-- Takes brackets of any kind with all that they hold, and writes them as they are spelled. -/
def takeAnyBrackets : Reader Delimiter := do
  let origin ← get
  match origin.rest with
  | .opening delimiter :: inside =>
    continueWith (afterBrackets 0 inside)
    copySince origin
    return delimiter
  | _ => missing "delimiter"

/-- Items with commas between them, and perhaps behind the last one, up to something that is not
taken. -/
def commaItems (stops item : Reader Bool) : Reader Unit :=
  repeatWhile do
    if ← stops then return false
    if !(← item) then return false
    if ← stops then return false
    take (.mark ",")
    return true

/-- Items with commas between them, and perhaps behind the last one, up to the end of the brackets.
-/
def commaItemsInside (item : Reader Unit) : Reader Unit :=
  commaItems ends (do item; return true)

/-- An item of a list in which lifetimes come first once it is written. -/
structure Listed where
  isLifetime : Bool
  tokens : List Token
  /-- Whether a comma follows. -/
  comma : Bool
  deriving DecidableEq, Repr

/-- Items in order, with a comma behind each but the last, which keeps its own. -/
def joinListed : List Listed → List Token
  | [] => []
  | [last] => last.tokens ++ if last.comma then [mark ','] else []
  | item :: rest => item.tokens ++ mark ',' :: joinListed rest

/-- Items up to a closing angle bracket, which is not taken. An item says whether it is a lifetime.
-/
def listedUpTo (item : Reader Bool) (comma : Reader Unit) : Nat → Reader (List Listed)
  | 0 => return []
  | bound + 1 => do
    if ← comes (.mark ">") then return []
    let (isLifetime, tokens) ← capture item
    if ← comes (.mark ">") then return [⟨isLifetime, tokens, false⟩]
    silently comma
    return ⟨isLifetime, tokens, true⟩ :: (← listedUpTo item comma bound)

/-- Items in angle brackets, written with the lifetimes first. Says whether there are any. -/
def angleItems (item : Reader Bool) (comma : Reader Unit) : Reader Bool := do
  take (.mark "<")
  let items ← listedUpTo item comma (← get).limit
  let (lifetimes, others) := items.partition Listed.isLifetime
  write (joinListed (lifetimes ++ others))
  take (.mark ">")
  return !items.isEmpty

/-- Runs a reader over all tokens, and gives its result and what it wrote. -/
def readAll {α : Type} (body : Reader α) (tokens : List Token) :
    Except SyntaxFault (α × List Token) := do
  let (result, after) ← StateT.run body (start tokens)
  if after.unread.isSome then throw (.unread after.unread)
  if !after.rest.isEmpty then throw (.unread none)
  return (result, after.written.reverse)

end Reader

end ContractBinder.Code
