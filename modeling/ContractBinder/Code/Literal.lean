import ContractBinder.Code.Identifier

/-!
Literals of code: quoted texts and characters in all their forms, and numbers. Each reader takes
the text at which a literal may start and gives what follows the literal; none of them looks at the
value. A reader that scans a quoted text counts down a bound, for which the length of the text is
always enough.
-/

namespace ContractBinder.Code.Literal

/-- A hexadecimal digit of either case. -/
def isHex (c : Char) : Bool :=
  c.isDigit || 'a' ≤ c && c ≤ 'f' || 'A' ≤ c && c ≤ 'F'

/-- What follows the identifier that may be glued to the end of a literal. -/
def afterSuffix (text : List Char) : List Char :=
  match identifier? text with
  | some (_, rest) => rest
  | none => text

structure QuotedForm where
  /-- A byte form holds ASCII only, and its `\x` escapes go up to `ff`. -/
  bytes : Bool
  /-- A form that ends with a zero byte holds none itself. -/
  zeroEnded : Bool
  deriving DecidableEq, Repr

def textForm : QuotedForm := ⟨false, false⟩

def byteForm : QuotedForm := ⟨true, false⟩

/-- Quoted texts that end with a zero byte. -/
def zeroEndedForm : QuotedForm := ⟨false, true⟩

/-- Whether the form admits an escape `\x` with these two digits. -/
def QuotedForm.admitsHex (form : QuotedForm) (high low : Char) : Bool :=
  isHex high && isHex low && (form.bytes || form.zeroEnded || '0' ≤ high && high ≤ '7') &&
    !(form.zeroEnded && high == '0' && low == '0')

/-- The value and the rest of a code point escape after its opening brace: one to six digits, with
underscores after the first, and a closing brace. -/
def codePointEscape? (value digits : Nat) : List Char → Option (Nat × List Char)
  | [] => none
  | c :: rest =>
    if isHex c then
      if digits = 6 then none
      else
        let digit :=
          if c.isDigit then c.toNat - 0x30 else if 'a' ≤ c then c.toNat - 0x57 else c.toNat - 0x37
        codePointEscape? (16 * value + digit) (digits + 1) rest
    else if digits = 0 then none
    else if c = '_' then codePointEscape? value digits rest
    else if c = '\x7d' && value.isValidChar then some (value, rest)
    else none

/-- What follows the escape after a backslash, line continuations apart. -/
def afterEscape? (form : QuotedForm) : List Char → Option (List Char)
  | 'x' :: high :: low :: rest => if form.admitsHex high low then some rest else none
  | 'u' :: '\x7b' :: rest =>
    if form.bytes then none
    else
      (codePointEscape? 0 0 rest).bind fun (value, after) =>
        if form.zeroEnded && value = 0 then none else some after
  | '0' :: rest => if form.zeroEnded then none else some rest
  | c :: rest => if ['n', 'r', 't', '\\', '\'', '"'].contains c then some rest else none
  | [] => none

/-- What follows the blanks after a backslash at the end of a line. A carriage return counts only
together with its line feed, and some text has to follow. -/
def afterContinuation? : List Char → Option (List Char)
  | '\r' :: '\n' :: rest => afterContinuation? rest
  | '\r' :: _ => none
  | c :: rest =>
    if c == ' ' || c == '\t' || c == '\n' then afterContinuation? rest else some (c :: rest)
  | [] => none

/-- What follows the closing quote of a text without escapes still open. -/
def afterQuoted? (form : QuotedForm) : Nat → List Char → Option (List Char)
  | 0, _ => none
  | _ + 1, [] => none
  | bound + 1, c :: rest =>
    if c = '"' then some (afterSuffix rest)
    else if c = '\r' then
      match rest with
      | '\n' :: after => afterQuoted? form bound after
      | _ => none
    else if c = '\\' then
      match rest with
      | '\n' :: _ | '\r' :: _ => (afterContinuation? rest).bind (afterQuoted? form bound)
      | _ => (afterEscape? form rest).bind (afterQuoted? form bound)
    else if form.zeroEnded && c == '\x00' || form.bytes && 0x80 ≤ c.toNat then none
    else afterQuoted? form bound rest

/-- What follows a raw text that ends with a quote and `hashes` hash signs. -/
def afterRaw? (form : QuotedForm) (hashes : Nat) : List Char → Option (List Char)
  | [] => none
  | '"' :: rest =>
    if (List.replicate hashes '#').isPrefixOf rest then some (afterSuffix (rest.drop hashes))
    else afterRaw? form hashes rest
  | '\r' :: '\n' :: rest => afterRaw? form hashes rest
  | '\r' :: _ => none
  | c :: rest =>
    if form.zeroEnded && c == '\x00' || form.bytes && 0x80 ≤ c.toNat then none
    else afterRaw? form hashes rest

/-- What follows a raw text whose hash signs come first. At most 255 of them are allowed. -/
def afterRawStart? (form : QuotedForm) (text : List Char) : Option (List Char) :=
  let hashes := (text.takeWhile (· == '#')).length
  match text.dropWhile (· == '#') with
  | '"' :: rest => if hashes ≤ 255 then afterRaw? form hashes rest else none
  | _ => none

/-- What follows a character between single quotes, after the first of them. -/
def afterCharacter? (form : QuotedForm) (text : List Char) : Option (List Char) :=
  let body := match text with
    | '\\' :: rest => afterEscape? form rest
    | c :: rest => if form.bytes && 0x80 ≤ c.toNat then none else some rest
    | [] => none
  body.bind fun
    | '\'' :: rest => some (afterSuffix rest)
    | _ => none

def afterQuotedForm? (text : List Char) : Option (List Char) :=
  let bound := text.length
  match text with
  | '"' :: rest => afterQuoted? textForm bound rest
  | '\'' :: rest => afterCharacter? textForm rest
  | 'b' :: '"' :: rest => afterQuoted? byteForm bound rest
  | 'b' :: 'r' :: rest => afterRawStart? byteForm rest
  | 'b' :: '\'' :: rest => afterCharacter? byteForm rest
  | 'c' :: '"' :: rest => afterQuoted? zeroEndedForm bound rest
  | 'c' :: 'r' :: rest => afterRawStart? zeroEndedForm rest
  | 'r' :: rest => afterRawStart? textForm rest
  | _ => none

/-- What follows a number's suffix, unless it runs on into a name. -/
def afterNumberSuffix? (text : List Char) : Option (List Char) :=
  let rest := afterSuffix text
  match rest with
  | c :: _ => if isIdentContinue c then none else some rest
  | [] => some rest

def isDigitOrGap (c : Char) : Bool :=
  c.isDigit || c == '_'

/-- What follows an exponent after its letter: one sign at most, and at least one digit. -/
def afterExponent? (text : List Char) : Option (List Char) :=
  let gaps := text.dropWhile (· == '_')
  let unsigned := match gaps with
    | '+' :: rest | '-' :: rest => rest
    | _ => gaps
  if (unsigned.takeWhile isDigitOrGap).any Char.isDigit then some (unsigned.dropWhile isDigitOrGap)
  else none

/-- What follows the digits of a number with a point or an exponent. -/
def afterFraction? (text : List Char) : Option (List Char) :=
  match text with
  | [] => none
  | c :: _ =>
    if !c.isDigit then none
    else
      match text.dropWhile isDigitOrGap with
      | '.' :: rest =>
        let continues := match rest with
          | d :: _ => d == '.' || isIdentStart d
          | [] => false
        if continues then none
        else
          match rest.dropWhile isDigitOrGap with
          | e :: after =>
            if e == 'e' || e == 'E' then some ((afterExponent? after).getD (e :: after))
            else some (e :: after)
          | [] => some []
      | e :: after => if e == 'e' || e == 'E' then afterExponent? after else none
      | [] => none

/-- What follows the digits of a number in a base up to 16. A digit that the base lacks is an error
and a letter that it lacks ends the number. -/
def afterDigits? (base : Nat) (found : Bool) : List Char → Option (List Char)
  | [] => if found then some [] else none
  | c :: rest =>
    if c.isDigit then if c.toNat - 0x30 < base then afterDigits? base true rest else none
    else if isHex c && base = 16 then afterDigits? base true rest
    else if c = '_' then if !found && base = 10 then none else afterDigits? base found rest
    else if found then some (c :: rest)
    else none

def afterWhole? (text : List Char) : Option (List Char) :=
  match text with
  | '0' :: 'x' :: rest => afterDigits? 16 false rest
  | '0' :: 'o' :: rest => afterDigits? 8 false rest
  | '0' :: 'b' :: rest => afterDigits? 2 false rest
  | _ => afterDigits? 10 false text

def afterNumber? (text : List Char) : Option (List Char) :=
  match (afterFraction? text).bind afterNumberSuffix? with
  | some rest => some rest
  | none => (afterWhole? text).bind afterNumberSuffix?

/-- What follows the literal at the start of a text, if there is one. -/
def after? (text : List Char) : Option (List Char) :=
  match afterQuotedForm? text with
  | some rest => some rest
  | none => afterNumber? text

end ContractBinder.Code.Literal
