import ContractBinder.Code.Token

/-!
Why tokens are not the code that they should be. A fault is a cause; its wording is in one place.
-/

namespace ContractBinder.Code

/-- What code must not do although each of its tokens has a place. -/
inductive Restriction where
  /-- The operand of a comparison is a bare comparison. -/
  | chainedComparison
  /-- Something that binds more tightly follows a conversion. -/
  | afterConversion (what : String)
  /-- A type that hides another one behind traits names none. -/
  | objectWithoutTrait
  /-- A type that stands for some implementation names no trait. -/
  | unknownWithoutTrait
  /-- The captured parameters of a type stand where no type captures any. -/
  | misplacedCapture
  /-- A bound is marked constant where that is impossible. The mark may be in brackets. -/
  | misplacedConst (bracketed : Bool)
  /-- An optional bound binds parameters. -/
  | boundOptional
  /-- The value of a `break` begins with a label. -/
  | labelledValue
  /-- A range without a start has attributes. -/
  | attributedRange
  /-- A range that is open at one end is an element of a slice pattern. -/
  | openRangeElement
  /-- The value of an attribute begins with an attribute. -/
  | nestedAttribute
  /-- A method has a receiver behind other parameters. The other one may be a receiver too. -/
  | lateReceiver (second : Bool)
  /-- A negative implementation names no trait. -/
  | negativeInherent
  /-- A statement ends without its semicolon and another one follows. -/
  | unendedStatement
  /-- The value of a constant is no literal, name or block. -/
  | noConstant
  /-- The position of a member has too many digits. -/
  | largePosition
  deriving DecidableEq, Repr

/-- Why tokens are not the code that they should be. -/
inductive SyntaxFault where
  /-- The text is not made of tokens. -/
  | notTokens
  /-- Tokens are left over, perhaps inside brackets. -/
  | unread (within : Option Delimiter)
  /-- A reserved word stands where a name has to. -/
  | reservedName (word : String)
  /-- Something else, or the end, stands where `wanted` has to. -/
  | missing (wanted : String) (atEnd : Bool)
  /-- The code is well formed apart from a restriction. -/
  | forbidden (restriction : Restriction)
  deriving DecidableEq, Repr

/-- The wording of a broken restriction. -/
def Restriction.message : Restriction → String
  | .chainedComparison => "comparison operators cannot be chained"
  | .afterConversion what => "casts cannot be followed by " ++ what
  | .objectWithoutTrait => "at least one trait is required for an object type"
  | .unknownWithoutTrait => "at least one trait must be specified"
  | .misplacedCapture => "`use<...>` precise capturing syntax is not allowed here"
  | .misplacedConst bracketed =>
    (if bracketed then "`[const]`" else "`const`") ++ " is not allowed here"
  | .boundOptional => "`for<...>` binder not allowed with `?` trait polarity modifier"
  | .labelledValue => "parentheses required"
  | .attributedRange => "attributes are not allowed on range expressions starting with `..`"
  | .openRangeElement => "range pattern is not allowed unparenthesized inside slice pattern"
  | .nestedAttribute => "unexpected attribute inside of attribute"
  | .lateReceiver second => "unexpected " ++ (if second then "second " else "") ++ "method receiver"
  | .negativeInherent => "inherent impls cannot be negative"
  | .unendedStatement => "unexpected token, expected `;`"
  | .noConstant => "unexpected token"
  | .largePosition => "number too large to fit in target type"

def SyntaxFault.message : SyntaxFault → String
  | .notTokens => "cannot parse string into token stream"
  | .unread none => "unexpected token"
  | .unread (some delimiter) =>
    "unexpected token, expected `" ++ String.singleton delimiter.closeChar ++ "`"
  | .reservedName word => "expected identifier, found keyword `" ++ word ++ "`"
  | .missing wanted atEnd =>
    (if atEnd then "unexpected end of input, " else "") ++ "expected " ++ wanted
  | .forbidden restriction => restriction.message

end ContractBinder.Code
