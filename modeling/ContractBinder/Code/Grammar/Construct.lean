import ContractBinder.Code.Grammar.Reader

/-!
The kinds of code that contain each other. Readers of one kind get the readers of all kinds as an
argument, so that each kind has a module of its own and the recursion is tied in one place.
-/

namespace ContractBinder.Code

/-- What was read, as far as the code around it depends on that. -/
inductive Form where
  /-- Nothing depends on it. -/
  | plain
  /-- A type that is one name, perhaps with arguments. -/
  | nameType
  /-- A type that is another path. -/
  | pathType
  /-- A type that is a single bound. -/
  | boundType
  /-- A bound that names a trait. -/
  | traitBound
  /-- An expression that compares two values. -/
  | comparison
  /-- An expression that is a range. -/
  | range
  /-- An expression that ends with a block and needs no semicolon as a statement. -/
  | blockLike
  /-- A macro with its argument in braces. -/
  | bracedMacro
  /-- A pattern that stands for any number of elements. -/
  | restPattern
  /-- A pattern that is a range open at one end. -/
  | openRange
  deriving DecidableEq, Repr

/-- How tightly operators bind, from loosely to tightly. -/
inductive Precedence where
  | jump
  | assign
  | range
  | or
  | and
  | letting
  | compare
  | bitOr
  | bitXor
  | bitAnd
  | shift
  | sum
  | product
  | cast
  deriving DecidableEq, Repr

def Precedence.rank : Precedence → Nat
  | .jump => 0
  | .assign => 1
  | .range => 2
  | .or => 3
  | .and => 4
  | .letting => 5
  | .compare => 6
  | .bitOr => 7
  | .bitXor => 8
  | .bitAnd => 9
  | .shift => 10
  | .sum => 11
  | .product => 12
  | .cast => 13

inductive Construct where
  /-- A type. It may be a sum of bounds only if that is said. -/
  | type (sums : Bool)
  /-- A bound of a type. Whether it may be a list of captured parameters, and whether it may be
  marked constant, depends on where it stands. -/
  | bound (captures : Bool) (constants : Bool)
  /-- An expression. It may end with a record in braces only if that is said. -/
  | expression (records : Bool)
  /-- An expression without operators between two operands. -/
  | operand (records : Bool)
  /-- The operators that bind at least as tightly as `base`, with their right operands, behind a
  first operand. -/
  | operations (first : Form) (base : Precedence) (records : Bool)
  /-- The right operand of an operator. -/
  | rightOperand (precedence : Precedence) (records : Bool)
  /-- An expression that ends early, as a statement does, if it ends with a block. -/
  | earlyExpression
  /-- A pattern without alternatives. -/
  | pattern
  /-- All statements inside brackets. -/
  | statements
  /-- An item such as a function. -/
  | item
  deriving DecidableEq, Repr

abbrev Nested := Construct → Reader Form

namespace Nested

/-- A type, which may be a sum of bounds. -/
def type (nested : Nested) : Reader Form :=
  nested (.type true)

/-- A type that is no sum of bounds. -/
def tightType (nested : Nested) : Reader Form :=
  nested (.type false)

def expression (nested : Nested) : Reader Form :=
  nested (.expression true)

def block (nested : Nested) : Reader Unit :=
  Reader.brackets .brace do discard (nested .statements)

end Nested

end ContractBinder.Code
