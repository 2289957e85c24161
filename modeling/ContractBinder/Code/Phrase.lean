import ContractBinder.Code.Token

/-!
Short token sequences that generated code is put together from.
-/

namespace ContractBinder.Code

def word (spelling : String) : List Token := [.name spelling]

def textOf (value : String) : List Token := [.text value]

def numberOf (value : Nat) : List Token := [.number value]

/-- An absolute path such as `::std::vec::Vec`. -/
def absolute (names : List String) : List Token := pathOf true names

def applied (constructor : List Token) (arguments : List (List Token)) : List Token :=
  constructor ++ mark '<' :: commaSeparated arguments ++ [mark '>']

/-- A function with type arguments, as expressions spell it. -/
def instantiated (function : List Token) (arguments : List (List Token)) : List Token :=
  applied (function ++ pathSep) arguments

def call (function : List Token) (arguments : List (List Token)) : List Token :=
  function ++ enclose .paren (commaSeparated arguments)

def dot (value : List Token) (member : String) : List Token :=
  value ++ [mark '.', .name member]

def typed (name : String) (type : List Token) : List Token :=
  .name name :: mark ':' :: type

def referenceTo (target : List Token) : List Token :=
  mark '&' :: target

def attributeOf (content : List Token) : List Token :=
  mark '#' :: enclose .bracket content

def listOf (elements : List (List Token)) : List Token :=
  word "vec" ++ mark '!' :: enclose .bracket (commaSeparated elements)

def block (content : List Token) : List Token :=
  enclose .brace content

def statement (expression : List Token) : List Token :=
  expression ++ [mark ';']

def binding (pattern value : List Token) : List Token :=
  statement (word "let" ++ pattern ++ mark '=' :: value)

/-- An expression whose failure is passed on. -/
def attempted (expression : List Token) : List Token :=
  expression ++ [mark '?']

/-- A public method with its parameters, return type and body. -/
def methodOf (name : String) (parameters returns body : List Token) : List Token :=
  word "pub" ++ word "fn" ++ .name name :: enclose .paren parameters ++ arrow ++ returns ++
    block body

/-- The receiver of a method, with a comma behind it even if nothing follows. -/
def receiver : List Token :=
  referenceTo (word "self") ++ [mark ',']

/-- A closure without parameters. -/
def thunk (body : List Token) : List Token :=
  .mark '|' true :: mark '|' :: block body

def closure (parameter body : List Token) : List Token :=
  mark '|' :: parameter ++ mark '|' :: block body

end ContractBinder.Code
