import LiveShader.Number.Binary

/-!
# Values and tables of a settings document

A document is a tree of tables.  How a table came about decides what may still be
added to it: a header may name a table only once, a dotted key may only enter
tables that dotted keys made, and a table written between braces is closed.
-/

namespace LiveShader.Data.Toml

/-- How a table came about. -/
inductive Origin where
  /-- Written between braces. -/
  | braces
  /-- Named by a header of its own. -/
  | header
  /-- Passed through by a longer header. -/
  | implied
  /-- Made by a dotted key. -/
  | dotted
  deriving Repr, DecidableEq

/-- A value of a document. -/
inductive Value where
  | string (text : String)
  | integer (value : Int)
  | float (value : Number.Double)
  | boolean (value : Bool)
  /-- A date, a time of day, or both. -/
  | moment
  | array (items : List Value)
  | table (origin : Origin) (entries : List (String × Value))
  /-- Tables appended by headers in double brackets, the newest first. -/
  | tables (newestFirst : List (List (String × Value)))

/-- The entries of a table in the order of writing. -/
abbrev Entries := List (String × Value)

namespace Entries

/-- The value under a key. -/
def get? (key : String) : Entries → Option Value
  | [] => none
  | (other, value) :: rest => if other = key then some value else get? key rest

/-- Puts a value under a key, in its old place if there is one. -/
def put (key : String) (value : Value) : Entries → Entries
  | [] => [(key, value)]
  | (other, old) :: rest =>
      if other = key then (key, value) :: rest else (other, old) :: put key value rest

/-- Changes the entries that a header's path leads to.  Missing tables are made. -/
def atHeader (path : List String) (change : Entries → Option Entries) (entries : Entries) :
    Option Entries :=
  match path with
  | [] => change entries
  | key :: rest =>
      match entries.get? key with
      | none => do
          let inner ← atHeader rest change []
          some (entries.put key (.table .implied inner))
      | some (.table .braces _) => none
      | some (.table origin inner) => do
          let changed ← atHeader rest change inner
          some (entries.put key (.table origin changed))
      | some (.tables (newest :: older)) => do
          let changed ← atHeader rest change newest
          some (entries.put key (.tables (changed :: older)))
      | some _ => none

/--
Adds a value under a dotted key.  The table that it enters has to come from a
dotted key, and the last key must be new.
-/
def addDotted (path : List String) (key : String) (value : Value) (entries : Entries) :
    Option Entries :=
  match path with
  | [] =>
      match entries.get? key with
      | none => some (entries ++ [(key, value)])
      | some _ => none
  | first :: rest =>
      match entries.get? first with
      | none => do
          let inner ← addDotted rest key value []
          some (entries.put first (.table .dotted inner))
      | some (.table .dotted inner) => do
          let changed ← addDotted rest key value inner
          some (entries.put first (.table .dotted changed))
      | some (.table .implied inner) =>
          -- A dotted key may pass through such a table but may not end in it.
          if rest.isEmpty then none
          else do
            let changed ← addDotted rest key value inner
            some (entries.put first (.table .implied changed))
      | some (.tables (newest :: older)) =>
          if rest.isEmpty then none
          else do
            let changed ← addDotted rest key value newest
            some (entries.put first (.tables (changed :: older)))
      | some _ => none

/-- Opens the table that a header in single brackets names. -/
def openTable (path : List String) (key : String) (entries : Entries) : Option Entries :=
  entries.atHeader path fun parent =>
    match parent.get? key with
    | none => some (parent.put key (.table .header []))
    | some (.table .implied inner) => some (parent.put key (.table .header inner))
    | some _ => none

/-- Appends the table that a header in double brackets names. -/
def appendTable (path : List String) (key : String) (entries : Entries) : Option Entries :=
  entries.atHeader path fun parent =>
    match parent.get? key with
    | none => some (parent.put key (.tables [[]]))
    | some (.tables others) => some (parent.put key (.tables ([] :: others)))
    | some _ => none

end Entries

/-- The items of an array, however it was written. -/
def Value.items? : Value → Option (List Value)
  | .array items => some items
  | .tables newestFirst => some (newestFirst.reverse.map (.table .header))
  | _ => none

end LiveShader.Data.Toml
