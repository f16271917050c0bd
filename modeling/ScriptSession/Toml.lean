/-! TOML values, and what may be added to a table after it was begun.

* A table with a header is begun once; a header of a table inside it may come before.
* Dotted keys extend only tables that dotted keys began.
* An array of tables grows by headers, and keys behind such a header belong to its last table.
* What is written as one value is complete. -/
namespace ScriptSession.Toml

/-- How a table was begun. -/
inductive TableForm where
  /-- Written as one value. -/
  | inlined
  | headed
  /-- By the header of a table inside it. -/
  | implied
  | dotted
  deriving DecidableEq, Repr

inductive Value where
  | text (text : String)
  | integer (n : Int)
  | float
  | boolean (b : Bool)
  | date
  /-- An array; one that was begun by a header grows. -/
  | array (grows : Bool) (items : List Value)
  | table (form : TableForm) (entries : List (String × Value))

abbrev Entries := List (String × Value)

/-- A dotted key: the tables to go through, and the name in the last one. -/
structure Key where
  path : List String
  name : String
  deriving DecidableEq, Repr

namespace Entries

def find? (e : Entries) (name : String) : Option Value := List.lookup name e

/-- Puts a value in the place of the one of that name. -/
def replace (e : Entries) (name : String) (value : Value) : Entries :=
  e.map fun entry => if entry.1 = name then (name, value) else entry

/-- Adds a value under a dotted key; no two values have one key. -/
def put (e : Entries) (name : String) (value : Value) : List String → Option Entries
  | [] => if (e.find? name).isSome then none else some (e ++ [(name, value)])
  | key :: rest =>
    match e.find? key with
    | none => (put [] name value rest).map fun inner => e ++ [(key, .table .dotted inner)]
    | some (.table form inner) =>
      if form = .dotted ∨ (form = .implied ∧ rest ≠ []) then
        (put inner name value rest).map fun inner => e.replace key (.table form inner)
      else none
    | some (.array true items) =>
      match items.getLast?, rest with
      | some (.table form inner), _ :: _ =>
        (put inner name value rest).map fun inner =>
          e.replace key (.array true (items.dropLast ++ [.table form inner]))
      | _, _ => none
    | some _ => none

/-- Changes the table that a header's path leads to; tables on the way come into being. -/
def within (change : Entries → Option Entries) : List String → Entries → Option Entries
  | [], e => change e
  | key :: rest, e =>
    match e.find? key with
    | none => (within change rest []).map fun inner => e ++ [(key, .table .implied inner)]
    | some (.table .inlined _) => none
    | some (.table form inner) =>
      (within change rest inner).map fun inner => e.replace key (.table form inner)
    | some (.array true items) =>
      match items.getLast? with
      | some (.table form inner) =>
        (within change rest inner).map fun inner =>
          e.replace key (.array true (items.dropLast ++ [.table form inner]))
      | _ => none
    | some _ => none

/-- Begins the table of a header. -/
def beginTable (e : Entries) (key : Key) : Option Entries :=
  let begun (e : Entries) : Option Entries :=
    match e.find? key.name with
    | none => some (e ++ [(key.name, .table .headed [])])
    | some (.table .implied inner) => some (e.replace key.name (.table .headed inner))
    | some _ => none
  within begun key.path e

/-- Begins the next table of an array. -/
def beginItem (e : Entries) (key : Key) : Option Entries :=
  let begun (e : Entries) : Option Entries :=
    match e.find? key.name with
    | none => some (e ++ [(key.name, .array true [.table .headed []])])
    | some (.array true items) =>
      some (e.replace key.name (.array true (items ++ [.table .headed []])))
    | some _ => none
  within begun key.path e

end Entries

end ScriptSession.Toml
