/-!
The values of TOML documents, and the tables that headers and keys build up. A table may be written
in parts; what may be added to it depends on what it comes from.
-/

namespace StreamRecords.Toml

/-- What a table comes from. -/
inductive Origin where
  /-- A header of its own. -/
  | header
  /-- The header of a table within it. -/
  | implied
  /-- A key of several parts. -/
  | dotted
  /-- A value between braces, to which nothing can be added. -/
  | inline
  deriving DecidableEq, Repr

/-- **A TOML value.** Floating-point numbers and dates are kept as they are written. -/
inductive Value where
  | string (s : String)
  | integer (n : Int)
  | boolean (b : Bool)
  | float (text : String)
  | dateTime (text : String)
  | array (items : List Value)
  | table (origin : Origin) (members : List (String × Value))
  /-- The tables that have one header of two brackets, last one first. -/
  | tables (rows : List (List (String × Value)))

abbrev Members : Type := List (String × Value)

namespace Members

/-- The member under `key`. -/
def get? (key : String) : Members → Option Value
  | [] => none
  | (k, v) :: ms => if k = key then some v else get? key ms

/-- Members with `v` in the place of what is under `key`, or behind all others. -/
def put (key : String) (v : Value) : Members → Members
  | [] => [(key, v)]
  | (k, w) :: ms => if k = key then (key, v) :: ms else (k, w) :: put key v ms

/-- `ms` with `v` under `key`, where there must be nothing. -/
def add? (key : String) (v : Value) (ms : Members) : Option Members :=
  match ms.get? key with
  | some _ => none
  | none => some (ms.put key v)

/-- Does `f` within the table at the end of a path, which comes from `origin` if the path is empty.
Tables on the way that are missing are made. With `dotted` the path is the front of a key, which
cannot lead into a table with a header of its own. -/
def within (dotted : Bool) (f : Origin → Members → Option Members) (origin : Origin) :
    List String → Members → Option Members
  | [], ms => f origin ms
  | key :: path, ms =>
    match ms.get? key with
    | none =>
      let origin := if dotted then .dotted else .implied
      (within dotted f origin path []).map fun inner => ms.put key (.table origin inner)
    | some (.table .inline _) => none
    | some (.table origin inner) =>
      if dotted && origin = .header then none
      else (within dotted f origin path inner).map fun inner => ms.put key (.table origin inner)
    | some (.tables (row :: rows)) =>
      (within dotted f .header path row).map fun row => ms.put key (.tables (row :: rows))
    | some _ => none

/-- `ms` with `v` as a new member, whose key has the parts `path` before the last one, `key`. -/
def addDotted? (path : List String) (key : String) (v : Value) (ms : Members) : Option Members :=
  within true (fun origin inner =>
    if path ≠ [] ∧ origin ≠ .dotted then none else inner.add? key v) .header path ms

/-- `ms` with a table for the header `key`, unless there is something else with its name. -/
def openTable? (key : String) (ms : Members) : Option Members :=
  match ms.get? key with
  | none => some (ms.put key (.table .header []))
  | some (.table .implied inner) => some (ms.put key (.table .header inner))
  | some _ => none

/-- `ms` with one more table for the header `key` of two brackets, unless there is something else
with its name. -/
def openRow? (key : String) (ms : Members) : Option Members :=
  match ms.get? key with
  | none => some (ms.put key (.tables [[]]))
  | some (.tables rows) => some (ms.put key (.tables ([] :: rows)))
  | some _ => none

end Members
end StreamRecords.Toml
