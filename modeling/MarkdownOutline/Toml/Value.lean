/-!
# TOML values

The values of a TOML document, and the rules on what may be added to a table once it is there.
-/

namespace MarkdownOutline.Toml

/-- A number with a fraction or an exponent, as it is written. -/
inductive FloatLiteral where
  | special
  | decimal (digits : Nat) (exponent : Int)
  deriving DecidableEq

/-- How a table came to be: in braces, under a header of its own, on the way to a longer header,
or on the way of a dotted key. -/
inductive TableOrigin where
  | inline
  | header
  | implied
  | dotted
  deriving DecidableEq

inductive Value where
  | string (value : String)
  | integer (value : Int)
  | float (value : FloatLiteral)
  | boolean (value : Bool)
  | dateTime (literal : String)
  | array (elements : List Value)
  | table (origin : TableOrigin) (entries : List (String × Value))
  | tables (elements : List (List (String × Value)))

abbrev Table := List (String × Value)

namespace Table

/-- The table with the value of a key changed, or with a new one added at its end. -/
def update (key : String) (change : Option Value → Option Value) : Table → Option Table
  | [] => (change none).map fun value => [(key, value)]
  | (k, value) :: rest =>
    if k = key then (change (some value)).map fun value => (k, value) :: rest
    else (update key change rest).map ((k, value) :: ·)

/-- The table with a value at a dotted key. The tables on the way are new, or were made by dotted
keys too; only a table further up may also be one that headers imply. -/
def assign (table : Table) (key : String) (more : List String) (value : Value) : Option Table :=
  match more with
  | [] => update key (fun
    | none => some value
    | some _ => none) table
  | next :: rest => update key (fun
    | none => (assign [] next rest value).map (.table .dotted)
    | some (.table .dotted entries) => (assign entries next rest value).map (.table .dotted)
    | some (.table .implied entries) =>
      if rest.isEmpty then none else (assign entries next rest value).map (.table .implied)
    | some _ => none) table

/-- The table with the one that a header names changed. The last of several tables of a name is
meant. -/
def within (keys : List String) (change : Table → Option Table) (table : Table) : Option Table :=
  match keys with
  | [] => change table
  | key :: rest => update key (fun
    | none => (within rest change []).map (.table .implied)
    | some (.table .inline _) => none
    | some (.table origin entries) => (within rest change entries).map (.table origin)
    | some (.tables elements) => match elements.getLast? with
      | none => none
      | some last =>
        (within rest change last).map fun last => .tables (elements.dropLast ++ [last])
    | some _ => none) table

/-- The table with one of a name opened by a header. No table can be opened twice. -/
def openTable (key : String) (table : Table) : Option Table :=
  update key (fun
    | none => some (.table .header [])
    | some (.table .implied entries) => some (.table .header entries)
    | some _ => none) table

def appendTable (key : String) (table : Table) : Option Table :=
  update key (fun
    | none => some (.tables [[]])
    | some (.tables elements) => some (.tables (elements ++ [[]]))
    | some _ => none) table

end Table

end MarkdownOutline.Toml
