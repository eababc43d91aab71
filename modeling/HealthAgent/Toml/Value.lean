/-!
# Values of a configuration text

Numbers with a fraction or exponent, dates and times are kept as they are written.

A document grows line by line. Which lines may add to a table depends on how the table came into
being: by its own header, as a step on the way to a header, or as a step of a dotted key.
-/
namespace HealthAgent.Toml

inductive Value where
  | string (s : String)
  | integer (n : Int)
  | float (text : String)
  | boolean (b : Bool)
  | datetime (text : String)
  | array (items : List Value)
  | table (entries : List (String × Value))
  deriving Repr, BEq, Inhabited

/-- How a table came into being. -/
inductive TableKind where
  /-- By its own header, or as a value. -/
  | explicit
  /-- As a step on the way to the header of another table. -/
  | implied
  /-- As a step of a dotted key. -/
  | dotted
  deriving DecidableEq, Repr

/-- A part of a document under construction. -/
inductive Item where
  | leaf (v : Value)
  | table (kind : TableKind) (entries : List (String × Item))
  /-- The tables of an array of tables, the newest first. -/
  | tables (newestFirst : List (List (String × Item)))
  deriving Inhabited

/-- The entries of a table under construction. -/
abbrev Entries := List (String × Item)

def Entries.item? (es : Entries) (key : String) : Option Item :=
  (es.find? (·.1 = key)).map (·.2)

/-- The entries with `item` under `key`, in its old place if it has one. -/
def Entries.set (es : Entries) (key : String) (item : Item) : Entries :=
  if (es.item? key).isSome then es.map fun e => if e.1 = key then (key, item) else e
  else es ++ [(key, item)]

/-- Adds a value under a dotted key; none if the key is taken or leads through a table that a
dotted key may not extend. -/
def Entries.put (es : Entries) : List String → Value → Option Entries
  | [], _ => none
  | [key], v => if (es.item? key).isSome then none else some (es.set key (.leaf v))
  | key :: next :: rest, v =>
    match es.item? key with
    | none => (put [] (next :: rest) v).map fun sub => es.set key (.table .dotted sub)
    | some (.table kind sub) =>
      if kind = .explicit || (rest.isEmpty && kind ≠ .dotted) then none
      else (put sub (next :: rest) v).map fun sub => es.set key (.table kind sub)
    | some (.tables (newest :: older)) =>
      if rest.isEmpty then none
      else (put newest (next :: rest) v).map fun sub => es.set key (.tables (sub :: older))
    | some _ => none

/-- Changes the table at a path; tables that are missing on the way come into being. -/
def Entries.modifyAt (f : Entries → Option Entries) : List String → Entries → Option Entries
  | [], es => f es
  | key :: rest, es =>
    match es.item? key with
    | none => (modifyAt f rest []).map fun sub => es.set key (.table .implied sub)
    | some (.table kind sub) => (modifyAt f rest sub).map fun sub => es.set key (.table kind sub)
    | some (.tables (newest :: older)) =>
      (modifyAt f rest newest).map fun sub => es.set key (.tables (sub :: older))
    | some _ => none

def Entries.openTable (path : List String) (es : Entries) : Option Entries :=
  match path.getLast? with
  | none => none
  | some key => es.modifyAt (fun table =>
      match table.item? key with
      | none => some (table.set key (.table .explicit []))
      | some (.table .implied sub) => some (table.set key (.table .explicit sub))
      | some _ => none) path.dropLast

/-- Opens a new table of an array of tables. -/
def Entries.openArrayTable (path : List String) (es : Entries) : Option Entries :=
  match path.getLast? with
  | none => none
  | some key => es.modifyAt (fun table =>
      match table.item? key with
      | none => some (table.set key (.tables [[]]))
      | some (.tables ts) => some (table.set key (.tables ([] :: ts)))
      | some _ => none) path.dropLast

mutual

def Item.toValue : Item → Value
  | .leaf v => v
  | .table _ es => .table (entriesToValues es)
  | .tables ts => .array (tablesToValues ts).reverse

/-- The finished entries of a table. -/
def entriesToValues : Entries → List (String × Value)
  | [] => []
  | (k, item) :: rest => (k, item.toValue) :: entriesToValues rest

/-- The finished tables of an array of tables. -/
def tablesToValues : List Entries → List Value
  | [] => []
  | es :: rest => .table (entriesToValues es) :: tablesToValues rest

end

end HealthAgent.Toml
