import AstView.Toml.Value

/-!
# Tables under construction

The keys of a TOML document say where in a tree of tables a value goes. A table comes about in
one of three ways: its header stands in the document, the header of a table inside it does, or
a dotted key leads through it. That decides what may still be added to it:

* a header may be given once, and only to a table that headers alone have led through;
* a dotted key leads through tables whose header has not been given, but it only ends in a
  table that a dotted key has made;
* a plain key goes into the table whose header came last;
* no key is given twice.

In an array of tables, keys lead on to the last table.
-/
namespace AstView.Toml

/-- How a table has come about. -/
inductive Standing where
  /-- Its header stands in the document. -/
  | header
  /-- A header of a table inside it stands in the document. -/
  | passage
  /-- A dotted key leads through it. -/
  | dotted
  deriving Repr, DecidableEq

/-- What stands under a key. -/
inductive Item where
  /-- A value. -/
  | value (value : Value)
  /-- A table that can be added to. -/
  | table (standing : Standing) (entries : List (String × Item))
  /-- Tables under one header, the last of which can be added to. -/
  | tables (tables : List (List (String × Item)))
  deriving Inhabited

/-- The items of a table under their keys. -/
abbrev Items := List (String × Item)

namespace Items

/-- The item under a key. -/
def find (items : Items) (key : String) : Option Item :=
  (items.find? fun entry => entry.1 == key).map (·.2)

/-- Puts an item under a key, in the place of the one that is there. -/
def put (key : String) (item : Item) : Items → Items
  | [] => [(key, item)]
  | head :: rest => if head.1 = key then (key, item) :: rest else head :: put key item rest

/-- The items under the other keys. -/
def without (items : Items) (key : String) : Items := items.filter fun entry => entry.1 != key

/-- Changes the last table of some. -/
def changeLast (change : Items → Option Items) : List Items → Option (List Items)
  | [] => none
  | [last] => (change last).map fun last => [last]
  | head :: rest => (changeLast change rest).map fun rest => head :: rest

/-- Changes the table that a path of keys leads to, by headers or by dotted keys. Tables that are
not there yet are made. -/
def change (dotted : Bool) (f : Standing → Items → Option Items) :
    List String → Standing → Items → Option Items
  | [], standing, items => f standing items
  | key :: path, _, items =>
    match items.find key with
    | none =>
      let standing := if dotted then Standing.dotted else .passage
      (change dotted f path standing []).map fun inner => items.put key (.table standing inner)
    | some (.value _) => none
    | some (.tables tables) =>
      (changeLast (change dotted f path .header) tables).map fun tables =>
        items.put key (.tables tables)
    | some (.table standing inner) =>
      if dotted && standing == .header then none
      else
        (change dotted f path standing inner).map fun inner =>
          items.put key (.table standing inner)

/-- Puts an item under the last key of a path, where there must be nothing yet. -/
def insert (path : List String) (key : String) (item : Item) (standing : Standing)
    (items : Items) : Option Items :=
  change true
    (fun standing items =>
      if (standing == .dotted) == path.isEmpty then none
      else if (items.find key).isSome then none
      else some (items ++ [(key, item)]))
    path standing items

/-- Gives the header of a table. The table comes last in the one around it, also if headers have
led through it before. -/
def openTable (path : List String) (key : String) (items : Items) : Option Items :=
  change false
    (fun _ items =>
      match items.find key with
      | none => some (items ++ [(key, .table .header [])])
      | some (.table .passage inner) => some (items.without key ++ [(key, .table .header inner)])
      | some _ => none)
    path .header items

/-- Gives the header of another table of an array. -/
def openElement (path : List String) (key : String) (items : Items) : Option Items :=
  change false
    (fun _ items =>
      match items.find key with
      | none => some (items ++ [(key, .tables [[]])])
      | some (.tables tables) => some (items.put key (.tables (tables ++ [[]])))
      | some _ => none)
    path .header items

/-- Puts a value under a dotted key of the table that a header leads to. -/
def insertUnder (header path : List String) (key : String) (value : Value) (items : Items) :
    Option Items :=
  change false (insert path key (.value value)) header .header items

end Items

mutual

/-- The value of an item. -/
def Item.toValue : Item → Value
  | .value value => value
  | .table _ entries => .table (entryValues entries)
  | .tables tables => .array (tableValues tables)

/-- The values of items under the same keys. -/
def entryValues : List (String × Item) → List (String × Value)
  | [] => []
  | (key, item) :: rest => (key, item.toValue) :: entryValues rest

/-- The values of some tables. -/
def tableValues : List (List (String × Item)) → List Value
  | [] => []
  | table :: rest => .table (entryValues table) :: tableValues rest

end

end AstView.Toml
