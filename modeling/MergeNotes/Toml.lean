namespace MergeNotes

inductive Toml where
  | string (s : String)
  | integer (n : Int)
  | float
  | boolean (b : Bool)
  | datetime
  | array (items : List Toml)
  | table (items : List (String × Toml))
  deriving Repr

namespace Toml

inductive Origin where
  /-- A header of its own, or the document itself. -/
  | header
  /-- The header of a table further down. -/
  | path
  | dottedKey
  deriving DecidableEq, Repr

/-- What a key holds while the document is still being read. -/
inductive Item where
  | value (v : Toml)
  | table (origin : Origin) (items : List (String × Item))
  /-- An array of tables, each with a header of its own. -/
  | tables (elements : List (List (String × Item)))

abbrev Items := List (String × Item)

namespace Items

def find? (items : Items) (key : String) : Option Item := items.lookup key

def replace (items : Items) (key : String) (item : Item) : Items :=
  items.map fun (k, old) => (k, if k = key then item else old)

def without (items : Items) (key : String) : Items := items.filter (·.1 ≠ key)

/-- Changes the table at the end of a path, making the tables that are missing on the way. A path
goes through the last element of an array of tables and never through a value; dotted keys never
enter a table that has a header. -/
def change? (dotted : Bool) (f : Origin → Items → Option Items) :
    List String → Origin → Items → Option Items
  | [], origin, items => f origin items
  | key :: path, _, items =>
    match find? items key with
    | none => do
      let origin := if dotted then .dottedKey else .path
      let inner ← change? dotted f path origin []
      return items ++ [(key, .table origin inner)]
    | some (.table origin inner) =>
      if dotted && origin = .header then none
      else do
        let inner ← change? dotted f path origin inner
        return replace items key (.table origin inner)
    | some (.tables elements) => do
      let last ← elements.getLast?
      let last ← change? dotted f path .header last
      return replace items key (.tables (elements.dropLast ++ [last]))
    | some (.value _) => none

/-- Gives a key its value. A dotted path ends in a table made by dotted keys, and no key gets two
values. -/
def define? (path : List String) (key : String) (v : Toml) : Origin → Items → Option Items :=
  change? true (fun origin items =>
    if (origin = .dottedKey ↔ path = []) then none
    else if (find? items key).isSome then none
    else some (items ++ [(key, .value v)])) path

/-- Opens a table by its header. A table that only had headers further down moves to the end. -/
def openTable? (key : String) (items : Items) : Option Items :=
  match find? items key with
  | none => some (items ++ [(key, .table .header [])])
  | some (.table .path inner) => some (without items key ++ [(key, .table .header inner)])
  | _ => none

def openElement? (key : String) (items : Items) : Option Items :=
  match find? items key with
  | none => some (items ++ [(key, .tables [[]])])
  | some (.tables elements) => some (replace items key (.tables (elements ++ [[]])))
  | _ => none

end Items

mutual

def Item.toToml : Item → Toml
  | .value v => v
  | .table _ items => .table (itemsToToml items)
  | .tables elements => .array (elementsToToml elements)

def itemsToToml : List (String × Item) → List (String × Toml)
  | [] => []
  | (key, item) :: rest => (key, item.toToml) :: itemsToToml rest

def elementsToToml : List (List (String × Item)) → List Toml
  | [] => []
  | items :: rest => .table (itemsToToml items) :: elementsToToml rest

end

/-- One statement of a document; a key with dots in it is a path and a last name. -/
inductive Statement where
  | define (path : List String) (key : String) (v : Toml)
  | openTable (path : List String) (key : String)
  | openElement (path : List String) (key : String)

structure Draft where
  items : Items := []
  here : List String := []

def Draft.step? (d : Draft) : Statement → Option Draft
  | .define path key v => do
    let items ← Items.change? false (Items.define? path key v) d.here .header d.items
    return { d with items }
  | .openTable path key => do
    let items ← Items.change? false (fun _ => Items.openTable? key) path .header d.items
    return ⟨items, path ++ [key]⟩
  | .openElement path key => do
    let items ← Items.change? false (fun _ => Items.openElement? key) path .header d.items
    return ⟨items, path ++ [key]⟩

def ofStatements? (statements : List Statement) : Option (List (String × Toml)) := do
  let draft ← statements.foldlM Draft.step? {}
  return itemsToToml draft.items

def inline? (pairs : List (List String × String × Toml)) : Option Toml := do
  let items ← pairs.foldlM (fun items (path, key, v) => Items.define? path key v .header items) []
  return .table (itemsToToml items)

end Toml
end MergeNotes
