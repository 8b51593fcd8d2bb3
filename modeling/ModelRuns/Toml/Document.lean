namespace ModelRuns

/-!
# Documents of the defaults file

A defaults file is a TOML document: a tree of tables.  A table comes into being
in several ways, and these decide whether it may be opened again.  A table that
only lies on the way to another one is implicit; one made by a dotted key is
dotted; an inline table is a closed value.
-/

/-- An item of a document.  Of numbers that are not whole and of truth values
only their presence is kept, and of dates that they are dates. -/
inductive TomlItem
  | text (value : String)
  | integer (value : Int)
  | scalar
  | date
  | array (items : List TomlItem)
  | inline (entries : List (String × TomlItem))
  | table (isImplicit isDotted : Bool) (entries : List (String × TomlItem))
  | tables (elements : List (List (String × TomlItem)))

/-- The entries of a table. -/
abbrev TomlEntries := List (String × TomlItem)

/-- A table outside of inline values. -/
structure TomlTable where
  isImplicit : Bool
  isDotted : Bool
  entries : TomlEntries

/-- The entry of a key. -/
def tomlItem? (key : String) (entries : TomlEntries) : Option TomlItem :=
  (entries.find? (·.1 == key)).map (·.2)

/-- Put an entry in the place of the one with its key, or at the end. -/
def setTomlEntry (key : String) (item : TomlItem) : TomlEntries → TomlEntries
  | [] => [(key, item)]
  | (other, held) :: rest =>
    if key = other then (key, item) :: rest else (other, held) :: setTomlEntry key item rest

/-- Add an entry under a key that has none. -/
def addTomlKey? (key : String) (item : TomlItem) (entries : TomlEntries) :
    Option TomlEntries :=
  if (tomlItem? key entries).isSome then none else some (entries ++ [(key, item)])

namespace TomlTable

def item (table : TomlTable) : TomlItem :=
  .table table.isImplicit table.isDotted table.entries

/-- Change the table at the end of a path of keys.  Missing tables on the way
are made, implicit, and dotted if the path is part of a dotted key.  A dotted
key leads through no table that was opened by a header. -/
def changeAt (dotted : Bool) (change : TomlTable → Option TomlTable) :
    List String → TomlTable → Option TomlTable
  | [], table => change table
  | key :: rest, table =>
    let put := fun (item : TomlItem) =>
      { table with entries := setTomlEntry key item table.entries }
    match tomlItem? key table.entries with
    | none => (changeAt dotted change rest ⟨true, dotted, []⟩).map (fun child => put child.item)
    | some (.table isImplicit isDotted entries) =>
      if dotted && !isImplicit then none
      else (changeAt dotted change rest ⟨isImplicit, isDotted, entries⟩).map
        (fun child => put child.item)
    | some (.tables elements) =>
      match elements.getLast? with
      | none => none
      | some last =>
        (changeAt dotted change rest ⟨false, false, last⟩).map
          (fun child => put (.tables (elements.dropLast ++ [child.entries])))
    | some _ => none

/-- Add an entry under a dotted key.  The table it goes to must have come into
being by dotted keys too, unless the key has one part only. -/
def addDotted? (path : List String) (key : String) (item : TomlItem) (table : TomlTable) :
    Option TomlTable :=
  changeAt true (fun target =>
    if target.isDotted == path.isEmpty then none
    else (addTomlKey? key item target.entries).map ({ target with entries := · })) path table

end TomlTable

def addInline? : (path : List String) → (key : String) → TomlItem → TomlEntries →
    Option TomlEntries
  | path, key, item, entries =>
    (TomlTable.addDotted? path key item ⟨false, false, entries⟩).map TomlTable.entries

mutual

/-- An item with its tables closed, as inside an inline table. -/
def closeItem : TomlItem → TomlItem
  | .table _ _ entries => .inline (closeEntries entries)
  | item => item

/-- The entries of an inline table with their tables closed. -/
def closeEntries : List (String × TomlItem) → List (String × TomlItem)
  | [] => []
  | (key, item) :: rest => (key, closeItem item) :: closeEntries rest

end

end ModelRuns
