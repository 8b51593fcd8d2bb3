import ModelRuns.Toml.Document
import ModelRuns.Toml.Lexical

namespace ModelRuns

/-!
# Reading TOML documents

A document is read line by line.  A header in brackets opens a table, one in
double brackets adds an element to an array of tables, and any other line adds
an entry to the table opened last.
-/

namespace Toml

/-! ## Values -/

/-- How deep arrays and inline tables may nest. -/
def depthLimit : Nat := 79

mutual

/-- A value.  Every call uses a turn, and `depth` levels may still open. -/
def readValue (turns depth : Nat) (text : List Char) : Option (TomlItem × List Char) :=
  match turns with
  | 0 => none
  | turns + 1 =>
    match text with
    | [] => none
    | '[' :: rest =>
      if depth = 0 then none
      else (readArray turns (depth - 1) [] rest).map fun (items, rest) => (.array items, rest)
    | '{' :: rest =>
      if depth = 0 then none
      else (readInline turns (depth - 1) true [] rest).map fun (entries, rest) =>
        (.inline (closeEntries entries), rest)
    | c :: rest =>
      if c = '"' || c = '\'' then
        (readString text).map fun (value, rest) => (.text (String.ofList value), rest)
      else if c = 't' then (dropWord? ['r', 'u', 'e'] rest).map (.scalar, ·)
      else if c = 'f' then (dropWord? ['a', 'l', 's', 'e'] rest).map (.scalar, ·)
      else if looksLikeDate text then (readDateTime text).map fun (_, rest) => (.date, rest)
      else (readNumber text).map fun (value, rest) => (value.elim .scalar .integer, rest)

/-- The items of an array after its opening bracket; `done` holds those before,
the last first.  A comma may follow the last item. -/
def readArray (turns depth : Nat) (done : List TomlItem) (text : List Char) :
    Option (List TomlItem × List Char) :=
  match turns with
  | 0 => none
  | turns + 1 =>
    match skipLines text.length text with
    | ']' :: rest => some (done.reverse, rest)
    | text =>
      match readValue turns depth text with
      | none => none
      | some (item, rest) =>
        match skipLines rest.length rest with
        | ',' :: rest => readArray turns depth (item :: done) rest
        | ']' :: rest => some ((item :: done).reverse, rest)
        | _ => none

/-- The entries of an inline table after its opening brace.  Only the empty
table may close where an entry could begin. -/
def readInline (turns depth : Nat) (first : Bool) (done : TomlEntries) (text : List Char) :
    Option (TomlEntries × List Char) :=
  match turns with
  | 0 => none
  | turns + 1 =>
    match first, skipSpace text with
    | true, '}' :: rest => some (done, rest)
    | _, text =>
      match readKey text with
      | some (key, '=' :: rest) =>
        match readValue turns depth (skipSpace rest) with
        | none => none
        | some (item, rest) =>
          match addInline? key.dropLast (key.getLast?.getD "") item done with
          | none => none
          | some entries =>
            match skipSpace rest with
            | ',' :: rest => readInline turns depth false entries rest
            | '}' :: rest => some (entries, rest)
            | _ => none
      | _ => none

end

/-- A key, an equals sign and a value. -/
def readEntry (text : List Char) : Option ((List String × TomlItem) × List Char) :=
  match readKey text with
  | some (key, '=' :: rest) =>
    (readValue (2 * text.length + 2) depthLimit (skipSpace rest)).map fun (item, rest) =>
      ((key, item), rest)
  | _ => none

/-! ## Documents -/

/-- Open the table of a header.  It may be there already only as a table on the
way to others; such a table keeps what it holds. -/
def openTable (path : List String) (root : TomlTable) : Option TomlTable :=
  let key := path.getLast?.getD ""
  TomlTable.changeAt false (fun parent =>
    let put := fun (entries : TomlEntries) =>
      some { parent with entries := setTomlEntry key (.table false false entries) parent.entries }
    match tomlItem? key parent.entries with
    | none => put []
    | some (.table true false entries) => put entries
    | some _ => none) path.dropLast root

/-- Add an element to the array of tables of a header. -/
def openElement (path : List String) (root : TomlTable) : Option TomlTable :=
  let key := path.getLast?.getD ""
  TomlTable.changeAt false (fun parent =>
    let put := fun (elements : List TomlEntries) =>
      some { parent with entries := setTomlEntry key (.tables elements) parent.entries }
    match tomlItem? key parent.entries with
    | none => put [[]]
    | some (.tables elements) => put (elements ++ [[]])
    | some _ => none) path.dropLast root

/-- The key between the brackets of a header. -/
def readHeaderKey (text : List Char) : Option (List String × List Char) :=
  readKey (skipSpace text)

/-- A document in the course of reading: its tables, and the path of the one
that was opened last. -/
structure State where
  root : TomlTable
  path : List String

/-- Read one line, up to the end that closes it. -/
def readLine (state : State) (text : List Char) : Option (State × List Char) :=
  match text with
  | '[' :: '[' :: rest =>
    match readHeaderKey rest with
    | some (path, ']' :: ']' :: rest) =>
      (openElement path state.root).map fun root => (⟨root, path⟩, rest)
    | _ => none
  | '[' :: rest =>
    match readHeaderKey rest with
    | some (path, ']' :: rest) =>
      (openTable path state.root).map fun root => (⟨root, path⟩, rest)
    | _ => none
  | text =>
    match readEntry text with
    | none => none
    | some ((key, item), rest) =>
      (TomlTable.changeAt false
        (TomlTable.addDotted? key.dropLast (key.getLast?.getD "") item) state.path
        state.root).map fun root => ({ state with root }, rest)

/-- Read line after line.  Each turn reads a line. -/
def readLines : Nat → State → List Char → Option TomlEntries
  | 0, state, _ => some state.root.entries
  | turns + 1, state, text =>
    match skipSpace text with
    | [] => some state.root.entries
    | text =>
      match lineEnd? text with
      | some rest => readLines turns state rest
      | none =>
        match readLine state text with
        | none => none
        | some (state, rest) =>
          match lineEnd? rest with
          | some rest => readLines turns state rest
          | none => none

/-- Drop a byte order mark. -/
def skipMark : List Char → List Char
  | '\uFEFF' :: rest => rest
  | text => text

/-- Read a document. -/
def read (text : String) : Option TomlEntries :=
  let text := skipMark text.toList
  readLines (text.length + 1) ⟨⟨false, false, []⟩, []⟩ text

end Toml

end ModelRuns
