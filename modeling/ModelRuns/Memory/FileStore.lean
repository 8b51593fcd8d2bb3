import ModelRuns.Program.Request

namespace ModelRuns

/-!
# Files in memory

A store answers requests about files without a disk.  It knows files and the
directories that were made, but not which directory lies in which: a file can be
written anywhere.  Faults can be planned; each makes one operation on one path
fail a number of times.
-/

/-- The operations on files that can fail. -/
inductive FileOperation
  | read
  | write
  | append
  | truncate
  | makeDirectory
  | remove
  | list
deriving DecidableEq, Repr

/-- A planned failure. -/
structure Fault where
  operation : FileOperation
  path : Path
  message : String
  times : Nat
deriving DecidableEq, Repr

/-- A file of a store.  It keeps the spelling of its path. -/
structure StoredFile where
  path : Path
  text : String
deriving DecidableEq, Repr

/-- Files, directories and planned failures.  `failNext` fails the next
operation whatever it is. -/
structure FileStore where
  files : List StoredFile
  directories : List Path
  faults : List Fault
  failNext : Option Failure

namespace FileStore

/-- A store without files. -/
def empty : FileStore := ⟨[], [], [], none⟩

variable (store : FileStore)

/-! ## Contents -/

/-- The text of a file. -/
def text? (path : Path) : Option String :=
  (store.files.find? (fun file => file.path.same path)).map StoredFile.text

/-- Put a text under a path.  A file that is there keeps its spelling. -/
def put (path : Path) (text : String) : FileStore :=
  if store.files.any (fun file => file.path.same path) then
    { store with files := store.files.map fun file =>
        if file.path.same path then { file with text } else file }
  else { store with files := store.files ++ [⟨path, text⟩] }

/-- Remove a file, if it is there. -/
def erase (path : Path) : FileStore :=
  { store with files := store.files.filter fun file => !file.path.same path }

/-- The files that lie directly in a directory, in order. -/
def filesIn (directory : Path) : List Path :=
  Path.sort ((store.files.map StoredFile.path).filter fun path =>
    path.parent?.any (·.same directory))

/-- Whether there is a file, or a directory that was made. -/
def hasPath (path : Path) : Bool :=
  (store.text? path).isSome || store.directories.any (·.same path)

def ofFiles (files : List (Path × String)) : FileStore :=
  files.foldl (fun store (path, text) => store.put path text) empty

/-- What differs from an earlier store: new texts, and nothing for a file that
is gone. -/
def changesSince (before : FileStore) : List (Path × Option String) :=
  (store.files.filter fun file => before.text? file.path != some file.text).map
      (fun file => (file.path, some file.text)) ++
    (before.files.filter fun file => (store.text? file.path).isNone).map
      (fun file => (file.path, none))

/-! ## Faults -/

/-- Plan a failure after those planned already. -/
def plan (fault : Fault) : FileStore := { store with faults := store.faults ++ [fault] }

/-- Spend the first planned failure of an operation on a path. -/
def spend (operation : FileOperation) (path : Path) : List Fault → Option (String × List Fault)
  | [] => none
  | fault :: rest =>
    if fault.operation = operation ∧ fault.path.same path = true ∧ 0 < fault.times then
      some (fault.message, { fault with times := fault.times - 1 } :: rest)
    else (spend operation path rest).map fun (message, rest) => (message, fault :: rest)

/-- The failure of an operation, if one is planned. -/
def failure? (operation : FileOperation) (path : Path) : Option (Failure × FileStore) :=
  match spend operation path store.faults with
  | some (message, faults) => some (.io message, { store with faults })
  | none => store.failNext.map fun failure => (failure, { store with failNext := none })

/-- Do an operation unless it is planned to fail. -/
def guarded (operation : FileOperation) (path : Path)
    (act : FileStore → Except Failure α × FileStore) : Except Failure α × FileStore :=
  match store.failure? operation path with
  | some (failure, store) => (.error failure, store)
  | none => act store

/-! ## Answers -/

def answer : (request : FileRequest) → FileStore → request.Answer × FileStore
  | .read path, store => store.guarded .read path fun store =>
    match store.text? path with
    | some text => (.ok text, store)
    | none => (.error (.io ("missing file " ++ path.text)), store)
  | .write path text, store => store.guarded .write path fun store =>
    (.ok (), store.put path text)
  | .append path line, store => store.guarded .append path fun store =>
    (.ok (), store.put path ((store.text? path).getD "" ++ line ++ "\n"))
  | .truncate path, store => store.guarded .truncate path fun store => (.ok (), store.put path "")
  | .makeDirectory path, store => store.guarded .makeDirectory path fun store =>
    (.ok (), { store with directories := store.directories ++ [path] })
  | .remove path, store => store.guarded .remove path fun store => (.ok (), store.erase path)
  | .list path, store => store.guarded .list path fun store => (.ok (store.filesIn path), store)
  | .fileExists path, store => (store.hasPath path, store)

end FileStore

end ModelRuns
