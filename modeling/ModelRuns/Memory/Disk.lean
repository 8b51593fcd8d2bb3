import ModelRuns.Program.Request
import ModelRuns.Text.Utf8

namespace ModelRuns

/-!
# A disk in memory

A disk is a tree of directories and files.  Unlike a store it knows which
directory lies in which: a file is written only into a directory that is there,
and whatever is wrong on the way to a file is an error of its own.  Files hold
bytes, so that not every file can be read as a text.

Errors of requests name the path; errors of the run log do not.
-/

/-- What lies at a place of a disk. -/
inductive DiskNode
  | directory
  | file (bytes : List UInt8)
deriving DecidableEq, Repr

/-- Why an operation of a disk failed. -/
inductive DiskFault
  | notFound
  | alreadyThere
  | notDirectory
  | isDirectory
  | nameTooLong
  | nulInName
  | notText
deriving DecidableEq, Repr

/-- The wording of a fault, with the number systems give it. -/
def DiskFault.message : DiskFault → String
  | .notFound => "No such file or directory (os error 2)"
  | .alreadyThere => "File exists (os error 17)"
  | .notDirectory => "Not a directory (os error 20)"
  | .isDirectory => "Is a directory (os error 21)"
  | .nameTooLong => "File name too long (os error 36)"
  | .nulInName => "file name contained an unexpected NUL byte"
  | .notText => "stream did not contain valid UTF-8"

/-- The names on the way from the root. -/
abbrev Place := List String

/-- A tree of directories and files, and the directory in which relative paths
begin.  The root is always there. -/
structure Disk where
  workingDirectory : Place
  nodes : List (Place × DiskNode)
deriving DecidableEq, Repr

/-- Where a path leads: a place in a directory that is there, and whether the
spelling asks for a directory. -/
structure Spot where
  place : Place
  asDirectory : Bool

namespace Disk

/-- A disk with nothing but its root. -/
def empty : Disk := ⟨[], []⟩

variable (disk : Disk)

/-! ## Finding a place -/

/-- The most bytes a name may have. -/
def longestName : Nat := 255

/-- The most bytes a path may have. -/
def longestPath : Nat := 4095

/-- What lies at a place, if anything does. -/
def look (place : Place) : Except DiskFault (Option DiskNode) :=
  match place.getLast? with
  | none => .ok (some .directory)
  | some name =>
    if longestName < name.utf8ByteSize then .error .nameTooLong
    else .ok ((disk.nodes.find? (fun entry => entry.1 == place)).map (·.2))

/-- Go on from a directory by one piece of a path, which must lead to a
directory. -/
def enter (place : Place) (piece : String) : Except DiskFault Place :=
  if piece = "." then .ok place
  else if piece = ".." then .ok place.dropLast
  else do
    match ← disk.look (place ++ [piece]) with
    | none => .error .notFound
    | some (.file _) => .error .notDirectory
    | some .directory => .ok (place ++ [piece])

/-- Follow the pieces of a path from a directory. -/
def follow (asDirectory : Bool) (place : Place) : List String → Except DiskFault Spot
  | [] => .ok ⟨place, true⟩
  | [piece] =>
    if piece = "." || piece = ".." then (disk.enter place piece).map fun place => ⟨place, true⟩
    else .ok ⟨place ++ [piece], asDirectory⟩
  | piece :: rest =>
    match disk.enter place piece with
    | .error fault => .error fault
    | .ok place => follow asDirectory place rest

/-- Find the spot of a path.  Only its last piece may be missing. -/
def locate (path : Path) : Except DiskFault Spot :=
  if path.text.toList.contains '\x00' then .error .nulInName
  else if path.text = "" then .error .notFound
  else if longestPath < path.text.utf8ByteSize then .error .nameTooLong
  else
    let pieces := (path.pieces.filter (!·.isEmpty)).map String.ofList
    let asDirectory := path.text.toList.getLast? == some '/'
    disk.follow asDirectory (if path.isAbsolute then [] else disk.workingDirectory) pieces

/-- The spot of a path, and what lies at it. -/
def visit (path : Path) : Except DiskFault (Spot × Option DiskNode) := do
  let spot ← disk.locate path
  return (spot, ← disk.look spot.place)

/-- Put a node at a place, in the stead of what lies there. -/
def set (place : Place) (node : DiskNode) : Disk :=
  if disk.nodes.any (·.1 == place) then
    { disk with nodes := disk.nodes.map fun entry =>
        if entry.1 = place then (place, node) else entry }
  else { disk with nodes := disk.nodes ++ [(place, node)] }

/-- Take away what lies at a place. -/
def drop (place : Place) : Disk :=
  { disk with nodes := disk.nodes.filter (·.1 != place) }

/-! ## Operations -/

/-- The file a path leads to, with its bytes. -/
def fileAt (path : Path) : Except DiskFault (Place × List UInt8) := do
  match ← disk.visit path with
  | (_, none) => .error .notFound
  | (_, some .directory) => .error .isDirectory
  | (spot, some (.file bytes)) =>
    if spot.asDirectory then .error .notDirectory else .ok (spot.place, bytes)

/-- The bytes of a file. -/
def readBytes (path : Path) : Except DiskFault (List UInt8) :=
  (disk.fileAt path).map (·.2)

/-- The text of a file. -/
def readText (path : Path) : Except DiskFault String := do
  match decodeUtf8? (← disk.readBytes path) with
  | some text => .ok text
  | none => .error .notText

/-- Change the bytes of a file; a missing one is made and has none at first.  A
spelling that asks for a directory is refused before anything is looked up. -/
def modifyFile (path : Path) (change : List UInt8 → List UInt8) : Except DiskFault Disk := do
  let spot ← disk.locate path
  if spot.asDirectory then .error .isDirectory
  else
    match ← disk.look spot.place with
    | none => .ok (disk.set spot.place (.file (change [])))
    | some .directory => .error .isDirectory
    | some (.file bytes) => .ok (disk.set spot.place (.file (change bytes)))

/-- Make one directory. -/
def makeOne (path : Path) : Except DiskFault Disk := do
  match ← disk.visit path with
  | (spot, none) => .ok (disk.set spot.place .directory)
  | (_, some _) => .error .alreadyThere

/-- Whether a path leads to a directory. -/
def isDirectory (path : Path) : Bool :=
  match disk.visit path with
  | .ok (_, node) => node == some .directory
  | .error _ => false

/-- Make a directory that may be there already. -/
def ensureOne (path : Path) : Except DiskFault Disk :=
  match disk.makeOne path with
  | .ok made => .ok made
  | .error fault => if disk.isDirectory path then .ok disk else .error fault

/-- An outcome of a change, with the disk as it was when the change fails. -/
def settle (outcome : Except DiskFault Disk) : Except DiskFault Unit × Disk :=
  match outcome with
  | .ok disk => (.ok (), disk)
  | .error fault => (.error fault, disk)

/-- Make a directory and those above it that are missing.  `turns` bounds the
number of directories. -/
def makeAll (disk : Disk) (path : Path) : (turns : Nat) → Except DiskFault Unit × Disk
  | 0 => (.error .notFound, disk)
  | turns + 1 =>
    if path.text = "" then (.ok (), disk)
    else match disk.ensureOne path with
      | .error .notFound =>
        match path.parent? with
        | none => (.error .notFound, disk)
        | some parent =>
          match makeAll disk parent turns with
          | (.ok (), disk) => disk.settle (disk.ensureOne path)
          | failed => failed
      | outcome => disk.settle outcome

/-- Make a directory and those above it that are missing.  Those that were made
stay also when a later one cannot be made. -/
def makeDirectory (path : Path) : Except DiskFault Unit × Disk :=
  disk.makeAll path (path.text.length + 1)

/-- Remove a file. -/
def remove (path : Path) : Except DiskFault Disk := do
  let (place, _) ← disk.fileAt path
  return disk.drop place

/-- Whether an entry is a file directly in a directory. -/
def liesIn (directory : Place) : Place × DiskNode → Option String
  | (place, .file _) => if place.dropLast = directory then place.getLast? else none
  | (_, .directory) => none

/-- The files of a directory, in the order of paths. -/
def list (path : Path) : Except DiskFault (List Path) := do
  match ← disk.visit path with
  | (_, none) => .error .notFound
  | (_, some (.file _)) => .error .notDirectory
  | (spot, some .directory) =>
    .ok (Path.sort ((disk.nodes.filterMap (liesIn spot.place)).map path.child))

/-- Whether something is there. -/
def hasPath (path : Path) : Bool :=
  match disk.visit path with
  | .error _ => false
  | .ok (_, none) => false
  | .ok (_, some .directory) => true
  | .ok (spot, some (.file _)) => !spot.asDirectory

def pathOf (place : Place) : Path := ⟨String.join (place.map ("/" ++ ·))⟩

/-- All files with their absolute paths, in the order of paths. -/
def files : List (Path × List UInt8) :=
  let found := disk.nodes.filterMap fun
    | (place, .file bytes) => some (pathOf place, bytes)
    | (_, .directory) => none
  found.mergeSort (fun left right => !right.1.before left.1)

def filesBelow (directory : Path) : List (Path × List UInt8) :=
  disk.files.filter fun file => file.1.isWithin directory

/-- What differs from an earlier disk below a directory: new bytes, and nothing
for a file that is gone. -/
def changesSince (before : Disk) (directory : Path) : List (Path × Option (List UInt8)) :=
  let old := before.filesBelow directory
  let new := disk.filesBelow directory
  (new.filter fun file => !old.contains file).map (fun file => (file.1, some file.2)) ++
    (old.filter fun file => !new.any (·.1 == file.1)).map (fun file => (file.1, none))

/-- Put a text into a file, and make the directories above it.  What cannot be
made is left out. -/
def place (path : Path) (text : String) : Disk :=
  let disk := match path.parent? with
    | some parent => (disk.makeDirectory parent).2
    | none => disk
  (disk.modifyFile path fun _ => encodeUtf8 text).toOption.getD disk

/-! ## Answers -/

/-- Name the path in front of a fault. -/
def blame (path : Path) (outcome : Except DiskFault α) : Except Failure α :=
  outcome.mapError fun fault => .io (path.text ++ ": " ++ fault.message)

/-- Answer with a change, and keep the disk as it is if the change fails. -/
def answerChange (path : Path) (outcome : Except DiskFault Disk) : Except Failure Unit × Disk :=
  let (outcome, disk) := disk.settle outcome
  (blame path outcome, disk)

def answer : (request : FileRequest) → Disk → request.Answer × Disk
  | .read path, disk => (blame path (disk.readText path), disk)
  | .write path text, disk =>
    disk.answerChange path (disk.modifyFile path fun _ => encodeUtf8 text)
  | .append path line, disk =>
    disk.answerChange path (disk.modifyFile path (· ++ encodeUtf8 (line ++ "\n")))
  | .truncate path, disk => disk.answerChange path (disk.modifyFile path fun _ => [])
  | .makeDirectory path, disk =>
    let (outcome, disk) := disk.makeDirectory path
    (blame path outcome, disk)
  | .remove path, disk => disk.answerChange path (disk.remove path)
  | .list path, disk => (blame path (disk.list path), disk)
  | .fileExists path, disk => (disk.hasPath path, disk)

/-! ## Run logs -/

/-- Make the directory of a run log. -/
def prepareLog (path : Path) : Except DiskFault Unit × Disk :=
  match path.parent? with
  | some parent => disk.makeDirectory parent
  | none => (.ok (), disk)

/-- Make the directory of a run log, and then change the log.  A directory that
was made stays also when the change fails. -/
def changeLog (path : Path) (change : List UInt8 → List UInt8) : Except Failure Unit × Disk :=
  let (outcome, disk) := match disk.prepareLog path with
    | (.ok (), disk) => disk.settle (disk.modifyFile path change)
    | failed => failed
  (outcome.mapError fun fault => .io fault.message, disk)

/-- Empty a run log. -/
def clearLog (path : Path) : Except Failure Unit × Disk := disk.changeLog path fun _ => []

def appendLog (path : Path) (line : String) : Except Failure Unit × Disk :=
  disk.changeLog path (· ++ encodeUtf8 (line ++ "\n"))

end Disk

end ModelRuns
