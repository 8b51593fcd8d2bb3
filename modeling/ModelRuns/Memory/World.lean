import ModelRuns.Memory.Disk
import ModelRuns.Memory.FileStore
import ModelRuns.Memory.Service
import ModelRuns.Program.Action
import ModelRuns.RunLog.Recorder

namespace ModelRuns

/-!
# A world in memory

A world answers every request of a run: its files, a service, a clock that only
waiting moves, a terminal that keeps its lines, and a run log.  Files are kept
in one of two ways, so a world is built over a kind of storage.
-/

/-- Something that keeps files and run logs. -/
class Storage (φ : Type) where
  answer : (request : FileRequest) → φ → request.Answer × φ
  /-- Empty a run log. -/
  clearLog : Path → φ → Except Failure Unit × φ
  /-- Append a line to a run log. -/
  appendLog : Path → String → φ → Except Failure Unit × φ

instance : Storage Disk where
  answer := Disk.answer
  clearLog path disk := disk.clearLog path
  appendLog path line disk := disk.appendLog path line

/-- Files in a store, and run logs on a disk. -/
structure StoreAndDisk where
  store : FileStore
  disk : Disk

instance : Storage StoreAndDisk where
  answer request storage :=
    let (answer, store) := FileStore.answer request storage.store
    (answer, { storage with store })
  clearLog path storage :=
    let (answer, disk) := storage.disk.clearLog path
    (answer, { storage with disk })
  appendLog path line storage :=
    let (answer, disk) := storage.disk.appendLog path line
    (answer, { storage with disk })

/-- The surroundings of a run, and what the run did to them. -/
structure World (φ : Type) where
  storage : φ
  service : Service
  time : Instant
  /-- Deadlines that were waited for. -/
  deadlines : List Instant
  lines : List String
  errorLines : List String
  connections : List ApiSettings
  helpShown : Bool
  recorder : Recorder
  /-- Events shown among the errors of the process. -/
  echoes : List String

namespace World

variable {φ : Type}

/-- A world in which nothing has happened. -/
def start (storage : φ) (time : Instant) : World φ where
  storage := storage
  service := .empty
  time := time
  deadlines := []
  lines := []
  errorLines := []
  connections := []
  helpShown := false
  recorder := ⟨none, false⟩
  echoes := []

/-- The world before its next step: what earlier steps showed and asked for is
forgotten, and all else stays. -/
def nextStep (world : World φ) : World φ :=
  { world with
    service := { world.service with requests := [] }
    deadlines := []
    lines := []
    errorLines := []
    connections := []
    helpShown := false
    echoes := [] }

variable [Storage φ]

/-- Record an event.  That the run log cannot be written is of no account. -/
def note (event : RunEvent) (world : World φ) : World φ :=
  let world := { world with echoes := world.echoes ++ (world.recorder.echo event).toList }
  match world.recorder.entry event with
  | none => world
  | some (path, line) =>
    { world with storage := (Storage.appendLog path line world.storage).2 }

/-- Choose the destination of events.  If the file cannot be emptied the earlier
destination stays. -/
def openRunLog (file : Option Path) (debug : Bool) (world : World φ) :
    Except Failure Unit × World φ :=
  match file with
  | none => (.ok (), { world with recorder := ⟨none, debug⟩ })
  | some path =>
    match Storage.clearLog path world.storage with
    | (.ok (), storage) => (.ok (), { world with storage, recorder := ⟨some path, debug⟩ })
    | (.error failure, storage) => (.error failure, { world with storage })

def answer : (request : Request) → World φ → request.Answer × World φ
  | .file request, world =>
    let (answer, storage) := Storage.answer request world.storage
    (answer, { world with storage })
  | .api request, world =>
    let (answer, service) := Service.answer request world.service
    (answer, { world with service })
  | .connect settings, world =>
    (.ok (), { world with connections := world.connections ++ [settings] })
  | .now, world => (world.time, world)
  | .sleepUntil deadline, world =>
    ((), { world with
      deadlines := world.deadlines ++ [deadline]
      time := deadline })
  | .printLine line, world => (.ok (), { world with lines := world.lines ++ [line] })
  | .printErrorLine line, world =>
    (.ok (), { world with errorLines := world.errorLines ++ [line] })
  | .printHelp, world => ((), { world with helpShown := true })
  | .openRunLog file debug, world => world.openRunLog file debug
  | .note event, world => ((), world.note event)

/-- Let a world answer an action. -/
def run (action : Action α) (world : World φ) : Except Failure α × World φ :=
  Program.run answer action.attempt world

end World

end ModelRuns
