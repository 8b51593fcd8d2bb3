import ModelRuns.Checkpoint
import ModelRuns.Json.Reader
import ModelRuns.Resource.Waiting
import ModelRuns.Run.Paths
import ModelRuns.SessionLog
import ModelRuns.Stage

namespace ModelRuns

/-!
# What the stages of a run have in common

A stage fetches resources named by the user and obtains new ones.  To obtain a
resource is to take it up from its checkpoint while the run resumes, and to
create it otherwise; its identifier is appended to the checkpoint before
anything else is asked of the service.

`RunContext` is what stays the same throughout a run, and `Progress` what
changes: the cursor and the resources met so far.
-/

/-- What stays the same throughout a run. -/
structure RunContext where
  log : SessionLog
  settings : ApiSettings
  paths : RunPaths
  runId : Option String
  command : String

/-- What changes in the course of a run.  `met` holds each resource once for
every stage that met it, in order. -/
structure Progress where
  cursor : Cursor
  met : List (Stage × ResourceId)

namespace Progress

/-- Before the first stage. -/
def start (resuming : Bool) : Progress := ⟨.start resuming, []⟩

/-- Note that a stage met a resource. -/
def meet (progress : Progress) (stage : Stage) (id : ResourceId) : Progress :=
  if progress.met.contains (stage, id) then progress
  else { progress with met := progress.met ++ [(stage, id)] }

/-- The resources met by a stage. -/
def ofStage (progress : Progress) (stage : Stage) : List ResourceId :=
  progress.met.filterMap fun (other, id) => if other = stage then some id else none

/-- The stages that met a resource, and the identifiers of those. -/
def resources (progress : Progress) : List (String × List String) :=
  Stage.all.filterMap fun stage =>
    match progress.ofStage stage with
    | [] => none
    | ids => some (stage.text, ids.map ResourceId.text)

end Progress

instance : HasCursor Progress :=
  ⟨Progress.cursor, fun progress cursor => { progress with cursor }⟩

/-- A step of a run. -/
abbrev Step := Stateful Progress

namespace RunContext

variable (run : RunContext)

/-- How the run waits for resources. -/
def policy : WaitPolicy := ⟨run.settings.pollIntervalMs, run.settings.maxPolls⟩

/-- Log a step. -/
def say (message : String) : Step Unit := Stateful.act (run.log.step message)

/-- A path as seen from the working directory. -/
def resolvePath (path : Path) : Path := absolutize run.paths.directory path

/-- Note that a stage met a resource. -/
def meet (stage : Stage) (id : ResourceId) : Step Unit :=
  modify fun progress => progress.meet stage id

/-- Wait for a resource named by the user. -/
def fetch (stage : Stage) (reference : ResourceReference) : Step Resource := do
  match reference with
  | .unresolved id => run.say ("Retrieving " ++ id.text ++ ".")
  | .resolved _ => pure ()
  let resource ← Stateful.act (run.policy.resolve reference none)
  meet stage resource.id
  return resource

/-- Wait for several resources named by the user, one after the other. -/
def fetchAll (stage : Stage) : List ResourceReference → Step (List Resource)
  | [] => return []
  | reference :: rest => do
    let resource ← run.fetch stage reference
    return resource :: (← fetchAll stage rest)

/-- Wait for a resource of this run. -/
def await (stage : Stage) (id : ResourceId) : Step Resource := do
  let resource ← Stateful.act (run.policy.await id none)
  meet stage resource.id
  return resource

/-- Wait for several resources of this run, one after the other. -/
def awaitAll (stage : Stage) : List ResourceId → Step (List Resource)
  | [] => return []
  | id :: rest => do
    let resource ← run.await stage id
    return resource :: (← awaitAll stage rest)

/-- Create a resource and append its identifier to the checkpoint. -/
def create (stage : Stage) (checkpoint : Checkpoint) (creation : Creation) :
    Step ResourceId := do
  run.say ("Creating " ++ creation.kind.text ++ ".")
  let created ← Stateful.act (Action.create creation)
  Stateful.act (Checkpoint.append run.paths.output checkpoint created.id)
  Stateful.act (Action.note "info" "resource.created"
    [("stage", .text stage.text), ("resource", .text created.id.text)])
  run.say (creation.kind.text ++ " created: " ++ created.id.text)
  return created.id

/-- Create several resources, one after the other. -/
def createAll (stage : Stage) (checkpoint : Checkpoint) :
    List Creation → Step (List ResourceId)
  | [] => return []
  | creation :: rest => do
    let id ← run.create stage checkpoint creation
    return id :: (← createAll stage checkpoint rest)

/-- Create a resource and wait for it. -/
def createAndAwait (stage : Stage) (checkpoint : Checkpoint) (creation : Creation) :
    Step Resource := do
  run.await stage (← run.create stage checkpoint creation)

/-- Say that a resource is taken up. -/
def sayReusing (id : ResourceId) : Step Unit := run.say ("Reusing " ++ id.text ++ ".")

/-- Obtain one resource: take it up while resuming, if its checkpoint holds one,
and create it otherwise. -/
def obtainOne (stage : Stage) (checkpoint : Checkpoint) (creation : Creation) :
    Step Resource := do
  if (← Stateful.cursor).resuming then
    match ← Stateful.act (Checkpoint.first? run.paths.output checkpoint) with
    | some id =>
      run.sayReusing id
      run.await stage id
    | none =>
      Stateful.checkpointMissing
      run.createAndAwait stage checkpoint creation
  else run.createAndAwait stage checkpoint creation

/-- Take up what a checkpoint holds, at most a number of resources. -/
def takeUp (checkpoint : Checkpoint) (count : Nat) : Step (List ResourceId) := do
  if (← Stateful.cursor).resuming then
    let ids := (← Stateful.act (Checkpoint.read run.paths.output checkpoint)).take count
    ids.forM run.sayReusing
    if ids.length < count then Stateful.checkpointMissing
    return ids
  else return []

/-- Obtain several resources.  Only the requests beyond those taken up are
sent, and all resources are awaited after that. -/
def obtainMany (stage : Stage) (checkpoint : Checkpoint) (creations : List Creation) :
    Step (List Resource) := do
  let known ← run.takeUp checkpoint creations.length
  let created ← run.createAll stage checkpoint (creations.drop known.length)
  run.awaitAll stage (known ++ created)

/-- Change fields of a resource. -/
def update (resource : Resource) (changes : Json) : Step Unit := do
  Stateful.act (Action.note debugLevel "resource.update"
    [("resource", .text resource.id.text), ("changes", changes)])
  let _ ← Stateful.act (Action.update resource.id changes)
  return ()

/-! ## Input and output files -/

/-- The identifiers in the text of a file: one a line, with comments after a
number sign at the start of a line. -/
def idsOfText (kind : ResourceKind) (text : String) : Except Failure (List ResourceId) :=
  ((Checkpoint.idLines text).filter (fun line => line.toList.head? ≠ some '#')).mapM
    (ResourceId.parseKind · kind)

/-- Read a file of identifiers. -/
def readIds (path : Path) (kind : ResourceKind) : Step (List ResourceId) :=
  Stateful.act do
    Action.ofExcept (idsOfText kind (← Action.readText (run.resolvePath path)))

/-- Read a file that holds a document. -/
def readJson (path : Path) : Step Json :=
  Stateful.act do
    let path := run.resolvePath path
    match Json.read (← Action.readText path) with
    | .ok document => return document
    | .error error =>
      throw (.objection (.invalidValue
        (path.text ++ " is not valid JSON: " ++ error.message)))

/-- Download the values of a resource into a file. -/
def saveTo (id : ResourceId) (path : Path) : Step Unit := do
  let values ← Stateful.act (Action.download id)
  Stateful.act (Action.writeFile path values)
  run.say ("Saved " ++ id.text ++ " to " ++ path.text ++ ".")

/-- Download the values of several resources into numbered files. -/
def saveNumbered (path : Path) (index : Nat) : List Resource → Step Unit
  | [] => return ()
  | resource :: rest => do
    run.saveTo resource.id (numberedOutput path index)
    saveNumbered path (index + 1) rest

/-- Say for each of a list of files that a result was saved there. -/
def saySaved (what : String) (files : List Path) : Step Unit :=
  files.forM fun file => run.say (what ++ " saved to " ++ file.text ++ ".")

end RunContext

end ModelRuns
