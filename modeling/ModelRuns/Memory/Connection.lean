import ModelRuns.Http.Client
import ModelRuns.Memory.World

namespace ModelRuns

/-!
# A connection in memory

A world with a disk may reach the service over its last connection instead of
having one of its own.  Local files that are sent must then be on the disk.
-/

/-- Whether a file can be opened for sending; a directory can be opened too. -/
def Disk.checkFile (disk : Disk) (path : Path) : Except Failure Unit :=
  match disk.readBytes path with
  | .ok _ => .ok ()
  | .error .isDirectory => .ok ()
  | .error fault => .error (.io (path.text ++ ": " ++ fault.message))

namespace World

/-- Send a request to the service. -/
def exchange (send : HttpRequest → Option HttpResponse) (request : ApiRequest)
    (world : World Disk) : request.Answer :=
  match world.connections.getLast? with
  | none => request.fail notConnected
  | some settings =>
    settings.answer (m := Id) (fun path => world.storage.checkFile path) send request

/-- Answer a request, and send what is meant for the service over the last
connection. -/
def answerOver (send : HttpRequest → Option HttpResponse) :
    (request : Request) → World Disk → request.Answer × World Disk
  | .api request, world =>
    let world := match request.event? with
      | some event => world.note event
      | none => world
    (world.exchange send request, world)
  | request, world => world.answer request

/-- Let a world and its connections answer an action. -/
def runOver (send : HttpRequest → Option HttpResponse) (action : Action α)
    (world : World Disk) : Except Failure α × World Disk :=
  Program.run (answerOver send) action.attempt world

end World

end ModelRuns
