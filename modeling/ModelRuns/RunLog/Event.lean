import ModelRuns.Json.Printer

namespace ModelRuns

/-!
# Events of the run log

A run reports what happens as events: a level, a type and a payload.  Each event
becomes one line of the run log, an object in the compact form.  A payload that
is too long is cut and becomes a text that ends in three dots.
-/

/-- Something that happened in a run. -/
structure RunEvent where
  level : String
  type : String
  payload : Json

/-- The level of events that are kept only while debugging. -/
def debugLevel : String := "debug"

/-- The number of bytes a payload may take. -/
def payloadLimit : Nat := 4096

/-- The position that is an offset of bytes away from the start of a text, or the
first one before it that splits no character. -/
def boundaryBefore (text : String) : (offset : Nat) → text.Pos
  | 0 => text.startPos
  | offset + 1 =>
    if boundary : String.Pos.Raw.IsValid text ⟨offset + 1⟩ then
      text.pos ⟨offset + 1⟩ boundary
    else boundaryBefore text offset

/-- The characters of a text that lie before an offset of bytes. -/
def frontBefore (text : String) (offset : Nat) : String :=
  (text.sliceTo (boundaryBefore text offset)).copy

/-- The payload as it is logged: itself when its compact form fits, else the
front of that form with three dots. -/
def fitPayload (limit : Nat) (payload : Json) : Json :=
  let written := payload.compact
  if written.utf8ByteSize ≤ limit then payload
  else .text (frontBefore written (limit - 3) ++ "...")

namespace RunEvent

variable (event : RunEvent)

/-- The line of an event in the run log. -/
def line (limit : Nat) : String :=
  compactRecord [("level", .text event.level), ("event_type", .text event.type),
    ("payload", fitPayload limit event.payload)]

/-- A text with its line breaks written as escapes. -/
def escapeBreaks (text : String) : String :=
  String.ofList (text.toList.flatMap fun c => if c = '\n' then ['\\', 'n'] else [c])

/-- The line that shows an event on the terminal. -/
def consoleLine (type level message : String) : String :=
  "event=" ++ type ++ " level=" ++ level ++ " message=" ++ escapeBreaks message ++ " "

/-- The line of an event on the terminal. -/
def console : String := consoleLine event.type event.level event.payload.compact

end RunEvent

end ModelRuns
