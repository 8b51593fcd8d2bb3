import Mathlib.Data.List.Forall2
import ModelRuns.RunLog.Event
import ModelRuns.Proofs.Disk.Logs
import ModelRuns.Proofs.Json.Compact
import ModelRuns.Proofs.Text.Lines

namespace ModelRuns

/-!
# The lines of a run log

Every event becomes one line, whatever its level, type and payload are: control characters
in them are escaped, so the only line break is the one behind the line.  A payload whose
compact form is too long is cut before an offset of bytes.  The cut is found by stepping
back from there to the first place that splits no character, and it is the last one: what is
kept is the longest front that fits.
-/

/-! ## The front of a text -/

/-- Of all fronts of a text with at most a number of bytes, the one with the most. -/
structure IsLongestFront (limit : Nat) (text front : String) : Prop where
  begins : ∃ rest, text = front ++ rest
  fits : front.utf8ByteSize ≤ limit
  longest : ∀ other rest, text = other ++ rest → other.utf8ByteSize ≤ limit →
    other.utf8ByteSize ≤ front.utf8ByteSize

theorem boundaryBefore_le (text : String) (offset : Nat) :
    (boundaryBefore text offset).offset.byteIdx ≤ offset := by
  induction offset with
  | zero => exact Nat.le_refl 0
  | succ offset inductionHypothesis =>
    rw [boundaryBefore]
    split
    next => exact Nat.le_refl (offset + 1)
    next => exact Nat.le_succ_of_le inductionHypothesis

/-- The search passes over no position. -/
theorem le_boundaryBefore {text : String} {offset : Nat} (position : text.Pos)
    (near : position.offset.byteIdx ≤ offset) :
    position.offset.byteIdx ≤ (boundaryBefore text offset).offset.byteIdx := by
  induction offset with
  | zero => exact near
  | succ offset inductionHypothesis =>
    rw [boundaryBefore]
    split
    next => exact near
    next splits =>
      have apart : position.offset.byteIdx ≠ offset + 1 := fun same =>
        splits (same ▸ position.isValid)
      exact inductionHypothesis (by omega)

theorem isLongestFront_frontBefore (text : String) (offset : Nat) :
    IsLongestFront offset text (frontBefore text offset) := by
  have parts := (boundaryBefore text offset).splits
  have size : (frontBefore text offset).utf8ByteSize =
      (boundaryBefore text offset).offset.byteIdx :=
    (congrArg String.Pos.Raw.byteIdx parts.offset_eq_rawEndPos).symm
  refine ⟨⟨_, parts.eq_append⟩, ?_, fun other rest whole near => ?_⟩
  · rw [size]
    exact boundaryBefore_le text offset
  · have boundary : other.rawEndPos.IsValid text :=
      String.Pos.Raw.isValid_iff_exists_append.mpr ⟨other, rest, whole, rfl⟩
    rw [size]
    exact le_boundaryBefore (text.pos other.rawEndPos boundary) near

-- The letter behind the first takes two bytes, and two bytes do not hold both letters.
example : frontBefore "aé" 2 = "a" ∧ frontBefore "aé" 3 = "aé" := by decide +kernel

/-! ## Payloads -/

/-- How a payload is shown in at most a number of bytes: as it is, or as a text that is the
longest front of its compact form which leaves room for three dots, and these dots. -/
inductive ShownWithin (limit : Nat) (payload : Json) : Json → Prop
  | whole (fits : payload.compact.utf8ByteSize ≤ limit) : ShownWithin limit payload payload
  | cut {front : String} (long : limit < payload.compact.utf8ByteSize)
      (longest : IsLongestFront (limit - 3) payload.compact front)
      (fits : (front ++ "...").utf8ByteSize ≤ limit) :
      ShownWithin limit payload (.text (front ++ "..."))

theorem shownWithin_fitPayload {limit : Nat} (room : 3 ≤ limit) (payload : Json) :
    ShownWithin limit payload (fitPayload limit payload) := by
  by_cases fits : payload.compact.utf8ByteSize ≤ limit
  · rw [fitPayload, if_pos fits]
    exact .whole fits
  · rw [fitPayload, if_neg fits]
    have longest := isLongestFront_frontBefore payload.compact (limit - 3)
    refine .cut (Nat.lt_of_not_le fits) longest ?_
    have dots : ("..." : String).utf8ByteSize = 3 := by decide
    have kept := longest.fits
    rw [String.utf8ByteSize_append, dots]
    omega

/-! ## Lines -/

/-- A line that stands for an event: one line, the compact form of an object that holds the
level and the type of the event and shows its payload. -/
structure IsLineOf (limit : Nat) (event : RunEvent) (line : String) : Prop where
  fits : FitsLine line
  written : ∃ shown, ShownWithin limit event.payload shown ∧
    line = Json.compact (.object [("level", .text event.level),
      ("event_type", .text event.type), ("payload", shown)])

/-- The compact form of a document is one line. -/
theorem fitsLine_compact (document : Json) : FitsLine document.compact := by
  have free := freeOfControls_compactChars document
  rw [FitsLine, Json.compact, String.toList_ofList]
  refine ⟨free.feed_not_mem, fun ended => ?_⟩
  exact absurd (free '\r' (List.mem_of_getLast? ended)) (by decide)

theorem RunEvent.isLineOf_line {limit : Nat} (room : 3 ≤ limit) (event : RunEvent) :
    IsLineOf limit event (event.line limit) :=
  ⟨fitsLine_compact _, _, shownWithin_fitPayload room event.payload, rfl⟩

/-! ## Events on a disk -/

namespace Disk

variable {disk cleared : Disk} {path : Path} {limit : Nat} {bytes : List UInt8}

/-- Append events to a run log, one after the other, up to the first that fails. -/
def appendEvents (limit : Nat) (path : Path) : List RunEvent → Disk → Except Failure Unit × Disk
  | [], disk => (.ok (), disk)
  | event :: rest, disk =>
    match disk.appendLog path (event.line limit) with
    | (.ok (), later) => appendEvents limit path rest later
    | failed => failed

theorem HasLog.appendEvents (log : disk.HasLog path bytes) (limit : Nat)
    (events : List RunEvent) :
    ∃ later, disk.appendEvents limit path events = (.ok (), later) ∧
      later.HasLog path (bytes ++ encodeUtf8 (withFeeds (events.map (·.line limit)))) := by
  induction events generalizing disk bytes with
  | nil => exact ⟨disk, rfl, by simpa [encodeUtf8_eq] using log⟩
  | cons event rest inductionHypothesis =>
    obtain ⟨later, appended, longer⟩ := log.appendLog (event.line limit)
    obtain ⟨final, all, whole⟩ := inductionHypothesis longer
    refine ⟨final, ?_, ?_⟩
    · simp only [Disk.appendEvents, appended]
      exact all
    · rwa [List.map_cons, withFeeds_cons, encodeUtf8_append, ← List.append_assoc]

/-- Events that are appended to a run log that was emptied succeed, and the log then holds
one line for each event, in order, each with its line break, and nothing else. -/
theorem appendEvents_of_clearLog (room : 3 ≤ limit)
    (clears : disk.clearLog path = (.ok (), cleared)) (events : List RunEvent) :
    ∃ later written, cleared.appendEvents limit path events = (.ok (), later) ∧
      later.readBytes path = .ok (encodeUtf8 (withFeeds written)) ∧
      lines (withFeeds written) = written ∧ List.Forall₂ (IsLineOf limit) events written := by
  obtain ⟨later, appended, log⟩ := (hasLog_of_clearLog clears).appendEvents limit events
  rw [List.nil_append] at log
  refine ⟨later, events.map (·.line limit), appended, log.holds.readBytes, ?_, ?_⟩
  · refine lines_withFeeds _ fun line member => ?_
    obtain ⟨event, -, rfl⟩ := List.mem_map.mp member
    exact (event.isLineOf_line room).fits
  · rw [List.forall₂_map_right_iff, List.forall₂_same]
    exact fun event _ => event.isLineOf_line room

/-- A run log in a directory that is yet to be made. -/
def nestedLog : Path := ⟨"/logs/run.jsonl"⟩

/-- A disk with that log, still empty. -/
def nestedDisk : Disk := ⟨[], [(["logs"], .directory), (["logs", "run.jsonl"], .file [])]⟩

/-- An event whose payload fits into twelve bytes. -/
def shortEvent : RunEvent := ⟨"info", "stage", .number (.whole 1)⟩

/-- An event whose payload would be cut within a letter. -/
def accentedEvent : RunEvent := ⟨"info", "text", .text "abcdefgéé"⟩

/-- Both events are logged, and a letter of which one byte would fit is left out. -/
theorem appendEvents_of_clearLog_accented :
    3 ≤ 12 ∧ empty.clearLog nestedLog = (.ok (), nestedDisk) ∧
    [shortEvent, accentedEvent].map (·.line 12) =
      ["\x7b\"level\":\"info\",\"event_type\":\"stage\",\"payload\":1\x7d",
        "\x7b\"level\":\"info\",\"event_type\":\"text\",\"payload\":\"\\\"abcdefg...\"\x7d"] ∧
    ∃ later written,
      nestedDisk.appendEvents 12 nestedLog [shortEvent, accentedEvent] = (.ok (), later) ∧
      later.readBytes nestedLog = .ok (encodeUtf8 (withFeeds written)) ∧
      lines (withFeeds written) = written ∧
      List.Forall₂ (IsLineOf 12) [shortEvent, accentedEvent] written :=
  have clears : empty.clearLog nestedLog = (.ok (), nestedDisk) := by rfl
  ⟨by decide, clears, by decide +kernel, appendEvents_of_clearLog (by decide) clears _⟩

end Disk

end ModelRuns
