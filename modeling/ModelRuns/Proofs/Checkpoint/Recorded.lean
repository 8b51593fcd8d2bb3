import Mathlib.Data.List.DropRight
import ModelRuns.Checkpoint
import ModelRuns.Proofs.Path.Components
import ModelRuns.Proofs.Resource.Id
import ModelRuns.Proofs.Trace.Texts

namespace ModelRuns

/-!
# What a checkpoint holds

Each checkpoint has a file of its own.  Appending identifiers leaves whatever the
file held before and puts one line for each behind it, provided that nothing was
left open; the identifiers of a file that began empty are read back as they are.
Behind another text they are read back exactly if it ends in blanks.
-/

namespace Checkpoint

theorem mem_all (checkpoint : Checkpoint) : checkpoint ∈ all := by
  cases checkpoint <;> decide

/-! ## Files -/

theorem fileName_isPlain (checkpoint : Checkpoint) :
    Path.IsPlainName checkpoint.fileName := by
  cases checkpoint <;> decide

theorem fileName_injective (first second : Checkpoint)
    (equal : first.fileName = second.fileName) : first = second := by
  have found : ∀ checkpoint : Checkpoint, ofFileName? checkpoint.fileName = some checkpoint := by
    intro checkpoint
    cases checkpoint <;> decide
  have both := congrArg ofFileName? equal
  rw [found, found] at both
  exact Option.some.inj both

/-- Different checkpoints have different files. -/
theorem path_same_iff (directory : Path) (first second : Checkpoint) :
    (path directory first).same (path directory second) = true ↔ first = second := by
  constructor
  · intro same
    rw [Path.same, beq_iff_eq, path, path,
      Path.components_child directory first.fileName_isPlain,
      Path.components_child directory second.fileName_isPlain] at same
    have names : first.fileName = second.fileName := by simpa using same
    exact fileName_injective first second names
  · rintro rfl
    exact Path.same_self _

theorem path_injective (directory : Path) (first second : Checkpoint)
    (equal : path directory first = path directory second) : first = second := by
  apply (path_same_iff directory first second).mp
  rw [equal]
  exact Path.same_self _

/-! ## Texts -/

/-- The text of a file after identifiers were appended to it.  Without any it is
as it was, and may be missing. -/
def recorded (text : Option String) : List ResourceId → Option String
  | [] => text
  | id :: rest => some (text.getD "" ++ withFeeds ((id :: rest).map ResourceId.text))

@[simp] theorem recorded_nil (text : Option String) : recorded text [] = text := rfl

theorem recorded_append (text : Option String) (front back : List ResourceId) :
    recorded (recorded text front) back = recorded text (front ++ back) := by
  cases front with
  | nil => rfl
  | cons first front =>
    cases back with
    | nil => simp
    | cons last back =>
      simp only [recorded, Option.getD_some, List.cons_append, String.append_assoc,
        ← withFeeds_append, List.map_cons, List.map_append]

/-- Appending the line of an identifier. -/
theorem recorded_singleton (text : Option String) (id : ResourceId) :
    recorded text [id] = some (text.getD "" ++ id.text ++ "\n") := by
  simp [recorded, String.append_assoc]

theorem fitsLine_of_valid (ids : List ResourceId) (valid : ∀ id ∈ ids, id.Valid) :
    ∀ line ∈ ids.map ResourceId.text, FitsLine line := by
  intro line member
  rcases List.mem_map.mp member with ⟨id, inside, rfl⟩
  exact fitsLine_of_solid _ (valid id inside).solid

/-- Identifiers stand as lines of their own behind a terminated text. -/
theorem lines_recorded (text : Option String) (ids : List ResourceId)
    (terminated : ids = [] ∨ Terminated (text.getD "")) (valid : ∀ id ∈ ids, id.Valid) :
    lines ((recorded text ids).getD "") = lines (text.getD "") ++ ids.map ResourceId.text := by
  cases ids with
  | nil => simp
  | cons id rest =>
    rcases terminated with impossible | terminated
    · cases impossible
    · exact lines_append_withFeeds _ _ terminated (fitsLine_of_valid _ valid)

/-- Behind any other text the first of them is lost in the last line. -/
theorem terminated_of_recorded (text : Option String) (ids : List ResourceId) (present : ids ≠ [])
    (valid : ∀ id ∈ ids, id.Valid)
    (kept : lines (text.getD "") <+: lines ((recorded text ids).getD "")) :
    Terminated (text.getD "") := by
  cases ids with
  | nil => exact absurd rfl present
  | cons id rest =>
    exact terminated_of_lines_prefix _ _ _ id.text_ne_empty (fitsLine_of_valid _ valid) kept

/-! ## Reading back -/

/-- Trimming leaves the lines of identifiers alone, and none of them is blank. -/
theorem filter_trim_texts (ids : List ResourceId) (valid : ∀ id ∈ ids, id.Valid) :
    ((ids.map ResourceId.text).map trim).filter (fun line => line ≠ "") =
      ids.map ResourceId.text := by
  have trimmed : (ids.map ResourceId.text).map trim = ids.map ResourceId.text := by
    rw [List.map_map]
    apply List.map_congr_left
    intro id member
    exact trim_of_solid _ (valid id member).solid
  rw [trimmed, List.filter_eq_self]
  intro line member
  rcases List.mem_map.mp member with ⟨id, _, rfl⟩
  exact decide_eq_true id.text_ne_empty

theorem idLines_withFeeds (ids : List ResourceId) (valid : ∀ id ∈ ids, id.Valid) :
    idLines (withFeeds (ids.map ResourceId.text)) = ids.map ResourceId.text := by
  rw [idLines, lines_withFeeds _ (fitsLine_of_valid ids valid), filter_trim_texts ids valid]

/-- The identifiers that were appended to a new file are read back from it. -/
theorem ofText_withFeeds (file : Path) (ids : List ResourceId) (valid : ∀ id ∈ ids, id.Valid) :
    ofText file (withFeeds (ids.map ResourceId.text)) = .ok ids := by
  rw [ofText, idLines_withFeeds ids valid]
  induction ids with
  | nil => rfl
  | cons id rest inductionHypothesis =>
    have others := inductionHypothesis fun other member =>
      valid other (List.mem_cons_of_mem id member)
    have first := (valid id List.mem_cons_self).parse_text
    rw [List.map_cons, List.mapM_cons, first, others]
    rfl

theorem ofText_recorded_none (file : Path) (ids : List ResourceId)
    (valid : ∀ id ∈ ids, id.Valid) : ofText file ((recorded none ids).getD "") = .ok ids := by
  have whole : (recorded none ids).getD "" = withFeeds (ids.map ResourceId.text) := by
    cases ids <;> simp [recorded]
  rw [whole]
  exact ofText_withFeeds file ids valid

/-! ## Behind other texts -/

/-- Nothing but blanks stands behind the last line break of a text. -/
def EndsBlank (text : String) : Prop :=
  (text.toList.reverse.takeWhile (· ≠ '\n')).all isBlank = true

instance (text : String) : Decidable (EndsBlank text) := inferInstanceAs (Decidable (_ = true))

theorem endsBlank_append_iff {front rest : String} (terminated : Terminated front)
    (plain : '\n' ∉ rest.toList) : EndsBlank (front ++ rest) ↔ allBlank rest = true := by
  have opened : (front ++ rest).toList.reverse.takeWhile (· ≠ '\n') = rest.toList.reverse := by
    have passes : ∀ c ∈ rest.toList.reverse, decide (c ≠ '\n') = true := fun c member =>
      decide_eq_true fun same => plain (same ▸ List.mem_reverse.mp member)
    rw [String.toList_append, List.reverse_append, List.takeWhile_append_of_pos passes]
    rcases terminated with empty | ended
    · rw [empty]
      simp
    · rcases List.getLast?_eq_some_iff.mp ended with ⟨closed, split⟩
      rw [split, List.reverse_append]
      simp
  rw [EndsBlank, opened, allBlank, List.all_reverse]

/-- A text is what ends with its last line break, and an open line that may be empty. -/
theorem exists_opened (text : String) :
    ∃ front opened, text = front ++ opened ∧ Terminated front ∧ '\n' ∉ opened.toList := by
  by_cases terminated : Terminated text
  · exact ⟨text, "", (String.append_empty ..).symm, terminated, List.not_mem_nil⟩
  · rcases exists_open_line text terminated with ⟨front, opened, whole, closed, _, plain⟩
    exact ⟨front, opened, whole, closed, plain⟩

section

variable {front opened : String} (terminated : Terminated front) (plain : '\n' ∉ opened.toList)

include terminated plain

/-- A blank open line counts for nothing. -/
theorem idLines_of_blank (blank : allBlank opened = true) :
    idLines (front ++ opened) = idLines front := by
  by_cases present : opened = ""
  · rw [present, String.append_empty]
  · have nothing : trim opened = "" := by
      have skipped : opened.toList.dropWhile isBlank = [] :=
        List.dropWhile_eq_nil_iff.mpr (List.all_eq_true.mp blank)
      rw [trim, trimBlank, skipped]
      rfl
    rw [idLines, lines_append_of_terminated _ _ terminated, lines_open opened present plain,
      List.map_append, List.map_singleton, nothing, List.filter_append]
    simp [idLines]

/-- The first identifier that is appended becomes the end of the open line. -/
theorem idLines_recorded_opened {text : Option String} (whole : text.getD "" = front ++ opened)
    {id : ResourceId} {rest : List ResourceId} (valid : ∀ other ∈ id :: rest, other.Valid) :
    idLines ((recorded text (id :: rest)).getD "") =
      idLines front ++ (String.ofList (opened.toList.dropWhile isBlank) ++ id.text) ::
        rest.map ResourceId.text := by
  have others : ∀ other ∈ rest, other.Valid := fun other member =>
    valid other (List.mem_cons_of_mem id member)
  have solid := (valid id List.mem_cons_self).solid
  have characters : id.text.toList ≠ [] := fun empty =>
    id.text_ne_empty (String.toList_eq_nil_iff.mp empty)
  have first : trim (opened ++ id.text) =
      String.ofList (opened.toList.dropWhile isBlank) ++ id.text := by
    rw [trim, String.toList_append, trimBlank_append_solid _ characters solid, String.ofList_append,
      String.ofList_toList]
  have present : trim (opened ++ id.text) ≠ "" := by
    rw [first]
    intro empty
    have none := congrArg String.toList empty
    rw [String.toList_append] at none
    exact characters (List.append_eq_nil_iff.mp none).2
  have all : lines ((recorded text (id :: rest)).getD "") =
      lines front ++ (opened ++ id.text) :: rest.map ResourceId.text := by
    rw [recorded, Option.getD_some, whole, List.map_cons, withFeeds_cons, ← String.append_assoc,
      ← String.append_assoc, lines_append_of_terminated _ _ (terminated_append_feed _),
      lines_append_line_of_open front opened id.text terminated plain id.text_ne_empty
        (fitsLine_of_solid _ solid),
      lines_withFeeds _ (fitsLine_of_valid rest others), List.append_assoc, List.singleton_append]
  rw [idLines, all, List.map_append, List.map_cons, List.filter_append, List.filter_cons,
    if_pos (decide_eq_true present), filter_trim_texts rest others, first]
  rfl

end

/-- Behind a text that ends in blanks identifiers stand on lines of their own. -/
theorem idLines_recorded (text : Option String) (ids : List ResourceId)
    (ends : EndsBlank (text.getD "")) (valid : ∀ id ∈ ids, id.Valid) :
    idLines ((recorded text ids).getD "") =
      idLines (text.getD "") ++ ids.map ResourceId.text := by
  cases ids with
  | nil => simp
  | cons id rest =>
    rcases exists_opened (text.getD "") with ⟨front, opened, whole, terminated, plain⟩
    rw [whole] at ends
    have blank := (endsBlank_append_iff terminated plain).mp ends
    have skipped : opened.toList.dropWhile isBlank = [] :=
      List.dropWhile_eq_nil_iff.mpr (List.all_eq_true.mp blank)
    rw [idLines_recorded_opened terminated plain whole valid, whole,
      idLines_of_blank terminated plain blank, skipped]
    simp

/-- What was appended to a text that ends in blanks is read behind the identifiers of the
text. -/
theorem ofText_recorded {file : Path} {text : Option String} {ids found : List ResourceId}
    (read : ofText file ((recorded text ids).getD "") = .ok found)
    (ends : EndsBlank (text.getD "")) (valid : ∀ id ∈ ids, id.Valid) :
    ∃ given, ofText file (text.getD "") = .ok given ∧ found = given ++ ids := by
  have behind := ofText_withFeeds file ids valid
  rw [ofText, idLines_withFeeds ids valid] at behind
  rw [ofText, idLines_recorded text ids ends valid, List.mapM_append, behind] at read
  cases first : ofText file (text.getD "") with
  | error failure =>
    rw [ofText] at first
    rw [first] at read
    cases read
  | ok given =>
    rw [ofText] at first
    rw [first] at read
    exact ⟨given, rfl, (Except.ok.inj read).symm⟩

/-- Behind any other open line the first identifier that is appended is not read. -/
theorem endsBlank_of_ofText {file : Path} {text : Option String} {given rest : List ResourceId}
    {id : ResourceId} (read : ofText file ((recorded text (id :: rest)).getD "") =
      .ok (given ++ id :: rest))
    (valid : ∀ other ∈ id :: rest, other.Valid) : EndsBlank (text.getD "") := by
  rcases exists_opened (text.getD "") with ⟨front, opened, whole, terminated, plain⟩
  rw [whole, endsBlank_append_iff terminated plain]
  have solid := (valid id List.mem_cons_self).solid
  have characters : id.text.toList ≠ [] := fun empty =>
    id.text_ne_empty (String.toList_eq_nil_iff.mp empty)
  have behind := ofText_withFeeds file rest fun other member =>
    valid other (List.mem_cons_of_mem id member)
  rw [ofText, idLines_withFeeds rest fun other member =>
    valid other (List.mem_cons_of_mem id member)] at behind
  rw [ofText, idLines_recorded_opened terminated plain whole valid, List.mapM_append,
    List.mapM_cons, behind] at read
  cases before : ofText file front with
  | error failure =>
    rw [ofText] at before
    rw [before] at read
    cases read
  | ok first =>
    rw [ofText] at before
    rw [before] at read
    cases parsed : ResourceId.parse
        (String.ofList (opened.toList.dropWhile isBlank) ++ id.text) with
    | error failure =>
      rw [parsed] at read
      cases read
    | ok made =>
      rw [parsed] at read
      have same : made = id := by
        have split := List.append_inj_right' (Except.ok.inj read) rfl
        exact (List.cons.inj split).1
      have text := ResourceId.text_of_parse parsed
      rw [same, trim, String.toList_append, String.toList_ofList,
        trimBlank_append_solid _ characters solid, List.dropWhile_idempotent] at text
      have nothing : opened.toList.dropWhile isBlank = [] := by
        have lists := congrArg String.toList text
        rw [String.toList_ofList] at lists
        exact List.self_eq_append_left.mp lists
      exact List.all_eq_true.mpr (List.dropWhile_eq_nil_iff.mp nothing)

/-- What was appended to a text is read behind the identifiers of the text, exactly if
nothing was appended or the text ends in blanks. -/
theorem ofText_recorded_iff {file : Path} {text : Option String} {given ids : List ResourceId}
    (valid : ∀ id ∈ ids, id.Valid) :
    ofText file ((recorded text ids).getD "") = .ok (given ++ ids) ↔
      ofText file (text.getD "") = .ok given ∧ (ids = [] ∨ EndsBlank (text.getD "")) := by
  cases ids with
  | nil => simp
  | cons id rest =>
    constructor
    · intro read
      have ends := endsBlank_of_ofText read valid
      rcases ofText_recorded read ends valid with ⟨found, first, same⟩
      exact ⟨List.append_cancel_right same ▸ first, .inr ends⟩
    · rintro ⟨first, impossible | ends⟩
      · cases impossible
      have behind := ofText_withFeeds file (id :: rest) valid
      rw [ofText, idLines_withFeeds _ valid] at behind
      rw [ofText] at first
      rw [ofText, idLines_recorded text _ ends valid, List.mapM_append, behind, first]
      rfl

end Checkpoint

end ModelRuns
