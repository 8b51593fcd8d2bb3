import Mathlib.Data.List.Basic
import Mathlib.Data.List.TakeWhile
import ModelRuns.Text.Lines

namespace ModelRuns

/-!
# Texts that grow by lines

A line is appended to a file with its line break behind it, but nothing is put
before it.  So the new line stands on its own only if the text before it is empty
or ends with a line break; otherwise it becomes the end of an open last line.

`Terminated` is that condition.  Both cases are computed here, for one appended
line and for several.
-/

/-! ## Characters -/

theorem linesFrom_plain (current line rest : List Char) (plain : '\n' ∉ line) :
    linesFrom current (line ++ rest) = linesFrom (line.reverse ++ current) rest := by
  induction line generalizing current with
  | nil => rfl
  | cons c line inductionHypothesis =>
    have different : c ≠ '\n' := fun equal => plain (equal ▸ List.mem_cons_self)
    have remaining : '\n' ∉ line := fun member => plain (List.mem_cons_of_mem _ member)
    rw [List.cons_append, linesFrom, if_neg different, inductionHypothesis _ remaining,
      List.reverse_cons, List.append_assoc, List.singleton_append]

theorem linesFrom_feed (current rest : List Char) :
    linesFrom current ('\n' :: rest) = (dropReturn current).reverse :: linesFrom [] rest := by
  rw [linesFrom, if_pos rfl]

/-- The lines up to a line break do not depend on what comes after it. -/
theorem linesFrom_append_feed (current front rest : List Char) :
    linesFrom current (front ++ '\n' :: rest) =
      linesFrom current (front ++ ['\n']) ++ linesFrom [] rest := by
  induction front generalizing current with
  | nil => simp [linesFrom]
  | cons c front inductionHypothesis =>
    simp only [List.cons_append, linesFrom]
    split
    · rw [inductionHypothesis, List.cons_append]
    · exact inductionHypothesis (c :: current)

theorem dropReturn_of_ne (line : List Char) (noReturn : line.head? ≠ some '\r') :
    dropReturn line = line := by
  unfold dropReturn
  split
  · exact absurd rfl noReturn
  · rfl

theorem feed_not_mem_linesFrom (current rest : List Char) (plain : '\n' ∉ current) :
    ∀ line ∈ linesFrom current rest, '\n' ∉ line := by
  induction rest generalizing current with
  | nil =>
    intro line member
    rw [linesFrom] at member
    split at member
    next => cases member
    next => simpa [List.mem_singleton.mp member] using plain
  | cons c rest inductionHypothesis =>
    intro line member
    rw [linesFrom] at member
    split at member
    next =>
      rcases List.mem_cons.mp member with rfl | later
      · have shorter : (dropReturn current).Sublist current := by
          unfold dropReturn
          split
          · exact List.sublist_cons_self _ _
          · exact List.Sublist.refl _
        exact fun inside => plain (shorter.subset (List.mem_reverse.mp inside))
      · exact inductionHypothesis [] List.not_mem_nil line later
    next different =>
      have kept : '\n' ∉ c :: current := by
        rw [List.mem_cons]
        rintro (same | inside)
        · exact different same.symm
        · exact plain inside
      exact inductionHypothesis _ kept line member

/-- No line holds a line break. -/
theorem feed_not_mem_of_mem_lines {text line : String} (member : line ∈ lines text) :
    '\n' ∉ line.toList := by
  rcases List.mem_map.mp member with ⟨characters, listed, rfl⟩
  rw [String.toList_ofList]
  exact feed_not_mem_linesFrom [] _ List.not_mem_nil characters listed

/-! ## One appended line -/

/-- A text is terminated when it is empty or ends with a line break. -/
def Terminated (text : String) : Prop := text.toList = [] ∨ text.toList.getLast? = some '\n'

instance (text : String) : Decidable (Terminated text) :=
  inferInstanceAs (Decidable (_ ∨ _))

/-- A text that can stand as one line: it has no line break, and no carriage
return that would count as part of one. -/
def FitsLine (line : String) : Prop := '\n' ∉ line.toList ∧ line.toList.getLast? ≠ some '\r'

instance (line : String) : Decidable (FitsLine line) := inferInstanceAs (Decidable (_ ∧ _))

theorem terminated_empty : Terminated "" := .inl rfl

theorem terminated_append_feed (text : String) : Terminated (text ++ "\n") :=
  .inr (by simp)

theorem linesFrom_fitting (line : String) (rest : List Char) (fits : FitsLine line) :
    linesFrom [] (line.toList ++ '\n' :: rest) = line.toList :: linesFrom [] rest := by
  rw [linesFrom_plain _ _ _ fits.1, List.append_nil, linesFrom_feed, dropReturn_of_ne,
    List.reverse_reverse]
  rw [List.head?_reverse]
  exact fits.2

/-- Behind a terminated text the lines of any text are its own. -/
theorem lines_append_of_terminated (text rest : String) (terminated : Terminated text) :
    lines (text ++ rest) = lines text ++ lines rest := by
  rcases terminated with empty | ended
  · have same : text = "" := String.toList_eq_nil_iff.mp empty
    subst same
    simp [lines, linesFrom]
  · rcases List.getLast?_eq_some_iff.mp ended with ⟨front, split⟩
    simp only [lines, String.toList_append, split, List.append_assoc, List.singleton_append]
    rw [linesFrom_append_feed, List.map_append]

theorem lines_line (line : String) (fits : FitsLine line) : lines (line ++ "\n") = [line] := by
  have feed : ("\n" : String).toList = '\n' :: [] := rfl
  simp only [lines, String.toList_append, feed]
  rw [linesFrom_fitting line [] fits]
  simp [linesFrom]

/-- A carriage return at the end of a line is lost with the line break. -/
theorem lines_line_of_return (line : String) (plain : '\n' ∉ line.toList) :
    lines (line ++ "\r" ++ "\n") = [line] := by
  have ending : ("\r" : String).toList ++ ("\n" : String).toList = '\r' :: '\n' :: [] := rfl
  have apart : '\n' ∉ ['\r'] := by decide
  simp only [lines, String.toList_append, List.append_assoc, ending]
  rw [linesFrom_plain _ _ _ plain, ← List.singleton_append, linesFrom_plain _ _ _ apart,
    linesFrom_feed]
  simp [dropReturn, linesFrom]

theorem lines_append_line (text line : String) (terminated : Terminated text)
    (fits : FitsLine line) : lines (text ++ line ++ "\n") = lines text ++ [line] := by
  rw [String.append_assoc, lines_append_of_terminated text _ terminated, lines_line line fits]

/-- A text that is not terminated ends with an open line. -/
theorem exists_open_line (text : String) (unterminated : ¬ Terminated text) :
    ∃ front rest, text = front ++ rest ∧ Terminated front ∧ rest ≠ "" ∧ '\n' ∉ rest.toList := by
  let isPlain : Char → Bool := fun c => c ≠ '\n'
  let opened := (text.toList.reverse.takeWhile isPlain).reverse
  let closed := (text.toList.reverse.dropWhile isPlain).reverse
  have whole : text.toList = closed ++ opened := by
    rw [← List.reverse_append, List.takeWhile_append_dropWhile, List.reverse_reverse]
  have plain : '\n' ∉ opened := by
    intro member
    have passed := List.mem_takeWhile_imp (List.mem_reverse.mp member)
    simp [isPlain] at passed
  have ended : closed = [] ∨ closed.getLast? = some '\n' := by
    cases stopped : text.toList.reverse.dropWhile isPlain with
    | nil => exact .inl (by simp [closed, stopped])
    | cons c front =>
      have notPlain := List.head?_dropWhile_not isPlain text.toList.reverse
      rw [stopped] at notPlain
      have feed : c = '\n' := by simpa [isPlain] using notPlain
      exact .inr (by simp [closed, stopped, feed])
  refine ⟨String.ofList closed, String.ofList opened, ?_, ?_, ?_, ?_⟩
  · rw [← String.ofList_append, ← whole, String.ofList_toList]
  · simpa [Terminated] using ended
  · intro empty
    have noRest : opened = [] := by simpa using congrArg String.toList empty
    apply unterminated
    rw [Terminated, whole, noRest, List.append_nil]
    exact ended
  · simpa using plain

theorem lines_open (rest : String) (present : rest ≠ "") (plain : '\n' ∉ rest.toList) :
    lines rest = [rest] := by
  have characters : rest.toList ≠ [] := fun empty => present (String.toList_eq_nil_iff.mp empty)
  have whole := linesFrom_plain [] rest.toList [] plain
  rw [List.append_nil, List.append_nil] at whole
  rw [lines, whole]
  simp [linesFrom, characters]

/-- Behind an open line a line is appended to that line. -/
theorem lines_append_line_of_open (front rest line : String) (terminated : Terminated front)
    (plain : '\n' ∉ rest.toList) (nonempty : line ≠ "") (fits : FitsLine line) :
    lines (front ++ rest ++ line ++ "\n") = lines front ++ [rest ++ line] := by
  have fitting : FitsLine (rest ++ line) := by
    have present : line.toList ≠ [] := fun empty => nonempty (String.toList_eq_nil_iff.mp empty)
    constructor
    · simp only [String.toList_append, List.mem_append, not_or]
      exact ⟨plain, fits.1⟩
    · rw [String.toList_append, List.getLast?_append_of_ne_nil _ present]
      exact fits.2
  have grouped : front ++ rest ++ line ++ "\n" = front ++ (rest ++ line) ++ "\n" := by
    simp only [String.append_assoc]
  rw [grouped, lines_append_line front _ terminated fitting]

/-! ## Several appended lines -/

/-- Lines with their line breaks. -/
def withFeeds (appended : List String) : String :=
  String.join (appended.map (· ++ "\n"))

@[simp] theorem withFeeds_nil : withFeeds [] = "" := rfl

@[simp] theorem withFeeds_cons (line : String) (rest : List String) :
    withFeeds (line :: rest) = line ++ "\n" ++ withFeeds rest := by
  simp [withFeeds]

theorem withFeeds_append (front back : List String) :
    withFeeds (front ++ back) = withFeeds front ++ withFeeds back := by
  simp [withFeeds]

theorem terminated_append_withFeeds (text : String) (appended : List String)
    (terminated : Terminated text) : Terminated (text ++ withFeeds appended) := by
  induction appended generalizing text with
  | nil => simpa using terminated
  | cons line rest inductionHypothesis =>
    have grouped : text ++ withFeeds (line :: rest) = text ++ line ++ "\n" ++ withFeeds rest := by
      simp [String.append_assoc]
    rw [grouped]
    exact inductionHypothesis _ (terminated_append_feed _)

theorem lines_withFeeds (appended : List String) (fits : ∀ line ∈ appended, FitsLine line) :
    lines (withFeeds appended) = appended := by
  induction appended with
  | nil => rfl
  | cons line rest inductionHypothesis =>
    have first := fits line List.mem_cons_self
    have others := fun other member => fits other (List.mem_cons_of_mem line member)
    rw [withFeeds_cons, lines_append_of_terminated _ _ (terminated_append_feed line),
      lines_line line first, inductionHypothesis others, List.singleton_append]

/-- The appended lines stand on their own behind a terminated text. -/
theorem lines_append_withFeeds (text : String) (appended : List String)
    (terminated : Terminated text) (fits : ∀ line ∈ appended, FitsLine line) :
    lines (text ++ withFeeds appended) = lines text ++ appended := by
  rw [lines_append_of_terminated text _ terminated, lines_withFeeds _ fits]

/-- Only behind a terminated text the lines before stay what they were. -/
theorem terminated_of_lines_prefix (text line : String) (rest : List String)
    (nonempty : line ≠ "") (fits : ∀ other ∈ line :: rest, FitsLine other)
    (kept : lines text <+: lines (text ++ withFeeds (line :: rest))) : Terminated text := by
  apply Decidable.byContradiction
  intro unterminated
  rcases exists_open_line text unterminated with ⟨front, opened, rfl, terminated, present, plain⟩
  have others : ∀ other ∈ rest, FitsLine other := fun other member =>
    fits other (List.mem_cons_of_mem _ member)
  have before : lines (front ++ opened) = lines front ++ [opened] := by
    rw [lines_append_of_terminated front _ terminated, lines_open opened present plain]
  have after : lines (front ++ opened ++ withFeeds (line :: rest)) =
      lines front ++ (opened ++ line) :: rest := by
    rw [withFeeds_cons, ← String.append_assoc, ← String.append_assoc,
      lines_append_of_terminated _ _ (terminated_append_feed _),
      lines_append_line_of_open front opened line terminated plain nonempty
        (fits line List.mem_cons_self),
      lines_withFeeds rest others, List.append_assoc, List.singleton_append]
  rw [before, after, List.prefix_append_right_inj] at kept
  have same : opened = opened ++ line := (List.cons_prefix_cons.mp kept).1
  have characters := congrArg String.toList same
  rw [String.toList_append, List.self_eq_append_right] at characters
  exact nonempty (String.toList_eq_nil_iff.mp characters)

end ModelRuns
