import Mathlib.Data.List.Infix
import ModelRuns.Proofs.Path.Components
import ModelRuns.Run.Paths

namespace ModelRuns

/-!
# File names of built paths

Results are written next to each other under names made from one: an ending is put
behind the path, or a number behind the stem of its file name.  Such a path keeps a
file name of its own, which ends in the ending, or in the number and the extension.

Paths with different file names are different files, whatever their directories.  So are
outputs with different numbers, because the number can be read off the name: it stands
between the stem and the extension, and these are the same for all of them.
-/

/-! ## Pieces -/

theorem not_mem_splitChars {separator : Char} {text piece : List Char}
    (member : piece ∈ splitChars separator text) : separator ∉ piece := by
  induction text generalizing piece with
  | nil =>
    rw [List.mem_singleton.mp member]
    exact List.not_mem_nil
  | cons c rest inductionHypothesis =>
    rw [splitChars] at member
    split at member
    next =>
      rcases List.mem_cons.mp member with rfl | later
      · exact List.not_mem_nil
      · exact inductionHypothesis later
    next different =>
      cases pieces : splitChars separator rest with
      | nil => exact absurd pieces (splitChars_ne_nil separator rest)
      | cons first others =>
        rw [pieces] at member inductionHypothesis
        rcases List.mem_cons.mp member with rfl | later
        · rw [List.mem_cons]
          rintro (same | inside)
          · exact different same.symm
          · exact inductionHypothesis List.mem_cons_self inside
        · exact inductionHypothesis (List.mem_cons_of_mem _ later)

/-- A text without the separator extends the last piece. -/
theorem splitChars_append_plain (separator : Char) (text ending : List Char)
    (plain : separator ∉ ending) :
    ∃ front last, splitChars separator text = front ++ [last] ∧
      splitChars separator (text ++ ending) = front ++ [last ++ ending] := by
  induction text with
  | nil => exact ⟨[], [], rfl, splitChars_plain separator ending plain⟩
  | cons c rest inductionHypothesis =>
    rcases inductionHypothesis with ⟨front, last, pieces, extended⟩
    rw [List.cons_append, splitChars, splitChars, pieces, extended]
    split
    · exact ⟨[] :: front, last, rfl, rfl⟩
    · cases front with
      | nil => exact ⟨[], c :: last, rfl, rfl⟩
      | cons first others => exact ⟨(c :: first) :: others, last, rfl, rfl⟩

namespace Path

/-! ## File names -/

/-- The same file has one file name. -/
theorem fileName?_of_same {left right : Path} (same : left.same right = true) :
    left.fileName? = right.fileName? := by
  rw [fileName?, fileName?, beq_iff_eq.mp same]

theorem fileName?_child (directory : Path) {name : String} (plain : IsPlainName name) :
    (directory.child name).fileName? = some name := by
  rw [fileName?, components_child directory plain, List.getLast?_concat]

/-- A file name holds no slash. -/
theorem slash_not_mem_fileName {path : Path} {name : String} (named : path.fileName? = some name) :
    '/' ∉ name.toList := by
  have shown : ∀ (first : Bool) (piece : List Char), Component.name name ∈
      (if isSilent path.isAbsolute first piece then none else some (componentOf piece)) →
      piece = name.toList := by
    intro first piece member
    split at member
    next => cases member
    next =>
      unfold componentOf at member
      split at member
      next => cases member
      next =>
        split at member
        next => cases member
        next =>
          cases member
          exact String.toList_ofList.symm
  have listed : Component.name name ∈ path.components := by
    unfold fileName? at named
    split at named
    next last =>
      cases named
      exact List.mem_of_getLast? last
    next => cases named
  rw [components_eq] at listed
  rcases List.mem_append.mp listed with root | seen
  · unfold rootOf at root
    split at root <;> simp at root
  have piece : name.toList ∈ path.pieces := by
    cases pieces : path.pieces with
    | nil =>
      rw [pieces] at seen
      cases seen
    | cons first others =>
      rw [pieces] at seen
      rcases List.mem_append.mp seen with front | later
      · rw [shown true first (Option.mem_toList.mp front)]
        exact List.mem_cons_self
      · rcases List.mem_filterMap.mp later with ⟨other, member, component⟩
        rw [← shown false other component]
        exact List.mem_cons_of_mem _ member
  exact not_mem_splitChars piece

/-- A text with a plain ending put behind it. -/
theorem visible_splitChars_ending (absolute : Bool) (text : List Char) {ending : String}
    (plain : '/' ∉ ending.toList) (long : 2 < ending.toList.length) :
    ∃ front name, ending.toList <:+ name.toList ∧
      visible absolute (splitChars '/' (text ++ ending.toList)) = front ++ [.name name] := by
  rcases splitChars_append_plain '/' text ending.toList plain with ⟨front, last, _, pieces⟩
  have whole : '/' ∉ last ++ ending.toList :=
    not_mem_splitChars (pieces ▸ List.mem_append_right front List.mem_cons_self)
  have plainName : IsPlainName (String.ofList (last ++ ending.toList)) := by
    have longer : 2 < (last ++ ending.toList).length := by
      rw [List.length_append]
      omega
    refine ⟨?_, ?_, ?_, ?_⟩
    · rw [String.toList_ofList]
      exact List.ne_nil_of_length_pos (by omega)
    · rw [String.toList_ofList]
      exact whole
    all_goals
      rw [String.toList_ofList]
      intro short
      rw [short] at longer
      simp at longer
  have added := visible_concat_name absolute front plainName
  rw [String.toList_ofList, ← pieces] at added
  refine ⟨_, _, ?_, added⟩
  rw [String.toList_ofList]
  exact List.suffix_append last _

/-- An ending put behind a path is the end of its file name. -/
theorem fileName?_withSuffix (path : Path) {ending : String} (plain : '/' ∉ ending.toList)
    (long : 2 < ending.toList.length) :
    ∃ name, (path.withSuffix ending).fileName? = some name ∧ ending.toList <:+ name.toList := by
  have built : (path.withSuffix ending).text.toList = path.text.toList ++ ending.toList :=
    String.toList_append
  have pieces : ∃ text, (path.withSuffix ending).pieces =
      splitChars '/' (text ++ ending.toList) := by
    rw [Path.pieces, built]
    cases rooted : (path.withSuffix ending).isAbsolute with
    | false => exact ⟨path.text.toList, rfl⟩
    | true =>
      cases text : path.text.toList with
      | nil =>
        have slash : ending.toList.head? = some '/' := by
          simpa [isAbsolute, built, text] using rooted
        exact absurd (List.mem_of_head? slash) plain
      | cons c rest => exact ⟨rest, rfl⟩
  rcases pieces with ⟨text, pieces⟩
  rcases visible_splitChars_ending (path.withSuffix ending).isAbsolute text plain long with
    ⟨front, name, ends, seen⟩
  refine ⟨name, ?_, ends⟩
  rw [fileName?, components_eq, pieces, seen, ← List.append_assoc, List.getLast?_concat]

/-- Another file name in place of that of a path. -/
theorem fileName?_withFileName (path : Path) {name : String} (plain : IsPlainName name) :
    (path.withFileName name).fileName? = some name := by
  unfold withFileName
  split
  · exact fileName?_child _ plain
  · exact fileName?_child _ plain

/-! ## Numbered files -/

/-- A name is its stem, and what stands behind its last dot. -/
theorem splitExtension_append (name : List Char) :
    (splitExtension name).1 ++ ((splitExtension name).2.map ('.' :: ·)).getD [] = name := by
  unfold splitExtension
  dsimp only
  split
  next => exact List.append_nil name
  next dot stem dropped =>
    split
    next => exact List.append_nil name
    next =>
      have isDot : dot = '.' := by
        have first := List.head?_dropWhile_not (· ≠ '.') name.reverse
        rw [dropped] at first
        simpa using first
      have parts := congrArg List.reverse
        (List.takeWhile_append_dropWhile (p := (· ≠ '.')) (l := name.reverse))
      rw [dropped, isDot] at parts
      simpa using parts

variable (path : Path)

/-- The file name of an output behind the first: the number stands behind the stem. -/
def numberedName (index : Nat) : String :=
  let stem := path.fileStem?.getD "" ++ "_" ++ toString index
  match path.extension? with
  | some extension => stem ++ "." ++ extension
  | none => stem

/-- What stands behind the stem of the file name: a dot and the extension, if there is one. -/
def ending : List Char := (path.extension?.map ('.' :: ·.toList)).getD []

theorem toList_numberedName (index : Nat) :
    (path.numberedName index).toList =
      (path.fileStem?.getD "").toList ++ '_' :: Nat.toDigits 10 index ++ path.ending := by
  unfold numberedName ending
  cases path.extension? <;> simp

/-- The stem and the ending make up a file name. -/
theorem toList_fileName {name : String} (named : path.fileName? = some name) :
    name.toList = (path.fileStem?.getD "").toList ++ path.ending := by
  rw [ending, fileStem?, extension?, named, Option.map_some, Option.getD_some, Option.bind_some,
    String.toList_ofList, Option.map_map]
  simpa [Function.comp_def] using (splitExtension_append name.toList).symm

theorem slash_not_mem_stem_ending : '/' ∉ (path.fileStem?.getD "").toList ++ path.ending := by
  cases named : path.fileName? with
  | none => simp [fileStem?, ending, extension?, named]
  | some name =>
    rw [← path.toList_fileName named]
    exact slash_not_mem_fileName named

theorem slash_not_mem_numberedName (index : Nat) : '/' ∉ (path.numberedName index).toList := by
  have digits : '/' ∉ Nat.toDigits 10 index := by
    intro member
    have digit := Nat.isDigit_of_mem_toDigits (by decide) (by decide) member
    exact absurd digit (by decide)
  have others := path.slash_not_mem_stem_ending
  rw [List.mem_append, not_or] at others
  simp [toList_numberedName, digits, others]

theorem isPlainName_numberedName (index : Nat) : IsPlainName (path.numberedName index) := by
  have marked : '_' ∈ (path.numberedName index).toList := by
    simp [toList_numberedName]
  refine ⟨List.ne_nil_of_mem marked, path.slash_not_mem_numberedName index, ?_, ?_⟩
  all_goals
    intro short
    rw [short] at marked
    exact absurd marked (by decide)

/-- There is a dot in such a name, or a digit at its end. -/
theorem numberedName_shape (index : Nat) :
    '.' ∈ (path.numberedName index).toList ∨
      ∃ digit, (path.numberedName index).toList.getLast? = some digit ∧ digit.isDigit = true := by
  rw [toList_numberedName, ending]
  cases path.extension? with
  | none =>
    have nonempty : Nat.toDigits 10 index ≠ [] := Nat.toDigits_ne_nil
    refine .inr ⟨(Nat.toDigits 10 index).getLast nonempty, ?_,
      Nat.isDigit_of_mem_toDigits (by decide) (by decide) (List.getLast_mem nonempty)⟩
    rw [Option.map_none, Option.getD_none, List.append_nil, List.getLast?_append_cons,
      List.getLast?_cons_of_ne_nil nonempty, List.getLast?_eq_getLast_of_ne_nil nonempty]
  | some extension => exact .inl (List.mem_append_right _ List.mem_cons_self)

/-- A number behind the stem can be read off the name. -/
theorem numberedName_injective : Function.Injective path.numberedName := by
  intro index other same
  have texts := congrArg String.toList same
  rw [toList_numberedName, toList_numberedName] at texts
  have digits := (List.cons.inj (List.append_cancel_left (List.append_cancel_right texts))).2
  simpa using congrArg (Nat.ofDigitChars 10 · 0) digits

/-- A file name with a number in it is longer than without. -/
theorem numberedName_ne {name : String} (named : path.fileName? = some name) (index : Nat) :
    path.numberedName index ≠ name := by
  intro same
  have lengths := congrArg (·.toList.length) same
  simp only [toList_numberedName, path.toList_fileName named, List.length_append,
    List.length_cons] at lengths
  omega

end Path

section

variable (path : Path)

theorem numberedOutput_zero : numberedOutput path 0 = path := rfl

theorem numberedOutput_behind {index : Nat} (behind : index ≠ 0) :
    numberedOutput path index = path.withFileName (path.numberedName index) := if_neg behind

theorem fileName?_numberedOutput {index : Nat} (behind : index ≠ 0) :
    (numberedOutput path index).fileName? = some (path.numberedName index) := by
  rw [numberedOutput_behind path behind]
  exact path.fileName?_withFileName (path.isPlainName_numberedName index)

/-- Outputs with different numbers are different files. -/
theorem numberedOutput_not_same {index other : Nat} (different : index ≠ other) :
    (numberedOutput path index).same (numberedOutput path other) = false := by
  refine Bool.eq_false_iff.mpr fun same => ?_
  have names := Path.fileName?_of_same same
  by_cases first : index = 0
  · subst first
    rw [numberedOutput_zero, fileName?_numberedOutput path different.symm] at names
    exact path.numberedName_ne names other rfl
  · rw [fileName?_numberedOutput path first] at names
    by_cases last : other = 0
    · subst last
      exact path.numberedName_ne names.symm index rfl
    · rw [fileName?_numberedOutput path last] at names
      exact different (path.numberedName_injective (Option.some.inj names))

end

end ModelRuns
