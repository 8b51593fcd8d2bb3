import ModelRuns.Settings.Basic

namespace ModelRuns

/-!
# Components of built paths

A path is built on its spelling, but files are told apart by components.  Going
on to a file of a plain name adds one component, whatever the spelling of the
directory: with or without a slash at its end, relative, absolute or empty.
-/

/-! ## Pieces -/

theorem splitChars_ne_nil (separator : Char) (text : List Char) :
    splitChars separator text ≠ [] := by
  cases text with
  | nil => simp [splitChars]
  | cons c rest =>
    unfold splitChars
    split
    · simp
    · split <;> simp

theorem splitChars_append (separator : Char) (front back : List Char) :
    splitChars separator (front ++ separator :: back) =
      splitChars separator front ++ splitChars separator back := by
  induction front with
  | nil => simp [splitChars]
  | cons c front inductionHypothesis =>
    rw [List.cons_append, splitChars, splitChars, inductionHypothesis]
    split
    · rfl
    · cases pieces : splitChars separator front with
      | nil => exact absurd pieces (splitChars_ne_nil separator front)
      | cons part parts => rfl

theorem splitChars_plain (separator : Char) (text : List Char) (plain : separator ∉ text) :
    splitChars separator text = [text] := by
  induction text with
  | nil => rfl
  | cons c rest inductionHypothesis =>
    have different : c ≠ separator := fun equal => plain (equal ▸ List.mem_cons_self)
    have remaining : separator ∉ rest := fun member => plain (List.mem_cons_of_mem _ member)
    rw [splitChars, if_neg different, inductionHypothesis remaining]

namespace Path

/-- The components of pieces, the first of which begins the path. -/
def visible (absolute : Bool) : List (List Char) → List Component
  | [] => []
  | piece :: pieces =>
    (if isSilent absolute true piece then none else some (componentOf piece)).toList ++
      pieces.filterMap fun piece =>
        if isSilent absolute false piece then none else some (componentOf piece)

/-- The component of the root slash. -/
def rootOf (absolute : Bool) : List Component := if absolute then [.root] else []

theorem components_eq (path : Path) :
    path.components = rootOf path.isAbsolute ++ visible path.isAbsolute path.pieces := by
  unfold components rootOf visible
  cases pieces : path.pieces with
  | nil => simp
  | cons piece pieces => exact List.append_assoc _ _ _

/-! ## Names -/

/-- A text that names a file in any directory. -/
def IsPlainName (name : String) : Prop :=
  name.toList ≠ [] ∧ '/' ∉ name.toList ∧ name.toList ≠ ['.'] ∧ name.toList ≠ ['.', '.']

instance (name : String) : Decidable (IsPlainName name) := inferInstanceAs (Decidable (_ ∧ _))

theorem IsPlainName.component {name : String} (plain : IsPlainName name)
    (absolute first : Bool) :
    (if isSilent absolute first name.toList then none else some (componentOf name.toList)) =
      some (Component.name name) := by
  have shown : isSilent absolute first name.toList = false := by
    simp [isSilent, plain.1, plain.2.2.1]
  have named : componentOf name.toList = .name name := by
    rw [componentOf, if_neg plain.2.2.1, if_neg plain.2.2.2, String.ofList_toList]
  simp [shown, named]

/-- A plain name behind other pieces adds its component, and an empty piece in
its place adds none. -/
theorem visible_concat_name (absolute : Bool) (pieces : List (List Char)) {name : String}
    (plain : IsPlainName name) :
    visible absolute (pieces ++ [name.toList]) = visible absolute pieces ++ [.name name] := by
  cases pieces with
  | nil => simp only [List.nil_append, visible, plain.component]; rfl
  | cons piece pieces =>
    simp only [List.cons_append, visible, List.filterMap_append, List.append_assoc]
    simp only [List.filterMap_cons, plain.component, List.filterMap_nil]

theorem visible_concat_nil (absolute : Bool) (pieces : List (List Char)) :
    visible absolute (pieces ++ [[]]) = visible absolute pieces := by
  have silent : ∀ first, isSilent absolute first [] = true := fun _ => rfl
  cases pieces with
  | nil => simp [visible, silent]
  | cons piece pieces =>
    simp only [List.cons_append, visible, List.filterMap_append]
    simp [silent]

/-- The slash between a text and what it goes on with; there is none behind an
empty text and behind a slash. -/
def slashAfter (text : List Char) : List Char :=
  if text.isEmpty || text.getLast? == some '/' then [] else ['/']

theorem visible_splitChars_name (absolute : Bool) (text : List Char) {name : String}
    (plain : IsPlainName name) :
    visible absolute (splitChars '/' (text ++ slashAfter text ++ name.toList)) =
      visible absolute (splitChars '/' text) ++ [.name name] := by
  have single := splitChars_plain '/' name.toList plain.2.1
  by_cases empty : text = []
  · subst empty
    have nothing : visible absolute (splitChars '/' []) = [] := visible_concat_nil absolute []
    rw [nothing]
    simpa [slashAfter, single, visible] using visible_concat_name absolute [] plain
  by_cases ended : text.getLast? = some '/'
  · rcases List.getLast?_eq_some_iff.mp ended with ⟨front, rfl⟩
    have closed : slashAfter (front ++ ['/']) = [] := by simp [slashAfter]
    rw [closed, List.append_nil, List.append_assoc, List.singleton_append, splitChars_append,
      splitChars_append, single, visible_concat_name absolute _ plain]
    exact congrArg (· ++ [Component.name name]) (visible_concat_nil absolute _).symm
  · have opened : slashAfter text = ['/'] := by simp [slashAfter, empty, ended]
    rw [opened, List.append_assoc, List.singleton_append, splitChars_append, single,
      visible_concat_name absolute _ plain]

/-- Going on to a file adds its name to the components. -/
theorem components_child (directory : Path) {name : String} (plain : IsPlainName name) :
    (directory.child name).components = directory.components ++ [.name name] := by
  have relative : (⟨name⟩ : Path).isAbsolute = false := by
    cases first : name.toList with
    | nil => exact absurd first plain.1
    | cons c rest =>
      have different : c ≠ '/' := fun equal => plain.2.1 (by simp [first, equal])
      simp [isAbsolute, first, different]
  have built : (directory.child name).text.toList =
      directory.text.toList ++ slashAfter directory.text.toList ++ name.toList := by
    simp [child, join, relative, slashAfter]
  cases text : directory.text.toList with
  | nil =>
    have plainPath : directory.isAbsolute = false := by simp [isAbsolute, text]
    have alike : (directory.child name).isAbsolute = false := by
      simpa [isAbsolute, built, text, slashAfter] using relative
    rw [components_eq, components_eq, alike, plainPath, pieces, pieces, alike, plainPath, built]
    simpa [rootOf, text] using visible_splitChars_name false [] plain
  | cons c rest =>
    have alike : (directory.child name).isAbsolute = directory.isAbsolute := by
      simp [isAbsolute, built, text]
    have added : visible directory.isAbsolute (directory.child name).pieces =
        visible directory.isAbsolute directory.pieces ++ [.name name] := by
      rw [pieces, pieces, alike, built, text]
      cases rooted : directory.isAbsolute with
      | false => exact visible_splitChars_name false (c :: rest) plain
      | true =>
        have slash : c = '/' := by simpa [isAbsolute, text] using rooted
        have same : slashAfter (c :: rest) = slashAfter rest := by
          subst slash
          cases rest <;> simp [slashAfter]
        rw [same]
        exact visible_splitChars_name true rest plain
    rw [components_eq, components_eq, alike, added, List.append_assoc]

/-- Files of different names are different, in whatever directories they are. -/
theorem child_same_child (left right : Path) {name other : String} (plain : IsPlainName name)
    (plainOther : IsPlainName other) (different : name ≠ other) :
    (left.child name).same (right.child other) = false := by
  rw [same, beq_eq_false_iff_ne, components_child left plain, components_child right plainOther]
  intro equal
  have last := congrArg List.getLast? equal
  rw [List.getLast?_concat, List.getLast?_concat] at last
  cases last
  exact different rfl

/-! ## Absolute paths -/

/-- Different relative paths lead to different places. -/
theorem join_relative_inj {base left right : Path} (relativeLeft : left.isAbsolute = false)
    (relativeRight : right.isAbsolute = false) (same : base.join left = base.join right) :
    left = right := by
  have texts := congrArg (fun path : Path => path.text.toList) same
  simp only [join, relativeLeft, relativeRight, Bool.false_eq_true, if_false,
    String.toList_ofList] at texts
  have parts := String.toList_inj.mp (List.append_cancel_left texts)
  cases left
  cases right
  exact congrArg Path.mk parts

theorem join_isAbsolute {base : Path} (absolute : base.isAbsolute = true) (part : Path) :
    (base.join part).isAbsolute = true := by
  unfold join
  split
  next already => exact already
  next =>
    cases text : base.text.toList with
    | nil => simp [isAbsolute, text] at absolute
    | cons c rest =>
      have slash : c = '/' := by simpa [isAbsolute, text] using absolute
      simp [isAbsolute, slash]

theorem parent?_isAbsolute {path parent : Path} (absolute : path.isAbsolute = true)
    (above : path.parent? = some parent) : parent.isAbsolute = true := by
  unfold parent? at above
  split at above
  next => cases above
  next =>
    cases above
    have root : path.rootChars = ['/'] := if_pos absolute
    simp [isAbsolute, root]

theorem absolutize_isAbsolute {directory : Path} (absolute : directory.isAbsolute = true)
    (path : Path) : (absolutize directory path).isAbsolute = true := by
  unfold absolutize
  split
  next already => exact already
  next => exact join_isAbsolute absolute path

end Path

end ModelRuns
