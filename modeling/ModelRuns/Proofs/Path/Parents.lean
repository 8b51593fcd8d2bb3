import ModelRuns.Proofs.Path.Names

namespace ModelRuns

/-!
# Directories above a path

Behind the beginning of a path every piece is read alike: it shows a component, or
it is silent.  An absolute path is therefore the root and what its pieces show, and
a relative path put behind a directory adds what its pieces show.  Only the dot a
relative path may begin with is lost there.

The directory above a path holds all its components but the last, so its file name
put behind that directory leads back to the path.  A relative path keeps its last
component behind a directory; whether it has a directory part of its own is seen on
its spelling.
-/

/-! ## Pieces -/

theorem joinChars_cons_cons (separator : Char) (first second : List Char)
    (others : List (List Char)) :
    joinChars separator (first :: second :: others) =
      first ++ separator :: joinChars separator (second :: others) := by
  simp [joinChars, List.intercalate]

/-- What is no separator stands in one of the pieces. -/
theorem mem_joinChars_iff {separator c : Char} (apart : c ≠ separator)
    (pieces : List (List Char)) :
    c ∈ joinChars separator pieces ↔ ∃ piece ∈ pieces, c ∈ piece := by
  induction pieces with
  | nil => simp [joinChars, List.intercalate]
  | cons first others inductionHypothesis =>
    cases others with
    | nil => simp [joinChars, List.intercalate]
    | cons second others =>
      rw [List.exists_mem_cons_iff, joinChars_cons_cons, List.mem_append, List.mem_cons,
        or_iff_right apart, inductionHypothesis]

theorem splitChars_joinChars (separator : Char) (pieces : List (List Char))
    (nonempty : pieces ≠ []) (plain : ∀ piece ∈ pieces, separator ∉ piece) :
    splitChars separator (joinChars separator pieces) = pieces := by
  induction pieces with
  | nil => exact absurd rfl nonempty
  | cons first others inductionHypothesis =>
    have single := splitChars_plain separator first (plain first List.mem_cons_self)
    cases others with
    | nil => simpa [joinChars, List.intercalate] using single
    | cons second others =>
      rw [joinChars_cons_cons, splitChars_append, single,
        inductionHypothesis (List.cons_ne_nil _ _)
          (fun piece member => plain piece (List.mem_cons_of_mem _ member))]
      rfl

namespace Path

/-! ## What pieces show -/

/-- The component a piece shows where it does not begin a relative path. -/
def shown? (piece : List Char) : Option Component :=
  if isSilent true false piece then none else some (componentOf piece)

theorem isSilent_true (first : Bool) (piece : List Char) :
    isSilent true first piece = isSilent true false piece := rfl

theorem isSilent_behind (absolute : Bool) (piece : List Char) :
    isSilent absolute false piece = isSilent true false piece := by
  cases absolute <;> rfl

theorem visible_true (pieces : List (List Char)) :
    visible true pieces = pieces.filterMap shown? := by
  cases pieces with
  | nil => rfl
  | cons piece pieces =>
    rw [List.filterMap_cons, visible, isSilent_true]
    cases silent : isSilent true false piece <;> simp [shown?, silent] <;> rfl

theorem components_of_isAbsolute {path : Path} (absolute : path.isAbsolute = true) :
    path.components = .root :: path.pieces.filterMap shown? := by
  rw [components_eq, absolute, visible_true]
  rfl

/-- A relative path is what its pieces show, after the dot it may begin with. -/
theorem components_of_relative {path : Path} (relative : path.isAbsolute = false) :
    path.components = path.pieces.filterMap shown? ∨
      path.components = .here :: path.pieces.filterMap shown? := by
  rw [components_eq, relative]
  cases path.pieces with
  | nil => exact .inl rfl
  | cons piece pieces =>
    have behind : (pieces.filterMap fun piece =>
        if isSilent false false piece then none else some (componentOf piece)) =
        pieces.filterMap shown? :=
      congrArg (pieces.filterMap ·) (funext fun piece => by rw [isSilent_behind]; rfl)
    rw [visible, behind, List.filterMap_cons]
    by_cases dot : piece = ['.']
    · subst dot
      exact .inr rfl
    · left
      have alike : isSilent false true piece = isSilent true false piece := by
        simp [isSilent, dot]
      cases silent : isSilent true false piece <;> simp [shown?, alike, silent, rootOf]

theorem shown_append (text part : List Char) :
    (splitChars '/' (text ++ slashAfter text ++ part)).filterMap shown? =
      (splitChars '/' text).filterMap shown? ++ (splitChars '/' part).filterMap shown? := by
  have nothing : (splitChars '/' []).filterMap shown? = [] := rfl
  by_cases empty : text = []
  · subst empty
    rfl
  by_cases ended : text.getLast? = some '/'
  · rcases List.getLast?_eq_some_iff.mp ended with ⟨front, rfl⟩
    have closed : slashAfter (front ++ ['/']) = [] := by simp [slashAfter]
    rw [closed, List.append_nil, List.append_assoc, List.singleton_append, splitChars_append,
      splitChars_append, List.filterMap_append, List.filterMap_append, nothing, List.append_nil]
  · have opened : slashAfter text = ['/'] := by simp [slashAfter, empty, ended]
    rw [opened, List.append_assoc, List.singleton_append, splitChars_append,
      List.filterMap_append]

/-- A path behind a directory adds what its pieces show. -/
theorem components_join {base part : Path} (absolute : base.isAbsolute = true)
    (relative : part.isAbsolute = false) :
    (base.join part).components = base.components ++ part.pieces.filterMap shown? := by
  have rooted := join_isAbsolute absolute part
  rw [components_of_isAbsolute rooted, components_of_isAbsolute absolute, List.cons_append]
  refine congrArg (Component.root :: ·) ?_
  have built : (base.join part).text.toList =
      base.text.toList ++ slashAfter base.text.toList ++ part.text.toList := by
    simp [join, relative, slashAfter]
  rw [pieces, pieces, pieces, rooted, absolute, relative, built]
  cases text : base.text.toList with
  | nil => simp [isAbsolute, text] at absolute
  | cons c rest =>
    have slash : c = '/' := by simpa [isAbsolute, text] using absolute
    have same : slashAfter (c :: rest) = slashAfter rest := by
      subst slash
      cases rest <;> simp [slashAfter]
    rw [same]
    exact shown_append rest part.text.toList

/-! ## Last components -/

/-- A name shown by a piece without slashes names a file in any directory. -/
theorem isPlainName_of_shown? {piece : List Char} {name : String} (plain : '/' ∉ piece)
    (shown : shown? piece = some (.name name)) : IsPlainName name := by
  unfold shown? at shown
  split at shown
  next => cases shown
  next audible =>
    have undotted : piece ≠ ['.'] := fun dot => audible (dot ▸ rfl)
    have nonempty : piece ≠ [] := fun empty => audible (empty ▸ rfl)
    rw [componentOf, if_neg undotted] at shown
    split at shown
    next => cases shown
    next not_up =>
      cases shown
      refine ⟨?_, ?_, ?_, ?_⟩
      all_goals
        rw [String.toList_ofList]
        assumption

theorem fileName?_eq_some_iff {path : Path} {name : String} :
    path.fileName? = some name ↔ path.components.getLast? = some (.name name) := by
  unfold fileName?
  constructor
  · intro named
    split at named
    next last =>
      cases named
      exact last
    next => cases named
  · intro last
    rw [last]

theorem isPlainName_fileName {path : Path} {name : String}
    (named : path.fileName? = some name) : IsPlainName name := by
  have listed := List.mem_of_getLast? (fileName?_eq_some_iff.mp named)
  have seen : .name name ∈ path.pieces.filterMap shown? := by
    cases rooted : path.isAbsolute with
    | true =>
      rw [components_of_isAbsolute rooted] at listed
      exact (List.mem_cons.mp listed).resolve_left nofun
    | false =>
      rcases components_of_relative rooted with same | dotted
      · exact same ▸ listed
      · rw [dotted] at listed
        exact (List.mem_cons.mp listed).resolve_left nofun
  rcases List.mem_filterMap.mp seen with ⟨piece, member, shown⟩
  exact isPlainName_of_shown? (not_mem_splitChars member) shown

/-! ## Directories above paths -/

/-- A piece behind others adds its component, unless it is silent there. -/
theorem visible_concat (absolute : Bool) (pieces : List (List Char)) (piece : List Char) :
    visible absolute (pieces ++ [piece]) = visible absolute pieces ++
      (if isSilent absolute pieces.isEmpty piece then none else some (componentOf piece)).toList := by
  cases pieces with
  | nil => simp [visible]
  | cons first others =>
    rw [List.cons_append, visible, visible, List.filterMap_append, List.append_assoc,
      List.isEmpty_cons, List.filterMap_cons, List.filterMap_nil]
    cases isSilent absolute false piece <;> rfl

/-- Silent pieces at the end add no component. -/
theorem visible_dropSilent (absolute : Bool) (pieces : List (List Char)) :
    visible absolute (dropSilent absolute pieces).reverse = visible absolute pieces.reverse := by
  induction pieces with
  | nil => rfl
  | cons piece rest inductionHypothesis =>
    rw [dropSilent]
    split
    next silent =>
      rw [inductionHypothesis, List.reverse_cons, visible_concat, List.isEmpty_reverse, if_pos silent]
      exact (List.append_nil _).symm
    next => rfl

theorem dropSilent_suffix (absolute : Bool) (pieces : List (List Char)) :
    dropSilent absolute pieces <:+ pieces := by
  induction pieces with
  | nil => exact List.suffix_rfl
  | cons piece rest inductionHypothesis =>
    rw [dropSilent]
    split
    · exact inductionHypothesis.trans (List.suffix_cons piece rest)
    · exact List.suffix_rfl

theorem audible_of_dropSilent {absolute : Bool} {pieces rest : List (List Char)}
    {piece : List Char} (dropped : dropSilent absolute pieces = piece :: rest) :
    isSilent absolute rest.isEmpty piece = false := by
  induction pieces with
  | nil => cases dropped
  | cons first others inductionHypothesis =>
    rw [dropSilent] at dropped
    split at dropped
    next => exact inductionHypothesis dropped
    next audible =>
      cases dropped
      exact Bool.eq_false_iff.mpr audible

theorem visible_splitChars_joinChars (absolute : Bool) (pieces : List (List Char))
    (plain : ∀ piece ∈ pieces, '/' ∉ piece) :
    visible absolute (splitChars '/' (joinChars '/' pieces)) = visible absolute pieces := by
  by_cases empty : pieces = []
  · subst empty
    exact visible_concat_nil absolute []
  · rw [splitChars_joinChars '/' pieces empty plain]

/-- Only a path that is empty or absolute begins with an empty piece. -/
theorem eq_nil_of_splitChars {text : List Char} {others : List (List Char)}
    (pieces : splitChars '/' text = [] :: others) : text = [] ∨ text.head? = some '/' := by
  cases text with
  | nil => exact .inl rfl
  | cons c rest =>
    rw [splitChars] at pieces
    split at pieces
    next slash => exact .inr (congrArg some slash)
    next => split at pieces <;> cases pieces

/-- What is left of the pieces of a relative path does not begin with a slash when it is put
together again. -/
theorem joinChars_relative {path : Path} (relative : path.isAbsolute = false)
    {kept : List (List Char)} (begins : kept <+: path.pieces) (fewer : kept ≠ path.pieces) :
    (joinChars '/' kept).head? ≠ some '/' := by
  have pieces : path.pieces = splitChars '/' path.text.toList := by
    rw [Path.pieces, relative]
    rfl
  cases kept with
  | nil => exact fun impossible => by cases impossible
  | cons first others =>
    rcases begins with ⟨behind, whole⟩
    have listed : first ∈ splitChars '/' path.text.toList :=
      pieces ▸ whole ▸ List.mem_cons_self
    have plain : '/' ∉ first := not_mem_splitChars listed
    have shown : first ≠ [] := by
      rintro rfl
      rcases eq_nil_of_splitChars (pieces.symm.trans whole.symm) with empty | slash
      · rw [pieces, empty] at whole fewer
        rcases List.cons.inj whole with ⟨_, nothing⟩
        rw [(List.append_eq_nil_iff.mp nothing).1] at fewer
        exact fewer rfl
      · rw [isAbsolute, slash] at relative
        cases relative
    cases first with
    | nil => exact absurd rfl shown
    | cons c letters =>
      intro begun
      have front : (joinChars '/' ((c :: letters) :: others)).head? = some c := by
        cases others with
        | nil => simp [joinChars, List.intercalate]
        | cons second others => rw [joinChars_cons_cons]; rfl
      rw [front] at begun
      exact plain (Option.some.inj begun ▸ List.mem_cons_self)

/-- The directory above a path has all its components but the last. -/
theorem components_parent {path parent : Path} (above : path.parent? = some parent) :
    ∃ last, path.components = parent.components ++ [last] := by
  unfold parent? at above
  split at above
  next => cases above
  next piece rest dropped =>
    have remains : rest.reverse ++ [piece] <+: path.pieces := by
      have suffix := List.reverse_prefix.mpr (dropSilent_suffix path.isAbsolute path.pieces.reverse)
      rwa [dropped, List.reverse_reverse, List.reverse_cons] at suffix
    have begins : (dropSilent path.isAbsolute rest).reverse <+: rest.reverse :=
      List.reverse_prefix.mpr (dropSilent_suffix path.isAbsolute rest)
    have kept := begins.trans ((List.prefix_append _ [piece]).trans remains)
    have plain : ∀ piece ∈ (dropSilent path.isAbsolute rest).reverse, '/' ∉ piece :=
      fun _ member => not_mem_splitChars (kept.subset member)
    have fewer : (dropSilent path.isAbsolute rest).reverse ≠ path.pieces := by
      intro whole
      have short := begins.length_le
      have long := remains.length_le
      rw [whole] at short
      rw [List.length_append, List.length_singleton] at long
      omega
    have sameRoot : parent.isAbsolute = path.isAbsolute := by
      cases above
      cases rooted : path.isAbsolute with
      | true =>
        have root : path.rootChars = ['/'] := if_pos rooted
        simp [isAbsolute, root]
      | false =>
        have root : path.rootChars = [] := if_neg (Bool.eq_false_iff.mp rooted)
        rw [rooted] at kept fewer
        simpa [isAbsolute, root] using joinChars_relative rooted kept fewer
    have parentPieces : parent.pieces =
        splitChars '/' (joinChars '/' (dropSilent path.isAbsolute rest).reverse) := by
      rw [pieces, sameRoot]
      cases above
      cases rooted : path.isAbsolute <;> simp [rootChars, rooted]
    refine ⟨componentOf piece, ?_⟩
    rw [components_eq, components_eq, sameRoot, parentPieces, visible_splitChars_joinChars _ _ plain,
      visible_dropSilent, ← List.reverse_reverse path.pieces, ← visible_dropSilent, dropped,
      List.reverse_cons, visible_concat, List.isEmpty_reverse, audible_of_dropSilent dropped,
      List.append_assoc]
    rfl

/-- Its file name put behind the directory above it leads back to a path. -/
theorem child_parent_same {path parent : Path} (above : path.parent? = some parent)
    {name : String} (named : path.fileName? = some name) :
    (parent.child name).same path = true := by
  rcases components_parent above with ⟨last, components⟩
  have shown := fileName?_eq_some_iff.mp named
  rw [components, List.getLast?_concat] at shown
  cases shown
  rw [same, beq_iff_eq, components_child parent (isPlainName_fileName named), components]

theorem parent?_isSome {path : Path} (below : visible path.isAbsolute path.pieces ≠ []) :
    ∃ parent, path.parent? = some parent := by
  unfold parent?
  split
  next dropped =>
    have whole := visible_dropSilent path.isAbsolute path.pieces.reverse
    rw [dropped, List.reverse_reverse] at whole
    exact absurd whole.symm below
  next => exact ⟨_, rfl⟩

/-- A path with a file name has a directory above it. -/
theorem exists_parent_of_fileName {path : Path} {name : String}
    (named : path.fileName? = some name) : ∃ parent, path.parent? = some parent := by
  refine parent?_isSome fun nothing => ?_
  have last := fileName?_eq_some_iff.mp named
  rw [components_eq, nothing, List.append_nil, rootOf] at last
  split at last <;> cases last

/-! ## Directory parts -/

variable {path : Path}

/-- The path is spelled with a directory above its last component. -/
def HasDirectory (path : Path) : Prop := ∃ parent, path.parent? = some parent ∧ parent.text ≠ ""

/-- Such a path shows its last component behind any directory. -/
theorem HasDirectory.shown (directed : path.HasDirectory) :
    path.pieces.filterMap shown? ≠ [] := by
  rcases directed with ⟨parent, above, spelled⟩
  unfold parent? at above
  split at above
  next => cases above
  next piece rest dropped =>
    have member : piece ∈ path.pieces :=
      List.mem_reverse.mp ((dropSilent_suffix _ _).subset (dropped ▸ List.mem_cons_self))
    have audible := audible_of_dropSilent dropped
    intro nothing
    have silent : isSilent true false piece = true := by
      by_contra audible
      have shown : shown? piece = some (componentOf piece) := if_neg audible
      have seen := List.mem_filterMap.mpr ⟨piece, member, shown⟩
      rw [nothing] at seen
      cases seen
    cases rooted : path.isAbsolute with
    | true =>
      rw [rooted, isSilent_true, silent] at audible
      cases audible
    | false =>
      -- Only the dot a relative path begins with is silent in one place and not in the other.
      have first : rest = [] := by
        cases rest with
        | nil => rfl
        | cons second others =>
          rw [rooted, List.isEmpty_cons, isSilent_behind, silent] at audible
          cases audible
      subst first
      cases above
      exact spelled (by simp [rootChars, rooted, dropSilent, joinChars, List.intercalate])

variable {directory : Path}

theorem absolutize_of_relative (relative : path.isAbsolute = false) :
    absolutize directory path = directory.join path := by
  rw [absolutize, relative]
  rfl

theorem HasDirectory.parent?_absolutize (directed : path.HasDirectory)
    (absolute : directory.isAbsolute = true) :
    ∃ parent, (absolutize directory path).parent? = some parent := by
  have rooted := absolutize_isAbsolute absolute path
  refine parent?_isSome fun nothing => directed.shown ?_
  rw [rooted, visible_true] at nothing
  cases relative : path.isAbsolute with
  | true => rwa [absolutize, relative, if_pos rfl] at nothing
  | false =>
    have components := components_join absolute relative
    rw [absolutize_of_relative relative] at nothing rooted
    rw [components_of_isAbsolute rooted, nothing, components_of_isAbsolute absolute] at components
    exact (List.append_eq_nil_iff.mp (List.cons.inj components).2.symm).2

theorem HasDirectory.fileName?_absolutize (directed : path.HasDirectory)
    (absolute : directory.isAbsolute = true) :
    (absolutize directory path).fileName? = path.fileName? := by
  cases relative : path.isAbsolute with
  | true => rw [absolutize, relative, if_pos rfl]
  | false =>
    rw [absolutize_of_relative relative, fileName?, fileName?, components_join absolute relative,
      List.getLast?_append_of_ne_nil _ directed.shown]
    rcases components_of_relative relative with shown | shown
    · rw [shown]
    · rw [shown, List.getLast?_cons_of_ne_nil directed.shown]

end Path

end ModelRuns
