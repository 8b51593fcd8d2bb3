import ModelRuns.Proofs.Path.Parents

namespace ModelRuns

/-!
# Paths within a directory

A path lies within a directory if it extends it component by component.  Going on to a name
stays within, and so does going on to a relative path, even to one that climbs: its `..` is
a component like any other.  Only an absolute path leads away, because it takes the place of
what it is put behind.

Other files next to a path stay within the directory above it: one with an ending put behind
the path, and one with a number in its name.  The outputs numbered after a file are even
names in its own directory.
-/

namespace Path

variable {base path : Path}

theorem isWithin_iff : path.isWithin base = true ↔ base.components <+: path.components :=
  List.isPrefixOf_iff_prefix

theorem isWithin_child (base : Path) {name : String} (plain : IsPlainName name) :
    (base.child name).isWithin base = true := by
  rw [isWithin_iff, components_child base plain]
  exact List.prefix_append _ _

theorem isWithin_trans {other : Path} (inner : path.isWithin base = true)
    (outer : base.isWithin other = true) : path.isWithin other = true :=
  isWithin_iff.mpr ((isWithin_iff.mp outer).trans (isWithin_iff.mp inner))

/-- What is put behind a directory stays within, or it is absolute and takes its place. -/
theorem isWithin_join_or (absolute : base.isAbsolute = true) (part : Path) :
    (base.join part).isWithin base = true ∨ part.isAbsolute = true ∧ base.join part = part := by
  cases rooted : part.isAbsolute with
  | false =>
    rw [isWithin_iff, components_join absolute rooted]
    exact .inl (List.prefix_append _ _)
  | true => exact .inr ⟨rfl, by rw [join, if_pos rooted]⟩

/-- The path has one component more than the directory. -/
def IsBelow (path base : Path) : Prop := ∃ last, path.components = base.components ++ [last]

theorem IsBelow.isWithin (below : path.IsBelow base) : path.isWithin base = true := by
  rcases below with ⟨last, components⟩
  rw [isWithin_iff, components]
  exact List.prefix_append _ _

theorem isBelow_child (base : Path) {name : String} (plain : IsPlainName name) :
    (base.child name).IsBelow base := ⟨.name name, components_child base plain⟩

/-- An ending behind a path changes at most its last component. -/
theorem IsBelow.isWithin_withSuffix (below : path.IsBelow base) (absolute : path.isAbsolute = true)
    {ending : String} (plain : '/' ∉ ending.toList) :
    (path.withSuffix ending).isWithin base = true := by
  rcases below with ⟨last, components⟩
  have built : (path.withSuffix ending).text.toList = path.text.toList ++ ending.toList :=
    String.toList_append
  cases text : path.text.toList with
  | nil => simp [isAbsolute, text] at absolute
  | cons slash rest =>
    have rooted : (path.withSuffix ending).isAbsolute = true := by
      simpa [isAbsolute, built, text] using absolute
    rcases splitChars_append_plain '/' rest ending.toList plain with
      ⟨front, piece, pieces, extended⟩
    have shown : .root :: (front ++ [piece]).filterMap shown? = base.components ++ [last] := by
      rw [← pieces, ← components, components_of_isAbsolute absolute, Path.pieces, absolute, text]
      rfl
    have suffixed : (path.withSuffix ending).components =
        .root :: (front ++ [piece ++ ending.toList]).filterMap shown? := by
      rw [components_of_isAbsolute rooted, Path.pieces, rooted, built, text, ← extended]
      rfl
    rw [isWithin_iff, suffixed, List.filterMap_append, ← List.cons_append]
    refine List.IsPrefix.trans ?_ (List.prefix_append _ _)
    rw [List.filterMap_append, ← List.cons_append] at shown
    cases seen : shown? piece with
    | none =>
      rw [List.filterMap_cons_none seen, List.filterMap_nil, List.append_nil] at shown
      rw [shown]
      exact List.prefix_append _ _
    | some component =>
      rw [List.filterMap_cons_some seen, List.filterMap_nil] at shown
      rw [List.append_inj_left' shown rfl]

/-- So does another file name in place of that of the path. -/
theorem IsBelow.isWithin_withFileName (below : path.IsBelow base) {name : String}
    (plain : IsPlainName name) : (path.withFileName name).isWithin base = true := by
  unfold withFileName
  split
  next parent _ above =>
    rcases components_parent above with ⟨last, components⟩
    rcases below with ⟨other, same⟩
    have stem := (List.append_inj_left' (components.symm.trans same) rfl)
    rw [isWithin_iff, components_child _ plain, stem]
    exact List.prefix_append _ _
  next => exact isWithin_trans (isWithin_child path plain) below.isWithin

theorem IsBelow.isWithin_numberedOutput (below : path.IsBelow base) (index : Nat) :
    (numberedOutput path index).isWithin base = true := by
  by_cases first : index = 0
  · rw [first, numberedOutput_zero]
    exact below.isWithin
  · rw [numberedOutput_behind path first]
    exact below.isWithin_withFileName (path.isPlainName_numberedName index)

/-! ## Outputs in one directory -/

/-- The outputs numbered after a file have names in the directory of the file. -/
theorem components_numberedOutput {name : String} (named : path.fileName? = some name)
    (above : path.parent? = some base) (index : Nat) :
    ∃ name, (numberedOutput path index).components = base.components ++ [.name name] := by
  by_cases first : index = 0
  · rw [first, numberedOutput_zero]
    rcases components_parent above with ⟨last, components⟩
    have shown := fileName?_eq_some_iff.mp named
    rw [components, List.getLast?_concat] at shown
    cases shown
    exact ⟨name, components⟩
  · refine ⟨path.numberedName index, ?_⟩
    rw [numberedOutput_behind path first, withFileName, named, above]
    exact components_child base (path.isPlainName_numberedName index)

theorem isBelow_numberedOutput {name : String} (named : path.fileName? = some name) :
    ∃ directory, path.parent? = some directory ∧
      ∀ index, (numberedOutput path index).IsBelow directory := by
  rcases exists_parent_of_fileName named with ⟨directory, above⟩
  refine ⟨directory, above, fun index => ?_⟩
  rcases components_numberedOutput named above index with ⟨name, components⟩
  exact ⟨.name name, components⟩

end Path

end ModelRuns
