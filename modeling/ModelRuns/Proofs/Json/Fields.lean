import Mathlib.Data.List.Induction
import Mathlib.Data.String.Basic
import ModelRuns.Json.Basic

namespace ModelRuns

/-!
# Fields in the order of their keys

An object keeps its fields in the order of their keys, each key once, in whatever order they
were given.  The last of those with one key counts.  Fields that are in order already stay as
they are, and fields with different keys are rearranged and nothing else.
-/

/-! ## Values by their keys -/

theorem getField?_setField (key other : String) (value : Json) (fields : Fields) :
    getField? key (setField other value fields) =
      if key = other then some value else getField? key fields := by
  induction fields with
  | nil => rfl
  | cons field rest inductionHypothesis =>
    rcases field with ⟨name, held⟩
    unfold setField
    split
    next same =>
      subst same
      by_cases asked : key = other <;> simp [getField?, asked]
    next apart =>
      split
      next => simp only [getField?]
      next =>
        simp only [getField?, inductionHypothesis]
        by_cases asked : key = other
        · subst asked
          simp [apart]
        · simp [asked]

theorem mergeFields_concat (fields changes : Fields) (last : String × Json) :
    mergeFields fields (changes ++ [last]) = setField last.1 last.2 (mergeFields fields changes) :=
  List.foldl_concat ..

theorem orderFields_concat (fields : Fields) (last : String × Json) :
    orderFields (fields ++ [last]) = setField last.1 last.2 (orderFields fields) :=
  mergeFields_concat [] fields last

/-- The last change of a field counts. -/
theorem getField?_mergeFields (key : String) (fields changes : Fields) :
    getField? key (mergeFields fields changes) =
      (getField? key changes.reverse).or (getField? key fields) := by
  induction changes using List.reverseRecOn with
  | nil => rfl
  | append_singleton changes change inductionHypothesis =>
    rw [mergeFields_concat, getField?_setField, inductionHypothesis, List.reverse_concat, getField?]
    split <;> rfl

/-- A field of an object, whatever the order it was built in. -/
theorem field?_ofFields (key : String) (fields : Fields) :
    (Json.ofFields fields).field? key = getField? key fields.reverse := by
  refine (getField?_mergeFields key [] fields).trans ?_
  rw [getField?, Option.or_none]

theorem setField_ne_nil (key : String) (value : Json) (fields : Fields) :
    setField key value fields ≠ [] := by
  cases fields with
  | nil => simp [setField]
  | cons field rest =>
    unfold setField
    split
    · simp
    · split <;> simp

theorem orderFields_ne_nil {fields : Fields} (present : fields ≠ []) : orderFields fields ≠ [] := by
  cases fields using List.reverseRecOn with
  | nil => exact absurd rfl present
  | append_singleton fields last =>
    rw [orderFields_concat]
    exact setField_ne_nil _ _ _

/-! ## The order -/

theorem mem_setField {key : String} {value : Json} {fields : Fields} {field : String × Json}
    (member : field ∈ setField key value fields) : field = (key, value) ∨ field ∈ fields := by
  induction fields with
  | nil => exact .inl (List.mem_singleton.mp member)
  | cons held rest inductionHypothesis =>
    unfold setField at member
    split at member
    next => exact (List.mem_cons.mp member).imp_right (List.mem_cons_of_mem _)
    next =>
      split at member
      next => exact List.mem_cons.mp member
      next =>
        rcases List.mem_cons.mp member with rfl | later
        · exact .inr List.mem_cons_self
        · exact (inductionHypothesis later).imp_right (List.mem_cons_of_mem _)

theorem mem_orderFields {fields : Fields} {field : String × Json}
    (member : field ∈ orderFields fields) : field ∈ fields := by
  induction fields using List.reverseRecOn with
  | nil => exact member
  | append_singleton fields last inductionHypothesis =>
    rw [orderFields_concat] at member
    rcases mem_setField member with rfl | earlier
    · exact List.mem_append_right _ (List.mem_singleton_self _)
    · exact List.mem_append_left _ (inductionHypothesis earlier)

/-- The fields are in the order of their keys, each key once. -/
def InKeyOrder (fields : Fields) : Prop :=
  fields.Pairwise fun first second => first.1 < second.1

theorem InKeyOrder.setField {fields : Fields} (ordered : InKeyOrder fields) (key : String)
    (value : Json) : InKeyOrder (setField key value fields) := by
  induction fields with
  | nil => exact List.pairwise_singleton _ _
  | cons held rest inductionHypothesis =>
    rcases List.pairwise_cons.mp ordered with ⟨first, others⟩
    unfold ModelRuns.setField
    split
    next same => exact List.pairwise_cons.mpr ⟨same ▸ first, others⟩
    next apart =>
      split
      next before =>
        refine List.pairwise_cons.mpr ⟨List.forall_mem_cons.mpr ⟨before, ?_⟩, ordered⟩
        exact fun field member => before.trans (first field member)
      next notBefore =>
        refine List.pairwise_cons.mpr ⟨fun field member => ?_, inductionHypothesis others⟩
        rcases mem_setField member with rfl | later
        · exact lt_of_le_of_ne (not_lt.mp notBefore) (Ne.symm apart)
        · exact first field later

theorem inKeyOrder_orderFields (fields : Fields) : InKeyOrder (orderFields fields) := by
  induction fields using List.reverseRecOn with
  | nil => exact List.Pairwise.nil
  | append_singleton fields last inductionHypothesis =>
    rw [orderFields_concat]
    exact inductionHypothesis.setField last.1 last.2

/-- A key behind all others is put last. -/
theorem setField_behind {key : String} (value : Json) {fields : Fields}
    (behind : ∀ field ∈ fields, field.1 < key) :
    setField key value fields = fields ++ [(key, value)] := by
  induction fields with
  | nil => rfl
  | cons held rest inductionHypothesis =>
    rcases List.forall_mem_cons.mp behind with ⟨before, others⟩
    rw [setField, if_neg before.ne', if_neg before.not_gt, inductionHypothesis others,
      List.cons_append]

/-- Fields that are in order stay as they are. -/
theorem InKeyOrder.orderFields {fields : Fields} (ordered : InKeyOrder fields) :
    orderFields fields = fields := by
  induction fields using List.reverseRecOn with
  | nil => rfl
  | append_singleton fields last inductionHypothesis =>
    rcases List.pairwise_append.mp ordered with ⟨before, _, between⟩
    rw [orderFields_concat, inductionHypothesis before]
    exact setField_behind _ fun field member =>
      between field member last (List.mem_singleton_self _)

theorem setField_perm {key : String} (value : Json) {fields : Fields}
    (fresh : ∀ field ∈ fields, field.1 ≠ key) :
    (setField key value fields).Perm ((key, value) :: fields) := by
  induction fields with
  | nil => exact .refl _
  | cons held rest inductionHypothesis =>
    rcases List.forall_mem_cons.mp fresh with ⟨other, others⟩
    rw [setField, if_neg other.symm]
    split
    next => exact .refl _
    next => exact ((inductionHypothesis others).cons held).trans (.swap _ _ _)

/-- Fields with different keys are rearranged. -/
theorem orderFields_perm {fields : Fields} (distinct : (fields.map Prod.fst).Nodup) :
    (orderFields fields).Perm fields := by
  induction fields using List.reverseRecOn with
  | nil => exact .refl _
  | append_singleton fields last inductionHypothesis =>
    rw [List.map_append, List.nodup_append] at distinct
    rcases distinct with ⟨before, _, apart⟩
    have arranged := inductionHypothesis before
    have fresh : ∀ field ∈ orderFields fields, field.1 ≠ last.1 := fun field member =>
      apart _ (List.mem_map_of_mem (arranged.mem_iff.mp member)) _ (List.mem_singleton_self _)
    rw [orderFields_concat]
    exact ((setField_perm _ fresh).trans (arranged.cons last)).trans
      (List.perm_append_singleton last fields).symm

end ModelRuns
