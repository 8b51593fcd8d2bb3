import Mathlib.Data.List.Perm.Basic
import ModelRuns.Proofs.Json.Pretty
import ModelRuns.Report

namespace ModelRuns

/-!
# The report is read back

The summary of a run is written with its parts in the order of their declaration, and uploaded
with them in the order of their keys.  What is read from the file is the document that is
uploaded, and this gives the summary back.  Only the stages come back in the order of their
names.
-/

/-- Reading a list of what was written gives the list back. -/
theorem mapM_map_of_reads {α β : Type} (write : α → β) (read : β → Option α)
    (reads : ∀ value, read (write value) = some value) (values : List α) :
    (values.map write).mapM read = some values := by
  have undone : read ∘ write = fun value => pure value := funext reads
  rw [List.mapM_map, undone, List.mapM_pure, List.map_id']
  rfl

theorem Json.texts?_ofTexts (texts : List String) : (Json.ofTexts texts).texts? = some texts :=
  mapM_map_of_reads Json.text Json.text? (fun _ => rfl) texts

namespace RunSummary

variable (summary : RunSummary)

/-- What is read from the file is the document that is uploaded. -/
theorem read_written : Json.read (prettyRecord summary.parts) = .ok summary.toJson := by
  have each : List.Forall₂ (Json.ReadsField (nestingLimit - 1)) summary.parts summary.parts := by
    refine .cons ⟨rfl, ?_⟩ (.cons ⟨rfl, .text _ _⟩ (.cons ⟨rfl, .text _ _⟩
      (.cons ⟨rfl, .ofFields ?_⟩ (.cons ⟨rfl, .ofTexts _ _⟩ .nil))))
    · cases summary.runId with
      | none => exact .null _
      | some id => exact .text _ id
    · exact List.forall_mem_map.mpr fun _ _ => .ofTexts _ _
  exact (Json.ReadsBack.object each).read

/-- Stages with different names come back in some order. -/
theorem readResources_ofFields {resources : List (String × List String)}
    (distinct : (resources.map Prod.fst).Nodup) :
    ∃ found, found.Perm resources ∧ readResources
      (.ofFields (resources.map fun entry => (entry.1, .ofTexts entry.2))) = some found := by
  let write : String × List String → String × Json := fun entry => (entry.1, .ofTexts entry.2)
  have keys : ((resources.map write).map Prod.fst).Nodup := by rwa [List.map_map]
  have arranged : Relation.Comp (· = List.map write ·) List.Perm
      (orderFields (resources.map write)) resources := by
    rw [List.eq_map_comp_perm]
    exact orderFields_perm keys
  rcases arranged with ⟨found, same, rearranged⟩
  refine ⟨found, rearranged, ?_⟩
  have reads : (orderFields (resources.map write)).mapM
      (fun part => part.2.texts?.map (part.1, ·)) = some found := by
    rw [same]
    refine mapM_map_of_reads write _ (fun entry => ?_) found
    show (Json.ofTexts entry.2).texts?.map (entry.1, ·) = some entry
    rw [Json.texts?_ofTexts]
    rfl
  exact reads

/-- The document gives the summary back. -/
theorem ofJson?_toJson (distinct : (summary.resources.map Prod.fst).Nodup) :
    ∃ resources, resources.Perm summary.resources ∧
      ofJson? summary.toJson = some { summary with resources } := by
  rcases readResources_ofFields distinct with ⟨found, rearranged, reads⟩
  refine ⟨found, rearranged, ?_⟩
  have parts : summary.toJson.parts?
      ["run_id", "command", "output_dir", "resources", "generated_files"] =
        some (summary.parts.map fun part => some part.2) := by
    show some (List.map (fun key => (Json.ofFields summary.parts).field? key) _) = _
    simp only [field?_ofFields]
    rfl
  have runId : Json.optional Json.text? (some (.ofOption .text summary.runId)) =
      some summary.runId := by cases summary.runId <;> rfl
  unfold ofJson?
  rw [parts]
  simp [RunSummary.parts, runId, Json.needed, Json.text?, reads, Json.texts?_ofTexts]

end RunSummary

end ModelRuns
