import ModelRuns.Invocation.Preflight
import ModelRuns.Proofs.Pipeline.Samples
import ModelRuns.Proofs.Pipeline.WriteAhead

namespace ModelRuns

open Stateful

/-!
# What is published is described

A resource becomes public by a change, and a change that makes it public carries a
description that is not blank.  The changes are put together from the options, and
whether the options have a description is checked before anything is asked; that the
check covers every change is shown here, for all combinations of flags.

The runs come in by the accounts of their requests: whatever a run changes is one of
two changes that its options fix.
-/

/-! ## Changes -/

/-- A change that publishes nothing without a description: it changes something, what it
makes public it also describes, and what it makes transparent it makes public. -/
structure Json.Described (changes : Json) : Prop where
  changing : ∃ fields, changes = .object fields ∧ fields ≠ []
  described : changes.field? "private" = some (.bool false) →
    ∃ text, changes.field? "description" = some (.text text) ∧ allBlank text = false
  together : changes.field? "white_box" = some (.bool true) →
    changes.field? "private" = some (.bool false)

namespace CommonOptions

variable (options : CommonOptions) (publishing whiteBox : Bool)

/-- The fields that publishing or sharing changes. -/
def changedFields : Fields :=
  (if publishing || whiteBox then
    ("private", .bool false) :: optionalField "description" .text options.descriptionText
  else []) ++
  (if whiteBox then [("white_box", .bool true)] else []) ++
  optionalField "shared" .bool options.sharedFlag

theorem publishChanges_eq :
    options.publishChanges publishing whiteBox =
      if (options.changedFields publishing whiteBox).isEmpty then none
      else some (.ofFields (options.changedFields publishing whiteBox)) := by
  unfold publishChanges changedFields
  cases publishing || whiteBox <;> rfl

/-- What is published is public and has the description, if there is one. -/
theorem field?_changedFields :
    (Json.ofFields (options.changedFields publishing whiteBox)).field? "private" =
        (if publishing || whiteBox then some (.bool false) else none) ∧
      (Json.ofFields (options.changedFields publishing whiteBox)).field? "description" =
        (if publishing || whiteBox then options.descriptionText.map .text else none) ∧
      (Json.ofFields (options.changedFields publishing whiteBox)).field? "white_box" =
        if whiteBox then some (.bool true) else none := by
  simp only [field?_ofFields, changedFields]
  cases publishing || whiteBox <;> cases whiteBox <;> cases options.descriptionText <;>
    cases options.sharedFlag <;> simp [optionalField, getField?]

variable {options publishing whiteBox}

/-- A description that is kept is not blank. -/
theorem allBlank_of_descriptionText {text : String} (kept : options.descriptionText = some text) :
    allBlank text = false := by
  simpa using (Option.filter_eq_some_iff.mp kept).2

/-- With a description wherever something is published, the changes publish nothing without
one. -/
theorem described_publishChanges {changes : Json}
    (covered : (publishing || whiteBox) = true → options.descriptionText.isSome = true)
    (built : options.publishChanges publishing whiteBox = some changes) : changes.Described := by
  rw [publishChanges_eq] at built
  split at built
  next => cases built
  next several =>
    cases built
    rcases options.field?_changedFields publishing whiteBox with ⟨hidden, described, boxed⟩
    constructor
    · exact ⟨_, rfl, orderFields_ne_nil (by simpa using several)⟩
    · intro published
      rw [hidden] at published
      split at published
      next publishes =>
        rcases Option.isSome_iff_exists.mp (covered publishes) with ⟨text, kept⟩
        refine ⟨text, ?_, allBlank_of_descriptionText kept⟩
        rw [described, if_pos publishes, kept]
        rfl
      next => cases published
    · intro transparent
      rw [boxed] at transparent
      split at transparent
      next asked =>
        have publishes : (publishing || whiteBox) = true := by rw [asked, Bool.or_true]
        rw [hidden, if_pos publishes]
      next => cases transparent

theorem descriptionText_of_check {publishing : Bool}
    (checked : options.checkDescription publishing = .ok ()) :
    publishing = true → options.descriptionText.isSome = true := by
  rintro rfl
  unfold checkDescription require at checked
  split at checked
  next held => simpa using held
  next => cases checked

end CommonOptions

/-! ## Runs -/

/-- The first of two checks in a row holds if both do. -/
theorem Except.left_of_andThen {ε : Type} {first second : Except ε Unit}
    (both : (do first; second) = .ok ()) : first = .ok () := by
  cases first with
  | error objection => cases both
  | ok _ => rfl

namespace RunContext

variable {run : RunContext} {invocation : Invocation}

/-- The checks cover whatever a run can change. -/
theorem described_of_publishes {changes : Json} (accepted : invocation.check = .ok ())
    (publishes : Publishes invocation changes) : changes.Described := by
  cases invocation with
  | main options =>
    have checked := CommonOptions.descriptionText_of_check (Except.left_of_andThen accepted)
    rcases publishes with datasets | models
    · apply CommonOptions.described_publishChanges _ datasets
      intro published
      rw [Bool.or_false] at published
      exact checked (by rw [published, Bool.or_true])
    · apply CommonOptions.described_publishChanges _ models
      intro published
      exact checked (by rw [published, Bool.true_or])
  | cluster options =>
    have checked := CommonOptions.descriptionText_of_check (Except.left_of_andThen accepted)
    rcases publishes with datasets | clusters
    · apply CommonOptions.described_publishChanges _ datasets
      intro published
      rw [Bool.or_false] at published
      exact checked (by rw [published, Bool.or_true])
    · apply CommonOptions.described_publishChanges _ clusters
      intro published
      rw [Bool.or_false] at published
      exact checked (by rw [published, Bool.true_or])

/-- What is changed in a trace with a journal is what the run publishes or shares. -/
theorem Journal.publishes {trace : List Exchange} {entries : List Entry}
    (journal : run.Journal invocation trace entries) {id : ResourceId} {changes : Json}
    {answer : Except Failure Resource}
    (asked : (⟨.api (.update id changes), answer⟩ : Exchange) ∈ trace) :
    Publishes invocation changes := by
  induction journal with
  | nil => cases asked
  | aside aside _ inductionHypothesis =>
    rcases List.mem_cons.mp asked with rfl | later
    · exact aside
    · exact inductionHypothesis later
  | entry checkpoint creation resource sent _ inductionHypothesis =>
    rcases List.mem_cons.mp asked with impossible | behind
    · cases impossible
    rcases List.mem_cons.mp behind with impossible | later
    · cases impossible
    · exact inductionHypothesis later

/-- A trace that is broken off changes nothing behind its journal. -/
theorem Accounts.publishes {α : Type} {trace : List Exchange} {outcome : Except Failure α}
    {entries : List Entry} (accounts : run.Accounts invocation trace outcome entries)
    {id : ResourceId} {changes : Json} {answer : Except Failure Resource}
    (asked : (⟨.api (.update id changes), answer⟩ : Exchange) ∈ trace) :
    Publishes invocation changes := by
  cases accounts with
  | whole journal => exact journal.publishes asked
  | broken breaks =>
    rcases breaks with ⟨front, _, _, _, _, notes, rfl, _, journal, noted⟩
    rcases List.mem_append.mp asked with before | behind
    · exact journal.publishes before
    rcases List.mem_cons.mp behind with impossible | later
    · cases impossible
    rcases List.mem_cons.mp later with impossible | note
    · cases impossible
    · exact (noted _ note).elim

/-- Nothing is published without a description: whatever a run of an invocation that passed
its checks changes, in whatever way the service and the disk answer it. -/
theorem described_of_update (run : RunContext) (invocation : Invocation) (resuming : Bool)
    (trace : List Exchange) (outcome : Except Failure Unit) (after : Progress)
    (accepted : invocation.check = .ok ())
    (goes : Goes (run.runPipeline invocation) (Progress.start resuming) trace outcome after)
    (id : ResourceId) (changes : Json) (answer : Except Failure Resource)
    (asked : (⟨.api (.update id changes), answer⟩ : Exchange) ∈ trace) : changes.Described := by
  have parallel : Parallel run invocation 0 12 Eq (run.runPipeline invocation)
    (run.runPipeline invocation) := Parallel.runPipeline
  rcases parallel.accounted.1 _ _ _ _ goes with ⟨entries, accounts⟩
  exact described_of_publishes accepted (accounts.publishes asked)

end RunContext

/-! ## A transparent model -/

open RunContext

/-- Options that build a model on a dataset and publish it with all its parts. -/
def transparentOptions : MainOptions :=
  { listedOptions with
    common := { listedOptions.common with testDatasets := none, description := some "all rows" }
    whiteBox := true
    evaluate := false }

def transparentRun : List Exchange × Except Failure Unit × Progress :=
  recorded emptyList (centroidRun.runMain transparentOptions) (Progress.start false) []

/-- Whether something is made public and transparent. -/
def Exchange.opens : Exchange → Bool
  | ⟨.api (.update _ changes), _⟩ =>
    match changes.field? "private", changes.field? "white_box" with
    | some (.bool false), some (.bool true) => true
    | _, _ => false
  | _ => false

theorem update_of_opens {exchange : Exchange} (opens : exchange.opens = true) :
    ∃ id changes answer, exchange = ⟨.api (.update id changes), answer⟩ ∧
      changes.field? "private" = some (.bool false) := by
  rcases exchange with ⟨asked, answer⟩
  cases asked with
  | api request =>
    cases request with
    | update id changes =>
      refine ⟨id, changes, answer, rfl, ?_⟩
      unfold Exchange.opens at opens
      dsimp only at opens
      split at opens
      next hidden _ => exact hidden
      next => cases opens
    | _ => cases opens
  | _ => cases opens

/-- The model is published with a description. -/
theorem described_of_update_transparent :
    transparentOptions.check = .ok () ∧
      ∃ id changes answer, (⟨.api (.update id changes), answer⟩ : Exchange) ∈ transparentRun.1 ∧
        changes.field? "private" = some (.bool false) ∧
        ∃ text, changes.field? "description" = some (.text text) ∧ allBlank text = false := by
  have accepted : (Invocation.main transparentOptions).check = .ok () := by decide +kernel
  have opened : ∃ exchange ∈ transparentRun.1, exchange.opens = true := by decide +kernel
  rcases opened with ⟨exchange, asked, opens⟩
  rcases update_of_opens opens with ⟨id, changes, answer, rfl, published⟩
  have described := described_of_update centroidRun (.main transparentOptions) false
    transparentRun.1 transparentRun.2.1 transparentRun.2.2 accepted
    (goes_recorded emptyList _ _ _ rfl) id changes answer asked
  exact ⟨accepted, id, changes, answer, asked, published, described.described published⟩

end ModelRuns
