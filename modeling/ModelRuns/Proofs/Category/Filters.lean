import Mathlib.Data.List.Nodup
import ModelRuns.Proofs.Category.Order
import ModelRuns.Proofs.Json.Texts

namespace ModelRuns

/-!
# What filters select

The service evaluates a filter on each row of a dataset.  A filter is a text, so that it
first has to be read: `(= (f FIELD) CATEGORY)` selects the rows with a category in a field,
and `(not (or ...))` those that fulfil none of several such equations.  Field and category
are quoted, and read as texts in documents are.  `readFilter?` is this reader.  It also
reads a `(not (or ))` without equations, so that it is a fact about the filters, and not
about their reader, that they do not occur.

The categories that have a filter of their own are the front of the list.  If something is
left behind them, one filter more gathers it.
-/

/-! ## Filters as conditions on rows -/

/-- What a row has in each field; a field may be empty. -/
abbrev Row := String → Option String

/-- The condition that a field has a category. -/
structure Equation where
  field : String
  category : String
deriving DecidableEq, Repr

def Equation.holds (equation : Equation) (row : Row) : Bool :=
  row equation.field == some equation.category

/-- The condition a filter puts on rows. -/
inductive RowCondition
  | equal (equation : Equation)
  | noneOf (equations : List Equation)
deriving DecidableEq, Repr

def RowCondition.accepts : RowCondition → Row → Bool
  | .equal equation, row => equation.holds row
  | .noneOf equations, row => !equations.any (·.holds row)

/-! ## Reading filters -/

/-- A text between quotes, and what is left behind it. -/
def readLiteral? : List Char → Option (String × List Char)
  | '"' :: rest => (readQuoted rest).toOption
  | _ => none

/-- What stands before, between and behind the texts of an equation. -/
def equationOpening : List Char := "(= (f ".toList

def equationMiddle : List Char := ") ".toList

def equationClosing : List Char := ")".toList

/-- An equation, and what is left behind it. -/
def readEquation? (text : List Char) : Option (Equation × List Char) := do
  let (field, text) ← readLiteral? (← text.dropPrefix? equationOpening)
  let (category, text) ← readLiteral? (← text.dropPrefix? equationMiddle)
  return (⟨field, category⟩, ← text.dropPrefix? equationClosing)

/-- Equations with blanks between them.  Each takes characters, so that there are no more
turns than characters. -/
def readEquations? : Nat → List Char → Option (List Equation × List Char)
  | 0, _ => none
  | turns + 1, text => do
    let (equation, left) ← readEquation? text
    match left with
    | ' ' :: rest =>
      let (equations, left) ← readEquations? turns rest
      return (equation :: equations, left)
    | left => return ([equation], left)

/-- What stands before and behind the equations of which none may hold. -/
def denialOpening : List Char := "(not (or ".toList

def denialClosing : List Char := "))".toList

/-- The condition of a filter. -/
def readFilter? (text : List Char) : Option RowCondition :=
  match text.dropPrefix? denialOpening with
  | some inner =>
    if inner = denialClosing then some (.noneOf [])
    else (readEquations? inner.length inner).bind fun (equations, left) =>
      if left = denialClosing then some (.noneOf equations) else none
  | none => (readEquation? text).bind fun (equation, left) =>
    if left = [] then some (.equal equation) else none

namespace CategoryFilter

variable (filter : CategoryFilter)

def condition? : Option RowCondition := readFilter? filter.filter.toList

/-- Whether a filter selects a row; one that cannot be read selects none. -/
def accepts (row : Row) : Bool := filter.condition?.any (·.accepts row)

end CategoryFilter

/-! ## Reading what is written -/

theorem dropPrefix?_append (word rest : List Char) : (word ++ rest).dropPrefix? word = some rest :=
  List.dropPrefix?_eq_some_iff.mpr ⟨word, rfl, BEq.rfl⟩

theorem readLiteral?_quoteText (text : String) (rest : List Char) :
    readLiteral? (quoteText text ++ rest) = some (text, rest) := by
  have quoted : quoteText text ++ rest = '"' :: (text.toList.flatMap escapeChar ++ '"' :: rest) := by
    simp [quoteText]
  rw [quoted, readLiteral?, readQuoted_escaped]
  rfl

theorem toList_equalsFilter (field category : String) :
    (equalsFilter field category).toList =
      equationOpening ++ (quoteText field ++
        (equationMiddle ++ (quoteText category ++ equationClosing))) := by
  simp only [equalsFilter, String.toList_append, String.toList_ofList, List.append_assoc]
  rfl

theorem readEquation?_equalsFilter (field category : String) (rest : List Char) :
    readEquation? ((equalsFilter field category).toList ++ rest) =
      some (⟨field, category⟩, rest) := by
  simp only [readEquation?, toList_equalsFilter, List.append_assoc, dropPrefix?_append,
    readLiteral?_quoteText, Option.bind_eq_bind, Option.bind_some, Option.pure_def]

/-- The equations that say that a field has one of several categories. -/
def equationsOf (field : String) (categories : List Category) : List Equation :=
  categories.map fun category => ⟨field, category.name⟩

/-- The filter of the rows with a category of their own. -/
def singleFilter (field : String) (category : Category) : CategoryFilter :=
  ⟨category.name, equalsFilter field category.name⟩

/-- The filter of the rows with none of the kept categories. -/
def otherFilter (field : String) (kept : List Category) : CategoryFilter :=
  ⟨otherLabel, "(not (or " ++
    " ".intercalate ((kept.map (singleFilter field)).map CategoryFilter.filter) ++ "))"⟩

theorem condition?_singleFilter (field : String) (category : Category) :
    (singleFilter field category).condition? = some (.equal ⟨field, category.name⟩) := by
  have read := readEquation?_equalsFilter field category.name []
  have single : ((equalsFilter field category.name).toList).dropPrefix? denialOpening = none := by
    rw [toList_equalsFilter]
    rfl
  rw [List.append_nil] at read
  simp only [CategoryFilter.condition?, singleFilter, readFilter?, single, read, Option.bind_some,
    if_pos]

/-- The written equations of categories, with blanks between them. -/
def equationChars (field : String) (categories : List Category) : List Char :=
  [' '].intercalate (categories.map fun category => (equalsFilter field category.name).toList)

theorem equationChars_single (field : String) (category : Category) :
    equationChars field [category] = (equalsFilter field category.name).toList := by
  simp [equationChars, List.intercalate]

theorem equationChars_cons_cons (field : String) (first second : Category)
    (others : List Category) :
    equationChars field (first :: second :: others) =
      (equalsFilter field first.name).toList ++ ' ' :: equationChars field (second :: others) := by
  simp [equationChars, List.intercalate]

theorem equalsFilter_ne_nil (field category : String) :
    (equalsFilter field category).toList ≠ [] := by
  rw [toList_equalsFilter]
  exact List.cons_ne_nil _ _

theorem length_le_equationChars (field : String) (categories : List Category) :
    categories.length ≤ (equationChars field categories).length := by
  induction categories with
  | nil => exact Nat.zero_le _
  | cons first others inductionHypothesis =>
    have visible := List.length_pos_iff.mpr (equalsFilter_ne_nil field first.name)
    cases others with
    | nil =>
      rw [equationChars_single]
      exact visible
    | cons second others =>
      simp only [equationChars_cons_cons, List.length_append, List.length_cons]
        at inductionHypothesis ⊢
      omega

/-- Equations are read until something else than a blank follows. -/
theorem readEquations?_equationChars (field : String) (first : Category) (others : List Category)
    {turns : Nat} (enough : others.length < turns) :
    readEquations? turns (equationChars field (first :: others) ++ denialClosing) =
      some (equationsOf field (first :: others), denialClosing) := by
  induction others generalizing first turns with
  | nil =>
    cases turns with
    | zero => simp at enough
    | succ turns =>
      rw [equationChars_single, readEquations?, readEquation?_equalsFilter]
      rfl
  | cons second others inductionHypothesis =>
    cases turns with
    | zero => simp at enough
    | succ turns =>
      have fewer : others.length < turns := Nat.lt_of_succ_lt_succ enough
      have later := inductionHypothesis second fewer
      rw [equationChars_cons_cons, List.append_assoc, List.cons_append, readEquations?,
        readEquation?_equalsFilter]
      simp only [Option.bind_eq_bind, Option.bind_some, later, Option.pure_def]
      rfl

theorem toList_otherFilter (field : String) (kept : List Category) :
    (otherFilter field kept).filter.toList =
      denialOpening ++ (equationChars field kept ++ denialClosing) := by
  rw [otherFilter, String.toList_append, String.toList_append, String.toList_intercalate,
    List.map_map, List.map_map, List.append_assoc]
  rfl

theorem condition?_otherFilter (field : String) (kept : List Category) :
    (otherFilter field kept).condition? = some (.noneOf (equationsOf field kept)) := by
  rw [CategoryFilter.condition?, toList_otherFilter, readFilter?, dropPrefix?_append]
  dsimp only
  cases kept with
  | nil => rfl
  | cons first others =>
    have enough : others.length < (equationChars field (first :: others) ++ denialClosing).length := by
      have long := length_le_equationChars field (first :: others)
      rw [List.length_cons] at long
      rw [List.length_append]
      omega
    have opened : equationChars field (first :: others) ++ denialClosing ≠ denialClosing := by
      intro same
      have empty := List.append_left_eq_self.mp same
      have long := length_le_equationChars field (first :: others)
      rw [empty, List.length_cons] at long
      simp at long
    simp only [if_neg opened, readEquations?_equationChars field first others enough,
      Option.bind_some, if_pos]

/-! ## Kept and gathered categories -/

/-- How many of a number of categories have a filter of their own. -/
def keptCount (limit count : Nat) : Nat :=
  if count ≤ max limit 2 then count else max limit 2 - 1

/-- The categories that have a filter of their own. -/
def keptCategories (limit : Nat) (categories : List Category) : List Category :=
  categories.take (keptCount limit categories.length)

/-- The categories that are gathered. -/
def gatheredCategories (limit : Nat) (categories : List Category) : List Category :=
  categories.drop (keptCount limit categories.length)

theorem kept_append_gathered (limit : Nat) (categories : List Category) :
    keptCategories limit categories ++ gatheredCategories limit categories = categories :=
  List.take_append_drop _ _

/-- Either all categories are kept, or some are gathered and all but one of the places that
the limit allows are taken by kept ones. -/
theorem kept_cases (limit : Nat) (categories : List Category) :
    categories.length ≤ max limit 2 ∧ keptCategories limit categories = categories ∧
        gatheredCategories limit categories = [] ∨
      max limit 2 < categories.length ∧
        keptCategories limit categories = categories.take (max limit 2 - 1) ∧
        (keptCategories limit categories).length = max limit 2 - 1 ∧
        gatheredCategories limit categories ≠ [] := by
  unfold keptCategories gatheredCategories keptCount
  by_cases few : categories.length ≤ max limit 2
  · rw [if_pos few, List.take_length, List.drop_length]
    exact .inl ⟨few, rfl, rfl⟩
  · rw [if_neg few, List.length_take, Ne, List.drop_eq_nil_iff]
    exact .inr ⟨by omega, rfl, by omega, by omega⟩

/-- The filter that gathers categories, if there are any. -/
def gatheringFilters (field : String) (kept gathered : List Category) : List CategoryFilter :=
  if gathered.isEmpty then [] else [otherFilter field kept]

theorem categoryFilters_eq (field : String) (categories : List Category) (limit : Nat) :
    categoryFilters field categories limit =
      (keptCategories limit categories).map (singleFilter field) ++
        gatheringFilters field (keptCategories limit categories)
          (gatheredCategories limit categories) := by
  unfold categoryFilters gatheringFilters
  rcases kept_cases limit categories with ⟨few, kept, gathered⟩ | ⟨many, kept, _, gathered⟩
  · rw [if_pos few, gathered, kept]
    exact (List.append_nil _).symm
  · rw [if_neg (by omega), List.isEmpty_eq_false_iff.mpr gathered, kept]
    rfl

theorem length_categoryFilters (field : String) (categories : List Category) (limit : Nat) :
    (categoryFilters field categories limit).length = min categories.length (max limit 2) := by
  rw [categoryFilters_eq, List.length_append, List.length_map, gatheringFilters]
  rcases kept_cases limit categories with ⟨few, kept, gathered⟩ | ⟨many, _, length, gathered⟩
  · rw [kept, gathered, List.isEmpty_nil, if_pos rfl, List.length_nil]
    omega
  · rw [length, List.isEmpty_eq_false_iff.mpr gathered, if_neg Bool.false_ne_true,
      List.length_singleton]
    omega

/-! ## What the filters select -/

variable {field : String} {row : Row} {category : Category} {kept gathered : List Category}

theorem accepts_singleFilter (other : Category) (found : row field = some category.name) :
    (singleFilter field other).accepts row = (other.name == category.name) := by
  rw [CategoryFilter.accepts, condition?_singleFilter, Option.any_some, RowCondition.accepts,
    Equation.holds, found, Option.some_beq_some]
  exact Bool.beq_comm ..

theorem accepts_otherFilter (found : row field = some category.name) :
    (otherFilter field kept).accepts row = !(kept.map Category.name).contains category.name := by
  rw [CategoryFilter.accepts, condition?_otherFilter, Option.any_some, RowCondition.accepts,
    List.contains_eq_any_beq, equationsOf, List.any_map, List.any_map]
  refine congrArg (fun holds => !kept.any holds) (funext fun other => ?_)
  simp only [Function.comp_apply, Equation.holds, found, Option.some_beq_some]

/-- A kept category is selected by its filter alone, and a gathered one by the filter that
gathers. -/
theorem countP_accepts (distinct : ((kept ++ gathered).map Category.name).Nodup)
    (member : category ∈ kept ++ gathered) (found : row field = some category.name) :
    (kept.map (singleFilter field) ++ gatheringFilters field kept gathered).countP
      (·.accepts row) = 1 := by
  have singles : (kept.map (singleFilter field)).countP (·.accepts row) =
      (kept.map Category.name).count category.name := by
    rw [List.countP_map, List.count, List.countP_map]
    refine List.countP_congr fun other _ => ?_
    rw [Function.comp_apply, Function.comp_apply, accepts_singleFilter other found]
  rw [List.map_append, List.nodup_append] at distinct
  rcases distinct with ⟨distinctKept, _, apart⟩
  rw [List.countP_append, singles, gatheringFilters]
  rcases List.mem_append.mp member with inKept | inGathered
  · have named := List.mem_map_of_mem (f := Category.name) inKept
    have refused : (otherFilter field kept).accepts row = false := by
      rw [accepts_otherFilter found, List.contains_iff_mem.mpr named]
      rfl
    rw [List.count_eq_one_of_mem distinctKept named]
    split <;> simp [refused]
  · have unnamed : category.name ∉ kept.map Category.name := fun named =>
      apart _ named _ (List.mem_map_of_mem (f := Category.name) inGathered) rfl
    have accepted : (otherFilter field kept).accepts row = true := by
      rw [accepts_otherFilter found, Bool.not_eq_true', ← Bool.not_eq_true, List.contains_iff_mem]
      exact unnamed
    rw [List.count_eq_zero_of_not_mem unnamed,
      List.isEmpty_eq_false_iff.mpr (List.ne_nil_of_mem inGathered), if_neg Bool.false_ne_true]
    simp [accepted]

/-- Filters divide the rows by the categories of a field. -/
structure CategoryFilter.Divides (field : String) (categories : List Category) (limit : Nat)
    (filters : List CategoryFilter) : Prop where
  /-- There is a filter for each category, but there are no more than the limit allows, and a
  limit below two allows two. -/
  size : filters.length = min categories.length (max limit 2)
  /-- The rows of a category are selected by exactly one filter. -/
  once : ∀ category ∈ categories, ∀ row : Row, row field = some category.name →
    filters.countP (·.accepts row) = 1
  /-- A filter that gathers excludes something. -/
  operands : ∀ filter ∈ filters, ∀ equations, filter.condition? = some (.noneOf equations) →
    equations ≠ []
  /-- Field and categories are read back from each filter, and no gathered category is more
  frequent than a kept one. -/
  readBack : ∃ kept gathered, categories = kept ++ gathered ∧
    filters.map (fun filter => (filter.label, filter.condition?)) =
      kept.map (fun category => (category.name, some (.equal ⟨field, category.name⟩))) ++
        (if gathered.isEmpty then [] else [(otherLabel, some (.noneOf (equationsOf field kept)))]) ∧
    ∀ common ∈ kept, ∀ rare ∈ gathered, rare.count ≤ common.count

/-- Something is kept beside what is gathered. -/
theorem kept_ne_nil {limit : Nat} {categories : List Category}
    (some_gathered : gatheredCategories limit categories ≠ []) :
    keptCategories limit categories ≠ [] := by
  rcases kept_cases limit categories with ⟨_, _, none⟩ | ⟨_, _, length, _⟩
  · exact absurd none some_gathered
  · refine List.ne_nil_of_length_pos ?_
    omega

theorem operands_ne_nil (field : String) {limit : Nat} {categories : List Category}
    {filter : CategoryFilter} (member : filter ∈ categoryFilters field categories limit)
    {equations : List Equation} (denies : filter.condition? = some (.noneOf equations)) :
    equations ≠ [] := by
  rw [categoryFilters_eq, List.mem_append] at member
  rcases member with single | gathers
  · rcases List.mem_map.mp single with ⟨category, _, rfl⟩
    rw [condition?_singleFilter] at denies
    cases denies
  · unfold gatheringFilters at gathers
    split at gathers
    next => cases gathers
    next some_gathered =>
      rw [List.mem_singleton.mp gathers, condition?_otherFilter] at denies
      cases denies
      have kept := kept_ne_nil fun none => some_gathered (List.isEmpty_iff.mpr none)
      exact fun empty => kept (List.map_eq_nil_iff.mp empty)

/-- The filters of categories with different names in order divide the rows by them. -/
theorem categoryFilters_divide (field : String) (categories : List Category) (limit : Nat)
    (distinct : (categories.map Category.name).Nodup)
    (ordered : categories.Pairwise fun left right => left.before right = true) :
    CategoryFilter.Divides field categories limit (categoryFilters field categories limit) where
  size := length_categoryFilters field categories limit
  once := by
    intro category member row found
    rw [categoryFilters_eq]
    rw [← kept_append_gathered limit categories] at distinct member
    exact countP_accepts distinct member found
  operands := fun _ member _ denies => operands_ne_nil field member denies
  readBack := by
    refine ⟨keptCategories limit categories, gatheredCategories limit categories,
      (kept_append_gathered limit categories).symm, ?_, ?_⟩
    · rw [categoryFilters_eq, List.map_append, List.map_map]
      refine congrArg₂ (· ++ ·) ?_ ?_
      · refine List.map_congr_left fun category _ => ?_
        rw [Function.comp_apply, condition?_singleFilter]
        rfl
      · rw [gatheringFilters]
        split
        · rfl
        · rw [List.map_singleton, condition?_otherFilter]
          rfl
    · intro common inKept rare inGathered
      rw [← kept_append_gathered limit categories, List.pairwise_append] at ordered
      exact Category.count_le_of_before (ordered.2.2 common inKept rare inGathered)

/-- Categories whose names look like parts of a filter. -/
def confusingCategories : List Category :=
  [⟨"\") (= (f \"x\")", 3⟩, ⟨"\\", 2⟩, ⟨"", 1⟩, ⟨"))", 1⟩]

theorem categoryFilters_divide_confusing :
    (confusingCategories.map Category.name).Nodup ∧
    confusingCategories.Pairwise (fun left right => left.before right = true) ∧
    CategoryFilter.Divides "\"" confusingCategories 1
      (categoryFilters "\"" confusingCategories 1) :=
  ⟨by decide, by decide, categoryFilters_divide _ _ _ (by decide) (by decide)⟩

end ModelRuns
