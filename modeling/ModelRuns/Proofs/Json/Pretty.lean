import Mathlib.Data.List.Forall2
import ModelRuns.Proofs.Json.Fields
import ModelRuns.Proofs.Json.Texts

namespace ModelRuns

/-!
# The indented form is read back

A reader takes a document in its indented form off the front of a text.  `Json.ReadsBack` says
so of one document, at every level of indentation and whatever follows it; there is one lemma
for each kind of document that holds no number.  Arrays and objects are read part by part, so
theirs follow from those of their parts.

Every step of the reader uses a turn, and both parts of a list go on with those that are left.
A turn for each character is always enough.
-/

/-! ## Blanks -/

theorem skipBlanks_cons {c : Char} (visible : isJsonBlank c = false) (rest : List Char) :
    skipBlanks (c :: rest) = c :: rest := List.dropWhile_cons_of_neg (by simp [visible])

theorem skipBlanks_indentation (level : Nat) (rest : List Char) :
    skipBlanks (indentation level ++ rest) = skipBlanks rest := by
  refine List.dropWhile_append_of_pos fun c member => ?_
  rcases List.mem_cons.mp member with rfl | space
  · rfl
  · rw [List.eq_of_mem_replicate space]
    rfl

/-- A blank before a value is passed over. -/
theorem readValue_blank {blank : Char} (blanks : isJsonBlank blank = true) {turns : Nat}
    (some : 0 < turns) (depth : Nat) (text : List Char) :
    readValue turns depth (blank :: text) = readValue turns depth text := by
  have skipped : skipBlanks (blank :: text) = skipBlanks text := List.dropWhile_cons_of_pos blanks
  cases turns with
  | zero => exact absurd some (Nat.lt_irrefl 0)
  | succ turns => rw [readValue, readValue, skipped]

/-! ## Documents -/

/-- The indented form of a document is read as another one by a reader that may still open
so many levels. -/
structure Json.ReadsBack (depth : Nat) (document found : Json) : Prop where
  /-- It begins with no blank, and not with what ends a list. -/
  begins : ∀ level, ∃ c rest, prettyChars level document = c :: rest ∧ isJsonBlank c = false ∧
    c ≠ ']'
  reads : ∀ level turns rest, (prettyChars level document).length ≤ turns →
    readValue turns depth (prettyChars level document ++ rest) = .ok (found, rest)

/-- The form that stands behind the first part of a list. -/
def laterParts (closing : Char) (level : Nat) (parts : List (List Char)) : List Char :=
  parts.flatMap (fun part => ',' :: (indentation (level + 1) ++ part)) ++
    (indentation level ++ [closing])

/-- What stands in a list behind its opening bracket. -/
def partsInside (closing : Char) (level : Nat) : List (List Char) → List Char
  | [] => [closing]
  | part :: parts => indentation (level + 1) ++ (part ++ laterParts closing level parts)

theorem intercalate_cons (separator first : List Char) (others : List (List Char)) :
    separator.intercalate (first :: others) =
      first ++ others.flatMap fun other => separator ++ other := by
  induction others generalizing first with
  | nil => simp [List.intercalate]
  | cons other rest inductionHypothesis =>
    have later : separator.intercalate (first :: other :: rest) =
        first ++ (separator ++ separator.intercalate (other :: rest)) := by
      simp [List.intercalate]
    rw [later, inductionHypothesis, List.flatMap_cons, List.append_assoc]

theorem bracketed_eq (opening closing : Char) (level : Nat) (parts : List (List Char)) :
    bracketed opening closing level parts = opening :: partsInside closing level parts := by
  cases parts with
  | nil => rfl
  | cons part parts =>
    unfold bracketed partsInside laterParts
    simp only [intercalate_cons, List.cons_append, List.append_assoc]

theorem laterParts_nil (closing : Char) (level : Nat) :
    laterParts closing level [] = indentation level ++ [closing] := rfl

theorem laterParts_cons (closing : Char) (level : Nat) (part : List Char)
    (parts : List (List Char)) :
    laterParts closing level (part :: parts) =
      ',' :: (indentation (level + 1) ++ (part ++ laterParts closing level parts)) := by
  simp only [laterParts, List.flatMap_cons, List.cons_append, List.append_assoc]

theorem prettyItems_eq (level : Nat) (items : List Json) :
    prettyItems level items = items.map (prettyChars level) := by
  induction items with
  | nil => rfl
  | cons item rest inductionHypothesis => rw [prettyItems, inductionHypothesis, List.map_cons]

/-- A written field. -/
def prettyField (level : Nat) (field : String × Json) : List Char :=
  quoteText field.1 ++ ':' :: ' ' :: prettyChars level field.2

theorem prettyFields_eq (level : Nat) (fields : Fields) :
    prettyFields level fields = fields.map (prettyField level) := by
  induction fields with
  | nil => rfl
  | cons field rest inductionHypothesis =>
    rw [prettyFields, inductionHypothesis, List.map_cons]
    rfl

/-! ## Items -/

/-- The reader finds an item on a line of its own. -/
theorem Json.ReadsBack.onLine {depth : Nat} {item value : Json}
    (reads : item.ReadsBack depth value) (level turns : Nat) (others : List Char)
    (enough : (prettyChars level item).length ≤ turns) :
    ∃ c rest, skipBlanks (indentation level ++ (prettyChars level item ++ others)) = c :: rest ∧
      c ≠ ']' ∧ readValue turns depth (c :: rest) = .ok (value, others) := by
  rcases reads.begins level with ⟨c, rest, begins, visible, inside⟩
  refine ⟨c, rest ++ others, ?_, inside, ?_⟩
  · rw [skipBlanks_indentation, begins, List.cons_append, skipBlanks_cons visible]
  · rw [← List.cons_append, ← begins]
    exact reads.reads level turns others enough

/-- The items behind the first one, and the end of the array. -/
theorem readItems_later {depth level : Nat} {items found : List Json}
    (each : List.Forall₂ (Json.ReadsBack depth) items found) {done : List Json}
    (begun : done.isEmpty = false) {turns : Nat} (rest : List Char)
    (enough : (laterParts ']' level (prettyItems (level + 1) items)).length ≤ turns) :
    readItems turns depth done (laterParts ']' level (prettyItems (level + 1) items) ++ rest) =
      .ok (done.reverse ++ found, rest) := by
  rw [prettyItems_eq] at enough ⊢
  induction each generalizing done turns with
  | nil =>
    cases turns with
    | zero => simp [laterParts, indentation] at enough
    | succ turns =>
      have ends : skipBlanks (laterParts ']' level [] ++ rest) = ']' :: rest := by
        rw [laterParts_nil, List.append_assoc, skipBlanks_indentation]
        rfl
      simp only [List.map_nil, readItems, ends, List.append_nil]
  | @cons item value items found reads each inductionHypothesis =>
    rw [List.map_cons, laterParts_cons] at enough ⊢
    simp only [List.length_cons, List.length_append] at enough
    cases turns with
    | zero => omega
    | succ turns =>
      let others := laterParts ']' level (items.map (prettyChars (level + 1))) ++ rest
      rcases reads.onLine (level + 1) turns others (by omega) with ⟨c, left, shown, inside, first⟩
      have behind : readItems turns depth (value :: done) others =
          .ok ((value :: done).reverse ++ found, rest) := inductionHypothesis rfl (by omega)
      simp only [List.cons_append, List.append_assoc, readItems, skipBlanks_cons (c := ',') rfl,
        begun]
      simp [others, shown, first, behind, inside]

/-- All items, and the end of the array. -/
theorem readItems_inside {depth level : Nat} {items found : List Json}
    (each : List.Forall₂ (Json.ReadsBack depth) items found) {turns : Nat} (rest : List Char)
    (enough : (partsInside ']' level (prettyItems (level + 1) items)).length ≤ turns) :
    readItems turns depth [] (partsInside ']' level (prettyItems (level + 1) items) ++ rest) =
      .ok (found, rest) := by
  cases turns with
  | zero => cases each <;> simp [prettyItems, partsInside, indentation] at enough
  | succ turns =>
    cases each with
    | nil => rfl
    | @cons item value items found reads each =>
      rw [prettyItems, partsInside] at enough ⊢
      simp only [List.length_append, indentation, List.length_cons] at enough
      let others := laterParts ']' level (prettyItems (level + 1) items) ++ rest
      rcases reads.onLine (level + 1) turns others (by omega) with ⟨c, left, shown, inside, first⟩
      have behind : readItems turns depth [value] others = .ok ([value].reverse ++ found, rest) :=
        readItems_later each rfl rest (by omega)
      simp only [List.append_assoc, readItems]
      simp [others, shown, first, behind]

/-! ## Fields -/

theorem prettyField_append (level : Nat) (field : String × Json) (rest : List Char) :
    prettyField level field ++ rest = '"' :: (field.1.toList.flatMap escapeChar ++
      '"' :: ':' :: ' ' :: (prettyChars level field.2 ++ rest)) := by
  simp only [prettyField, quoteText, List.cons_append, List.append_assoc, List.nil_append]

/-- A field is read as one with the same key. -/
def Json.ReadsField (depth : Nat) (field found : String × Json) : Prop :=
  found.1 = field.1 ∧ Json.ReadsBack depth field.2 found.2

/-- The reader finds a field on a line of its own: its key behind the quote, and behind the colon
its value. -/
theorem Json.ReadsField.onLine {depth : Nat} {field found : String × Json}
    (reads : Json.ReadsField depth field found) (level turns : Nat) (others : List Char)
    (enough : (prettyField level field).length ≤ turns) :
    ∃ rest left,
      skipBlanks (indentation level ++ (prettyField level field ++ others)) = '"' :: rest ∧
      readQuoted rest = .ok (found.1, ':' :: left) ∧
      readValue turns depth left = .ok (found.2, others) := by
  have written := congrArg List.length (prettyField_append level field [])
  simp only [List.append_nil, List.length_cons, List.length_append] at written
  let left := ' ' :: (prettyChars level field.2 ++ others)
  refine ⟨field.1.toList.flatMap escapeChar ++ '"' :: ':' :: left, left, ?_, ?_, ?_⟩
  · rw [skipBlanks_indentation, prettyField_append, skipBlanks_cons rfl]
  · rw [readQuoted_escaped, reads.1]
  · rw [readValue_blank rfl (by omega)]
    exact reads.2.reads level turns others (by omega)

theorem readFields_later {depth level : Nat} {fields found : Fields}
    (each : List.Forall₂ (Json.ReadsField depth) fields found) {done : Fields}
    (begun : done.isEmpty = false) {turns : Nat} (rest : List Char)
    (enough : (laterParts '}' level (prettyFields (level + 1) fields)).length ≤ turns) :
    readFields turns depth done (laterParts '}' level (prettyFields (level + 1) fields) ++ rest) =
      .ok (done.reverse ++ found, rest) := by
  rw [prettyFields_eq] at enough ⊢
  induction each generalizing done turns with
  | nil =>
    cases turns with
    | zero => simp [laterParts, indentation] at enough
    | succ turns =>
      have ends : skipBlanks (laterParts '}' level [] ++ rest) = '}' :: rest := by
        rw [laterParts_nil, List.append_assoc, skipBlanks_indentation]
        rfl
      simp only [List.map_nil, readFields, ends, List.append_nil]
  | @cons field other fields found reads each inductionHypothesis =>
    rw [List.map_cons, laterParts_cons] at enough ⊢
    simp only [List.length_cons, List.length_append] at enough
    cases turns with
    | zero => omega
    | succ turns =>
      let others := laterParts '}' level (fields.map (prettyField (level + 1))) ++ rest
      rcases reads.onLine (level + 1) turns others (by omega) with ⟨line, left, shown, key, first⟩
      have behind : readFields turns depth (other :: done) others =
          .ok ((other :: done).reverse ++ found, rest) := inductionHypothesis rfl (by omega)
      simp only [List.cons_append, List.append_assoc, readFields, skipBlanks_cons (c := ',') rfl,
        begun]
      simp [others, shown, key, first, behind, skipBlanks_cons (c := ':') rfl]

/-- All fields, and the end of the object. -/
theorem readFields_inside {depth level : Nat} {fields found : Fields}
    (each : List.Forall₂ (Json.ReadsField depth) fields found) {turns : Nat} (rest : List Char)
    (enough : (partsInside '}' level (prettyFields (level + 1) fields)).length ≤ turns) :
    readFields turns depth [] (partsInside '}' level (prettyFields (level + 1) fields) ++ rest) =
      .ok (found, rest) := by
  cases turns with
  | zero => cases each <;> simp [prettyFields, partsInside, indentation] at enough
  | succ turns =>
    cases each with
    | nil => rfl
    | @cons field other fields found reads each =>
      have opened : partsInside '}' level (prettyFields (level + 1) (field :: fields)) =
          indentation (level + 1) ++ (prettyField (level + 1) field ++
            laterParts '}' level (prettyFields (level + 1) fields)) := rfl
      rw [opened] at enough ⊢
      simp only [List.length_append, indentation, List.length_cons] at enough
      let others := laterParts '}' level (prettyFields (level + 1) fields) ++ rest
      rcases reads.onLine (level + 1) turns others (by omega) with ⟨line, left, shown, key, first⟩
      have behind : readFields turns depth [other] others =
          .ok ([other].reverse ++ found, rest) := readFields_later each rfl rest (by omega)
      simp only [List.append_assoc, readFields]
      simp [others, shown, key, first, behind, skipBlanks_cons (c := ':') rfl]

/-! ## Each kind of document -/

namespace Json.ReadsBack

theorem null (depth : Nat) : ReadsBack depth .null .null where
  begins level := ⟨'n', _, rfl, rfl, by decide⟩
  reads level turns rest enough := by
    cases turns with
    | zero => simp [prettyChars] at enough
    | succ turns => rfl

theorem text (depth : Nat) (value : String) : ReadsBack depth (.text value) (.text value) where
  begins level := ⟨'"', _, rfl, rfl, by decide⟩
  reads level turns rest enough := by
    cases turns with
    | zero => simp [prettyChars, quoteText] at enough
    | succ turns =>
      have written : prettyChars level (.text value) ++ rest =
          '"' :: (value.toList.flatMap escapeChar ++ '"' :: rest) := by
        simp only [prettyChars, quoteText, List.cons_append, List.append_assoc, List.nil_append]
      rw [written, readValue, skipBlanks_cons rfl]
      simp only [readQuoted_escaped]
      rfl

theorem array {depth : Nat} {items found : List Json}
    (each : List.Forall₂ (ReadsBack depth) items found) :
    ReadsBack (depth + 1) (.array items) (.array found) where
  begins level := ⟨'[', _, by rw [prettyChars, bracketed_eq], rfl, by decide⟩
  reads level turns rest enough := by
    rw [prettyChars, bracketed_eq] at enough ⊢
    cases turns with
    | zero => simp at enough
    | succ turns =>
      have inside := readItems_inside each rest (Nat.le_of_succ_le_succ enough)
      rw [List.cons_append, readValue, skipBlanks_cons rfl]
      simp only [Nat.add_one_ne_zero, if_false, Nat.add_sub_cancel, inside]
      rfl

theorem object {depth : Nat} {fields found : Fields}
    (each : List.Forall₂ (ReadsField depth) fields found) :
    ReadsBack (depth + 1) (.object fields) (.object (orderFields found)) where
  begins level := ⟨'{', _, by rw [prettyChars, bracketed_eq], rfl, by decide⟩
  reads level turns rest enough := by
    rw [prettyChars, bracketed_eq] at enough ⊢
    cases turns with
    | zero => simp at enough
    | succ turns =>
      have inside := readFields_inside each rest (Nat.le_of_succ_le_succ enough)
      rw [List.cons_append, readValue, skipBlanks_cons rfl]
      simp only [Nat.add_one_ne_zero, if_false, Nat.add_sub_cancel, inside]
      rfl

theorem ofTexts (depth : Nat) (texts : List String) :
    ReadsBack (depth + 1) (.ofTexts texts) (.ofTexts texts) :=
  array (List.forall₂_same.mpr (List.forall_mem_map.mpr fun value _ => text depth value))

/-- Fields are in order when they are written, so they are when they are read. -/
theorem ofFields {depth : Nat} {fields : Fields}
    (each : ∀ field ∈ fields, ReadsBack depth field.2 field.2) :
    ReadsBack (depth + 1) (.ofFields fields) (.ofFields fields) := by
  have reads := object (List.forall₂_same.mpr fun field member =>
    (⟨rfl, each field (mem_orderFields member)⟩ : ReadsField depth field field))
  rwa [(inKeyOrder_orderFields fields).orderFields] at reads

end Json.ReadsBack

/-- The indented form of a whole document is read. -/
theorem Json.ReadsBack.read {document found : Json}
    (reads : document.ReadsBack nestingLimit found) : Json.read document.pretty = .ok found := by
  have whole := reads.reads 0 (2 * (prettyChars 0 document).length + 2) [] (by omega)
  rw [List.append_nil] at whole
  unfold Json.read Json.pretty readDocument
  rw [String.toList_ofList, whole]
  rfl

end ModelRuns
