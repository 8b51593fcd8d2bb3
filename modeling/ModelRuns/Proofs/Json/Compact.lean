import ModelRuns.Json.Printer
import ModelRuns.Proofs.Path.Parents

namespace ModelRuns

/-!
# The compact form on one line

The compact form of a document has no control character, whatever its keys and texts hold:
in them control characters are escaped, and everything else is made of digits and a few
marks.  In particular it has no line break.
-/

/-- A text has no control character. -/
def FreeOfControls (text : List Char) : Prop := ∀ c ∈ text, 0x20 ≤ c.toNat

instance (text : List Char) : Decidable (FreeOfControls text) :=
  List.decidableBAll (fun c : Char => 0x20 ≤ c.toNat) text

namespace FreeOfControls

variable {front back text : List Char}

theorem cons_iff {c : Char} : FreeOfControls (c :: text) ↔ 0x20 ≤ c.toNat ∧ FreeOfControls text :=
  List.forall_mem_cons

theorem append_iff : FreeOfControls (front ++ back) ↔ FreeOfControls front ∧ FreeOfControls back :=
  List.forall_mem_append

theorem subset (free : FreeOfControls text) (fewer : front ⊆ text) : FreeOfControls front :=
  fun c member => free c (fewer member)

theorem joinChars {separator : Char} (visible : 0x20 ≤ separator.toNat) {pieces : List (List Char)}
    (each : ∀ piece ∈ pieces, FreeOfControls piece) :
    FreeOfControls (ModelRuns.joinChars separator pieces) := by
  intro c member
  by_cases same : c = separator
  · exact same ▸ visible
  · rcases (mem_joinChars_iff same pieces).mp member with ⟨piece, listed, inside⟩
    exact each piece listed c inside

theorem feed_not_mem (free : FreeOfControls text) : '\n' ∉ text :=
  fun member => absurd (free '\n' member) (by decide)

end FreeOfControls

/-! ## Numbers -/

theorem freeOfControls_digits (value : Nat) : FreeOfControls (Nat.toDigits 10 value) := by
  intro c member
  have digit := Nat.isDigit_of_mem_toDigits (by decide) (by decide) member
  simp only [Char.isDigit, Bool.and_eq_true, decide_eq_true_eq] at digit
  have low : (48 : UInt32).toNat ≤ c.val.toNat := digit.1
  exact Nat.le_trans (by decide) low

theorem freeOfControls_dropTrailingZeros {digits : List Char} (free : FreeOfControls digits) :
    FreeOfControls (dropTrailingZeros digits) := by
  refine free.subset fun c member => ?_
  have kept := (List.dropWhile_suffix _).subset (List.mem_reverse.mp member)
  exact List.mem_reverse.mp kept

theorem freeOfControls_zeros (count : Nat) : FreeOfControls (List.replicate count '0') := by
  intro c member
  rw [List.eq_of_mem_replicate member]
  decide

namespace Decimal

variable (decimal : Decimal)

theorem freeOfControls_scientificText : FreeOfControls decimal.scientificText := by
  have digits := freeOfControls_dropTrailingZeros (freeOfControls_digits decimal.coefficient)
  have exponent := freeOfControls_digits decimal.leadingPlace.natAbs
  have behind := digits.subset (List.drop_subset 1 _)
  unfold scientificText
  refine FreeOfControls.append_iff.mpr ⟨FreeOfControls.append_iff.mpr
    ⟨digits.subset (List.take_subset 1 _), ?_⟩, ?_⟩
  · split
    next => decide
    next => exact FreeOfControls.cons_iff.mpr ⟨by decide, behind⟩
  · refine FreeOfControls.cons_iff.mpr ⟨by decide, FreeOfControls.cons_iff.mpr ⟨?_, exponent⟩⟩
    split <;> decide

theorem freeOfControls_plainText : FreeOfControls decimal.plainText := by
  have digits := freeOfControls_dropTrailingZeros (freeOfControls_digits decimal.coefficient)
  unfold plainText
  split
  next =>
    exact FreeOfControls.cons_iff.mpr ⟨by decide, FreeOfControls.cons_iff.mpr ⟨by decide,
      FreeOfControls.append_iff.mpr ⟨freeOfControls_zeros _, digits⟩⟩⟩
  next =>
    have padded : ∀ count, FreeOfControls
        (dropTrailingZeros (digitsOf decimal.coefficient) ++ List.replicate count '0') :=
      fun count => FreeOfControls.append_iff.mpr ⟨digits, freeOfControls_zeros count⟩
    refine FreeOfControls.append_iff.mpr ⟨(padded _).subset (List.take_subset _ _),
      FreeOfControls.cons_iff.mpr ⟨by decide, ?_⟩⟩
    split
    next => decide
    next => exact (padded _).subset (List.drop_subset _ _)

theorem freeOfControls_text : FreeOfControls decimal.text := by
  unfold text
  split
  · exact decimal.freeOfControls_scientificText
  · exact decimal.freeOfControls_plainText

end Decimal

theorem freeOfControls_floatChars {write : Decimal → List Char}
    (writes : ∀ decimal, FreeOfControls (write decimal)) (x : Float) :
    FreeOfControls (floatChars write x) := by
  have signed (magnitude : List Char) (free : FreeOfControls magnitude) :
      FreeOfControls (if hasMinusSign x then '-' :: magnitude else magnitude) := by
    split
    · exact FreeOfControls.cons_iff.mpr ⟨by decide, free⟩
    · exact free
  unfold floatChars
  cases BinaryFraction.ofFloat? x with
  | none => exact signed ['0', '.', '0'] (by decide)
  | some fraction => exact signed (write fraction.shortest) (writes fraction.shortest)

theorem freeOfControls_numberChars (value : Number) : FreeOfControls (numberChars value) := by
  cases value with
  | whole value =>
    cases value with
    | ofNat value =>
      have written : numberChars (.whole (.ofNat value)) = Nat.toDigits 10 value := Nat.toList_repr
      rw [written]
      exact freeOfControls_digits value
    | negSucc value =>
      have written : numberChars (.whole (.negSucc value)) =
          '-' :: Nat.toDigits 10 (value + 1) := by
        simp [numberChars, toString, Int.repr, Nat.toList_repr]
      rw [written]
      exact FreeOfControls.cons_iff.mpr ⟨by decide, freeOfControls_digits (value + 1)⟩
  | fraction value =>
    rw [numberChars, floatText, String.toList_ofList]
    exact freeOfControls_floatChars Decimal.freeOfControls_text value

/-! ## Texts -/

theorem freeOfControls_hexDigit (value : Nat) (small : value < 16) :
    0x20 ≤ (hexDigit value).toNat := by
  have all : ∀ digit : Fin 16, 0x20 ≤ (hexDigit digit).toNat := by decide
  exact all ⟨value, small⟩

theorem freeOfControls_escapeChar (c : Char) : FreeOfControls (escapeChar c) := by
  unfold escapeChar
  iterate 7
    split
    next => decide
  split
  next control =>
    have high := freeOfControls_hexDigit (c.toNat / 16) (by omega)
    have low := freeOfControls_hexDigit (c.toNat % 16) (by omega)
    have front : FreeOfControls ['\\', 'u', '0', '0'] := by decide
    exact FreeOfControls.append_iff.mpr ⟨front, FreeOfControls.cons_iff.mpr ⟨high,
      List.forall_mem_singleton.mpr low⟩⟩
  next visible => exact List.forall_mem_singleton.mpr (Nat.le_of_not_lt visible)

theorem freeOfControls_quoteText (text : String) : FreeOfControls (quoteText text) := by
  refine FreeOfControls.append_iff.mpr ⟨FreeOfControls.cons_iff.mpr ⟨by decide, ?_⟩, by decide⟩
  intro c member
  rcases List.mem_flatMap.mp member with ⟨held, _, inside⟩
  exact freeOfControls_escapeChar held c inside

/-! ## Documents -/

theorem freeOfControls_bracketed {opening closing : Char} (opens : 0x20 ≤ opening.toNat)
    (closes : 0x20 ≤ closing.toNat) {parts : List (List Char)}
    (each : ∀ part ∈ parts, FreeOfControls part) :
    FreeOfControls (opening :: (joinChars ',' parts ++ [closing])) :=
  FreeOfControls.cons_iff.mpr ⟨opens, FreeOfControls.append_iff.mpr
    ⟨FreeOfControls.joinChars (by decide) each, List.forall_mem_singleton.mpr closes⟩⟩

mutual

/-- No character of the compact form of a document is a control character. -/
theorem freeOfControls_compactChars (document : Json) :
    FreeOfControls (compactChars document) := by
  cases document with
  | null => rw [compactChars]; decide
  | bool value => cases value <;> rw [compactChars] <;> decide
  | number value => rw [compactChars]; exact freeOfControls_numberChars value
  | text value => rw [compactChars]; exact freeOfControls_quoteText value
  | array items =>
    rw [compactChars]
    exact freeOfControls_bracketed (by decide) (by decide) (freeOfControls_compactItems items)
  | object fields =>
    rw [compactChars]
    exact freeOfControls_bracketed (by decide) (by decide) (freeOfControls_compactFields fields)

theorem freeOfControls_compactItems (items : List Json) :
    ∀ part ∈ compactItems items, FreeOfControls part := by
  cases items with
  | nil => rw [compactItems]; exact List.forall_mem_nil _
  | cons item rest =>
    rw [compactItems]
    exact List.forall_mem_cons.mpr
      ⟨freeOfControls_compactChars item, freeOfControls_compactItems rest⟩

theorem freeOfControls_compactFields (fields : Fields) :
    ∀ part ∈ compactFields fields, FreeOfControls part := by
  cases fields with
  | nil => rw [compactFields]; exact List.forall_mem_nil _
  | cons field rest =>
    rcases field with ⟨key, value⟩
    rw [compactFields]
    refine List.forall_mem_cons.mpr ⟨?_, freeOfControls_compactFields rest⟩
    exact FreeOfControls.append_iff.mpr ⟨freeOfControls_quoteText key,
      FreeOfControls.cons_iff.mpr ⟨by decide, freeOfControls_compactChars value⟩⟩

end

end ModelRuns
