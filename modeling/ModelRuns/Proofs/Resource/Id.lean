import ModelRuns.Proofs.Text.Lines
import ModelRuns.Resource.Id

namespace ModelRuns

/-!
# Identifiers as lines

The service names a resource by a kind and a key of hexadecimal digits.  Such a
name holds no blank, so it takes one line of a file, trimming leaves it alone,
and reading it gives it back.
-/

/-! ## Texts without blanks -/

theorem dropWhile_of_none {text : List Char} {skips : Char → Bool}
    (none : ∀ c ∈ text, skips c = false) : text.dropWhile skips = text := by
  cases text with
  | nil => rfl
  | cons c rest => rw [List.dropWhile_cons_of_neg (by simp [none c List.mem_cons_self])]

theorem trimBlank_of_solid (text : List Char) (solid : ∀ c ∈ text, isBlank c = false) :
    trimBlank text = text := by
  have backwards : ∀ c ∈ text.reverse, isBlank c = false := fun c member =>
    solid c (List.mem_reverse.mp member)
  rw [trimBlank, dropWhile_of_none solid, dropWhile_of_none backwards, List.reverse_reverse]

theorem trim_of_solid (text : String) (solid : ∀ c ∈ text.toList, isBlank c = false) :
    trim text = text := by
  rw [trim, trimBlank_of_solid _ solid, String.ofList_toList]

/-- Blanks are dropped before a text that ends in one without blanks, but not within it. -/
theorem trimBlank_append_solid (front : List Char) {solid : List Char} (present : solid ≠ [])
    (none : ∀ c ∈ solid, isBlank c = false) :
    trimBlank (front ++ solid) = front.dropWhile isBlank ++ solid := by
  have start : (front ++ solid).dropWhile isBlank = front.dropWhile isBlank ++ solid := by
    rw [List.dropWhile_append]
    split
    next blank => rw [List.isEmpty_iff.mp blank, dropWhile_of_none none, List.nil_append]
    next => rfl
  have backwards : ∀ c ∈ solid.reverse, isBlank c = false := fun c member =>
    none c (List.mem_reverse.mp member)
  have ended : (solid.reverse ++ (front.dropWhile isBlank).reverse).dropWhile isBlank =
      solid.reverse ++ (front.dropWhile isBlank).reverse := by
    rw [List.dropWhile_append, dropWhile_of_none backwards, if_neg (by simpa using present)]
  rw [trimBlank, start, List.reverse_append, ended, List.reverse_append, List.reverse_reverse,
    List.reverse_reverse]

theorem fitsLine_of_solid (text : String) (solid : ∀ c ∈ text.toList, isBlank c = false) :
    FitsLine text := by
  constructor
  · intro member
    exact absurd (solid _ member) (by decide)
  · intro last
    exact absurd (solid _ (List.mem_of_getLast? last)) (by decide)

/-! ## Valid identifiers -/

namespace ResourceId

/-- An identifier as the service gives it: its key has the right number of
hexadecimal digits. -/
def Valid (id : ResourceId) : Prop :=
  id.key.toList.length = keyLength ∧ id.key.toList.all isHexDigit = true

instance (id : ResourceId) : Decidable id.Valid := inferInstanceAs (Decidable (_ ∧ _))

theorem isHexDigit_range (c : Char) (hexadecimal : isHexDigit c = true) :
    (48 ≤ c.toNat ∧ c.toNat ≤ 57) ∨ (97 ≤ c.toNat ∧ c.toNat ≤ 102) ∨
      (65 ≤ c.toNat ∧ c.toNat ≤ 70) := by
  have parts : (c.isDigit = true ∨ ('a' ≤ c ∧ c ≤ 'f')) ∨ ('A' ≤ c ∧ c ≤ 'F') := by
    simpa [isHexDigit] using hexadecimal
  rcases parts with (digit | ⟨low, high⟩) | ⟨low, high⟩
  · exact .inl (Char.isDigit_iff_toNat.mp digit)
  · exact .inr (.inl ⟨UInt32.le_iff_toNat_le.mp low, UInt32.le_iff_toNat_le.mp high⟩)
  · exact .inr (.inr ⟨UInt32.le_iff_toNat_le.mp low, UInt32.le_iff_toNat_le.mp high⟩)

theorem isBlank_of_hexadecimal (c : Char) (hexadecimal : isHexDigit c = true) :
    isBlank c = false := by
  have range := isHexDigit_range c hexadecimal
  simp only [isBlank, Bool.or_eq_false_iff, Bool.and_eq_false_iff, decide_eq_false_iff_not,
    beq_eq_false_iff_ne]
  omega

theorem toList_text (id : ResourceId) :
    id.text.toList = id.kind.text.toList ++ '/' :: id.key.toList := by
  have slash : ("/" : String).toList = ['/'] := rfl
  simp [text, slash]

theorem kind_solid (kind : ResourceKind) :
    ∀ c ∈ kind.text.toList, isBlank c = false ∧ c ≠ '/' := by
  have solid : kind.text.toList.all (fun c => !isBlank c && c != '/') = true := by
    cases kind <;> decide
  intro c member
  simpa using List.all_eq_true.mp solid c member

theorem ofText?_text (kind : ResourceKind) : ResourceKind.ofText? kind.text = some kind := by
  cases kind <;> decide

theorem Valid.solid {id : ResourceId} (valid : id.Valid) :
    ∀ c ∈ id.text.toList, isBlank c = false := by
  intro c member
  rw [toList_text] at member
  rcases List.mem_append.mp member with inKind | later
  · exact (kind_solid id.kind c inKind).1
  rcases List.mem_cons.mp later with rfl | inKey
  · rfl
  · exact isBlank_of_hexadecimal c (List.all_eq_true.mp valid.2 c inKey)

theorem text_injective {first second : ResourceId} (same : first.text = second.text) :
    first = second := by
  have texts := congrArg String.toList same
  rw [toList_text, toList_text] at texts
  have plain (kind : ResourceKind) : ∀ c ∈ kind.text.toList, decide (c ≠ '/') = true :=
    fun c member => decide_eq_true (kind_solid kind c member).2
  have kinds := congrArg (List.takeWhile (· ≠ '/')) texts
  have keys := congrArg (List.dropWhile (· ≠ '/')) texts
  rw [List.takeWhile_append_of_pos (plain _), List.takeWhile_append_of_pos (plain _)] at kinds
  rw [List.dropWhile_append_of_pos (plain _), List.dropWhile_append_of_pos (plain _)] at keys
  have sameKind : first.kind.text = second.kind.text :=
    String.toList_injective (by simpa using kinds)
  have sameKey : first.key = second.key := String.toList_injective (by simpa using keys)
  have read := congrArg ResourceKind.ofText? sameKind
  rw [ofText?_text, ofText?_text] at read
  rcases first with ⟨kind, key⟩
  cases read
  cases sameKey
  rfl

theorem text_ne_empty (id : ResourceId) : id.text ≠ "" := by
  intro empty
  have none := congrArg String.toList empty
  rw [toList_text] at none
  exact absurd none (by simp)

/-- A valid identifier is read from its text. -/
theorem Valid.parse_text {id : ResourceId} (valid : id.Valid) : parse id.text = .ok id := by
  have passes : ∀ c ∈ id.kind.text.toList, decide (c ≠ '/') = true := fun c member =>
    decide_eq_true (kind_solid id.kind c member).2
  unfold parse
  simp only [trimBlank_of_solid _ valid.solid]
  rw [toList_text, List.dropWhile_append_of_pos passes, List.takeWhile_append_of_pos passes]
  have good : id.key.toList.length = keyLength ∧ id.key.toList.all isHexDigit = true := valid
  simp [ofText?_text, good.1, good.2]

/-- What was read is written as the text was, but for blanks at its ends. -/
theorem text_of_parse {value : String} {id : ResourceId} (read : parse value = .ok id) :
    id.text = trim value := by
  unfold parse at read
  dsimp only at read
  split at read
  next => cases read
  next slash key rest =>
    split at read
    next => cases read
    next kind found =>
      split at read
      next =>
        cases read
        have name : kind.text = String.ofList ((trimBlank value.toList).takeWhile (· ≠ '/')) := by
          simpa using List.find?_some found
        have isSlash : slash = '/' := by
          have stopped := List.head?_dropWhile_not (· ≠ '/') (trimBlank value.toList)
          rw [rest] at stopped
          simpa using stopped
        have parts := List.takeWhile_append_dropWhile (p := (· ≠ '/')) (l := trimBlank value.toList)
        rw [rest, isSlash] at parts
        rw [← String.toList_inj, toList_text, name, trim, String.toList_ofList, String.toList_ofList,
          String.toList_ofList]
        exact parts
      next => cases read

theorem valid_of_parse {value : String} {id : ResourceId} (read : parse value = .ok id) :
    id.Valid := by
  unfold parse at read
  dsimp only at read
  split at read
  next => cases read
  next slash key rest =>
    split at read
    next => cases read
    next kind found =>
      split at read
      next good =>
        cases read
        rw [Valid, String.toList_ofList]
        exact good
      next => cases read

/-- A text is read as an identifier exactly if that is valid and, but for blanks at its ends,
the text is how it is written. -/
theorem parse_ok_iff (value : String) (id : ResourceId) :
    parse value = .ok id ↔ id.Valid ∧ id.text = trim value := by
  constructor
  · exact fun read => ⟨valid_of_parse read, text_of_parse read⟩
  · rintro ⟨valid, same⟩
    have trimmed : trimBlank value.toList = trimBlank id.text.toList := by
      rw [trimBlank_of_solid _ valid.solid, same, trim, String.toList_ofList]
    have read := valid.parse_text
    unfold parse at read ⊢
    rw [trimmed]
    exact read

end ResourceId

end ModelRuns
