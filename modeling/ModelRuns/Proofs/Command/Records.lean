import ModelRuns.Command.Log
import ModelRuns.Proofs.Command.RoundTrip
import ModelRuns.Proofs.Text.Lines

namespace ModelRuns

/-!
# The line of a recorded command

A record with an identifier and a time is written as three fields with tabs
between them.  Neither an identifier nor a number nor the text of a command holds
a tab, so the first two tabs of the line are those between its fields, and the
line gives the record back.
-/

/-! ## Identifiers -/

namespace RunId

/-- An identifier whose text reads as an identifier, as every derived one does. -/
def IsReadable (id : RunId) : Prop := parse? id.text = some id

instance (id : RunId) : Decidable id.IsReadable := inferInstanceAs (Decidable (_ = _))

theorem isHexDigit_digitChar (value : Nat) (small : value < 16) :
    ResourceId.isHexDigit (Nat.digitChar value) = true := by
  have all : ∀ digit : Fin 16, ResourceId.isHexDigit (Nat.digitChar digit) = true := by decide
  exact all ⟨value, small⟩

theorem length_hexChars (bytes : List UInt8) : (hexChars bytes).length = 2 * bytes.length := by
  induction bytes with
  | nil => rfl
  | cons byte rest inductionHypothesis =>
    simp only [hexChars, List.flatMap_cons] at inductionHypothesis ⊢
    simp only [List.length_append, List.length_cons, List.length_nil, inductionHypothesis]
    omega

theorem hexChars_all (bytes : List UInt8) :
    (hexChars bytes).all ResourceId.isHexDigit = true := by
  rw [List.all_eq_true]
  intro c member
  rcases List.mem_flatMap.mp member with ⟨byte, _, digit⟩
  have bound : byte.toNat < 256 := byte.toNat_lt
  simp only [List.mem_cons, List.not_mem_nil, or_false] at digit
  rcases digit with rfl | rfl
  · exact isHexDigit_digitChar _ (by omega)
  · exact isHexDigit_digitChar _ (by omega)

theorem length_sha256 (message : List UInt8) : (Digest.sha256 message).length = 32 := by
  simp [Digest.sha256, Digest.bigEndian]

theorem parse?_mark (digits : List Char) (length : digits.length = digitCount)
    (hexadecimal : digits.all ResourceId.isHexDigit = true) :
    parse? (String.ofList (mark ++ digits)) = some ⟨String.ofList (mark ++ digits)⟩ := by
  unfold parse?
  simp only [String.toList_ofList, mark, List.cons_append, List.nil_append]
  rw [if_pos ⟨length, hexadecimal⟩]

/-- The identifier of a command started at a time, with any digest in the place of the
one that is used. -/
def deriveWith (digest : List UInt8 → List UInt8) (command : String) (nanoseconds : Nat) : RunId :=
  let bytes := digest (encodeUtf8 command ++ Digest.bigEndian 16 nanoseconds)
  ⟨String.ofList (mark ++ hexChars (bytes.take 8))⟩

theorem deriveWith_isReadable {digest : List UInt8 → List UInt8}
    (length : ∀ message, (digest message).length = 32) (command : String) (nanoseconds : Nat) :
    (deriveWith digest command nanoseconds).IsReadable := by
  apply parse?_mark
  · rw [length_hexChars, List.length_take, length]
    rfl
  · exact hexChars_all _

theorem derive_isReadable (command : String) (nanoseconds : Nat) :
    (derive command nanoseconds).IsReadable :=
  deriveWith_isReadable length_sha256 command nanoseconds

/-- A readable identifier is the mark and sixteen hexadecimal digits. -/
theorem IsReadable.digits {id : RunId} (readable : id.IsReadable) :
    ∃ digits, id.text.toList = mark ++ digits ∧ digits.length = digitCount ∧
      digits.all ResourceId.isHexDigit = true := by
  unfold IsReadable parse? at readable
  split at readable
  next digits text =>
    split at readable
    next good => exact ⟨digits, text, good⟩
    next => cases readable
  next => cases readable

theorem isHexDigit_keeps_line (c : Char) (hexadecimal : ResourceId.isHexDigit c = true) :
    CommandText.breaksLine c = false := by
  cases breaking : CommandText.breaksLine c with
  | false => rfl
  | true =>
    have listed : c = '\n' ∨ c = '\r' ∨ c = '\t' := by
      simpa [CommandText.breaksLine] using breaking
    rcases listed with rfl | rfl | rfl <;> exact absurd hexadecimal (by decide)

theorem IsReadable.keeps_line {id : RunId} (readable : id.IsReadable) (c : Char)
    (member : c ∈ id.text.toList) : CommandText.breaksLine c = false := by
  rcases readable.digits with ⟨digits, text, _, hexadecimal⟩
  rw [text] at member
  rcases List.mem_append.mp member with inMark | inDigits
  · simp only [mark, List.mem_cons, List.not_mem_nil, or_false] at inMark
    rcases inMark with rfl | rfl <;> rfl
  · exact isHexDigit_keeps_line c (List.all_eq_true.mp hexadecimal c inDigits)

end RunId

/-! ## Times -/

theorem isDigit_keeps_line (c : Char) (digit : c.isDigit = true) :
    CommandText.breaksLine c = false := by
  apply RunId.isHexDigit_keeps_line
  simp [ResourceId.isHexDigit, digit]

theorem isDigit_of_mem_toDigits (value : Nat) (c : Char) (member : c ∈ Nat.toDigits 10 value) :
    c.isDigit = true :=
  Nat.isDigit_of_mem_toDigits (by decide) (by decide) member

theorem readTimestamp_toDigits (value : Nat) (small : value ≤ largestWord64) :
    readTimestamp (Nat.toDigits 10 value) = some value := by
  have allDigits : (Nat.toDigits 10 value).all Char.isDigit = true :=
    List.all_eq_true.mpr (isDigit_of_mem_toDigits value)
  have noPlus : ∀ rest, Nat.toDigits 10 value ≠ '+' :: rest := by
    intro rest equal
    have plus : '+' ∈ Nat.toDigits 10 value := by simp [equal]
    exact absurd (isDigit_of_mem_toDigits value '+' plus) (by decide)
  have number : (Nat.toDigits 10 value).foldl
      (fun value c => value * 10 + (c.toNat - '0'.toNat)) 0 = value := by
    have read : Nat.ofDigitChars 10 (Nat.toDigits 10 value) 0 = value :=
      Nat.ofDigitChars_ten_toDigits
    rw [Nat.ofDigitChars_eq_foldl] at read
    simpa only [Nat.mul_comm] using read
  have present : (Nat.toDigits 10 value).isEmpty = false := by
    simp [Nat.toDigits_ne_nil]
  unfold readTimestamp
  split
  next rest equal => exact absurd equal (noPlus rest)
  next =>
    simp only [number, present, allDigits]
    simp [small]

/-! ## Lines -/

theorem splitFirst_append (separator : Char) (front rest : List Char)
    (absent : separator ∉ front) :
    splitFirst separator (front ++ separator :: rest) = (front, some rest) := by
  have different : ∀ c ∈ front, decide (c ≠ separator) = true := by
    intro c member
    exact decide_eq_true fun equal => absent (equal ▸ member)
  unfold splitFirst
  rw [List.takeWhile_append_of_pos different, List.dropWhile_append_of_pos different]
  simp

theorem tab_not_mem (text : List Char) (keeps : ∀ c ∈ text, CommandText.breaksLine c = false) :
    '\t' ∉ text := fun member => absurd (keeps '\t' member) (by decide)

theorem splitTagged_fields (id : RunId) (readable : id.IsReadable) (time : Nat)
    (small : time ≤ largestWord64) (command : List Char) :
    splitTagged (id.text.toList ++ '\t' :: (Nat.toDigits 10 time ++ '\t' :: command)) =
      some (id, time, command) := by
  have noTabInId := tab_not_mem _ readable.keeps_line
  have noTabInTime : '\t' ∉ Nat.toDigits 10 time :=
    tab_not_mem _ fun c member => isDigit_keeps_line c (isDigit_of_mem_toDigits time c member)
  unfold splitTagged
  rw [splitFirst_append _ _ _ noTabInId]
  simp only
  rw [splitFirst_append _ _ _ noTabInTime]
  simp only [String.ofList_toList]
  rw [show RunId.parse? id.text = some id from readable, readTimestamp_toDigits time small]

namespace CommandRecord

/-- The characters of the line of a record with an identifier and a time. -/
theorem toList_line (id : RunId) (time : Nat) (tokens : List String) :
    (line ⟨some id, some time, tokens⟩).toList =
      id.text.toList ++ '\t' :: (Nat.toDigits 10 time ++ '\t' :: (CommandText.join tokens).toList) := by
  have tab : ("\t" : String).toList = ['\t'] := rfl
  simp [line, tab]

theorem line_keeps_line (id : RunId) (readable : id.IsReadable) (time : Nat)
    (tokens : List String) (c : Char)
    (member : c ∈ (line ⟨some id, some time, tokens⟩).toList) : c ≠ '\n' ∧ c ≠ '\r' := by
  have split : c = '\t' ∨ CommandText.breaksLine c = false := by
    rw [toList_line] at member
    rcases List.mem_append.mp member with inId | later
    · exact .inr (readable.keeps_line c inId)
    rcases List.mem_cons.mp later with rfl | later
    · exact .inl rfl
    rcases List.mem_append.mp later with inTime | last
    · exact .inr (isDigit_keeps_line c (isDigit_of_mem_toDigits time c inTime))
    rcases List.mem_cons.mp last with rfl | inCommand
    · exact .inl rfl
    · exact .inr ((CommandText.breaksLine_eq_false c).mpr
        (CommandText.join_keeps_line tokens c inCommand))
  rcases split with rfl | keeps
  · decide
  · have parts := (CommandText.breaksLine_eq_false c).mp keeps
    exact ⟨parts.1, parts.2.1⟩

theorem line_fitsLine (id : RunId) (readable : id.IsReadable) (time : Nat)
    (tokens : List String) : FitsLine (line ⟨some id, some time, tokens⟩) := by
  constructor
  · intro member
    exact (line_keeps_line id readable time tokens _ member).1 rfl
  · intro last
    exact (line_keeps_line id readable time tokens _ (List.mem_of_getLast? last)).2 rfl

theorem ofLine_line (id : RunId) (readable : id.IsReadable) (time : Nat)
    (small : time ≤ largestWord64) (tokens : List String) :
    ofLine (line ⟨some id, some time, tokens⟩) = .ok ⟨some id, some time, tokens⟩ := by
  unfold ofLine
  rw [toList_line, splitTagged_fields id readable time small]
  simp only [String.ofList_toList, CommandText.join_reads_back]
  rfl

/-- The line of a record with an identifier is never blank. -/
theorem line_not_blank (id : RunId) (readable : id.IsReadable) (time : Nat)
    (tokens : List String) : allBlank (line ⟨some id, some time, tokens⟩) = false := by
  rcases readable.digits with ⟨digits, text, _, _⟩
  rw [allBlank, toList_line, text]
  rfl

end CommandRecord

end ModelRuns
