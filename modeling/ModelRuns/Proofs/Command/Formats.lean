import ModelRuns.Proofs.Command.Directories

namespace ModelRuns

/-!
# Lines with and without an identifier

One reader takes both kinds of lines of the command log: those of a run, with an
identifier and a time in front, and those that are nothing but a command.  It tells them
apart by their tabs.  The text of a command has none, since every tab of a token is
escaped, so a command is never taken for the line of a run, whatever its tokens look like.
The line of a run has two tabs before its command, and neither an identifier nor a number
holds one, so its fields are found again.

A directory may hold tabs.  They do no harm, because its line is split at the first tab
alone, which is the one behind the identifier.
-/

/-! ## Lines without an identifier -/

theorem splitFirst_of_absent {separator : Char} {text : List Char} (absent : separator ∉ text) :
    splitFirst separator text = (text, none) := by
  have plain : ∀ c ∈ text, decide (c ≠ separator) = true := fun c member =>
    decide_eq_true fun same => absent (same ▸ member)
  rw [splitFirst, List.takeWhile_eq_self_iff.mpr plain, List.dropWhile_eq_nil_iff.mpr plain]
  rfl

/-- A text without a tab is not the line of a run. -/
theorem splitTagged_of_no_tab {line : List Char} (noTab : '\t' ∉ line) :
    splitTagged line = none := by
  rw [splitTagged, splitFirst_of_absent noTab]

/-- No command reads as the line of a run. -/
theorem splitTagged_join (tokens : List String) :
    splitTagged (CommandText.join tokens).toList = none :=
  splitTagged_of_no_tab fun member => (CommandText.join_keeps_line tokens '\t' member).2.2 rfl

/-- The line of a command without an identifier gives back its tokens, and nothing else. -/
theorem CommandRecord.ofLine_join (tokens : List String) :
    ofLine (CommandText.join tokens) = .ok ⟨none, none, tokens⟩ := by
  rw [ofLine, splitTagged_join, CommandText.join_reads_back]
  rfl

/-! ## Both kinds of lines -/

/-- A digest that tells no messages apart. -/
def RunId.constantDigest (_ : List UInt8) : List UInt8 := List.replicate 32 0

/-- What is written is read back as it was, identifiers first and then the lines that carry
them.  A command without an identifier does not read as the line of a run, and gives back its
tokens alone. -/
theorem lines_read_back :
    (∀ digest : List UInt8 → List UInt8, (∀ message, (digest message).length = 32) →
      ∀ command nanoseconds, RunId.parse? (RunId.deriveWith digest command nanoseconds).text =
        some (RunId.deriveWith digest command nanoseconds)) ∧
    (∀ command nanoseconds, RunId.parse? (RunId.derive command nanoseconds).text =
      some (RunId.derive command nanoseconds)) ∧
    (∀ id : RunId, id.IsReadable → ∀ time ≤ largestWord64, ∀ tokens,
      CommandRecord.ofLine (CommandRecord.line ⟨some id, some time, tokens⟩) =
        .ok ⟨some id, some time, tokens⟩) ∧
    (∀ time tokens,
      splitTagged (CommandRecord.line ⟨none, time, tokens⟩).toList = none ∧
        CommandRecord.ofLine (CommandRecord.line ⟨none, time, tokens⟩) =
          .ok ⟨none, none, tokens⟩) ∧
    (∀ id : RunId, id.IsReadable → ∀ path,
      DirectoryRecord.ofLine (DirectoryRecord.line ⟨some id, path⟩) = ⟨some id, path⟩) := by
  refine ⟨?_, RunId.derive_isReadable, ?_, ?_, DirectoryRecord.ofLine_line⟩
  · intro digest length command nanoseconds
    exact RunId.deriveWith_isReadable length command nanoseconds
  · intro id readable time small tokens
    exact CommandRecord.ofLine_line id readable time small tokens
  · intro time tokens
    exact ⟨splitTagged_join tokens, CommandRecord.ofLine_join tokens⟩

/-- A token may look like the line of a run, and a directory may hold tabs. -/
theorem lines_read_back_lookalike :
    (∀ message, (RunId.constantDigest message).length = 32) ∧
    RunId.parse? (RunId.deriveWith RunId.constantDigest "bigmler" 7).text =
      some (RunId.deriveWith RunId.constantDigest "bigmler" 7) ∧
    RunId.IsReadable ⟨"r-0123456789abcdef"⟩ ∧ 7 ≤ largestWord64 ∧
    CommandRecord.ofLine (CommandRecord.line
        ⟨some ⟨"r-0123456789abcdef"⟩, some 7, ["r-0123456789abcdef\t7\tbigmler"]⟩) =
      .ok ⟨some ⟨"r-0123456789abcdef"⟩, some 7, ["r-0123456789abcdef\t7\tbigmler"]⟩ ∧
    CommandRecord.ofLine (CommandRecord.line
        ⟨none, some 7, ["r-0123456789abcdef\t7\tbigmler"]⟩) =
      .ok ⟨none, none, ["r-0123456789abcdef\t7\tbigmler"]⟩ ∧
    DirectoryRecord.ofLine (DirectoryRecord.line
        ⟨some ⟨"r-0123456789abcdef"⟩, ⟨"/work/a\tb"⟩⟩) =
      ⟨some ⟨"r-0123456789abcdef"⟩, ⟨"/work/a\tb"⟩⟩ := by
  have length : ∀ message, (RunId.constantDigest message).length = 32 := fun _ =>
    List.length_replicate
  have readable : RunId.IsReadable ⟨"r-0123456789abcdef"⟩ := by decide
  have small : 7 ≤ largestWord64 := by decide
  rcases lines_read_back with ⟨derived, _, tagged, untagged, directories⟩
  exact ⟨length, derived _ length "bigmler" 7, readable, small,
    tagged _ readable 7 small _, (untagged (some 7) _).2, directories _ readable _⟩

end ModelRuns
