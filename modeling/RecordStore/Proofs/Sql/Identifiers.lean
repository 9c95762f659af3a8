import RecordStore.Proofs.Sql.Scan

/-!
# Identifiers in quotes

A quoted identifier says by itself where it ends: a scanner reads it up to its closing quote and no
further, whatever follows that is not another quote, and reads nothing else as it
(`SqlToken.scanQuoted_eq_some_iff`). So different identifiers are written differently, and none of them
holds the end of its own quotes (`Dialect.quotedName_selfDelimiting`).
-/

namespace RecordStore

/-! ## Scanning from the opening quote -/

namespace SqlToken

/-- Reads a quoted identifier, its opening quote included. -/
def scanQuoted : List Char → Option (List Char × List Char)
  | '"' :: rest => scanIdentifier rest
  | _ => none

/-- The quoted identifiers are exactly the texts that are read as identifiers, with what follows them
left over. -/
theorem scanQuoted_eq_some_iff {text identifier rest : List Char} :
    scanQuoted text = some (identifier, rest) ↔
      text = quoteIdentifier identifier ++ rest ∧ rest.head? ≠ some '"' := by
  have written : quoteIdentifier identifier ++ rest =
      '"' :: (doubleQuotes identifier ++ '"' :: rest) := by simp [quoteIdentifier]
  rw [written, scanQuoted.eq_def]
  split
  · next inside => rw [List.cons.injEq, scanIdentifier_eq_some_iff, eq_self, true_and]
  · next noQuote =>
    refine iff_of_false nofun fun ⟨starts, _⟩ => noQuote _ starts

/-- Two texts that start with quoted identifiers have the same identifier and the same rest, unless what
follows one of them goes on with a quote. -/
theorem eq_of_quoteIdentifier_append {left right more rest : List Char} (ends : more.head? ≠ some '"')
    (closes : rest.head? ≠ some '"')
    (same : quoteIdentifier left ++ more = quoteIdentifier right ++ rest) :
    left = right ∧ more = rest := by
  have read : scanQuoted (quoteIdentifier left ++ more) = some (left, more) :=
    scanQuoted_eq_some_iff.2 ⟨rfl, ends⟩
  rw [same, scanQuoted_eq_some_iff.2 ⟨rfl, closes⟩] at read
  cases read
  exact ⟨rfl, rfl⟩

end SqlToken

/-! ## The names of a statement -/

namespace Dialect

/-- The name of a table or a column as a dialect writes it. -/
def quotedName (dialect : Dialect) (index : Nat) (identifier : String) : List Char :=
  (Fragment.name identifier).text dialect index

/-- Before anything but a quote, a name is read from its opening quote to its closing one and as the
identifier it was written for. So it is written for no other one, and a place inside of it where the
name of another identifier ends is always followed by a quote, which takes that end back. -/
theorem quotedName_selfDelimiting (dialect : Dialect) (index : Nat) :
    (∀ (identifier : String) (more : List Char), more.head? ≠ some '"' →
      SqlToken.scanQuoted (dialect.quotedName index identifier ++ more) =
        some (identifier.toList, more)) ∧
    Function.Injective (dialect.quotedName index) ∧
    ∀ (identifier other : String) (more rest : List Char), more.head? ≠ some '"' →
      dialect.quotedName index identifier ++ more = dialect.quotedName index other ++ rest →
      identifier = other ∧ more = rest ∨ rest.head? = some '"' := by
  have nothing : ([] : List Char).head? ≠ some '"' := nofun
  refine ⟨fun identifier more ends => SqlToken.scanQuoted_eq_some_iff.2 ⟨rfl, ends⟩,
    fun left right same => ?_, fun identifier other more rest ends same => ?_⟩
  · have names : quoteIdentifier left.toList ++ [] = quoteIdentifier right.toList ++ [] :=
      congrArg (· ++ []) same
    exact String.toList_inj.1 (SqlToken.eq_of_quoteIdentifier_append nothing nothing names).1
  · by_cases quote : rest.head? = some '"'
    · exact .inr quote
    · obtain ⟨names, rests⟩ := SqlToken.eq_of_quoteIdentifier_append ends quote same
      exact .inl ⟨String.toList_inj.1 names, rests⟩

/-- Quotes at the beginning, in the middle and at the end of an identifier are read back before the text
that follows in a statement, and the quoted text that the identifier starts with ends before a quote. -/
theorem quotedName_selfDelimiting_quotes :
    let more := " (\"id\")".toList
    let rest := "\"\"\"b\"\"\" (\"id\")".toList
    more.head? ≠ some '"' ∧
      Dialect.sqlite.quotedName 0 "\"a\"\"b\"" = "\"\"\"a\"\"\"\"b\"\"\"".toList ∧
      SqlToken.scanQuoted (Dialect.sqlite.quotedName 0 "\"a\"\"b\"" ++ more) =
        some ("\"a\"\"b\"".toList, more) ∧
      Dialect.sqlite.quotedName 0 "\"a\"\"b\"" ++ more = Dialect.sqlite.quotedName 0 "\"a" ++ rest ∧
      rest.head? = some '"' := by
  intro more rest
  have ends : more.head? ≠ some '"' := by decide
  have same : Dialect.sqlite.quotedName 0 "\"a\"\"b\"" ++ more =
      Dialect.sqlite.quotedName 0 "\"a" ++ rest := by decide
  obtain ⟨read, -, early⟩ := quotedName_selfDelimiting .sqlite 0
  refine ⟨ends, by decide, read _ _ ends, same, ?_⟩
  exact (early _ _ _ _ ends same).resolve_left fun ⟨names, _⟩ => absurd names (by decide)

end Dialect

end RecordStore
