import DocPages.Proofs.JsonReading
import DocPages.SearchIndex.Json

/-! The file of the search index is JSON and says what the index says: whatever its rows hold, a
reader of JSON finds one object for each row, in order, with the row's own texts. -/
namespace DocPages.IndexReading
open SearchIndex JsonReading

/-! ## Strings -/

/-- The escape of a control character is read back by its number. -/
theorem control_escaped : ∀ n < 0x20,
    Xml.readNumber? 16 ['0', '0', hexDigit (n / 16), hexDigit n] = some n := by
  decide +kernel

theorem leads_escapedChar (read : List Char) (c : Char) :
    Leads (.string read) (escapedChar c) [] (.string (read ++ [c])) := by
  unfold escapedChar
  split
  · rfl
  · rfl
  · rfl
  · rfl
  · rfl
  · rfl
  · rfl
  next unquoted unslashed _ _ _ _ _ =>
    split
    next control =>
      have number := control_escaped c.toNat control
      have high : ¬ (0xD800 ≤ c.toNat ∧ c.toNat < 0xDC00) := by omega
      have low : ¬ (0xDC00 ≤ c.toNat ∧ c.toNat < 0xE000) := by omega
      simp [Leads, readFrom, Place.step, number, behindUnit, high, low]
    next plain =>
      have continues : Place.step (.string read) c = some ([], .string (read ++ [c])) := by
        rw [Place.step, if_neg unquoted, if_neg unslashed, if_neg plain]
      simp [Leads, readFrom, continues]

theorem leads_escaped (read s : List Char) :
    Leads (.string read) (s.flatMap escapedChar) [] (.string (read ++ s)) := by
  induction s generalizing read with
  | nil => simp [Leads, readFrom]
  | cons c s ih =>
    have joined := (leads_escapedChar read c).append (ih (read ++ [c]))
    simpa using joined

theorem spells_stringText (s : String) : Spells (stringText s) [.string s] := by
  have opened : Leads .between ['"'] [] (.string []) := rfl
  have closed : Leads (.string s.toList) ['"'] [.string s] .between := by
    simp [Leads, readFrom, Place.step]
  have whole := (opened.append (leads_escaped [] s.toList)).append closed
  simpa [Spells, stringText] using whole

/-! ## Rows -/

def fieldTokens (field : String × String) : List Token :=
  memberTokens field.1 [.string field.2]

theorem spells_fieldText (field : String × String) :
    Spells (fieldText field) (fieldTokens field) := by
  have layout : Spells "    " [] := rfl
  have colon : Spells ": " [.mark ':'] := rfl
  exact ((layout.append (spells_stringText field.1)).append colon).append
    (spells_stringText field.2)

def rowTokens (row : Row) : List Token :=
  .mark '\x7b' :: ([Token.mark ','].intercalate ((fieldsOf row).map fieldTokens) ++ [.mark '\x7d'])

theorem comma_spelled : Spells ",\n" [.mark ','] :=
  rfl

theorem spells_rowText (row : Row) : Spells (rowText row) (rowTokens row) := by
  have opened : Spells "  \x7b\n" [.mark '\x7b'] := rfl
  have closed : Spells "\n  \x7d" [.mark '\x7d'] := rfl
  have fields := comma_spelled.intercalate fun field (_ : field ∈ fieldsOf row) =>
    spells_fieldText field
  exact (opened.append fields).append closed

def indexTokens (rows : List Row) : List Token :=
  .mark '[' :: ([Token.mark ','].intercalate (rows.map rowTokens) ++ [.mark ']'])

theorem spells_jsonText (rows : List Row) : Spells (jsonText rows) (indexTokens rows) := by
  cases rows with
  | nil => rfl
  | cons row rows =>
    have opened : Spells "[\n" [.mark '['] := rfl
    have closed : Spells "\n]" [.mark ']'] := rfl
    have items := comma_spelled.intercalate fun each (_ : each ∈ row :: rows) =>
      spells_rowText each
    exact (opened.append items).append closed

/-- What a reader finds in place of a row. -/
def rowValue (row : Row) : Value :=
  .object [("name", .string row.name), ("full_name", .string row.fullName),
    ("namespace", .string row.namespaceName), ("summary", .string row.summary),
    ("url", .string row.url),
    ("type", .string (match row.subject with | .type => "type" | .method => "method"))]

theorem denotes_row (row : Row) : Denotes (rowTokens row) (rowValue row) := by
  have fields := denotes_object Prod.fst fun field (_ : field ∈ fieldsOf row) =>
    denotes_string field.2
  exact fields

theorem rowValue_injective {row other : Row} (same : rowValue row = rowValue other) :
    row = other := by
  obtain ⟨name, fullName, namespaceName, summary, url, subject⟩ := row
  obtain ⟨name', fullName', namespaceName', summary', url', subject'⟩ := other
  cases subject <;> cases subject' <;> simp_all [rowValue]

/-- The text of the index is JSON for an array with one object for each row, and from the text the
rows can be told: no two indexes are written alike. -/
theorem index_reads_back (rows : List Row) :
    read? (jsonText rows) = some (.array (rows.map rowValue)) ∧
      ∀ others, jsonText others = jsonText rows ↔ others = rows := by
  have reads : ∀ rows, read? (jsonText rows) = some (.array (rows.map rowValue)) := fun rows =>
    read_of_denotes (spells_jsonText rows) (denotes_array fun row _ => denotes_row row)
  refine ⟨reads rows, fun others => ⟨fun written => ?_, fun same => same ▸ rfl⟩⟩
  have values : others.map rowValue = rows.map rowValue := by
    have both := (reads others).symm.trans ((congrArg read? written).trans (reads rows))
    simpa using both
  exact List.map_injective_iff.mpr (fun _ _ same => rowValue_injective same) values

end DocPages.IndexReading
