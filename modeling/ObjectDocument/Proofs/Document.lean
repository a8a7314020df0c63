import ObjectDocument.Document.Basic
import ObjectDocument.Proofs.Json.Text

/-!
# Documents read back

Main statement: a document without doubles is read back from its text as it was, with its keys in
their order at every level, exactly if it has no more nesting levels than a text may have.
-/

namespace ObjectDocument.Document

theorem ofJson?_toJson (d : Document) : ofJson? d.toJson = some d := by
  obtain ⟨entries, hnodup⟩ := d
  simp only [toJson, ofJson?, ofEntries, Entries.merge_eq_self hnodup]

/-- The text of a document is the text of its JSON value. It gives the document back if there are at
most 127 nesting levels, that of the document included, and nothing otherwise. -/
theorem parse?_print {d : Document} (h : d.toJson.Exact) :
    d.print = d.toJson.print ∧
      Document.parse? d.print = if d.toJson.levels ≤ 127 then some d else none := by
  refine ⟨rfl, ?_⟩
  rw [parse?, print, Json.parse?_print_of_exact h, Json.within, Json.maxDepth]
  split
  · exact ofJson?_toJson d
  · rfl

/-- A document with keys and strings that need escapes, the extreme integers, and empty and nested
containers. -/
def sampleText : Document where
  entries := [("a \"quoted\" \\ key\n", .array [.null, .int (-9223372036854775808), .array []]),
    ("\x01é😀", .object [("b", .bool true), ("a", .int 18446744073709551615)]),
    ("", .string "\x7f\x1f\x08/")]
  nodup_keys := by decide

theorem parse?_print_sampleText :
    sampleText.toJson.Exact ∧ sampleText.toJson.levels ≤ 127 ∧
      sampleText.print = sampleText.toJson.print ∧
      Document.parse? sampleText.print = some sampleText := by
  have h : sampleText.toJson.Exact := by
    refine ⟨by decide, ?_⟩
    simp [sampleText, Json.ExactEntries, Json.ExactItems, Json.Exact, Json.int, Json.InRange,
      Entries.keys, UInt64.size]
  exact ⟨h, by decide, parse?_print h⟩

end ObjectDocument.Document
