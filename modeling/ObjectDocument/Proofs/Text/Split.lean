import ObjectDocument.Text.Split

/-!
# Splitting and joining

Splitting a text at a separator is the reverse of joining pieces with it: the pieces are the only
texts without the separator that give the text when they are joined.
-/

namespace ObjectDocument.Text

theorem consHead_eq_modifyHead {α : Type} {ls : List (List α)} (h : ls ≠ []) (a : α) :
    consHead a ls = ls.modifyHead (List.cons a) := by
  cases ls with
  | nil => exact absurd rfl h
  | cons l ls => rfl

theorem splitWhere_eq_splitOnP (sep : Char → Bool) (cs : List Char) :
    splitWhere sep cs = cs.splitOnP sep := by
  induction cs with
  | nil => rfl
  | cons c cs ih =>
      rw [splitWhere, ih, List.splitOnP_cons_eq_if_modifyHead,
        consHead_eq_modifyHead (List.splitOnP_ne_nil sep cs)]

theorem flatten_consHead {α : Type} (a : α) (ls : List (List α)) :
    (consHead a ls).flatten = a :: ls.flatten := by
  cases ls with
  | nil => rfl
  | cons l ls => rfl

/-- Splitting drops the separators and nothing else. -/
theorem flatten_splitWhere (sep : Char → Bool) (cs : List Char) :
    (splitWhere sep cs).flatten = cs.filter fun c => !sep c := by
  induction cs with
  | nil => rfl
  | cons c cs ih =>
      unfold splitWhere
      split
      next hc => simp [hc, ih]
      next hc => simp [hc, flatten_consHead, ih]

/-- A text is split by what counts as a separator in it. -/
theorem splitWhere_congr {sep sep' : Char → Bool} {cs : List Char}
    (h : ∀ c ∈ cs, sep c = sep' c) : splitWhere sep cs = splitWhere sep' cs := by
  induction cs with
  | nil => rfl
  | cons c cs ih =>
      obtain ⟨hc, hcs⟩ := List.forall_mem_cons.mp h
      rw [splitWhere, splitWhere, hc, ih hcs]

/-- No piece has a separator in it. -/
theorem sep_eq_false_of_mem_splitWhere {sep : Char → Bool} {cs piece : List Char}
    (h : piece ∈ splitWhere sep cs) : ∀ c ∈ piece, sep c = false := by
  induction cs generalizing piece with
  | nil =>
      obtain rfl := List.mem_singleton.mp h
      intro c hc
      cases hc
  | cons c cs ih =>
      unfold splitWhere at h
      split at h
      next =>
        rcases List.mem_cons.mp h with rfl | hrest
        · intro c hc
          cases hc
        · exact ih hrest
      next hc =>
        cases hpieces : splitWhere sep cs with
        | nil =>
            rw [splitWhere_eq_splitOnP] at hpieces
            exact absurd hpieces (List.splitOnP_ne_nil sep cs)
        | cons first rest =>
            rw [hpieces] at h ih
            rcases List.mem_cons.mp h with rfl | hrest
            · intro b hb
              rcases List.mem_cons.mp hb with rfl | hb
              · simpa using hc
              · exact ih List.mem_cons_self b hb
            · exact ih (List.mem_cons_of_mem first hrest)

/-! ## Joining -/

theorem mem_intercalate {sep c : Char} {pieces : List (List Char)}
    (h : c ∈ [sep].intercalate pieces) : c = sep ∨ ∃ piece ∈ pieces, c ∈ piece := by
  induction pieces with
  | nil => cases h
  | cons piece pieces ih =>
      cases pieces with
      | nil =>
          rw [List.intercalate_singleton] at h
          exact .inr ⟨piece, List.mem_cons_self, h⟩
      | cons next pieces =>
          rw [List.intercalate_cons_cons, List.mem_append, List.mem_append, List.mem_singleton] at h
          rcases h with (hc | hc) | hc
          · exact .inr ⟨piece, List.mem_cons_self, hc⟩
          · exact .inl hc
          · exact (ih hc).imp_right fun ⟨found, hfound, hmem⟩ =>
              ⟨found, List.mem_cons_of_mem piece hfound, hmem⟩

/-- Joined pieces begin with the first one. -/
theorem exists_intercalate_cons (sep piece : List Char) (pieces : List (List Char)) :
    ∃ rest, sep.intercalate (piece :: pieces) = piece ++ rest := by
  cases pieces with
  | nil => exact ⟨[], by rw [List.intercalate_singleton, List.append_nil]⟩
  | cons next pieces =>
      exact ⟨sep ++ sep.intercalate (next :: pieces),
        by rw [List.intercalate_cons_cons, List.append_assoc]⟩

theorem intercalate_eq_nil_iff {sep : List Char} {pieces : List (List Char)}
    (h : ∀ piece ∈ pieces, piece ≠ []) : sep.intercalate pieces = [] ↔ pieces = [] := by
  cases pieces with
  | nil => simp
  | cons piece pieces =>
      obtain ⟨rest, hrest⟩ := exists_intercalate_cons sep piece pieces
      simp [hrest, h piece List.mem_cons_self]

/-- The pieces of a text are the texts without the separator that it is joined of. -/
theorem splitWhere_eq_iff {sep : Char} {cs : List Char} {pieces : List (List Char)} :
    splitWhere (· == sep) cs = pieces ↔
      pieces ≠ [] ∧ (∀ piece ∈ pieces, sep ∉ piece) ∧ cs = [sep].intercalate pieces := by
  have hsplit : splitWhere (· == sep) cs = cs.splitOn sep :=
    (splitWhere_eq_splitOnP _ cs).trans List.splitOn_eq_splitOnP.symm
  constructor
  · rintro rfl
    refine ⟨?_, ?_, ?_⟩
    · rw [hsplit]
      exact List.splitOn_ne_nil sep cs
    · intro piece hpiece hmem
      have hfalse := sep_eq_false_of_mem_splitWhere hpiece sep hmem
      simp at hfalse
    · rw [hsplit, List.intercalate_splitOn]
  · rintro ⟨hne, hpieces, rfl⟩
    rw [hsplit]
    exact List.splitOn_intercalate sep hpieces hne

end ObjectDocument.Text
