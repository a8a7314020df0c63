import ObjectDocument.Calendar.Pattern

/-!
# The language of date patterns

A pattern is read from left to right. Two quotes stand for a quote, a single quote opens a section that
ends at the next single quote, and every longest run of one letter is a field. Main statements: every
text has exactly one reading, and its pieces are the ones that the scan gives.
-/

namespace ObjectDocument

namespace Calendar

/-- A text with each of its quotes doubled. -/
def doubleQuotes (cs : List Char) : List Char :=
  cs.flatMap fun c => if c = '\'' then ['\'', '\''] else [c]

/-- How a pattern reads: its pieces in order, and whether its last section is left open. -/
inductive Reading : List Char → List Token → Bool → Prop
  | done : Reading [] [] false
  | quote {cs : List Char} {ts : List Token} {isOpen : Bool} (hrest : Reading cs ts isOpen) :
      Reading ('\'' :: '\'' :: cs) (.char '\'' :: ts) isOpen
  /-- A section ends at the first quote that is not followed by another one. -/
  | quoted {inside cs : List Char} {ts : List Token} {isOpen : Bool} (hne : inside ≠ [])
      (hinside : inside.head? ≠ some '\'') (hend : cs.head? ≠ some '\'')
      (hrest : Reading cs ts isOpen) :
      Reading ('\'' :: (doubleQuotes inside ++ '\'' :: cs)) (inside.map .char ++ ts) isOpen
  | unclosed {inside : List Char} (hinside : inside.head? ≠ some '\'') :
      Reading ('\'' :: doubleQuotes inside) (inside.map .char) true
  | char {c : Char} {cs : List Char} {ts : List Token} {isOpen : Bool} (hquote : c ≠ '\'')
      (hletter : isPatternLetter c = false) (hrest : Reading cs ts isOpen) :
      Reading (c :: cs) (.char c :: ts) isOpen
  | field {letter : Char} {n : Nat} {cs : List Char} {ts : List Token} {isOpen : Bool}
      (hletter : isPatternLetter letter = true) (hend : cs.head? ≠ some letter)
      (hrest : Reading cs ts isOpen) :
      Reading (List.replicate (n + 1) letter ++ cs) (.run letter (n + 1) :: ts) isOpen

variable {c letter : Char} {cs inside : List Char} {ts : List Token} {isOpen : Bool}

/-! ## Doubled quotes -/

@[simp]
theorem doubleQuotes_nil : doubleQuotes [] = [] :=
  rfl

@[simp]
theorem doubleQuotes_quote_cons (cs : List Char) :
    doubleQuotes ('\'' :: cs) = '\'' :: '\'' :: doubleQuotes cs :=
  rfl

@[simp]
theorem doubleQuotes_cons (h : c ≠ '\'') (cs : List Char) :
    doubleQuotes (c :: cs) = c :: doubleQuotes cs := by
  simp [doubleQuotes, h]

@[simp]
theorem head?_doubleQuotes (cs : List Char) : (doubleQuotes cs).head? = cs.head? := by
  cases cs with
  | nil => rfl
  | cons c cs =>
      by_cases hc : c = '\''
      · subst hc
        rfl
      · rw [doubleQuotes_cons hc, List.head?_cons, List.head?_cons]

theorem head?_doubleQuotes_append (h : inside ≠ []) (cs : List Char) :
    (doubleQuotes inside ++ cs).head? = inside.head? := by
  obtain ⟨c, inside, rfl⟩ := List.exists_cons_of_ne_nil h
  rw [List.head?_append, head?_doubleQuotes, List.head?_cons, Option.some_or]

/-- Up to its first quote that is not doubled, a text is another one with its quotes doubled. -/
theorem exists_doubleQuotes (cs : List Char) :
    (∃ inside, cs = doubleQuotes inside) ∨
      ∃ inside rest, cs = doubleQuotes inside ++ '\'' :: rest ∧ rest.head? ≠ some '\'' := by
  induction hlength : cs.length using Nat.strongRecOn generalizing cs with
  | ind n ih =>
      subst hlength
      cases cs with
      | nil => exact .inl ⟨[], rfl⟩
      | cons c cs =>
          by_cases hc : c = '\''
          · subst hc
            cases cs with
            | nil => exact .inr ⟨[], [], rfl, by simp⟩
            | cons d cs =>
                by_cases hd : d = '\''
                · subst hd
                  have hlt : cs.length < ('\'' :: '\'' :: cs).length := by
                    simp only [List.length_cons]
                    omega
                  refine (ih cs.length hlt cs rfl).imp ?_ ?_
                  · rintro ⟨inside, rfl⟩
                    exact ⟨'\'' :: inside, rfl⟩
                  · rintro ⟨inside, rest, rfl, hrest⟩
                    exact ⟨'\'' :: inside, rest, rfl, hrest⟩
                · exact .inr ⟨[], d :: cs, rfl, by simpa using hd⟩
          · refine (ih cs.length (by simp) cs rfl).imp ?_ ?_
            · rintro ⟨inside, rfl⟩
              exact ⟨c :: inside, by simp [hc]⟩
            · rintro ⟨inside, rest, rfl, hrest⟩
              exact ⟨c :: inside, rest, by simp [hc], hrest⟩

/-! ## The scan -/

theorem ne_quote_of_isPatternLetter (h : isPatternLetter c = true) : c ≠ '\'' := by
  rintro rfl
  cases h

section Scan

attribute [local simp] tokens

theorem tokens_plain_quote (cs : List Char) : tokens .plain ('\'' :: '\'' :: cs) =
    (.char '\'' :: (tokens .plain cs).1, (tokens .plain cs).2) := by
  simp

theorem tokens_plain_char (hquote : c ≠ '\'') (hletter : isPatternLetter c = false) :
    tokens .plain (c :: cs) = (.char c :: (tokens .plain cs).1, (tokens .plain cs).2) := by
  simp [hquote, hletter]

theorem tokens_plain_open (h : cs.head? ≠ some '\'') :
    tokens .plain ('\'' :: cs) = tokens .quoted cs := by
  cases cs with
  | nil => rfl
  | cons d cs =>
      have hd : d ≠ '\'' := by simpa using h
      simp [hd]

theorem tokens_quoted_close (h : cs.head? ≠ some '\'') :
    tokens .quoted ('\'' :: cs) = tokens .plain cs := by
  cases cs with
  | nil => rfl
  | cons d cs =>
      have hd : d ≠ '\'' := by simpa using h
      simp [hd]

/-- In a section everything stands for itself, and two quotes for one. -/
theorem tokens_quoted_doubleQuotes (inside cs : List Char) :
    tokens .quoted (doubleQuotes inside ++ cs) =
      (inside.map .char ++ (tokens .quoted cs).1, (tokens .quoted cs).2) := by
  induction inside with
  | nil => rfl
  | cons c inside ih =>
      by_cases hc : c = '\''
      · subst hc
        simp [ih]
      · simp [hc, ih]

/-- A run of a letter goes on up to another character. -/
theorem tokens_letters (hletter : isPatternLetter letter = true) (n : Nat)
    (hend : cs.head? ≠ some letter) : tokens (.letters letter n) cs =
      (.run letter n :: (tokens .plain cs).1, (tokens .plain cs).2) := by
  have hquote : '\'' ≠ letter := (ne_quote_of_isPatternLetter hletter).symm
  cases cs with
  | nil => rfl
  | cons c cs =>
      have hc : c ≠ letter := by simpa using hend
      by_cases hsingle : c = '\''
      · subst hsingle
        cases cs with
        | nil => simp [hquote]
        | cons d cs =>
            by_cases hd : d = '\''
            · subst hd
              simp
            · simp [hquote, hd]
      · cases hclass : isPatternLetter c with
        | true => simp [hc, hsingle, hclass]
        | false => simp [hc, hsingle, hclass]

theorem tokens_letters_replicate (hletter : isPatternLetter letter = true) (n k : Nat)
    (hend : cs.head? ≠ some letter) :
    tokens (.letters letter n) (List.replicate k letter ++ cs) =
      (.run letter (n + k) :: (tokens .plain cs).1, (tokens .plain cs).2) := by
  have hquote : letter ≠ '\'' := ne_quote_of_isPatternLetter hletter
  induction k generalizing n with
  | zero => exact tokens_letters hletter n hend
  | succ k ih =>
      have hstep : tokens (.letters letter n) (letter :: (List.replicate k letter ++ cs)) =
          tokens (.letters letter (n + 1)) (List.replicate k letter ++ cs) := by
        simp [hquote]
      rw [List.replicate_succ, List.cons_append, hstep, ih, Nat.add_right_comm, Nat.add_assoc]

theorem tokens_plain_field (hletter : isPatternLetter letter = true) (n : Nat)
    (hend : cs.head? ≠ some letter) :
    tokens .plain (List.replicate (n + 1) letter ++ cs) =
      (.run letter (n + 1) :: (tokens .plain cs).1, (tokens .plain cs).2) := by
  have hquote : letter ≠ '\'' := ne_quote_of_isPatternLetter hletter
  have hstep : tokens .plain (letter :: (List.replicate n letter ++ cs)) =
      tokens (.letters letter 1) (List.replicate n letter ++ cs) := by
    simp [hquote, hletter]
  rw [List.replicate_succ, List.cons_append, hstep, tokens_letters_replicate hletter 1 n hend,
    Nat.add_comm]

end Scan

/-! ## Readings -/

/-- The scan gives the pieces of a reading. -/
theorem tokens_of_reading (h : Reading cs ts isOpen) : tokens .plain cs = (ts, isOpen) := by
  induction h with
  | done => rfl
  | quote hrest ih => rw [tokens_plain_quote, ih]
  | @quoted inside cs ts isOpen hne hinside hend hrest ih =>
      have hhead : (doubleQuotes inside ++ '\'' :: cs).head? ≠ some '\'' := by
        rwa [head?_doubleQuotes_append hne]
      rw [tokens_plain_open hhead, tokens_quoted_doubleQuotes, tokens_quoted_close hend, ih]
  | @unclosed inside hinside =>
      have hhead : (doubleQuotes inside).head? ≠ some '\'' := by rwa [head?_doubleQuotes]
      have hscan := tokens_quoted_doubleQuotes inside []
      rw [List.append_nil] at hscan
      rw [tokens_plain_open hhead, hscan, tokens, List.append_nil]
  | char hquote hletter hrest ih => rw [tokens_plain_char hquote hletter, ih]
  | field hletter hend hrest ih => rw [tokens_plain_field hletter _ hend, ih]

/-- A text begins with as many of one character as there are. -/
theorem exists_replicate_append (c : Char) (cs : List Char) :
    ∃ n rest, cs = List.replicate n c ++ rest ∧ rest.head? ≠ some c := by
  induction cs with
  | nil => exact ⟨0, [], rfl, by simp⟩
  | cons d cs ih =>
      by_cases hd : d = c
      · obtain ⟨n, rest, rfl, hrest⟩ := ih
        exact ⟨n + 1, rest, by rw [hd, List.replicate_succ, List.cons_append], hrest⟩
      · exact ⟨0, d :: cs, rfl, by simpa using hd⟩

theorem exists_reading_quote_cons
    (h : ∀ rest : List Char, rest.length ≤ cs.length → ∃ ts isOpen, Reading rest ts isOpen) :
    ∃ ts isOpen, Reading ('\'' :: cs) ts isOpen := by
  by_cases hpair : cs.head? = some '\''
  · obtain ⟨rest, rfl⟩ := List.head?_eq_some_iff.mp hpair
    obtain ⟨ts, isOpen, hrest⟩ := h rest (by simp)
    exact ⟨_, _, .quote hrest⟩
  · rcases exists_doubleQuotes cs with ⟨inside, rfl⟩ | ⟨inside, rest, rfl, hend⟩
    · rw [head?_doubleQuotes] at hpair
      exact ⟨_, _, .unclosed hpair⟩
    · have hne : inside ≠ [] := by
        rintro rfl
        simp at hpair
      have hle : rest.length ≤ (doubleQuotes inside ++ '\'' :: rest).length := by
        rw [List.length_append, List.length_cons]
        omega
      rw [head?_doubleQuotes_append hne] at hpair
      obtain ⟨ts, isOpen, hrest⟩ := h rest hle
      exact ⟨_, _, .quoted hne hpair hend hrest⟩

theorem exists_reading_letter_cons (hletter : isPatternLetter letter = true)
    (h : ∀ rest : List Char, rest.length ≤ cs.length → ∃ ts isOpen, Reading rest ts isOpen) :
    ∃ ts isOpen, Reading (letter :: cs) ts isOpen := by
  obtain ⟨n, rest, rfl, hend⟩ := exists_replicate_append letter cs
  obtain ⟨ts, isOpen, hrest⟩ := h rest (by simp)
  exact ⟨_, _, .field hletter hend hrest⟩

/-- Every text has a reading. -/
theorem exists_reading (cs : List Char) : ∃ ts isOpen, Reading cs ts isOpen := by
  -- By induction on the length of the text: what follows a piece is shorter.
  induction hlength : cs.length using Nat.strongRecOn generalizing cs with
  | ind n ih =>
      subst hlength
      cases cs with
      | nil => exact ⟨[], false, .done⟩
      | cons c cs =>
          have hshorter (rest : List Char) (hle : rest.length ≤ cs.length) :
              ∃ ts isOpen, Reading rest ts isOpen :=
            ih rest.length (Nat.lt_succ_of_le hle) rest rfl
          by_cases hquote : c = '\''
          · subst hquote
            exact exists_reading_quote_cons hshorter
          · cases hletter : isPatternLetter c with
            | true => exact exists_reading_letter_cons hletter hshorter
            | false =>
                obtain ⟨ts, isOpen, hrest⟩ := hshorter cs (Nat.le_refl cs.length)
                exact ⟨_, _, .char hquote hletter hrest⟩

/-- The scan gives the only reading of a text. -/
theorem reading_iff : Reading cs ts isOpen ↔ tokens .plain cs = (ts, isOpen) := by
  refine ⟨tokens_of_reading, fun h => ?_⟩
  obtain ⟨ts', isOpen', hreading⟩ := exists_reading cs
  obtain ⟨rfl, rfl⟩ := Prod.mk.inj ((tokens_of_reading hreading).symm.trans h)
  exact hreading

/-! ## Texts one after the other -/

/-- Whether no pair of quotes and no field of a text could go on in the text behind it. -/
def Apart (cs cs' : List Char) : Prop :=
  ∀ c ∈ cs.getLast?, c ∈ cs'.head? → c ≠ '\'' ∧ isPatternLetter c = false

theorem Apart.of_append {cs' : List Char} (front : List Char) (h : Apart (front ++ cs) cs') :
    Apart cs cs' := by
  intro c hc
  refine h c ?_
  rw [List.getLast?_append, Option.mem_def.mp hc]
  rfl

theorem Apart.head?_append {front cs' : List Char} (h : Apart (front ++ c :: cs) cs')
    (hc : c = '\'' ∨ isPatternLetter c = true) (hend : cs.head? ≠ some c) :
    (cs ++ cs').head? ≠ some c := by
  cases cs with
  | nil =>
      intro hhead
      obtain ⟨hquote, hletter⟩ := h c (by simp) hhead
      rcases hc with rfl | hc
      · exact hquote rfl
      · exact Bool.false_ne_true (hletter.symm.trans hc)
  | cons d cs => exact hend

namespace Reading

/-- Only the empty text has no pieces and no section that is left open. -/
theorem nil_iff (h : Reading cs ts isOpen) : ts = [] ∧ isOpen = false ↔ cs = [] := by
  cases h with
  | done => simp
  | quote hrest => simp
  | quoted hne hinside hend hrest => simp [hne]
  | unclosed hinside => simp
  | char hquote hletter hrest => simp
  | field hletter hend hrest => simp

/-- A field has at least one letter. -/
theorem pos_of_run_mem {count : Nat} (h : Reading cs ts isOpen)
    (hrun : .run letter count ∈ ts) : 0 < count := by
  induction h with
  | done => cases hrun
  | quote hrest ih => exact ih (by simpa using hrun)
  | quoted hne hinside hend hrest ih => exact ih (by simpa using hrun)
  | unclosed hinside => simp at hrun
  | char hquote hletter hrest ih => exact ih (by simpa using hrun)
  | field hletter hend hrest ih =>
      rcases List.mem_cons.mp hrun with hhead | htail
      · cases hhead
        exact Nat.succ_pos _
      · exact ih htail

/-- Texts are read one after the other if no piece goes on where they meet. -/
theorem append {cs' : List Char} {ts' : List Token} (h : Reading cs ts false)
    (hapart : Apart cs cs') (h' : Reading cs' ts' isOpen) :
    Reading (cs ++ cs') (ts ++ ts') isOpen := by
  generalize hclosed : false = closed at h
  induction h with
  | done => exact h'
  | @quote cs ts closed hrest ih => exact .quote (ih (hapart.of_append ['\'', '\'']) hclosed)
  | @quoted inside cs ts closed hne hinside hend hrest ih =>
      have hfront : Apart (('\'' :: doubleQuotes inside) ++ '\'' :: cs) cs' := hapart
      have hquoted := Reading.quoted hne hinside (hfront.head?_append (.inl rfl) hend)
        (ih ((hfront.of_append _).of_append ['\'']) hclosed)
      simpa using hquoted
  | unclosed hinside => cases hclosed
  | char hquote hletter hrest ih => exact .char hquote hletter (ih (hapart.of_append [_]) hclosed)
  | @field letter n cs ts closed hletter hend hrest ih =>
      have hfront : Apart (List.replicate n letter ++ letter :: cs) cs' := by
        rwa [List.replicate_succ', List.append_assoc] at hapart
      have hfield := Reading.field (n := n) hletter (hfront.head?_append (.inr hletter) hend)
        (ih (hapart.of_append _) hclosed)
      rwa [← List.append_assoc] at hfield

end Reading

end Calendar

end ObjectDocument
