import ObjectDocument.Proofs.Converter.Compilation

/-!
# Quoted text in date patterns

A text between quotes, with its own quotes doubled, is read as one section behind a pair of quotes for
each quote that it begins with. Main statement: the text is printed as it stands, alone and between
fields, if anything in it is no quote; of a text of quotes alone nothing is left for a section, and one
quote more is printed.
-/

namespace ObjectDocument

open Calendar

namespace DateForm

/-- A text between quotes, with each of its own quotes doubled. -/
def quoteText (s : String) : String :=
  String.ofList ('\'' :: (doubleQuotes s.toList ++ ['\'']))

/-- Whether a text is printed as another one when it is quoted in a pattern. -/
structure PrintsAs (s shown : String) : Prop where
  alone : ∃ p, compile (quoteText s) = .ok p ∧ ∀ t, p.print t = shown
  /-- Between a field that ends one pattern and a field that begins another, the text is printed
  between what these patterns print. -/
  between : ∀ before after ts, Reading before.toList ts false →
    (∃ c ∈ before.toList.getLast?, isPatternLetter c = true) →
    (∃ c ∈ after.toList.head?, isPatternLetter c = true) →
    ((∃ p, compile (before ++ quoteText s ++ after) = .ok p) ↔
      (∃ p, compile before = .ok p) ∧ ∃ p, compile after = .ok p) ∧
    ∀ p pBefore pAfter, compile (before ++ quoteText s ++ after) = .ok p →
      compile before = .ok pBefore → compile after = .ok pAfter →
      ∀ t, p.print t = pBefore.print t ++ shown ++ pAfter.print t

variable {cs shown : List Char} {s : String}

theorem toList_quoteText (s : String) :
    (quoteText s).toList = '\'' :: (doubleQuotes s.toList ++ ['\'']) := by
  rw [quoteText, String.toList_ofList]

/-! ## Readings of quoted text -/

/-- The quotes in front are pairs, and the rest is a section. -/
theorem reading_quoted (h : ∃ c ∈ cs, c ≠ '\'') :
    Reading ('\'' :: (doubleQuotes cs ++ ['\''])) (cs.map .char) false := by
  induction cs with
  | nil => simp at h
  | cons c cs ih =>
      by_cases hc : c = '\''
      · subst hc
        exact .quote (ih (by simpa using h))
      · have hquoted : Reading ('\'' :: (doubleQuotes (c :: cs) ++ '\'' :: []))
            ((c :: cs).map .char ++ []) false :=
          .quoted (List.cons_ne_nil c cs) (by simpa using hc) (by simp) .done
        rwa [List.append_nil] at hquoted

/-- Where all is quotes, the ones around the text are another pair. -/
theorem reading_quotes (h : ∀ c ∈ cs, c = '\'') :
    Reading ('\'' :: (doubleQuotes cs ++ ['\''])) ((cs ++ ['\'']).map .char) false := by
  induction cs with
  | nil => exact .quote .done
  | cons c cs ih =>
      obtain ⟨rfl, hcs⟩ := List.forall_mem_cons.mp h
      exact .quote (ih hcs)

/-! ## Patterns with readings -/

theorem flatMap_printToken_char (t : DateTime) (cs : List Char) :
    (cs.map .char).flatMap (printToken t) = cs := by
  induction cs with
  | nil => rfl
  | cons c cs ih => rw [List.map_cons, List.flatMap_cons, ih, printToken, List.singleton_append]

/-- A text that ends with a field is read up to a quoted text behind it. -/
theorem apart_quoteText {cs' : List Char} (h : ∃ c ∈ cs.getLast?, isPatternLetter c = true) :
    Apart cs ((quoteText s).toList ++ cs') := by
  obtain ⟨letter, hlast, hletter⟩ := h
  intro c hc hhead
  rw [toList_quoteText] at hhead
  obtain rfl : '\'' = c := by simpa using hhead
  obtain rfl : '\'' = letter := Option.some.inj (hc.symm.trans hlast)
  cases hletter

/-- A quoted text is read up to a field behind it. -/
theorem quoteText_apart (h : ∃ c ∈ cs.head?, isPatternLetter c = true) :
    Apart (quoteText s).toList cs := by
  obtain ⟨letter, hhead, hletter⟩ := h
  intro c hc hfirst
  rw [toList_quoteText, ← List.cons_append, List.getLast?_concat] at hc
  obtain rfl : '\'' = c := Option.some.inj hc
  obtain rfl : '\'' = letter := Option.some.inj (hfirst.symm.trans hhead)
  cases hletter

theorem printsAs_of_reading (h : Reading (quoteText s).toList (shown.map .char) false) :
    PrintsAs s (String.ofList shown) := by
  constructor
  case alone =>
    have hcompiles := compiles_of_reading h
    obtain ⟨p, hp⟩ := hcompiles.accepts_iff.mpr ⟨by simp [quoteText], rfl, allSupported_char shown⟩
    refine ⟨p, hp, fun t => ?_⟩
    rw [hcompiles.print_eq p hp, flatMap_printToken_char]
  case between =>
    intro before after tsBefore hreadBefore hlast hhead
    obtain ⟨tsAfter, isOpen, hreadAfter⟩ := exists_reading after.toList
    have hreading : Reading (before ++ quoteText s ++ after).toList
        (tsBefore ++ (shown.map .char ++ tsAfter)) isOpen := by
      rw [String.toList_append, String.toList_append, List.append_assoc]
      exact hreadBefore.append (apart_quoteText hlast) (h.append (quoteText_apart hhead) hreadAfter)
    have hwhole := compiles_of_reading hreading
    have hbefore := compiles_of_reading hreadBefore
    have hafter := compiles_of_reading hreadAfter
    constructor
    · have hbeforeNe : before ≠ "" := by
        rintro rfl
        simp at hlast
      have hafterNe : after ≠ "" := by
        rintro rfl
        simp at hhead
      rw [hwhole.accepts_iff, hbefore.accepts_iff, hafter.accepts_iff, allSupported_append,
        allSupported_append]
      constructor
      · rintro ⟨-, rfl, hsupported, -, hsupported'⟩
        exact ⟨⟨hbeforeNe, rfl, hsupported⟩, hafterNe, rfl, hsupported'⟩
      · rintro ⟨⟨-, -, hsupported⟩, -, rfl, hsupported'⟩
        exact ⟨by simp [quoteText], rfl, hsupported, allSupported_char shown, hsupported'⟩
    · intro p pBefore pAfter hp hpBefore hpAfter t
      rw [hwhole.print_eq p hp, hbefore.print_eq pBefore hpBefore, hafter.print_eq pAfter hpAfter]
      simp [flatMap_printToken_char, String.ofList_append, String.append_assoc]

/-! ## Quoted text -/

/-- A text with a character other than a quote is printed as it stands, and a text of quotes with one
more. -/
theorem quoteText_printsAs (s : String) :
    ((∃ c ∈ s.toList, c ≠ '\'') → PrintsAs s s) ∧
    ((∀ c ∈ s.toList, c = '\'') → PrintsAs s (s ++ "'")) := by
  constructor
  · intro h
    have hreading : Reading (quoteText s).toList (s.toList.map .char) false := by
      rw [toList_quoteText]
      exact reading_quoted h
    have hprints := printsAs_of_reading hreading
    rwa [String.ofList_toList] at hprints
  · intro h
    have hreading : Reading (quoteText s).toList ((s ++ "'").toList.map .char) false := by
      rw [toList_quoteText, String.toList_append]
      exact reading_quotes h
    have hprints := printsAs_of_reading hreading
    rwa [String.ofList_toList] at hprints

/-- Quotes at both ends and a dot in front of a fraction are printed as they stand, and two quotes as
three. -/
theorem quoteText_printsAs_dotted : PrintsAs "'o''.'" "'o''.'" ∧ PrintsAs "''" "'''" ∧
    ∃ p, compile ("ss" ++ quoteText "'." ++ "SSS") = .ok p ∧ ∀ t, p.print t =
      String.ofList (Pattern.printPart true (Pattern.displayedSecond t.time)) ++ "'." ++
        String.ofList (Pattern.printFraction 3 t.time) := by
  have hquotes : ∀ c ∈ ['\'', '\''], c = '\'' := by simp
  refine ⟨(quoteText_printsAs "'o''.'").1 ⟨'o', by decide, by decide⟩,
    (quoteText_printsAs "''").2 hquotes, ?_⟩
  have hprints := (quoteText_printsAs "'.").1 ⟨'.', by decide, by decide⟩
  obtain ⟨hcompile, hprint⟩ := hprints.between "ss" "SSS" [.run 's' 2] (reading_iff.mpr (by decide))
    ⟨'s', by decide, by decide⟩ ⟨'S', by decide, by decide⟩
  have hbefore : compile "ss" = .ok ⟨"ss", [.component (.second true)]⟩ := by decide
  have hafter : compile "SSS" = .ok ⟨"SSS", [.component (.fraction 3)]⟩ := by decide
  obtain ⟨p, hp⟩ := hcompile.mpr ⟨⟨_, hbefore⟩, _, hafter⟩
  refine ⟨p, hp, fun t => ?_⟩
  rw [hprint p _ _ hp hbefore hafter]
  simp [Pattern.print, Pattern.printItem, Pattern.printComponent]

/-- A quote between quotes is read as two pairs, which are printed as two quotes. -/
theorem not_quoteText_printsAs_self : ¬∀ s : String, s ≠ "" → PrintsAs s s := by
  intro h
  obtain ⟨p, hp, hself⟩ := (h "'" (by decide)).alone
  have htwo : PrintsAs "'" (String.ofList ['\'', '\'']) :=
    printsAs_of_reading (reading_iff.mpr (by decide))
  obtain ⟨q, hq, hprint⟩ := htwo.alone
  obtain rfl := Except.ok.inj (hp.symm.trans hq)
  let t : DateTime := ⟨⟨2020, 2, 29, by decide, by decide, by decide⟩, .midnight⟩
  exact absurd ((hself t).symm.trans (hprint t)) (by decide)

end DateForm

end ObjectDocument
