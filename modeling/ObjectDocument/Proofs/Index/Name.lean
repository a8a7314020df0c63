import Mathlib.Data.List.Infix
import Mathlib.Data.List.TakeWhile
import ObjectDocument.Index.Name
import ObjectDocument.Proofs.Outcome

/-!
# The language of index names

A text is the name of an index if it is not empty and every opening of an expression in it, read from
left to right, has a closing brace after it with an expression that is not blank in front. Main
statement: these are exactly the texts that parse. A name that parsed stands for an index wherever all
of its expressions have values.
-/

namespace ObjectDocument

namespace IndexName

open Text

/-- The characters that open an expression. -/
def opening : List Char :=
  ['#', '\x7b']

/-- Literal text with expressions between. Each opening is followed by a name that is not blank and
ends at the next closing brace. -/
inductive Template : List Char → Prop
  | literal {cs : List Char} (h : ¬opening <:+: cs) : Template cs
  | expression {before inside rest : List Char} (hbefore : ¬opening <:+: before)
      (hinside : '\x7d' ∉ inside) (hname : ∃ c ∈ inside, isBlank c = false)
      (hrest : Template rest) : Template (before ++ opening ++ (inside ++ '\x7d' :: rest))

variable {source : String} {cs before after inside rest : List Char}

/-! ## Blank text -/

theorem trimLeft_eq_nil_iff : trimLeft cs = [] ↔ ∀ c ∈ cs, isBlank c = true :=
  List.dropWhile_eq_nil_iff

/-- Trimming removes nothing but white space. -/
theorem forall_mem_trimLeft_iff :
    (∀ c ∈ trimLeft cs, isBlank c = true) ↔ ∀ c ∈ cs, isBlank c = true := by
  constructor
  · intro h c hc
    rw [← List.takeWhile_append_dropWhile (p := isBlank) (l := cs), List.mem_append] at hc
    rcases hc with hc | hc
    · exact List.mem_takeWhile_imp hc
    · exact h c hc
  · intro h c hc
    exact h c ((List.dropWhile_sublist isBlank).subset hc)

theorem trim_eq_nil_iff : trim cs = [] ↔ ∀ c ∈ cs, isBlank c = true := by
  rw [trim, List.reverse_eq_nil_iff, trimLeft_eq_nil_iff]
  simp only [List.mem_reverse]
  exact forall_mem_trimLeft_iff

/-! ## Splitting at an expression -/

/-- An expression ends at the first closing brace. -/
theorem splitClose_eq_some_iff :
    splitClose cs = some (inside, rest) ↔ cs = inside ++ '\x7d' :: rest ∧ '\x7d' ∉ inside := by
  induction cs generalizing inside with
  | nil => simp [splitClose]
  | cons c cs ih =>
      rw [splitClose]
      split
      next hc =>
        subst hc
        cases inside with
        | nil => simp [eq_comm]
        | cons d inside => simp +contextual [eq_comm]
      next hc =>
        cases inside with
        | nil => simp [hc]
        | cons d inside =>
            rw [Option.map_eq_some_iff]
            constructor
            · rintro ⟨⟨b, a⟩, hs, hp⟩
              cases hp
              obtain ⟨rfl, hb⟩ := ih.mp hs
              exact ⟨rfl, by simp [hb, Ne.symm hc]⟩
            · rintro ⟨heq, hmem⟩
              cases heq
              have hinside : '\x7d' ∉ inside := fun h => hmem (List.mem_cons_of_mem _ h)
              exact ⟨(inside, rest), ih.mpr ⟨rfl, hinside⟩, rfl⟩

/-- A text with an opening in front has an opening. -/
theorem splitOpen_cons {c : Char} (h : ¬opening <+: c :: cs) :
    splitOpen (c :: cs) = (c :: (splitOpen cs).1, (splitOpen cs).2) := by
  rw [splitOpen]
  rintro cs' rfl rfl
  exact h ⟨cs', rfl⟩

theorem splitOpen_of_not_infix (h : ¬opening <:+: cs) : splitOpen cs = (cs, none) := by
  induction cs with
  | nil => rfl
  | cons c cs ih =>
      rw [List.infix_cons_iff, not_or] at h
      rw [splitOpen_cons h.1, ih h.2]

/-- The first opening is the one after a text without openings. -/
theorem splitOpen_append (h : ¬opening <:+: before) :
    splitOpen (before ++ opening ++ after) = (before, some after) := by
  induction before with
  | nil => rfl
  | cons c before ih =>
      rw [List.infix_cons_iff, not_or] at h
      -- An opening at the front would lie in the text before, as `#` does not end one.
      have hhead : ¬opening <+: c :: (before ++ opening ++ after) := by
        intro hprefix
        cases before with
        | nil => simp [opening] at hprefix
        | cons d before =>
            obtain ⟨rfl, rfl⟩ : c = '#' ∧ d = '\x7b' := by simpa [opening, eq_comm] using hprefix
            exact h.1 ⟨before, rfl⟩
      rw [List.cons_append, List.cons_append, splitOpen_cons hhead, ih h.2]

/-- A text with an opening has a first one. -/
theorem exists_first_opening (h : opening <:+: cs) :
    ∃ before after, cs = before ++ opening ++ after ∧ ¬opening <:+: before := by
  induction cs with
  | nil => simp [opening] at h
  | cons c cs ih =>
      by_cases hhead : opening <+: c :: cs
      · obtain ⟨after, hafter⟩ := hhead
        exact ⟨[], after, hafter.symm, by simp [opening]⟩
      · obtain ⟨before, after, rfl, hbefore⟩ := ih ((List.infix_cons_iff.mp h).resolve_left hhead)
        refine ⟨c :: before, after, rfl, ?_⟩
        rw [List.infix_cons_iff, not_or]
        refine ⟨fun hprefix => hhead ?_, hbefore⟩
        exact hprefix.trans ⟨opening ++ after, by simp⟩

/-! ## Parsing -/

theorem split_literal (source : String) (h : ¬opening <:+: cs) :
    split source cs = .ok (literals cs) := by
  rw [split, splitOpen_of_not_infix h]

theorem split_expression (hbefore : ¬opening <:+: before) (hinside : '\x7d' ∉ inside) :
    split source (before ++ opening ++ (inside ++ '\x7d' :: rest)) =
      if (trim inside).isEmpty then .error (.emptyExpression source)
      else (split source rest).map
        fun segments => literals before ++ .expression (String.ofList (trim inside)) :: segments := by
  rw [split, splitOpen_append hbefore]
  dsimp only
  rw [splitClose_eq_some_iff.mpr ⟨rfl, hinside⟩]
  dsimp only
  split
  · rfl
  · cases split source rest with
    | ok segments => rfl
    | error fault => rfl

theorem split_unterminated (hbefore : ¬opening <:+: before) (hafter : '\x7d' ∉ after) :
    split source (before ++ opening ++ after) = .error (.unterminated source) := by
  have hclose : splitClose after = none := by
    rw [Option.eq_none_iff_forall_ne_some]
    rintro ⟨inside, rest⟩ h
    obtain ⟨rfl, -⟩ := splitClose_eq_some_iff.mp h
    exact hafter (by simp)
  rw [split, splitOpen_append hbefore]
  dsimp only
  rw [hclose]

theorem isEmpty_trim_eq_false_iff :
    (trim inside).isEmpty = false ↔ ∃ c ∈ inside, isBlank c = false := by
  rw [List.isEmpty_eq_false_iff, ne_eq, trim_eq_nil_iff]
  simp

/-- A text is split into pieces exactly if it is literal text with expressions between. -/
theorem exists_split_iff : (∃ segments, split source cs = .ok segments) ↔ Template cs := by
  constructor
  · -- By induction on the length of the text: what follows an expression is shorter.
    induction hlength : cs.length using Nat.strong_induction_on generalizing cs with
    | h n ih =>
        rintro ⟨segments, hsplit⟩
        by_cases hopening : opening <:+: cs
        · obtain ⟨before, after, rfl, hbefore⟩ := exists_first_opening hopening
          by_cases hclose : '\x7d' ∈ after
          · obtain ⟨inside, rest, rfl, hinside⟩ := List.eq_append_cons_of_mem hclose
            rw [split_expression hbefore hinside] at hsplit
            split at hsplit
            · cases hsplit
            next hname =>
              have hrest := exists_map_eq_ok_iff.mp ⟨segments, hsplit⟩
              refine .expression hbefore hinside
                (isEmpty_trim_eq_false_iff.mp (Bool.of_not_eq_true hname))
                (ih rest.length ?_ rfl hrest)
              rw [← hlength]
              simp
              omega
          · rw [split_unterminated hbefore hclose] at hsplit
            cases hsplit
        · exact .literal hopening
  · intro h
    induction h with
    | literal h => exact ⟨_, split_literal source h⟩
    | expression hbefore hinside hname hrest ih =>
        rw [split_expression hbefore hinside, isEmpty_trim_eq_false_iff.mpr hname,
          if_neg Bool.false_ne_true]
        exact exists_map_eq_ok_iff.mpr ih

/-- Only the empty text has no pieces. -/
theorem split_eq_ok_nil_iff : split source cs = .ok [] ↔ cs = [] := by
  by_cases hopening : opening <:+: cs
  · obtain ⟨before, after, rfl, hbefore⟩ := exists_first_opening hopening
    refine iff_of_false ?_ (by simp [opening])
    by_cases hclose : '\x7d' ∈ after
    · obtain ⟨inside, rest, rfl, hinside⟩ := List.eq_append_cons_of_mem hclose
      rw [split_expression hbefore hinside]
      split
      · simp
      · cases split source rest with
        | ok segments => simp [Except.map]
        | error fault => simp [Except.map]
    · rw [split_unterminated hbefore hclose]
      simp
  · rw [split_literal source hopening, literals]
    cases cs with
    | nil => simp
    | cons c cs => simp

/-- A text parses as an index name exactly if it is not empty and literal text with expressions
between. -/
theorem exists_parse_iff :
    (∃ name, parse source = .ok name) ↔ source ≠ "" ∧ Template source.toList := by
  have hsplits : (∃ segments, split source source.toList = .ok segments) ↔
      Template source.toList := exists_split_iff
  rw [← hsplits, parse]
  have hempty : source = "" ↔ source.toList = [] := by simp
  rw [ne_eq, hempty]
  constructor
  · rintro ⟨name, h⟩
    obtain ⟨segments, hsplit, h⟩ := bind_eq_ok.mp h
    refine ⟨fun hnil => ?_, segments, hsplit⟩
    obtain rfl : [] = segments := Except.ok.inj ((split_eq_ok_nil_iff.mpr hnil).symm.trans hsplit)
    cases h
  · rintro ⟨hne, segments, hsplit⟩
    have hsegments : segments.isEmpty = false := by
      rw [List.isEmpty_eq_false_iff]
      rintro rfl
      exact hne (split_eq_ok_nil_iff.mp hsplit)
    refine ⟨⟨source, segments⟩, ?_⟩
    rw [hsplit]
    simp only [bind, Except.bind, hsegments]
    rfl

/-! ## Resolving -/

section Resolve

variable {resolver : String → Option String} {segments : List Segment}

theorem exists_resolveSegment_iff {name : String} :
    (∃ text, resolveSegment resolver (.expression name) = .ok text) ↔
      ∃ value, resolver name = some value := by
  rw [resolveSegment]
  cases resolver name with
  | none => simp
  | some value => simp

theorem exists_resolveSegments_iff : (∃ text, resolveSegments resolver segments = .ok text) ↔
    ∀ name, .expression name ∈ segments → ∃ value, resolver name = some value := by
  induction segments with
  | nil => simp [resolveSegments]
  | cons s segments ih =>
      have hstep : (∃ text, resolveSegments resolver (s :: segments) = .ok text) ↔
          (∃ text, resolveSegment resolver s = .ok text) ∧
            ∃ text, resolveSegments resolver segments = .ok text := by
        simp only [resolveSegments, bind_eq_ok]
        constructor
        · rintro ⟨_, text, htext, rest, hrest, -⟩
          exact ⟨⟨text, htext⟩, rest, hrest⟩
        · rintro ⟨⟨text, htext⟩, rest, hrest⟩
          exact ⟨text ++ rest, text, htext, rest, hrest, rfl⟩
      rw [hstep, ih]
      cases s with
      | literal text => simp [resolveSegment]
      | expression name => simp [exists_resolveSegment_iff, or_imp, forall_and]

/-- A name stands for an index if all of its expressions have values. -/
theorem exists_resolve_iff {name : IndexName} : (∃ index, name.resolve resolver = .ok index) ↔
    ∀ expression, .expression expression ∈ name.segments →
      ∃ value, resolver expression = some value :=
  exists_resolveSegments_iff

end Resolve

end IndexName

end ObjectDocument
