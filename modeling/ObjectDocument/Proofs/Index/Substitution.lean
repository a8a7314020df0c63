import ObjectDocument.Descriptor.Basic
import ObjectDocument.Proofs.Index.Name

/-!
# Substitution in index names

The text of an index name is laid out as literal text with expressions between: each expression begins
at the first opening that is left and ends at the next closing brace. Main statement: a text parses
exactly if it is not empty and laid out in this way, and then the name stands for the text with the
value of each expression in its place, or fails with the first expression that has no value.
-/

namespace ObjectDocument

namespace IndexName

open Text

/-- An expression in a text, with the literal text in front of it. -/
structure Part where
  before : List Char
  /-- What the braces of the expression enclose. -/
  inside : List Char

/-- The expression that a resolver is asked for. -/
def Part.name (part : Part) : String :=
  String.ofList (trim part.inside)

/-- Whether nothing in a part ends it early or comes before its expression. -/
structure Part.Valid (part : Part) : Prop where
  before : ¬opening <:+: part.before
  inside : '\x7d' ∉ part.inside
  name : ∃ c ∈ part.inside, isBlank c = false

/-- A text cut at its expressions. -/
structure Layout where
  parts : List Part
  /-- The text after the last expression. -/
  tail : List Char

namespace Layout

/-- The text that is laid out. -/
def text (l : Layout) : List Char :=
  (l.parts.flatMap fun part => part.before ++ opening ++ (part.inside ++ ['\x7d'])) ++ l.tail

structure Valid (l : Layout) : Prop where
  parts : ∀ part ∈ l.parts, part.Valid
  tail : ¬opening <:+: l.tail

/-- The text with the value of each expression in its place, or the first expression that has no
value. -/
def filled (resolver : String → Option String) (l : Layout) : Except String String :=
  match l.parts.find? fun part => (resolver part.name).isNone with
  | some part => .error part.name
  | none =>
    .ok (String.ofList ((l.parts.flatMap fun part =>
      part.before ++ ((resolver part.name).getD "").toList) ++ l.tail))

/-- The pieces that the text is split into. -/
def segments (l : Layout) : List Segment :=
  (l.parts.flatMap fun part => literals part.before ++ [.expression part.name]) ++ literals l.tail

variable {l : Layout} {part : Part} {parts : List Part} {tail cs : List Char} {source : String}
  {resolver : String → Option String}

/-! ## Layouts of a text -/

theorem text_cons : text ⟨part :: parts, tail⟩ =
    part.before ++ opening ++ (part.inside ++ '\x7d' :: text ⟨parts, tail⟩) := by
  simp [text]

theorem valid_cons_iff : Valid ⟨part :: parts, tail⟩ ↔ part.Valid ∧ Valid ⟨parts, tail⟩ := by
  constructor
  · rintro ⟨hparts, htail⟩
    obtain ⟨hpart, hparts⟩ := List.forall_mem_cons.mp hparts
    exact ⟨hpart, hparts, htail⟩
  · rintro ⟨hpart, hparts, htail⟩
    exact ⟨List.forall_mem_cons.mpr ⟨hpart, hparts⟩, htail⟩

/-- The texts with a layout are those of the language of index names. -/
theorem exists_layout_iff : (∃ l : Layout, l.Valid ∧ l.text = cs) ↔ Template cs := by
  constructor
  · rintro ⟨⟨parts, tail⟩, hvalid, rfl⟩
    induction parts with
    | nil => exact .literal hvalid.tail
    | cons part parts ih =>
        obtain ⟨hpart, hparts⟩ := valid_cons_iff.mp hvalid
        rw [text_cons]
        exact .expression hpart.before hpart.inside hpart.name (ih hparts)
  · intro h
    induction h with
    | @literal cs h => exact ⟨⟨[], cs⟩, ⟨by simp, h⟩, rfl⟩
    | @expression before inside rest hbefore hinside hname hrest ih =>
        obtain ⟨⟨parts, tail⟩, hvalid, rfl⟩ := ih
        exact ⟨⟨⟨before, inside⟩ :: parts, tail⟩,
          valid_cons_iff.mpr ⟨⟨hbefore, hinside, hname⟩, hvalid⟩, text_cons⟩

theorem split_text (source : String) (h : l.Valid) : split source l.text = .ok l.segments := by
  obtain ⟨parts, tail⟩ := l
  induction parts with
  | nil => exact split_literal source h.tail
  | cons part parts ih =>
      obtain ⟨hpart, hparts⟩ := valid_cons_iff.mp h
      rw [text_cons, split_expression hpart.before hpart.inside,
        isEmpty_trim_eq_false_iff.mpr hpart.name, if_neg Bool.false_ne_true, ih hparts]
      simp [Except.map, segments, Part.name]

/-- A text with a layout has an opening exactly if it has an expression. -/
theorem opening_infix_text_iff (h : l.Valid) : opening <:+: l.text ↔ l.parts ≠ [] := by
  obtain ⟨parts, tail⟩ := l
  cases parts with
  | nil => simpa [text] using h.tail
  | cons part parts =>
      refine iff_of_true ?_ (by simp)
      rw [text_cons]
      exact ⟨part.before, _, rfl⟩

/-! ## Filling in values -/

theorem filled_cons_of_none (h : resolver part.name = none) :
    filled resolver ⟨part :: parts, tail⟩ = .error part.name := by
  simp [filled, h]

theorem filled_cons_of_some {value : String} (h : resolver part.name = some value) :
    filled resolver ⟨part :: parts, tail⟩ = (filled resolver ⟨parts, tail⟩).map
      fun rest => String.ofList part.before ++ (value ++ rest) := by
  simp only [filled, List.find?_cons, h, Option.isNone_some]
  cases hfind : parts.find? fun part => (resolver part.name).isNone with
  | some unknown => rfl
  | none => simp [Except.map, h, String.ofList_append]

theorem resolveSegments_literals_append (cs : List Char) (segments : List Segment) :
    resolveSegments resolver (literals cs ++ segments) =
      (resolveSegments resolver segments).map (String.ofList cs ++ ·) := by
  cases cs with
  | nil =>
      have hnil : literals [] ++ segments = segments := rfl
      rw [hnil]
      cases resolveSegments resolver segments with
      | ok text => simp [Except.map]
      | error name => rfl
  | cons c cs => rfl

theorem resolveSegments_expression_cons (name : String) (segments : List Segment) :
    resolveSegments resolver (.expression name :: segments) =
      match resolver name with
      | some value => (resolveSegments resolver segments).map (value ++ ·)
      | none => .error name := by
  rw [resolveSegments, resolveSegment]
  cases resolver name with
  | some value => rfl
  | none => rfl

theorem segments_cons : segments ⟨part :: parts, tail⟩ =
    literals part.before ++ .expression part.name :: segments ⟨parts, tail⟩ := by
  simp [segments]

theorem expression_mem_segments_iff {expression : String} :
    .expression expression ∈ l.segments ↔ ∃ part ∈ l.parts, part.name = expression := by
  have hliterals (cs : List Char) : .expression expression ∉ literals cs := by
    rw [literals]
    split
    · simp
    · simp
  simp [segments, hliterals, eq_comm]

/-- Resolving the pieces fills in the values. -/
theorem resolveSegments_segments : resolveSegments resolver l.segments = l.filled resolver := by
  obtain ⟨parts, tail⟩ := l
  induction parts with
  | nil =>
      have htail : resolveSegments resolver (literals tail ++ []) =
          (resolveSegments resolver []).map (String.ofList tail ++ ·) :=
        resolveSegments_literals_append tail []
      simpa [segments, filled, resolveSegments, Except.map] using htail
  | cons part parts ih =>
      rw [segments_cons, resolveSegments_literals_append, resolveSegments_expression_cons]
      cases hvalue : resolver part.name with
      | none =>
          rw [filled_cons_of_none hvalue]
          rfl
      | some value =>
          rw [filled_cons_of_some hvalue, ← ih]
          cases resolveSegments resolver (segments ⟨parts, tail⟩) with
          | ok text => rfl
          | error name => rfl

end Layout

/-! ## Names that parsed -/

variable {source : String} {name : IndexName} {l : Layout}

theorem parse_eq_ok (h : parse source = .ok name) :
    split source source.toList = .ok name.segments ∧ name.source = source := by
  obtain ⟨segments, hsplit, h⟩ := bind_eq_ok.mp h
  cases hempty : segments.isEmpty with
  | true => simp [hempty, throw, throwThe, MonadExceptOf.throw, bind, Except.bind] at h
  | false =>
      simp only [hempty, Bool.false_eq_true, if_false] at h
      obtain rfl : ⟨source, segments⟩ = name := Except.ok.inj h
      exact ⟨hsplit, rfl⟩

theorem segments_of_parse (h : parse source = .ok name) (hvalid : l.Valid)
    (htext : l.text = source.toList) : name.segments = l.segments := by
  have hsplit := Layout.split_text source hvalid
  rw [htext, (parse_eq_ok h).1] at hsplit
  exact Except.ok.inj hsplit

theorem isStatic_eq_true_iff :
    name.isStatic = true ↔ ∀ expression, .expression expression ∉ name.segments := by
  rw [isStatic, List.all_eq_true]
  constructor
  · intro h expression hmem
    exact Bool.false_ne_true (h _ hmem)
  · intro h s hs
    cases s with
    | literal text => rfl
    | expression expression => exact absurd hs (h expression)

/-- A name is static if its text is laid out without expressions. -/
theorem isStatic_iff_parts (h : name.segments = l.segments) :
    name.isStatic = true ↔ l.parts = [] := by
  rw [isStatic_eq_true_iff]
  constructor
  · intro hstatic
    refine List.eq_nil_iff_forall_not_mem.mpr fun part hpart => ?_
    refine hstatic part.name ?_
    rw [h, Layout.expression_mem_segments_iff]
    exact ⟨part, hpart, rfl⟩
  · intro hparts expression hmem
    rw [h, Layout.expression_mem_segments_iff, hparts] at hmem
    simp at hmem

/-- What a name that parsed from a text stands for. -/
structure Substitutes (source : String) (name : IndexName) : Prop where
  resolve_eq : ∀ l : Layout, l.Valid → l.text = source.toList →
    ∀ resolver, name.resolve resolver = l.filled resolver
  /-- A name is static if nothing in its text opens an expression. -/
  isStatic_iff : name.isStatic = true ↔ ¬opening <:+: source.toList
  resolve_static : name.isStatic = true → ∀ resolver, name.resolve resolver = .ok source
  /-- The index of an entity type is looked up under the name, and an expression without a value is
  the error. -/
  resolveIndex_eq : ∀ (d : Descriptor) (m : DocumentMetadata), d.document = some m →
    m.indexName = name → ∀ resolver,
      d.resolveIndex resolver = (name.resolve resolver).mapError .unresolvedExpression

/-- Index names are the texts that are laid out as literal text and expressions, and stand for these
texts with the values of the expressions filled in. -/
theorem substitutes_exactly (source : String) :
    ((∃ name, parse source = .ok name) ↔
      source ≠ "" ∧ ∃ l : Layout, l.Valid ∧ l.text = source.toList) ∧
    ∀ name, parse source = .ok name → Substitutes source name := by
  constructor
  · rw [exists_parse_iff, Layout.exists_layout_iff]
  · intro name h
    obtain ⟨l, hvalid, htext⟩ := Layout.exists_layout_iff.mpr (exists_parse_iff.mp ⟨name, h⟩).2
    have hstatic : name.isStatic = true ↔ l.parts = [] :=
      isStatic_iff_parts (segments_of_parse h hvalid htext)
    have hresolve : ∀ l : Layout, l.Valid → l.text = source.toList →
        ∀ resolver, name.resolve resolver = l.filled resolver := by
      intro l hvalid htext resolver
      rw [resolve, segments_of_parse h hvalid htext, Layout.resolveSegments_segments]
    constructor
    case resolve_eq => exact hresolve
    case isStatic_iff =>
      rw [hstatic, ← htext, Layout.opening_infix_text_iff hvalid, not_not]
    case resolve_static =>
      intro hname resolver
      have hparts := hstatic.mp hname
      have hsource : source = String.ofList l.text := by rw [htext, String.ofList_toList]
      rw [hresolve l hvalid htext, hsource]
      simp [Layout.filled, Layout.text, hparts]
    case resolveIndex_eq =>
      intro d m hdocument hname resolver
      rw [Descriptor.resolveIndex, hdocument]
      dsimp only
      rw [hname]
      cases name.resolve resolver with
      | ok index => rfl
      | error expression => rfl

/-- An expression may begin right after a `#` and enclose another opening, and nothing in a value or
behind the last expression opens or closes one. -/
theorem substitutes_exactly_tenant :
    (∃ name, parse "##\x7b tenant \x7d#\x7ba#\x7bb\x7d\x7dx\x7d" = .ok name) ∧
    ∀ name, parse "##\x7b tenant \x7d#\x7ba#\x7bb\x7d\x7dx\x7d" = .ok name →
      ¬name.isStatic = true ∧
      name.resolve (fun expression => some (if expression = "tenant" then "#\x7ba\x7d" else "-")) =
        .ok "##\x7ba\x7d-\x7dx\x7d" ∧
      name.resolve (fun expression => if expression = "tenant" then some "t" else none) =
        .error "a#\x7bb" := by
  let l : Layout := ⟨[⟨['#'], " tenant ".toList⟩, ⟨[], "a#\x7bb".toList⟩], "\x7dx\x7d".toList⟩
  have hvalid : l.Valid := by
    refine ⟨List.forall_mem_cons.mpr ⟨?_, List.forall_mem_singleton.mpr ?_⟩, by decide⟩
    · exact ⟨by decide, by decide, 't', by decide, by decide⟩
    · exact ⟨by decide, by decide, 'a', by decide, by decide⟩
  have htext : l.text = "##\x7b tenant \x7d#\x7ba#\x7bb\x7d\x7dx\x7d".toList := by decide
  obtain ⟨hparse, hsubstitutes⟩ := substitutes_exactly "##\x7b tenant \x7d#\x7ba#\x7bb\x7d\x7dx\x7d"
  refine ⟨hparse.mpr ⟨by decide, l, hvalid, htext⟩, fun name h => ?_⟩
  have hname := hsubstitutes name h
  refine ⟨?_, ?_, ?_⟩
  · rw [hname.isStatic_iff, not_not]
    decide
  · rw [hname.resolve_eq l hvalid htext]
    decide
  · rw [hname.resolve_eq l hvalid htext]
    decide

end IndexName

end ObjectDocument
