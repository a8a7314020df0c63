import ObjectDocument.Conversion.Read
import ObjectDocument.Proofs.Descriptor.Structure
import ObjectDocument.Proofs.EqualData

/-!
# What reading depends on

An object is read from the readable fields of a document and from four parts of its metadata: the
identifier, the version, the sequence number and the primary term. Main statement: documents that
agree on these give equal objects, or errors that differ in nothing but the values that they show,
however else the documents differ, at any depth.
-/

namespace ObjectDocument

namespace Json

/-- Whether a value is an array. -/
def isArray : Json → Bool
  | array _ => true
  | _ => false

/-- Whether a value is read as a whole at a kind: neither item by item nor as an embedded object. -/
def isWholeAt (j : Json) : Kind → Bool
  | .list _ => false
  | .entity _ =>
    match j with
    | object _ => false
    | _ => true
  | _ => true

end Json

section Alike

variable (describe : EntityRef → Except Error Descriptor) (R : Json → Json → Prop)

mutual

/-- Values that are not told apart when they are read for a property at a kind. What is read as a
whole has to be related. A converter reads the text of a number, in which even zeros differ. -/
inductive Alike : Property → Kind → Json → Json → Prop
  | same (p : Property) (kind : Kind) (j : Json) : Alike p kind j j
  | whole {p : Property} {kind : Kind} {j j' : Json} (hwhole : j.isWholeAt kind = true)
      (hrel : R j j') (hkeys : j.HasDistinctKeys)
      (hnumber : ∀ n, j = .number n → p.converter = none ∨ j' = j) : Alike p kind j j'
  | object {p : Property} {ref : EntityRef} {d : Descriptor} {es es' : Entries Json}
      (hd : describe ref = .ok d) (hsource : AlikeSources d.properties es es') :
      Alike p (.entity ref) (.object es) (.object es')
  /-- Nothing is read of an object whose type has no descriptor. -/
  | undescribed {p : Property} {ref : EntityRef} {e : Error} {es es' : Entries Json}
      (he : describe ref = .error e) : Alike p (.entity ref) (.object es) (.object es')
  | array {p : Property} {element : Kind} {js js' : List Json}
      (hitems : AlikeItems p element js js') : Alike p (.list element) (.array js) (.array js')
  | single {p : Property} {element : Kind} {j j' : Json} (hj : j.isArray = false)
      (hj' : j'.isArray = false) (halike : Alike p element j j') : Alike p (.list element) j j'

/-- Arrays whose items are not told apart, one by one. -/
inductive AlikeItems : Property → Kind → List Json → List Json → Prop
  | nil (p : Property) (kind : Kind) : AlikeItems p kind [] []
  | cons {p : Property} {kind : Kind} {j j' : Json} {js js' : List Json}
      (halike : Alike p kind j j') (hitems : AlikeItems p kind js js') :
      AlikeItems p kind (j :: js) (j' :: js')

/-- Sources that are not told apart by properties: for each readable one, both lack its field or
hold values of it that are not told apart. -/
inductive AlikeSources : List Property → Entries Json → Entries Json → Prop
  | nil (es es' : Entries Json) : AlikeSources [] es es'
  | unread {p : Property} {ps : List Property} {es es' : Entries Json}
      (hp : p.isReadable = false) (hrest : AlikeSources ps es es') : AlikeSources (p :: ps) es es'
  | lacking {p : Property} {ps : List Property} {es es' : Entries Json}
      (hes : Entries.get? p.fieldName es = none) (hes' : Entries.get? p.fieldName es' = none)
      (hrest : AlikeSources ps es es') : AlikeSources (p :: ps) es es'
  | both {p : Property} {ps : List Property} {es es' : Entries Json} {j j' : Json}
      (hes : Entries.get? p.fieldName es = some j) (hes' : Entries.get? p.fieldName es' = some j')
      (halike : Alike p p.kind j j') (hrest : AlikeSources ps es es') :
      AlikeSources (p :: ps) es es'

end

end Alike

variable {describe : EntityRef → Except Error Descriptor} {R : Json → Json → Prop}

theorem Alike.isNull_eq (hR : ∀ {j j' : Json}, R j j' → j = j' ∨ j.Same j') {p : Property}
    {kind : Kind} {j j' : Json} : Alike describe R p kind j j' → j.isNull = j'.isNull
  | .same _ _ _ => rfl
  | .whole _ hrel _ _ => (hR hrel).elim (congrArg Json.isNull) Json.isNull_of_same
  | .object _ _ => rfl
  | .undescribed _ => rfl
  | .array _ => rfl
  | .single _ _ halike => halike.isNull_eq hR

/-- Sources are not told apart if the fields of the readable properties are the same, in whatever
order and beside whatever others. -/
theorem AlikeSources.of_get?_eq {es es' : Entries Json} {ps : List Property}
    (h : ∀ p ∈ ps, p.isReadable = true →
      Entries.get? p.fieldName es = Entries.get? p.fieldName es') :
    AlikeSources describe R ps es es' := by
  induction ps with
  | nil => exact .nil es es'
  | cons p ps ih =>
      have hrest := ih fun q hq => h q (List.mem_cons_of_mem _ hq)
      cases hp : p.isReadable with
      | false => exact .unread hp hrest
      | true =>
          have heq := h p List.mem_cons_self hp
          cases hes : Entries.get? p.fieldName es with
          | none => exact .lacking hes (heq ▸ hes) hrest
          | some j => exact .both hes (heq ▸ hes) (.same p p.kind j) hrest

namespace Conversion

variable {family : Family}

/-- Where a list is looked for, `null` stays `null` and any other single value is the only
element. -/
theorem reader_single {j : Json} (hj : j.isArray = false) (entity : String) (p : Property)
    (element : Kind) : reader family j entity p (.list element) =
      if j.isNull then pure .null
      else (fun v => .list [v]) <$> reader family j entity p element := by
  cases j with
  | array js => cases hj
  | null => rfl
  | bool b => rfl
  | number n => rfl
  | string s => rfl
  | object es => rfl

/-! ## Values that are read as a whole -/

section Whole

variable {j j' : Json}

theorem join?_of_same (h : j.Same j') (hkeys : j.HasDistinctKeys) : join? j = join? j' := by
  cases h.form with
  | array _ | object _ _ =>
      refine Json.bind_members?_of_same (fun ms ms' hms => ?_) h hkeys
      rcases hms with _ | ⟨hname, _ | ⟨hparent, _ | _⟩⟩
      · rfl
      · rfl
      · dsimp only
        rw [Json.required_of_rel Json.string?_of_same hname,
          Json.optional_of_rel Json.string?_of_same hparent]
      · rfl
  | _ => rfl

theorem token?_of_same (h : j.Same j') (hkeys : j.HasDistinctKeys) : token? j = token? j' := by
  rw [token?, token?]
  refine Json.bind_members?_of_same (fun ms ms' hms => ?_) h hkeys
  rcases hms with _ | ⟨hseqNo, _ | ⟨hprimaryTerm, _ | _⟩⟩
  · rfl
  · rfl
  · dsimp only
    rw [Json.required_of_rel Json.int64?_of_same hseqNo,
      Json.required_of_rel Json.int64?_of_same hprimaryTerm]
  · rfl

/-- Equal values are decoded to values that are equal up to the JSON in them. -/
theorem decode_equalUpTo (hsame : j.Same j') (hrel : R j j') (hkeys : j.HasDistinctKeys)
    (kind : Kind) :
    RelatedOutcome (Mismatch.EqualUpTo R) (Value.EqualUpTo R) (decode kind j) (decode kind j') := by
  have hmismatch (expected : Expectation) :
      RelatedOutcome (Mismatch.EqualUpTo R) (Value.EqualUpTo R)
        (.error ⟨expected, j.print⟩) (.error ⟨expected, j'.print⟩) :=
    .error (.shown expected (.json hrel))
  have hinteger : RelatedOutcome (Mismatch.EqualUpTo R) (Value.EqualUpTo R) (readInteger j)
      (readInteger j') := by
    rw [readInteger, readInteger, Json.int64?_of_same hsame]
    split
    · exact .ok (.same _)
    · exact hmismatch .integer
  have hnumber : RelatedOutcome (Mismatch.EqualUpTo R) (Value.EqualUpTo R) (decode .double j)
      (decode .double j') := by
    rw [decode, decode]
    cases hsame.form with
    | int n => exact .ok (.same _)
    | float _ => exact .ok (.double hrel)
    | _ => exact hmismatch .number
  have htext (expected : Expectation) (read : String → Option Value) :
      RelatedOutcome (Mismatch.EqualUpTo R) (Value.EqualUpTo R) (readText expected read j)
        (readText expected read j') := by
    rw [readText, readText, Json.string?_of_same hsame]
    split
    · exact .ok (.same _)
    · exact hmismatch expected
  cases kind with
  | boolean =>
      rw [decode, decode, Json.bool?_of_same hsame]
      split
      · exact .ok (.same _)
      · exact hmismatch .boolean
  | integer => exact hinteger
  | long => exact hinteger
  | float => exact hnumber
  | double => exact hnumber
  | string => exact htext _ _
  | localDate => exact htext _ _
  | localDateTime => exact htext _ _
  | instant => exact htext _ _
  | json => exact .ok (.json hrel)
  | join =>
      rw [decode, decode, join?_of_same hsame hkeys]
      split
      · exact .ok (.same _)
      · exact hmismatch .joinField
  | sequenceToken =>
      rw [decode, decode, token?_of_same hsame hkeys]
      split
      · exact .ok (.same _)
      · exact hmismatch .sequenceToken
  | entity ref => exact hmismatch .object
  | list element => exact hmismatch .list

/-- Without a converter, and beside texts and numbers, a value is read by its kind. -/
theorem readLeaf_of_decode {p : Property} (hj : p.converter = none ∨
      (∀ s, j ≠ .string s) ∧ ∀ n, j ≠ .number n) (entity : String) (kind : Kind) :
    readLeaf entity p kind j =
      match decode kind j with
      | .ok v => .ok v
      | .error reason => .error (fault entity p j.print reason) := by
  unfold readLeaf
  extract_lets value
  have hvalue : value = decode kind j := by
    simp only [value]
    split
    next c s hc =>
      rcases hj with hnone | ⟨hstring, -⟩
      · rw [hnone] at hc
        cases hc
      · exact absurd rfl (hstring s)
    next c n hc =>
      rcases hj with hnone | ⟨-, hnumber⟩
      · rw [hnone] at hc
        cases hc
      · exact absurd rfl (hnumber n)
    next => rfl
  clear_value value
  subst hvalue
  rfl

/-- Equal values are read alike where they are read as a whole. -/
theorem readLeaf_equalUpTo (hsame : j.Same j') (hrel : R j j') (hkeys : j.HasDistinctKeys)
    {p : Property}
    (hnumber : ∀ n, j = .number n → p.converter = none ∨ j' = j) (entity : String) (kind : Kind) :
    EqualOutcome R (Value.EqualUpTo R) (readLeaf entity p kind j) (readLeaf entity p kind j') := by
  have hdecoded (hj : p.converter = none ∨ (∀ s, j ≠ .string s) ∧ ∀ n, j ≠ .number n)
      (hj' : p.converter = none ∨ (∀ s, j' ≠ .string s) ∧ ∀ n, j' ≠ .number n) :
      EqualOutcome R (Value.EqualUpTo R) (readLeaf entity p kind j)
        (readLeaf entity p kind j') := by
    have hvalue := decode_equalUpTo hsame hrel hkeys kind
    rw [readLeaf_of_decode hj, readLeaf_of_decode hj']
    generalize decode kind j = found at hvalue
    generalize decode kind j' = found' at hvalue
    cases hvalue with
    | ok hv => exact .ok hv
    | error hm => exact .error (.conversion entity p.name (.json hrel) hm)
  cases hsame.form with
  | string s => exact .refl .same .same _
  | int n => exact .refl .same .same _
  | @float x y _ =>
      rcases hnumber (.float x) rfl with hnone | heq
      · exact hdecoded (.inl hnone) (.inl hnone)
      · rw [heq]
        exact .refl .same .same _
  | _ => exact hdecoded (.inr ⟨by simp, by simp⟩) (.inr ⟨by simp, by simp⟩)

/-- A value that is read as a whole is a leaf, or absent. -/
theorem reader_whole {kind : Kind} (hwhole : j.isWholeAt kind = true) (hnull : j.isNull = false)
    (entity : String) (p : Property) :
    reader family j entity p kind = .done (readLeaf entity p kind j) := by
  cases j with
  | null => cases hnull
  | array js =>
      rw [reader]
      cases kind with
      | list element => cases hwhole
      | _ => rfl
  | object es =>
      cases kind with
      | list element => cases hwhole
      | entity ref => cases hwhole
      | _ => rfl
  | _ =>
      cases kind with
      | list element => cases hwhole
      | _ => rfl

theorem eval_reader_whole (hsame : j.Same j') (hrel : R j j') (hkeys : j.HasDistinctKeys)
    {p : Property} (hnumber : ∀ n, j = .number n → p.converter = none ∨ j' = j) {kind : Kind}
    (hwhole : j.isWholeAt kind = true) (entity : String) :
    EqualOutcome R (Value.EqualUpTo R) ((reader family j entity p kind).eval describe)
      ((reader family j' entity p kind).eval describe) := by
  have hwhole' : j'.isWholeAt kind = true := by
    rw [← hwhole]
    cases hsame.form with
    | _ => rfl
  have hnull := Json.isNull_of_same hsame
  cases hj : j.isNull with
  | false =>
      rw [reader_whole hwhole hj, reader_whole hwhole' (hnull ▸ hj)]
      exact readLeaf_equalUpTo hsame hrel hkeys hnumber entity kind
  | true =>
      cases hsame.form with
      | null => exact .refl .same .same _
      | _ => cases hj

end Whole

/-! ## Values at any depth -/

theorem instantiateEmbedded_equalUpTo {ref : EntityRef} {d : Descriptor} {vs vs' : Entries Value}
    (hd : describe ref = .ok d) (h : Entries.Related (Value.EqualUpTo R) vs vs') :
    EqualOutcome R (Value.EqualUpTo R) ((instantiateEmbedded family ref vs).eval describe)
      ((instantiateEmbedded family ref vs').eval describe) := by
  rw [instantiateEmbedded, instantiateEmbedded, Lookup.eval_ask_ok hd, Lookup.eval_ask_ok hd]
  exact (EntityType.instantiate_equalUpTo h).map fun x x' hx => .embedded hx

/-- Metadata are set among values that are equal up to the JSON in them. -/
theorem withId_equalUpTo {vs vs' : Entries Value}
    (h : Entries.Related (Value.EqualUpTo R) vs vs') (d : Descriptor) (doc : SearchDocument) :
    EqualOutcome R (Entries.Related (Value.EqualUpTo R)) (withId d doc vs) (withId d doc vs') := by
  rw [withId, withId]
  split
  next p id _ _ =>
    exact (RelatedOutcome.refl (R := Eq) .same (fun _ => rfl) (idValue d.name p id)).map
      fun v w hvw => hvw ▸ h.set p.name (.same v)
  next => exact .ok h

theorem withVersion_equalUpTo {vs vs' : Entries Value}
    (h : Entries.Related (Value.EqualUpTo R) vs vs') (d : Descriptor) (doc : SearchDocument) :
    Entries.Related (Value.EqualUpTo R) (withVersion d doc vs) (withVersion d doc vs') := by
  rw [withVersion, withVersion]
  split
  next => exact h.set _ (.same _)
  next => exact h

theorem withToken_equalUpTo {vs vs' : Entries Value}
    (h : Entries.Related (Value.EqualUpTo R) vs vs') (d : Descriptor) (doc : SearchDocument) :
    Entries.Related (Value.EqualUpTo R) (withToken d doc vs) (withToken d doc vs') := by
  rw [withToken, withToken]
  split
  next => exact h.set _ (.same _)
  next => exact h

mutual

/-- Values that are alike at a kind are read alike, as a value of their property. -/
theorem eval_reader_of_alike (hR : ∀ {j j' : Json}, R j j' → j = j' ∨ j.Same j')
    (entity : String) {p : Property} {kind : Kind} {j j' : Json} :
    Alike describe R p kind j j' →
      EqualOutcome R (Value.EqualUpTo R) ((reader family j entity p kind).eval describe)
        ((reader family j' entity p kind).eval describe)
  | .same p kind j => .refl .same .same _
  | .whole hwhole hrel hkeys hnumber => by
    rcases hR hrel with rfl | hsame
    · exact .refl .same .same _
    · exact eval_reader_whole hsame hrel hkeys hnumber hwhole entity
  | .object hd hsource => by
    rw [reader_object, reader_object, readEmbedded, readEmbedded, Lookup.eval_ask_ok hd,
      Lookup.eval_ask_ok hd, Lookup.eval_bind, Lookup.eval_bind]
    exact (eval_readProperties_of_alike hR _ hsource).bind fun vs vs' hvs =>
      instantiateEmbedded_equalUpTo hd hvs.merge
  | .undescribed he => by
    rw [reader_object, reader_object, readEmbedded, readEmbedded, Lookup.eval_ask_error he,
      Lookup.eval_ask_error he]
    exact .error (.same _)
  | .array hitems => by
    rw [reader, reader]
    simp only [Lookup.eval_bind]
    exact (eval_readAll_of_alike hR entity hitems).bind fun vs vs' hvs => .ok (.list hvs)
  | .single hj hj' halike => by
    -- Absence is looked at first, so both sides have to be absent together.
    rw [reader_single hj, reader_single hj', halike.isNull_eq hR]
    split
    · exact .ok (.same _)
    · rw [Lookup.eval_map, Lookup.eval_map]
      exact (eval_reader_of_alike hR entity halike).map fun v v' hv => .list (.cons hv .nil)

/-- Items that are alike are read alike. -/
theorem eval_readAll_of_alike (hR : ∀ {j j' : Json}, R j j' → j = j' ∨ j.Same j')
    (entity : String) {p : Property} {kind : Kind} {js js' : List Json} :
    AlikeItems describe R p kind js js' →
      EqualOutcome R (List.Forall₂ (Value.EqualUpTo R))
        ((readAll entity p kind (readers family js)).eval describe)
        ((readAll entity p kind (readers family js')).eval describe)
  | .nil _ _ => .ok .nil
  | .cons halike hitems => by
    rw [readers, readers, readAll, readAll]
    simp only [Lookup.eval_bind]
    exact (eval_reader_of_alike hR entity halike).bind fun v v' hv =>
      (eval_readAll_of_alike hR entity hitems).bind fun vs vs' hvs => .ok (.cons hv hvs)

/-- Sources that are alike give values for the same properties, and these are alike. -/
theorem eval_readProperties_of_alike (hR : ∀ {j j' : Json}, R j j' → j = j' ∨ j.Same j')
    (entity : String) {ps : List Property} {es es' : Entries Json} :
    AlikeSources describe R ps es es' →
      EqualOutcome R (Entries.Related (Value.EqualUpTo R))
        ((readProperties entity (entryReaders family es) ps).eval describe)
        ((readProperties entity (entryReaders family es') ps).eval describe)
  | .nil _ _ => .ok .nil
  | .unread hp hrest => by
    rw [readProperties, readProperties]
    simp only [hp, Bool.false_eq_true, if_false]
    exact eval_readProperties_of_alike hR entity hrest
  | .lacking hes hes' hrest => by
    -- Whether the property is readable does not matter, as neither side has its field.
    rw [readProperties, readProperties, get?_entryReaders, get?_entryReaders, hes, hes']
    simp only [Option.map_none, ite_self]
    exact eval_readProperties_of_alike hR entity hrest
  | .both hes hes' halike hrest => by
    rw [readProperties, readProperties, get?_entryReaders, get?_entryReaders, hes, hes']
    simp only [Option.map_some]
    split
    · simp only [Lookup.eval_bind]
      exact (eval_reader_of_alike hR entity halike).bind fun v v' hv =>
        (eval_readProperties_of_alike hR entity hrest).bind fun vs vs' hvs =>
          .ok (.cons ⟨rfl, hv⟩ hvs)
    · exact eval_readProperties_of_alike hR entity hrest

end

/-- Documents with the same metadata whose sources are alike are read alike. -/
theorem read_equalUpTo (hR : ∀ {j j' : Json}, R j j' → j = j' ∨ j.Same j') (c : Context)
    (type : EntityRef) {d : Descriptor}
    (hd : c.describe type = .ok d) {doc doc' : SearchDocument} (hid : doc.id = doc'.id)
    (hversion : doc.version = doc'.version) (hseqNo : doc.seqNo = doc'.seqNo)
    (hprimaryTerm : doc.primaryTerm = doc'.primaryTerm)
    (hsource : AlikeSources c.describe R d.properties doc.source.entries doc'.source.entries) :
    EqualOutcome R (List.Forall₂ (Datum.EqualUpTo R)) ((read c.family type doc).run c).1
      ((read c.family type doc').run c).1 := by
  have htoken : doc.token? = doc'.token? := by
    rw [SearchDocument.token?, SearchDocument.token?, hseqNo, hprimaryTerm]
  have hwithId (vs : Entries Value) : withId d doc vs = withId d doc' vs := by
    rw [withId, withId, hid]
  have hwithVersion (vs : Entries Value) : withVersion d doc vs = withVersion d doc' vs := by
    rw [withVersion, withVersion, hversion]
  have hwithToken (vs : Entries Value) : withToken d doc vs = withToken d doc' vs := by
    rw [withToken, withToken, htoken]
  rw [Lookup.run_fst, Lookup.run_fst, read, read, Lookup.eval_ask_ok hd, Lookup.eval_ask_ok hd,
    Lookup.eval_bind, Lookup.eval_bind]
  refine (eval_readProperties_of_alike hR d.name hsource).bind fun vs vs' hvs => ?_
  have hvalues := withId_equalUpTo hvs.merge d doc'
  rw [hwithId]
  generalize withId d doc' (Entries.merge vs) = found at hvalues
  generalize withId d doc' (Entries.merge vs') = found' at hvalues
  cases hvalues with
  | error he => exact .error he
  | ok hvalues =>
      dsimp only [Lookup.eval_done]
      rw [hwithVersion, hwithToken]
      exact EntityType.instantiate_equalUpTo
        (withToken_equalUpTo (withVersion_equalUpTo hvalues d doc') d doc')

/-- Reading depends on nothing but the readable fields and the identifier, version, sequence number
and primary term of a document. Where the JSON that is read as a whole is equal, two documents give
equal objects, or errors that differ in nothing but the values that they show; where it is the same,
down to the order of keys, they give the same object or the same error. -/
theorem read_of_alike (c : Context) (type : EntityRef) {d : Descriptor}
    (hd : c.describe type = .ok d) {doc doc' : SearchDocument} (hid : doc.id = doc'.id)
    (hversion : doc.version = doc'.version) (hseqNo : doc.seqNo = doc'.seqNo)
    (hprimaryTerm : doc.primaryTerm = doc'.primaryTerm) :
    (AlikeSources c.describe Json.Same d.properties doc.source.entries doc'.source.entries →
      EqualOutcome Json.Same (List.Forall₂ (Datum.EqualUpTo Json.Same))
        ((read c.family type doc).run c).1 ((read c.family type doc').run c).1) ∧
    (AlikeSources c.describe Eq d.properties doc.source.entries doc'.source.entries →
      ((read c.family type doc).run c).1 = ((read c.family type doc').run c).1) := by
  constructor
  · exact read_equalUpTo .inr c type hd hid hversion hseqNo hprimaryTerm
  · intro hsource
    apply (read_equalUpTo .inl c type hd hid hversion hseqNo hprimaryTerm hsource).eq
    · exact fun e e' he => Error.eq_of_equalUpTo he
    · exact fun x x' hx => Datum.eq_of_forall₂ hx

section Sample

open Library

/-- A document of a book, found by a search. -/
def foundBook : SearchDocument where
  index := some "books"
  version := some 4
  source := .ofEntries [
    ("isbn", .string "3-16"),
    ("authors", .array [.object [("born", .null), ("name", .string "Ann")]])]

/-- The same book with its fields in another order, unknown fields and a version in the body. -/
def scoredBook : SearchDocument where
  version := some 4
  score := some 1
  routing := some "b"
  source := .ofEntries [
    ("authors", .array [.object [("name", .string "Ann"), ("age", .int 40), ("born", .null)]]),
    ("version", .int 9),
    ("isbn", .string "3-16")]

/-- An author whose name is an object, with its parts in one order. -/
def namedAuthor : SearchDocument where
  source := .ofEntries [("name", .object [("first", .string "Ann"), ("last", .string "Lee")])]

/-- The same author with the parts of the name in the other order. -/
def renamedAuthor : SearchDocument where
  source := .ofEntries [("name", .object [("last", .string "Lee"), ("first", .string "Ann")])]

theorem alikeSources_namedAuthor :
    AlikeSources context.describe Json.Same authorProperties namedAuthor.source.entries
      renamedAuthor.source.entries := by
  refine .both rfl rfl (.whole rfl rfl ?_ ?_) (.lacking rfl rfl (.nil _ _))
  · change ["first", "last"].Nodup
    decide
  · exact fun n _ => .inl rfl

theorem read_of_alike_books :
    ((read context.family bookRef foundBook).run context).1 =
        ((read context.family bookRef scoredBook).run context).1 ∧
      EqualOutcome Json.Same (List.Forall₂ (Datum.EqualUpTo Json.Same))
        ((read context.family authorRef namedAuthor).run context).1
        ((read context.family authorRef renamedAuthor).run context).1 := by
  have hauthors (p : Property) : AlikeItems context.describe Eq p (.entity authorRef)
      [.object [("born", .null), ("name", .string "Ann")]]
      [.object [("name", .string "Ann"), ("age", .int 40), ("born", .null)]] := by
    refine .cons (.object describe_author (.of_get?_eq ?_)) (.nil _ _)
    intro p hp hread
    simp only [Descriptor.ofProperties_properties, authorProperties, List.mem_cons,
      List.not_mem_nil, or_false] at hp
    rcases hp with rfl | rfl
    · rfl
    · rfl
  constructor
  · have hid : foundBook.id = scoredBook.id := rfl
    apply (read_of_alike context bookRef describe_book hid rfl rfl rfl).2
    refine .both rfl rfl (.same _ _ _) (.both rfl rfl (.array (hauthors _)) (.lacking rfl rfl ?_))
    exact .unread rfl (.nil _ _)
  · have hid : namedAuthor.id = renamedAuthor.id := rfl
    exact (read_of_alike context authorRef describe_author hid rfl rfl rfl).1
      alikeSources_namedAuthor

/-- The order of keys shows in an error: a name that is an object is printed as it stands. -/
theorem read_ne_of_reordered :
    AlikeSources context.describe Json.Same authorProperties namedAuthor.source.entries
        renamedAuthor.source.entries ∧
      (namedAuthor.id, namedAuthor.version, namedAuthor.seqNo, namedAuthor.primaryTerm) =
        (renamedAuthor.id, renamedAuthor.version, renamedAuthor.seqNo, renamedAuthor.primaryTerm) ∧
      ((read context.family authorRef namedAuthor).run context).1 ≠
        ((read context.family authorRef renamedAuthor).run context).1 := by
  refine ⟨alikeSources_namedAuthor, rfl, ?_⟩
  have hnamed : ((read context.family authorRef namedAuthor).run context).1 =
      .error (.conversion "Author" "name" "\x7b\"first\":\"Ann\",\"last\":\"Lee\"\x7d"
        ⟨.string, "\x7b\"first\":\"Ann\",\"last\":\"Lee\"\x7d"⟩) := rfl
  have hrenamed : ((read context.family authorRef renamedAuthor).run context).1 =
      .error (.conversion "Author" "name" "\x7b\"last\":\"Lee\",\"first\":\"Ann\"\x7d"
        ⟨.string, "\x7b\"last\":\"Lee\",\"first\":\"Ann\"\x7d"⟩) := rfl
  rw [hnamed, hrenamed]
  simp

end Sample

end Conversion

end ObjectDocument
