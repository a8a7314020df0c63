import ObjectDocument.Proofs.Conversion.Embedding
import ObjectDocument.Proofs.Datum
import ObjectDocument.Proofs.Descriptor.WellFormed

/-!
# What documents hold

The entries of a document that is written belong to writable properties, in order of declaration.
The objects that stand under a property of an entity kind, directly or in arrays, are documents of
embedded objects themselves.
-/

namespace ObjectDocument

/-- The objects that a JSON value is or has in its arrays, at any depth of arrays. -/
inductive Json.Holds : Json → Entries Json → Prop
  | object (es : Entries Json) : Holds (.object es) es
  | array {js : List Json} {j : Json} {es : Entries Json} (hj : j ∈ js) (h : Holds j es) :
      Holds (.array js) es

namespace Conversion

variable {family : Family} {describe : EntityRef → Except Error Descriptor} {config : Config}
  {entity : String} {ref : EntityRef} {d : Descriptor} {es : Entries Json}

/-- Whether entries make up the document that is written of an object of a type of the family. -/
def IsDocument (family : Family) (describe : EntityRef → Except Error Descriptor)
    (ref : EntityRef) (es : Entries Json) : Prop :=
  (∃ type ∈ family.types, type.ref = ref) ∧ ∃ x : Instance, ∃ doc : Document,
    Datum.FitsMembers family x (family.type ref).members ∧
    (write family ref x).eval describe = .ok doc ∧ doc.entries = es

/-! ## Entries -/

/-- Whether an entry is what is written for a property by one of the writers of an object. -/
def WrittenBy (describe : EntityRef → Except Error Descriptor) (entity : String)
    (ws : List Writer) (p : Property) (entry : String × Json) : Prop :=
  entry.1 = p.fieldName ∧
    (((ws[p.position]?).getD .null).write entity p).eval describe = .ok entry.2

/-- Some of the writable properties are written, and each of them is as a whole. -/
theorem exists_writtenBy {ws : List Writer} {ps : List Property}
    (h : (writeProperties Writer.atPosition entity ws ps).eval describe = .ok es) :
    ∃ kept, kept.Sublist (ps.filter (·.isWritable)) ∧
      List.Forall₂ (WrittenBy describe entity ws) kept es := by
  induction ps generalizing es with
  | nil =>
      cases h
      exact ⟨[], List.Sublist.slnil, .nil⟩
  | cons p ps ih =>
      rw [writeProperties] at h
      split at h
      next hwritable =>
        rw [List.filter_cons, if_pos hwritable]
        dsimp only [Writer.atPosition] at h
        split at h
        next =>
          obtain ⟨kept, hsub, hall⟩ := ih h
          exact ⟨kept, hsub.cons p, hall⟩
        next =>
          simp only [Lookup.eval_bind, Lookup.eval_pure, bind_eq_ok] at h
          obtain ⟨j, hj, rest, hrest, heq⟩ := h
          cases heq
          obtain ⟨kept, hsub, hall⟩ := ih hrest
          exact ⟨p :: kept, hsub.cons_cons p, .cons ⟨rfl, hj⟩ hall⟩
      next hwritable =>
        rw [List.filter_cons, if_neg hwritable]
        exact ih h

/-- What is writable is mapped. -/
theorem isMapped_of_isWritable {p : Property} (h : p.isWritable = true) : p.isMapped = true := by
  rw [Property.isMapped_eq, h, Bool.or_true]

theorem filter_isWritable_sublist (ps : List Property) :
    (ps.filter (·.isWritable)).Sublist (ps.filter (·.isMapped)) :=
  List.monotone_filter_right ps fun _ => isMapped_of_isWritable

/-- A document is made of entries for writable properties, written of the fields of an object. -/
theorem IsDocument.exists_kept (h : IsDocument family (family.describe config) ref es)
    (hd : family.describe config ref = .ok d) : ∃ (kept : List Property) (x : Instance),
      kept.Sublist (d.properties.filter (·.isWritable)) ∧
      Datum.FitsMembers family x (family.type ref).members ∧
      List.Forall₂ (WrittenBy (family.describe config) d.name (writers family x)) kept es := by
  obtain ⟨-, x, doc, hfits, hwrite, rfl⟩ := h
  rw [write, Lookup.eval_ask_ok hd, writeObject, Lookup.eval_bind] at hwrite
  obtain ⟨es, hes, hdoc⟩ := bind_eq_ok.mp hwrite
  cases hdoc
  obtain ⟨kept, hsub, hall⟩ := exists_writtenBy hes
  refine ⟨kept, x, hsub, hfits, ?_⟩
  -- Wire names are distinct, so nothing is merged.
  have hkeys : Entries.keys es = kept.map (·.fieldName) :=
    (map_eq_map_of_forall₂ (hall.imp fun _ _ hp => hp.1.symm)).symm
  have hmapped : kept.Sublist (d.properties.filter (·.isMapped)) :=
    hsub.trans (filter_isWritable_sublist d.properties)
  have hnodup := (Descriptor.describes_of_build hd).nodup_mapped
  have hmerge : (Document.ofEntries es).entries = es :=
    Entries.merge_eq_self (hkeys ▸ hnodup.sublist (hmapped.map _))
  rwa [hmerge]

/-- The keys of a document are wire names of mapped properties, in the same order. -/
theorem IsDocument.keys_sublist (h : IsDocument family (family.describe config) ref es)
    (hd : family.describe config ref = .ok d) :
    (Entries.keys es).Sublist (d.mapped.map (·.fieldName)) := by
  obtain ⟨kept, x, hsub, -, hall⟩ := h.exists_kept hd
  have hkeys : kept.map (·.fieldName) = Entries.keys es :=
    map_eq_map_of_forall₂ (hall.imp fun _ _ hp => hp.1.symm)
  rw [← hkeys]
  exact (hsub.trans (filter_isWritable_sublist d.properties)).map _

/-- What stands in a document under the wire name of a property is written of a datum of its kind. -/
theorem IsDocument.exists_datum (h : IsDocument family (family.describe config) ref es)
    (hd : family.describe config ref = .ok d) {key : String} {p : Property} {j : Json}
    (hp : d.propertyOfField? key = some p) (hj : Entries.get? key es = some j) :
    ∃ (e : Datum) (s : Shape), e.Fits family s ∧ s.kind = p.kind ∧
      ((writer family e).write d.name p).eval (family.describe config) = .ok j := by
  have hdescribes := Descriptor.describes_of_build hd
  obtain ⟨kept, x, hsub, hfits, hall⟩ := h.exists_kept hd
  obtain ⟨q, hq, hname, hwrite⟩ := exists_mem_of_forall₂ hall (Entries.mem_of_get?_eq_some hj)
  obtain ⟨hqmem, hqwritable⟩ := List.mem_filter.mp (hsub.subset hq)
  -- No two properties of documents have one wire name, so this is the one that was written.
  have hqp : d.propertyOfField? key = some q :=
    hdescribes.propertyOfField?_eq_some_iff.mpr ⟨hqmem, .inr hqwritable, hname.symm⟩
  obtain rfl : p = q := Option.some.inj (hp.symm.trans hqp)
  obtain ⟨i, hi⟩ := List.getElem?_of_mem hqmem
  have hposition := hdescribes.position_eq i p hi
  obtain ⟨hlength, hmembers⟩ := forall₂_iff_getElem?.mp hdescribes.members
  obtain ⟨hlt, -⟩ := List.getElem?_eq_some_iff.mp hi
  have hm : (family.type ref).members[i]? = some (family.type ref).members[i] :=
    List.getElem?_eq_getElem (hlength ▸ hlt)
  have hlt' : i < x.length := by
    rw [Datum.length_eq_of_fitsMembers hfits, hlength]
    exact hlt
  have hx : x[i]? = some x[i] := List.getElem?_eq_getElem hlt'
  refine ⟨x[i], (family.type ref).members[i].shape, Datum.fits_of_getElem? hfits hx hm,
    (hmembers i _ p hm hi).kind_eq.symm, ?_⟩
  rw [writers_eq_map, hposition, List.getElem?_map, hx] at hwrite
  exact hwrite

/-! ## Embedded objects -/

mutual

/-- The objects in what is written of a datum of an entity kind are documents of that type. -/
theorem isDocument_of_holds {inner : EntityRef} (p : Property) :
    ∀ (e : Datum) (s : Shape) (j : Json) (es : Entries Json), e.Fits family s →
      s.kind.entity? = some inner →
      ((writer family e).write entity p).eval (family.describe config) = .ok j → j.Holds es →
      IsDocument family (family.describe config) inner es
  | .absent, _, j, es, _, _, hwrite, hholds => by
    cases hwrite
    cases hholds
  | .present e, s, j, es, hfits, hkind, hwrite, hholds => by
    obtain ⟨inner, rfl, hinner⟩ := hfits
    exact isDocument_of_holds p e inner j es hinner hkind hwrite hholds
  | .vec items, s, j, es, hfits, hkind, hwrite, hholds => by
    obtain ⟨element, rfl, hitems⟩ := hfits
    rw [writer, Lookup.eval_bind] at hwrite
    obtain ⟨js, hjs, hj⟩ := bind_eq_ok.mp hwrite
    cases hj
    cases hholds with
    | array hmem hholds =>
        exact isDocument_of_mem p items element js _ es hitems hkind hjs hmem hholds
  | .entity ref fields, s, j, es, hfits, hkind, hwrite, hholds => by
    obtain ⟨rfl, href, hfields⟩ := hfits
    cases hkind
    rw [eval_write_entity (Datum.length_eq_of_fitsMembers hfields), Lookup.eval_map] at hwrite
    obtain ⟨doc, hdoc, rfl⟩ := map_eq_ok_iff.mp hwrite
    cases hholds
    exact ⟨href, fields, doc, hfields, hdoc, rfl⟩
  | .bool _, s, j, es, hfits, hkind, _, _ | .long _, s, j, es, hfits, hkind, _, _
  | .integer _, s, j, es, hfits, hkind, _, _ | .double _, s, j, es, hfits, hkind, _, _
  | .float _, s, j, es, hfits, hkind, _, _ | .string _, s, j, es, hfits, hkind, _, _
  | .date _, s, j, es, hfits, hkind, _, _ | .dateTime _, s, j, es, hfits, hkind, _, _
  | .instant _, s, j, es, hfits, hkind, _, _ | .join _, s, j, es, hfits, hkind, _, _
  | .token _, s, j, es, hfits, hkind, _, _ | .json _, s, j, es, hfits, hkind, _, _ => by
    obtain ⟨b, hb, rfl⟩ := hfits
    cases hb
    cases hkind

/-- The objects in what is written of a list are documents too. -/
theorem isDocument_of_mem {inner : EntityRef} (p : Property) :
    ∀ (items : List Datum) (s : Shape) (js : List Json) (j : Json) (es : Entries Json),
      Datum.FitsAll family items s → s.kind.entity? = some inner →
      (writeAll entity p (writers family items)).eval (family.describe config) = .ok js → j ∈ js →
      j.Holds es → IsDocument family (family.describe config) inner es
  | [], s, js, j, es, _, _, hwrite, hmem, _ => by
    cases hwrite
    cases hmem
  | e :: items, s, js, j, es, hfits, hkind, hwrite, hmem, hholds => by
    rw [writers, writeAll] at hwrite
    simp only [Lookup.eval_bind, Lookup.eval_pure, bind_eq_ok] at hwrite
    obtain ⟨j', hj', js', hjs', heq⟩ := hwrite
    cases heq
    rcases List.mem_cons.mp hmem with rfl | hmem
    · exact isDocument_of_holds p e s _ es hfits.1 hkind hj' hholds
    · exact isDocument_of_mem p items s js' j es hfits.2 hkind hjs' hmem hholds

end

/-- The objects under a property of an entity kind are documents of that type. -/
theorem IsDocument.of_holds (h : IsDocument family (family.describe config) ref es)
    (hd : family.describe config ref = .ok d) {key : String} {p : Property} {inner : EntityRef}
    {j : Json} {es' : Entries Json} (hp : d.propertyOfField? key = some p)
    (hinner : p.kind.entity? = some inner) (hj : Entries.get? key es = some j)
    (hholds : j.Holds es') : IsDocument family (family.describe config) inner es' := by
  obtain ⟨e, s, hfits, hkind, hwrite⟩ := h.exists_datum hd hp hj
  rw [← hkind] at hinner
  exact isDocument_of_holds p e s j es' hfits hinner hwrite hholds

end Conversion

end ObjectDocument
