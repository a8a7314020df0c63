import ObjectDocument.Proofs.Conversion.RoundTrip
import ObjectDocument.Proofs.Conversion.Written
import ObjectDocument.Proofs.Index.Unfolding

/-!
# Mappings cover documents

Whatever is written of the objects of an entity, the index mapping of the entity has an entry for it.
Documents follow the data and mappings follow the types, where an entity is not unfolded within
itself; so a path of keys into a document leads to an entry of the mapping as far as the entity that
it enters does not enclose it. Main statement: every mapping covers every document of its entity,
with its keys in the same order.
-/

namespace ObjectDocument

/-! ## Paths -/

/-- The objects of a document with the way to each of them: the keys that lead into embedded objects,
each with the entity that is embedded there. Arrays on the way do not count. -/
inductive ObjectAt (describe : EntityRef → Except Error Descriptor) :
    EntityRef → Entries Json → List (String × EntityRef) → EntityRef → Entries Json → Prop
  | here (ref : EntityRef) (es : Entries Json) : ObjectAt describe ref es [] ref es
  | inside {ref inner last : EntityRef} {es es' es'' : Entries Json}
      {steps : List (String × EntityRef)} {d : Descriptor} {key : String} {p : Property} {j : Json}
      (hd : describe ref = .ok d) (hp : d.propertyOfField? key = some p)
      (hinner : p.kind.entity? = some inner) (hj : Entries.get? key es = some j)
      (hholds : j.Holds es') (hrest : ObjectAt describe inner es' steps last es'') :
      ObjectAt describe ref es ((key, inner) :: steps) last es''

/-- Whether a way leads into an entity within itself. -/
def Recurs : (enclosing : List EntityRef) → List (String × EntityRef) → Prop
  | _, [] => False
  | enclosing, (_, ref) :: steps => ref ∈ enclosing ∨ Recurs (ref :: enclosing) steps

/-- The keys of a way and one more, up to the first that leads into an entity within itself. -/
def cut : (enclosing : List EntityRef) → List (String × EntityRef) → (last : String) → List String
  | _, [], last => [last]
  | enclosing, (key, ref) :: steps, last =>
    if ref ∈ enclosing then [key] else key :: cut (ref :: enclosing) steps last

theorem cut_ne_nil (enclosing : List EntityRef) (steps : List (String × EntityRef))
    (last : String) : cut enclosing steps last ≠ [] := by
  cases steps with
  | nil => exact List.cons_ne_nil _ _
  | cons step steps =>
      obtain ⟨key, ref⟩ := step
      rw [cut]
      split
      · exact List.cons_ne_nil _ _
      · exact List.cons_ne_nil _ _

namespace Mapping

/-- The entries of the entity that a path of keys leads into. -/
def level? : Mapping → List String → Option Mapping
  | m, [] => some m
  | m, key :: keys => (Entries.get? key m).bind fun e => e.properties?.bind (level? · keys)

/-- The entry that a path of keys leads to. -/
def entryAt? : Mapping → List String → Option FieldMapping
  | _, [] => none
  | m, [key] => Entries.get? key m
  | m, key :: keys => (Entries.get? key m).bind fun e => e.properties?.bind (entryAt? · keys)

/-- Whether every key of a document, also of an object within it, has its entry in a mapping, down to
the first entity within itself, whose entry has no entries of its own. At each level the keys of the
document are in the order of the mapping. -/
structure Covers (describe : EntityRef → Except Error Descriptor) (ref : EntityRef)
    (es : Entries Json) (m : Mapping) : Prop where
  entry : ∀ steps inner es' key, ObjectAt describe ref es steps inner es' →
    key ∈ Entries.keys es' → ∃ e, m.entryAt? (cut [ref] steps key) = some e ∧
      (Recurs [ref] steps → e.properties? = none)
  level : ∀ steps inner es', ObjectAt describe ref es steps inner es' → ¬Recurs [ref] steps →
    ∃ inside, m.level? (steps.map Prod.fst) = some inside ∧
      (Entries.keys es').Sublist (Entries.keys inside)

variable {config : Config} {family : Family} {ref inner : EntityRef} {names : List String}
  {enclosing : List EntityRef} {es es' : Entries Json} {m : Mapping}

theorem entryAt?_cons {key : String} {keys : List String} (hkeys : keys ≠ []) :
    m.entryAt? (key :: keys) =
      (Entries.get? key m).bind fun e => e.properties?.bind (entryAt? · keys) := by
  cases keys with
  | nil => exact absurd rfl hkeys
  | cons key' keys => rfl

/-! ## Documents beside mappings -/

/-- A document beside the mapping of its entity, at a place that entities enclose. -/
structure Beside (family : Family) (config : Config) (enclosing : List EntityRef)
    (ref : EntityRef) (es : Entries Json) (m : Mapping) : Prop where
  document : Conversion.IsDocument family (family.describe config) ref es
  unfolds : ∃ names d, family.describe config ref = .ok d ∧
    (unfold names d).eval (family.describe config) = .ok m ∧ Open family names enclosing

theorem Beside.keys_sublist (h : Beside family config enclosing ref es m) :
    (Entries.keys es).Sublist (Entries.keys m) := by
  obtain ⟨names, d, hd, hm, -⟩ := h.unfolds
  rw [keys_unfold hm]
  exact h.document.keys_sublist hd

theorem Beside.exists_get? (h : Beside family config enclosing ref es m) {key : String}
    (hkey : key ∈ Entries.keys es) : ∃ e, Entries.get? key m = some e := by
  apply Option.ne_none_iff_exists'.mp
  rw [ne_eq, Entries.get?_eq_none_iff, not_not]
  exact h.keys_sublist.subset hkey

/-- An embedded object stands beside the mapping in the entry of its property, unless its entity
encloses it. Then the entry has no mapping in it. -/
theorem Beside.step (hnames : (family.types.map (·.name)).Nodup)
    (h : Beside family config enclosing ref es m) {d : Descriptor} {key : String} {p : Property}
    {j : Json} (hd : family.describe config ref = .ok d)
    (hp : d.propertyOfField? key = some p) (hinner : p.kind.entity? = some inner)
    (hj : Entries.get? key es = some j) (hholds : j.Holds es') :
    ∃ e, Entries.get? key m = some e ∧ (inner ∈ enclosing → e.properties? = none) ∧
      (inner ∉ enclosing → ∃ m', e.properties? = some m' ∧
        Beside family config (inner :: enclosing) inner es' m') := by
  obtain ⟨names, d', hd', hm, hopen⟩ := h.unfolds
  obtain rfl : d = d' := Except.ok.inj (hd.symm.trans hd')
  have hlevel : IsLevel family config enclosing ref d m := ⟨hd, names, hm, hopen⟩
  have hdocument := h.document.of_holds hd hp hinner hj hholds
  obtain ⟨hmem, hheld, rfl⟩ :=
    (Descriptor.describes_of_build hd).propertyOfField?_eq_some_iff.mp hp
  have hmapped : p ∈ d.mapped := by
    refine List.mem_filter.mpr ⟨hmem, ?_⟩
    rw [Property.isMapped_eq, Bool.or_eq_true]
    exact hheld
  obtain ⟨e, he, -⟩ := exists_get?_unfold hm hlevel.nodup_mapped hmapped
  obtain ⟨hclosed, hnested⟩ := hlevel.step hnames hmapped hinner hdocument.1 he
  refine ⟨e, he, hclosed, fun hnot => ?_⟩
  obtain ⟨d', m', hm', hlevel'⟩ := hnested hnot
  obtain ⟨names', hunfold, hopen'⟩ := hlevel'.unfolds
  exact ⟨m', hm', hdocument, names', d', hlevel'.describe_eq, hunfold, hopen'⟩

/-- Every key of an object in a document has an entry, as far as entities are unfolded. -/
theorem Beside.exists_entry (hnames : (family.types.map (·.name)).Nodup)
    (h : Beside family config enclosing ref es m) {steps : List (String × EntityRef)}
    {key : String} (hobject : ObjectAt (family.describe config) ref es steps inner es')
    (hkey : key ∈ Entries.keys es') : ∃ e, m.entryAt? (cut enclosing steps key) = some e ∧
      (Recurs enclosing steps → e.properties? = none) := by
  -- By induction on the way, with the entities that enclose each place.
  induction hobject generalizing enclosing m with
  | here ref es =>
      obtain ⟨e, he⟩ := h.exists_get? hkey
      exact ⟨e, he, False.elim⟩
  | @inside ref inner last es es' es'' steps d key' p j hd hp hinner hj hholds hrest ih =>
      obtain ⟨e, he, hclosed, hnested⟩ := h.step hnames hd hp hinner hj hholds
      rw [cut]
      by_cases hencloses : inner ∈ enclosing
      · rw [if_pos hencloses]
        exact ⟨e, he, fun _ => hclosed hencloses⟩
      · obtain ⟨m', hm', hbeside⟩ := hnested hencloses
        obtain ⟨e', he', hrecurs⟩ := ih hbeside hkey
        rw [if_neg hencloses, entryAt?_cons (cut_ne_nil _ _ _), he, Option.bind_some, hm',
          Option.bind_some]
        exact ⟨e', he', fun hor => hrecurs (hor.resolve_left hencloses)⟩

/-- At each level that is unfolded the keys of a document are in the order of the mapping. -/
theorem Beside.exists_level (hnames : (family.types.map (·.name)).Nodup)
    (h : Beside family config enclosing ref es m) {steps : List (String × EntityRef)}
    (hobject : ObjectAt (family.describe config) ref es steps inner es')
    (hrecurs : ¬Recurs enclosing steps) : ∃ inside, m.level? (steps.map Prod.fst) = some inside ∧
      (Entries.keys es').Sublist (Entries.keys inside) := by
  induction hobject generalizing enclosing m with
  | here ref es => exact ⟨m, rfl, h.keys_sublist⟩
  | inside hd hp hinner hj hholds hrest ih =>
      obtain ⟨hencloses, hrecurs'⟩ := not_or.mp hrecurs
      obtain ⟨e, he, -, hnested⟩ := h.step hnames hd hp hinner hj hholds
      obtain ⟨m', hm', hbeside⟩ := hnested hencloses
      rw [List.map_cons, level?, he, Option.bind_some, hm', Option.bind_some]
      exact ih hbeside hrecurs'

/-! ## Families -/

/-- The mapping of an entity can be made if its family can be built, and it covers every document
that is written of an object of the entity. -/
theorem covers_of_write (c : Context) (hnames : (c.family.types.map (·.name)).Nodup)
    (hbuilds : ∀ type ∈ c.family.types, ∃ d, c.describe type.ref = .ok d) {ref : EntityRef}
    (href : ∃ type ∈ c.family.types, type.ref = ref) {d : Descriptor}
    (hd : c.describe ref = .ok d) {x : Instance}
    (hfits : Datum.FitsMembers c.family x (c.family.type ref).members) {doc : Document}
    (hwrite : ((Conversion.write c.family ref x).run c).1 = .ok doc) :
    ∃ m, ((build c.family d).run c).1 = .ok m ∧ Covers c.describe ref doc.entries m := by
  obtain ⟨m, hm⟩ := exists_eval_unfold (exists_describe hbuilds)
    (without d.name (c.family.types.map (·.name))) d
  rw [Lookup.run_fst] at hwrite
  have hbeside : Beside c.family c.config [ref] ref doc.entries m := by
    refine ⟨⟨href, x, doc, hfits, hwrite, rfl⟩, _, d, hd, hm, ?_⟩
    rw [(Descriptor.describes_of_build hd).name_eq]
    exact open_nil.without hnames href
  refine ⟨m, ?_, ?_⟩
  · rw [Lookup.run_fst]
    exact hm
  · exact {
      entry := fun _ _ _ _ hobject hkey => hbeside.exists_entry hnames hobject hkey
      level := fun _ _ _ hobject hrecurs => hbeside.exists_level hnames hobject hrecurs }

section Sample

open Library

/-- The mapping of books covers the document of a book, with the authors of the book, and the sequel
of the book down to its own entry. -/
theorem covers_of_write_sampleBook :
    ∃ doc, ((Conversion.write context.family bookRef sampleBook).run context).1 = .ok doc ∧
      ∃ m, ((build context.family (.ofProperties "Book" bookProperties none)).run context).1 = .ok m ∧
        Covers context.describe bookRef doc.entries m := by
  obtain ⟨doc, hdoc⟩ : ∃ doc,
    ((Conversion.write context.family bookRef sampleBook).run context).1 = .ok doc := ⟨_, rfl⟩
  have hnames : (context.family.types.map (·.name)).Nodup := by decide
  exact ⟨doc, hdoc, covers_of_write context hnames Conversion.restorableFamily_library.builds
    ⟨book, List.mem_cons_self, rfl⟩ describe_book Conversion.fitsMembers_sampleBook hdoc⟩

end Sample

end Mapping

end ObjectDocument
