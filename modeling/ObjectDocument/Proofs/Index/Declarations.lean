import ObjectDocument.Proofs.Index.Unfolding

/-!
# Declarations in generated mappings

The entry of a property has one inner field for each suffix and one list of children for each parent.
Where a property declares a suffix or a parent again, the later declaration takes the place of the
earlier one. So an entry has everything that its property declares exactly if the suffixes are
distinct and no relation is followed by one of the same parent that leaves out a child.
-/

namespace ObjectDocument

namespace Mapping

variable {family : Family} {config : Config} {d : Descriptor} {p : Property} {m : Mapping}
  {parameters : Entries Json}

/-! ## Generated mappings -/

/-- The mappings that are generated where embedded types belong to a family, each with the descriptor
whose entries it holds: those of entities that build, and what the entries of another have in them. -/
inductive Generated (family : Family) (config : Config) : Descriptor → Mapping → Prop
  | entity {definition : EntityDefinition} {d : Descriptor} {m : Mapping}
      (hd : Descriptor.build config definition = .ok d)
      (hm : (build family d).eval (family.describe config) = .ok m) : Generated family config d m
  | embedded {d d' : Descriptor} {m m' : Mapping} {p : Property} {e : FieldMapping} {ref : EntityRef}
      (hm : Generated family config d m) (hp : p ∈ d.mapped)
      (hkind : p.kind.entity? = some ref) (hd' : family.describe config ref = .ok d')
      (he : Entries.get? p.fieldName m = some e) (hm' : e.properties? = some m') :
      Generated family config d' m'

/-- A generated mapping is what the descriptor of an entity is unfolded to. -/
theorem Generated.unfolded (h : Generated family config d m) :
    (∃ definition, Descriptor.build config definition = .ok d) ∧
      ∃ names, (unfold names d).eval (family.describe config) = .ok m := by
  induction h with
  | entity hd hm => exact ⟨⟨_, hd⟩, _, hm⟩
  | embedded hm hp hkind hd' he hm' ih =>
      obtain ⟨⟨definition, hd⟩, names, hunfold⟩ := ih
      have hnodup := (Descriptor.describes_of_build hd).nodup_mapped
      have hunfolds := unfolds_of_get? hunfold hnodup hp he
      obtain ⟨inner, found, hembedded, hfound, -, hinner⟩ := hunfolds.properties?_eq_some_iff.mp hm'
      rw [embedded?_of_entity hd (List.mem_filter.mp hp).1 hkind] at hembedded
      cases hembedded
      rw [hd'] at hfound
      cases hfound
      exact ⟨⟨_, hd'⟩, _, hinner⟩

/-- A mapped property has its entry, with the parameters of its own declaration. -/
theorem Generated.exists_entry (h : Generated family config d m) (hp : p ∈ d.mapped) :
    ∃ e, Entries.get? p.fieldName m = some e ∧ e.parameters = parametersOf p := by
  obtain ⟨⟨definition, hd⟩, names, hm⟩ := h.unfolded
  have hnodup := (Descriptor.describes_of_build hd).nodup_mapped
  obtain ⟨e, he, hunfolds⟩ := exists_get?_unfold hm hnodup hp
  exact ⟨e, he, hunfolds.parameters_eq⟩

/-- A mapping is generated for every entity that builds, if the types of the family do. -/
theorem exists_generated
    (hbuilds : ∀ type ∈ family.types, ∃ d, family.describe config type.ref = .ok d)
    {definition : EntityDefinition} (hd : Descriptor.build config definition = .ok d) :
    ∃ m, Generated family config d m := by
  obtain ⟨m, hm⟩ := exists_eval_unfold (exists_describe hbuilds)
    (without d.name (family.types.map (·.name))) d
  exact ⟨m, .entity hd hm⟩

/-! ## Declarations -/

/-- Whether the parameters of an entry have everything that a property declares. -/
structure KeepsAll (p : Property) (parameters : Entries Json) : Prop where
  inner : ∀ inner ∈ p.spec.innerFields,
    Entries.get? inner.suffix (entriesAt "fields" parameters) = some (innerEntry inner)
  length_fields : (entriesAt "fields" parameters).length = p.spec.innerFields.length
  child : p.role = .join → ∀ r ∈ p.relations, ∀ child ∈ r.children, ∃ children,
    Entries.get? r.parent (entriesAt "relations" parameters) = some (stringsJson children) ∧
      child ∈ children

/-- Whether the parameters of an entry have the last inner field of each suffix and the last relation
of each parent, and no others. -/
structure KeepsLast (p : Property) (parameters : Entries Json) : Prop where
  inner : ∀ suffix, Entries.get? suffix (entriesAt "fields" parameters) =
    (Entries.lastWith? InnerField.suffix p.spec.innerFields suffix).map innerEntry
  length_fields : (entriesAt "fields" parameters).length =
    (p.spec.innerFields.map (·.suffix)).dedup.length
  relation : p.role = .join → ∀ parent, Entries.get? parent (entriesAt "relations" parameters) =
    (Entries.lastWith? Relation.parent p.relations parent).map fun r => stringsJson r.children

/-- Whether no later declaration of a property drops an earlier one: the suffixes are distinct, and
the last relation of a parent has the children of all its relations. -/
structure LosesNothing (p : Property) : Prop where
  nodup_suffixes : (p.spec.innerFields.map (·.suffix)).Nodup
  child_mem_last : p.role = .join → ∀ r ∈ p.relations, ∀ child ∈ r.children,
    ∀ last, Entries.lastWith? Relation.parent p.relations r.parent = some last →
      child ∈ last.children

theorem keepsLast_parametersOf (p : Property) : KeepsLast p (parametersOf p) := by
  constructor
  case inner =>
    intro suffix
    rw [entriesAt_fields, Entries.get?_merge_map]
  case length_fields =>
    rw [entriesAt_fields, Entries.length_merge, Entries.keys, List.map_map]
    rfl
  case relation =>
    intro hrole parent
    rw [entriesAt_relations hrole, Entries.get?_merge_map]

theorem stringsJson_injective {xs ys : List String} (h : stringsJson xs = stringsJson ys) :
    xs = ys := by
  rw [stringsJson, stringsJson] at h
  exact List.map_injective_iff.mpr (fun _ _ => Json.string.inj) (Json.array.inj h)

theorem KeepsLast.keepsAll_iff (h : KeepsLast p parameters) :
    KeepsAll p parameters ↔ LosesNothing p := by
  constructor
  · intro hall
    constructor
    case nodup_suffixes =>
      -- As many entries as inner fields leave no room for a repeated suffix.
      have hlength := h.length_fields.symm.trans hall.length_fields
      rw [← List.dedup_eq_self]
      exact (List.dedup_sublist _).eq_of_length (hlength.trans (List.length_map _).symm)
    case child_mem_last =>
      intro hrole r hr child hchild last hlast
      obtain ⟨children, hchildren, hmem⟩ := hall.child hrole r hr child hchild
      rw [h.relation hrole, hlast] at hchildren
      rw [stringsJson_injective (Option.some.inj hchildren)]
      exact hmem
  · intro hkept
    constructor
    case inner =>
      intro inner hinner
      rw [h.inner, Entries.lastWith?_of_nodup hkept.nodup_suffixes hinner]
      rfl
    case length_fields =>
      rw [h.length_fields, hkept.nodup_suffixes.dedup, List.length_map]
    case child =>
      intro hrole r hr child hchild
      obtain ⟨last, hlast⟩ := Entries.exists_lastWith? Relation.parent hr
      refine ⟨last.children, ?_, hkept.child_mem_last hrole r hr child hchild last hlast⟩
      rw [h.relation hrole, hlast]
      rfl

/-- In a generated mapping every mapped property has its entry. It has the last inner field of each
suffix and the last relation of each parent, and everything that is declared exactly if no later
declaration drops an earlier one. -/
theorem keeps_last_declarations (h : Generated family config d m) (hp : p ∈ d.mapped) :
    ∃ e, Entries.get? p.fieldName m = some e ∧ KeepsLast p e.parameters ∧
      (KeepsAll p e.parameters ↔ LosesNothing p) := by
  obtain ⟨e, he, hparameters⟩ := h.exists_entry hp
  have hlast : KeepsLast p e.parameters := hparameters ▸ keepsLast_parametersOf p
  exact ⟨e, he, hlast, hlast.keepsAll_iff⟩

/-- The titles of threads are indexed as raw text in two ways, and two relations have one parent. -/
def thread : EntityDefinition where
  name := "Thread"
  properties := [
    { name := "title", kind := .string, field := .multi { type := .text }
        [⟨"raw", { type := .keyword }⟩, ⟨"raw", { type := .text, analyzer := some "english" }⟩] },
    { name := "relation", kind := .join,
      relations := [⟨"question", ["answer"]⟩, ⟨"question", ["comment"]⟩] }]

/-- The second raw field is kept. -/
theorem keeps_last_declarations_thread : ∃ d m p e, Descriptor.build {} thread = .ok d ∧
    Generated ⟨[]⟩ {} d m ∧ p ∈ d.mapped ∧ Entries.get? p.fieldName m = some e ∧
    Entries.get? "raw" (entriesAt "fields" e.parameters) =
      some (innerEntry ⟨"raw", { type := .text, analyzer := some "english" }⟩) ∧
    (entriesAt "fields" e.parameters).length = 1 := by
  obtain ⟨d, hd⟩ : ∃ d, Descriptor.build {} thread = .ok d := ⟨_, rfl⟩
  obtain ⟨m, hm⟩ : ∃ m, Generated ⟨[]⟩ {} d m := exists_generated (by simp) hd
  have hfirst : ∃ p, d.mapped.head? = some p ∧
      p.spec.innerFields = [⟨"raw", { type := .keyword }⟩,
        ⟨"raw", { type := .text, analyzer := some "english" }⟩] := by
    cases hd
    exact ⟨_, rfl, rfl⟩
  obtain ⟨p, hp, hinner⟩ := hfirst
  have hmapped : p ∈ d.mapped := List.mem_of_head? hp
  obtain ⟨e, he, hlast, -⟩ := keeps_last_declarations hm hmapped
  refine ⟨d, m, p, e, hd, hm, hmapped, he, ?_, ?_⟩
  · rw [hlast.inner, hinner]
    rfl
  · rw [hlast.length_fields, hinner]
    rfl

/-- Not every declaration has its place in a generated mapping: the answers to questions have
none. -/
theorem not_keepsAll_thread : ¬∀ (family : Family) (config : Config) (d : Descriptor) (m : Mapping)
    (p : Property) (e : FieldMapping), Generated family config d m → p ∈ d.mapped →
      Entries.get? p.fieldName m = some e → KeepsAll p e.parameters := by
  intro h
  obtain ⟨d, hd⟩ : ∃ d, Descriptor.build {} thread = .ok d := ⟨_, rfl⟩
  obtain ⟨m, hm⟩ : ∃ m, Generated ⟨[]⟩ {} d m := exists_generated (by simp) hd
  have hjoin : ∃ p ∈ d.mapped, p.role = .join ∧
      p.relations = [⟨"question", ["answer"]⟩, ⟨"question", ["comment"]⟩] := by
    cases hd
    exact ⟨_, List.mem_cons_of_mem _ List.mem_cons_self, rfl, rfl⟩
  obtain ⟨p, hp, hrole, hrelations⟩ := hjoin
  obtain ⟨e, he, hparameters⟩ := hm.exists_entry hp
  have hall := h _ _ d m p e hm hp he
  have hlast : KeepsLast p e.parameters := hparameters ▸ keepsLast_parametersOf p
  have hmem := (hlast.keepsAll_iff.mp hall).child_mem_last hrole ⟨"question", ["answer"]⟩
    (by simp [hrelations]) "answer" List.mem_cons_self ⟨"question", ["comment"]⟩
    (by rw [hrelations]; rfl)
  simp at hmem

end Mapping

end ObjectDocument
