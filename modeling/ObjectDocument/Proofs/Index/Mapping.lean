import ObjectDocument.Index.Mapping
import ObjectDocument.Proofs.Descriptor.WellFormed

/-!
# Entries of index mappings

A mapping has one entry for each mapped property, in order of declaration. The entry of a property of
an entity kind has the mapping of that entity in it, unless the entity may not be unfolded again.
-/

namespace ObjectDocument

namespace Mapping

variable {describe : EntityRef → Except Error Descriptor} {names : List String} {d : Descriptor}
  {p : Property} {m : Mapping}

/-- What the entry of a property holds, where only entities with the given names may be unfolded. -/
inductive Unfolds (describe : EntityRef → Except Error Descriptor) (names : List String)
    (p : Property) : FieldMapping → Prop
  | single (hp : embedded? p = none) : Unfolds describe names p (.mk (parametersOf p) none)
  | closed {ref : EntityRef} {d : Descriptor} (hp : embedded? p = some ref)
      (hd : describe ref = .ok d) (hname : d.name ∉ names) :
      Unfolds describe names p (.mk (parametersOf p) none)
  | nested {ref : EntityRef} {d : Descriptor} {m : Mapping} (hp : embedded? p = some ref)
      (hd : describe ref = .ok d) (hname : d.name ∈ names)
      (hm : (unfold (without d.name names) d).eval describe = .ok m) :
      Unfolds describe names p (.mk (parametersOf p) (some m))

theorem Unfolds.parameters_eq {e : FieldMapping} (h : Unfolds describe names p e) :
    e.parameters = parametersOf p := by
  cases h with
  | single => rfl
  | closed => rfl
  | nested => rfl

/-! ## Entries in order -/

theorem eval_entriesOf_eq_ok {entry : Property → Lookup (String × FieldMapping)}
    {ps : List Property} (h : (entriesOf entry ps).eval describe = .ok m) :
    List.Forall₂ (fun p e => (entry p).eval describe = .ok e) ps m := by
  induction ps generalizing m with
  | nil =>
      cases h
      exact .nil
  | cons p ps ih =>
      rw [entriesOf] at h
      simp only [Lookup.eval_bind, Lookup.eval_pure, bind_eq_ok] at h
      obtain ⟨e, he, es, hes, heq⟩ := h
      cases heq
      exact .cons he (ih hes)

theorem exists_eval_entriesOf {entry : Property → Lookup (String × FieldMapping)}
    {ps : List Property} (h : ∀ p ∈ ps, ∃ e, (entry p).eval describe = .ok e) :
    ∃ m, (entriesOf entry ps).eval describe = .ok m := by
  induction ps with
  | nil => exact ⟨[], rfl⟩
  | cons p ps ih =>
      obtain ⟨hp, hps⟩ := List.forall_mem_cons.mp h
      obtain ⟨e, he⟩ := hp
      obtain ⟨es, hes⟩ := ih hps
      refine ⟨e :: es, ?_⟩
      rw [entriesOf]
      simp only [Lookup.eval_bind, he, hes]
      rfl

/-- The entries of a mapping are those of the mapped properties. -/
theorem forall₂_unfold (h : (unfold names d).eval describe = .ok m) :
    List.Forall₂ (fun p e => e.1 = p.fieldName ∧ Unfolds describe names p e.2) d.mapped m := by
  rw [unfold] at h
  refine (eval_entriesOf_eq_ok h).imp fun p e he => ?_
  rw [entryOf] at he
  split at he
  next hp =>
    cases he
    exact ⟨rfl, .single hp⟩
  next ref hp =>
    cases hd : describe ref with
    | error fault =>
        rw [Lookup.eval_ask_error hd] at he
        cases he
    | ok nested =>
        rw [Lookup.eval_ask_ok hd] at he
        by_cases hname : nested.name ∈ names
        · rw [dif_pos hname] at he
          simp only [Lookup.eval_bind, Lookup.eval_pure, bind_eq_ok] at he
          obtain ⟨inner, hinner, heq⟩ := he
          cases heq
          exact ⟨rfl, .nested hp hd hname hinner⟩
        · rw [dif_neg hname] at he
          cases he
          exact ⟨rfl, .closed hp hd hname⟩

theorem keys_unfold (h : (unfold names d).eval describe = .ok m) :
    Entries.keys m = d.mapped.map (·.fieldName) :=
  (map_eq_map_of_forall₂ ((forall₂_unfold h).imp fun _ _ he => he.1.symm)).symm

/-- A mapped property has its entry under its wire name. -/
theorem exists_get?_unfold (h : (unfold names d).eval describe = .ok m)
    (hnodup : (d.mapped.map (·.fieldName)).Nodup) (hp : p ∈ d.mapped) :
    ∃ e, Entries.get? p.fieldName m = some e ∧ Unfolds describe names p e := by
  obtain ⟨⟨key, e⟩, hmem, hkey, hunfolds⟩ := exists_mem_of_forall₂ (forall₂_unfold h).flip hp
  refine ⟨e, ?_, hunfolds⟩
  rw [Entries.get?_eq_some_iff (keys_unfold h ▸ hnodup), ← hkey]
  exact hmem

theorem unfolds_of_get? (h : (unfold names d).eval describe = .ok m)
    (hnodup : (d.mapped.map (·.fieldName)).Nodup) (hp : p ∈ d.mapped) {e : FieldMapping}
    (he : Entries.get? p.fieldName m = some e) : Unfolds describe names p e := by
  obtain ⟨found, hfound, hunfolds⟩ := exists_get?_unfold h hnodup hp
  obtain rfl : found = e := Option.some.inj (hfound.symm.trans he)
  exact hunfolds

/-! ## Existence -/

/-- A mapping can be made if every descriptor can be built: it does not unfold an entity within
itself, so it comes to an end. -/
theorem exists_eval_unfold (hdescribe : ∀ ref, ∃ d, describe ref = .ok d) (names : List String)
    (d : Descriptor) : ∃ m, (unfold names d).eval describe = .ok m := by
  induction hlength : names.length using Nat.strongRecOn generalizing names d with
  | ind n ih =>
      rw [unfold]
      apply exists_eval_entriesOf
      intro p _
      rw [entryOf]
      split
      next => exact ⟨_, rfl⟩
      next ref _ =>
        obtain ⟨nested, hnested⟩ := hdescribe ref
        rw [Lookup.eval_ask_ok hnested]
        by_cases hname : nested.name ∈ names
        · obtain ⟨inner, hinner⟩ := ih _ (hlength ▸ length_without_lt hname)
            (without nested.name names) nested rfl
          rw [dif_pos hname]
          simp only [Lookup.eval_bind, hinner]
          exact ⟨_, rfl⟩
        · rw [dif_neg hname]
          exact ⟨_, rfl⟩

/-! ## Embedded entities -/

theorem storageType_of_entity {c : PropertyDefinition} {ref : EntityRef} (hvalid : c.Valid)
    (hkind : c.kind.entity? = some ref) :
    c.storageType = .object ∨ c.storageType = .nested := by
  have helement : c.kind.element = .entity ref := by
    rw [Kind.entity?] at hkind
    split at hkind
    next found helement =>
      cases hkind
      exact helement
    next => cases hkind
  have haccepts := hvalid.accepts
  rw [PropertyDefinition.storageType]
  cases htype : Property.declaredType c.field with
  | auto => simp [FieldType.infer?, helement]
  | object => simp
  | nested => simp
  | _ => simp [htype, FieldType.accepts, helement] at haccepts

/-- A property of an entity kind has the entries of that entity in its own. -/
theorem embedded?_of_entity {config : Config} {definition : EntityDefinition}
    (hd : Descriptor.build config definition = .ok d) (hp : p ∈ d.properties) {ref : EntityRef}
    (hkind : p.kind.entity? = some ref) : embedded? p = some ref := by
  obtain ⟨c, -, hrepresents⟩ := Descriptor.represents_of_mem hd hp
  have hid : p.role ≠ .id := by
    intro hrole
    rcases hrepresents.id_kind hrole with h | h | h <;> rw [h] at hkind <;> cases hkind
  have htype : typeOf p = c.storageType := by
    rw [typeOf, decide_eq_false hid]
    exact hrepresents.fieldType_eq
  rw [embedded?, htype, if_pos ?_, hkind]
  rw [hrepresents.declares.kind_eq] at hkind
  rcases storageType_of_entity hrepresents.valid hkind with h | h <;> simp [h]

end Mapping

end ObjectDocument
