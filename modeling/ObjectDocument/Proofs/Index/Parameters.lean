import ObjectDocument.Index.Mapping
import ObjectDocument.Proofs.Entries

/-!
# Parameters of entries

The parameters of an entry are put together of what its property declares: the storage type, the
parameters of the field, the relations of a join and the inner fields. These laws find single
parameters among them, or the object that one is.
-/

namespace ObjectDocument

namespace Mapping

variable {p : Property}

/-! ## Parameters of fields -/

theorem get?_parameter {α : Type} (k key : String) (toJson : α → Json) (value : Option α) :
    Entries.get? k (parameter key toJson value) = if key = k then value.map toJson else none := by
  cases value with
  | none => simp [parameter, Entries.get?]
  | some a => simp [parameter, Entries.get?]

theorem get?_flag (k key : String) (on : Bool) :
    Entries.get? k (flag key on) = if key = k ∧ on = true then some (.bool true) else none := by
  cases on with
  | false => simp [flag, Entries.get?]
  | true => simp [flag, Entries.get?]

theorem get?_unless {c : Prop} [Decidable c] (k key : String) (j : Json) :
    Entries.get? k (if c then [] else [(key, j)]) = if key = k ∧ ¬c then some j else none := by
  by_cases hc : c
  · simp [hc, Entries.get?]
  · simp [hc, Entries.get?]

theorem get?_format_fieldParameters (f : Field) :
    Entries.get? "format" (fieldParameters f) = (format? f).map .string := by
  simp [fieldParameters, Entries.get?_append, get?_parameter, get?_flag, get?_unless]

/-- Relations and inner fields are no parameters of a field. -/
theorem get?_fieldParameters_eq_none (f : Field) {k : String} (hk : k = "relations" ∨ k = "fields") :
    Entries.get? k (fieldParameters f) = none := by
  rcases hk with rfl | rfl
  · simp [fieldParameters, Entries.get?_append, get?_parameter, get?_flag, get?_unless]
  · simp [fieldParameters, Entries.get?_append, get?_parameter, get?_flag, get?_unless]

/-! ## Parameters of properties -/

/-- The parameter that holds the inner fields. -/
def innerParameter : FieldSpec → Entries Json
  | .multi _ others => [("fields", innerJson others)]
  | _ => []

theorem parametersOf_eq (p : Property) : parametersOf p =
    typeParameter (typeOf p) ++ p.field?.elim [] fieldParameters ++
      (if p.role = .join then [("relations", relationsJson p.relations)] else []) ++
        innerParameter p.spec := by
  unfold parametersOf innerParameter
  cases p.field? with
  | none => rfl
  | some f => rfl

/-- The format in the entry of a property is that of its field. -/
theorem get?_format_parametersOf (p : Property) :
    Entries.get? "format" (parametersOf p) = (p.field?.bind format?).map .string := by
  have htype : Entries.get? "format" (typeParameter (typeOf p)) = none := rfl
  have hrelations : Entries.get? "format"
      (if p.role = .join then [("relations", relationsJson p.relations)] else []) = none := by
    split <;> rfl
  have hinner : Entries.get? "format" (innerParameter p.spec) = none := by
    cases p.spec <;> rfl
  simp only [parametersOf_eq, Entries.get?_append, htype, hrelations, hinner, Option.none_or,
    Option.or_none]
  cases p.field? with
  | none => rfl
  | some f => exact get?_format_fieldParameters f

theorem get?_field_eq_none {k : String} (hk : k = "relations" ∨ k = "fields") (p : Property) :
    Entries.get? k (typeParameter (typeOf p) ++ p.field?.elim [] fieldParameters) = none := by
  have htype : Entries.get? k (typeParameter (typeOf p)) = none := by
    rcases hk with rfl | rfl
    · rfl
    · rfl
  rw [Entries.get?_append, htype, Option.none_or]
  cases p.field? with
  | none => rfl
  | some f => exact get?_fieldParameters_eq_none f hk

theorem get?_relations_parametersOf (hp : p.role = .join) :
    Entries.get? "relations" (parametersOf p) = some (relationsJson p.relations) := by
  rw [parametersOf_eq, Entries.get?_append, Entries.get?_append, get?_field_eq_none (.inl rfl),
    if_pos hp]
  rfl

theorem get?_fields_parametersOf (p : Property) :
    Entries.get? "fields" (parametersOf p) = Entries.get? "fields" (innerParameter p.spec) := by
  have hrelations : Entries.get? "fields"
      (if p.role = .join then [("relations", relationsJson p.relations)] else []) = none := by
    split <;> rfl
  rw [parametersOf_eq, Entries.get?_append, Entries.get?_append, get?_field_eq_none (.inr rfl),
    hrelations]
  rfl

/-- The inner fields of an entry are those of its property. -/
theorem eq_innerJson_of_get?_fields {j : Json}
    (h : Entries.get? "fields" (parametersOf p) = some j) : j = innerJson p.spec.innerFields := by
  rw [get?_fields_parametersOf] at h
  cases hspec : p.spec with
  | multi main others =>
      rw [hspec] at h
      exact (Option.some.inj h).symm
  | _ =>
      rw [hspec] at h
      cases h

/-! ## Objects among parameters -/

/-- The entries of an object among parameters; there are none without the object. -/
def entriesAt (k : String) (parameters : Entries Json) : Entries Json :=
  match Entries.get? k parameters with
  | some (.object es) => es
  | _ => []

theorem entriesAt_relations (hp : p.role = .join) : entriesAt "relations" (parametersOf p) =
    Entries.merge (p.relations.map fun r => (r.parent, stringsJson r.children)) := by
  rw [entriesAt, get?_relations_parametersOf hp]
  rfl

/-- What an inner field has in a mapping: its own type and parameters. -/
def innerEntry (inner : InnerField) : Json :=
  .object (typeParameter inner.field.type ++ fieldParameters inner.field)

theorem entriesAt_fields (p : Property) : entriesAt "fields" (parametersOf p) =
    Entries.merge (p.spec.innerFields.map fun inner => (inner.suffix, innerEntry inner)) := by
  rw [entriesAt, get?_fields_parametersOf]
  cases p.spec with
  | inferred => rfl
  | single f => rfl
  | multi main others => rfl

end Mapping

end ObjectDocument
