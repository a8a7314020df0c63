import ObjectDocument.Proofs.Descriptor.Structure

/-!
# Descriptors under other naming strategies

A configuration enters a descriptor through the wire names of its properties and through nothing
else. So two descriptors of one definition, under whatever configurations, have the same properties
up to wire names, and a wire name that the definition declares is the same in both.
-/

namespace ObjectDocument

namespace Property

/-- The second property is the first one, with another wire name unless its field declares one. -/
structure Renames (p p' : Property) : Prop where
  eq : p' = { p with fieldName := p'.fieldName }
  declared : ∀ name, p.field?.bind (·.name) = some name → name ≠ "" →
    p.fieldName = name ∧ p'.fieldName = name

variable {config config' : Config} {entity : String} {position : Nat} {d : PropertyDefinition}
  {p p' : Property}

/-- A declared name wins over every naming strategy. -/
theorem resolve_declared (strategy : NamingStrategy) (property : String) {name : String}
    (hname : name ≠ "") : strategy.resolve property (some name) = name := by
  simp [NamingStrategy.resolve, hname]

theorem renames_of_build (h : build config entity position d = .ok p)
    (h' : build config' entity position d = .ok p') : p.Renames p' := by
  obtain ⟨-, -, -, converter, hconverter, rfl⟩ := build_eq_ok_iff.mp h
  obtain ⟨-, -, -, converter', hconverter', rfl⟩ := build_eq_ok_iff.mp h'
  -- The converter is derived from the declaration alone.
  obtain rfl : converter = converter' := Except.ok.inj (hconverter.symm.trans hconverter')
  refine ⟨rfl, fun name hname hne => ?_⟩
  have hdeclared : d.field.mainField?.bind (·.name) = some name := hname
  rw [ofDefinition, ofDefinition, hdeclared]
  exact ⟨resolve_declared config.naming d.name hne, resolve_declared config'.naming d.name hne⟩

theorem Renames.isImplicitId_eq (h : p.Renames p') : p'.isImplicitId = p.isImplicitId := by
  rw [h.eq]
  rfl

theorem Renames.name_eq (h : p.Renames p') : p'.name = p.name := by
  rw [h.eq]

theorem Renames.role_eq (h : p.Renames p') : p'.role = p.role := by
  rw [h.eq]

/-- Becoming the identifier does not depend on the wire name. -/
theorem Renames.promote (h : p.Renames p') :
    ({ p with role := .id } : Property).Renames { p' with role := .id } := by
  obtain ⟨heq, hdeclared⟩ := h
  rw [heq] at hdeclared ⊢
  exact ⟨rfl, hdeclared⟩

end Property

namespace Descriptor

/-- The second descriptor is the first one, with other wire names where none is declared. -/
structure Renames (d d' : Descriptor) : Prop where
  name_eq : d'.name = d.name
  document_eq : d'.document = d.document
  byName_eq : d'.byName = d.byName
  roleAt_eq : d'.roleAt = d.roleAt
  properties : List.Forall₂ Property.Renames d.properties d'.properties

variable {config config' : Config} {entity : String} {position : Nat}
  {ds : List PropertyDefinition} {ps ps' : List Property}

theorem renames_buildProperties (h : buildProperties config entity position ds = .ok ps)
    (h' : buildProperties config' entity position ds = .ok ps') :
    List.Forall₂ Property.Renames ps ps' := by
  induction ds generalizing position ps ps' with
  | nil =>
      cases h
      cases h'
      exact .nil
  | cons d ds ih =>
      rw [buildProperties] at h h'
      obtain ⟨p, hp, h⟩ := bind_eq_ok.mp h
      obtain ⟨rest, hrest, h⟩ := bind_eq_ok.mp h
      obtain ⟨p', hp', h'⟩ := bind_eq_ok.mp h'
      obtain ⟨rest', hrest', h'⟩ := bind_eq_ok.mp h'
      cases h
      cases h'
      exact .cons (Property.renames_of_build hp hp') (ih hrest hrest')

theorem renames_promoteFirst (h : List.Forall₂ Property.Renames ps ps') :
    List.Forall₂ Property.Renames (promoteFirst ps) (promoteFirst ps') := by
  induction h with
  | nil => exact .nil
  | cons hp hps ih =>
      rw [promoteFirst, promoteFirst, hp.isImplicitId_eq]
      split
      · exact .cons hp.promote hps
      · exact .cons hp ih

theorem renames_promoteId (h : List.Forall₂ Property.Renames ps ps') :
    List.Forall₂ Property.Renames (promoteId ps) (promoteId ps') := by
  have hany : (ps'.any fun p => p.role = .id) = ps.any fun p => p.role = .id := by
    have hroles := map_eq_map_of_forall₂ (h.imp fun p p' hp => hp.role_eq.symm)
    have hmap (qs : List Property) :
        (qs.any fun p => p.role = .id) = (qs.map (·.role)).any (· = .id) := by
      rw [List.any_map]
      rfl
    rw [hmap, hmap, hroles]
  rw [promoteId, promoteId, hany]
  split
  · exact h
  · exact renames_promoteFirst h

/-- The descriptors that a definition has under two configurations differ in wire names only. -/
theorem renames_of_build {definition : EntityDefinition} {d d' : Descriptor}
    (h : build config definition = .ok d) (h' : build config' definition = .ok d') :
    d.Renames d' := by
  obtain ⟨declared, document, hdeclared, -, -, -, hdocument, -, rfl⟩ := build_eq_ok_iff.mp h
  obtain ⟨declared', document', hdeclared', -, -, -, hdocument', -, rfl⟩ := build_eq_ok_iff.mp h'
  obtain rfl : document = document' := Except.ok.inj (hdocument.symm.trans hdocument')
  have hps := renames_promoteId (renames_buildProperties hdeclared hdeclared')
  have hnames := map_eq_map_of_forall₂ (hps.imp fun p p' hp => hp.name_eq.symm)
  have hroles := map_eq_map_of_forall₂ (hps.imp fun p p' hp => hp.role_eq.symm)
  refine ⟨rfl, rfl, congrArg List.zipIdx hnames.symm, funext fun role => ?_, hps⟩
  by_cases hrole : role = .plain
  · rw [hrole]
    rfl
  · have hmap := congrArg (List.map fun r => decide (r = role)) hroles
    rw [List.map_map, List.map_map] at hmap
    rw [roleAt_ofProperties hrole, roleAt_ofProperties hrole]
    exact (findIdx?_eq_of_map_eq hmap).symm

/-! ## Look-ups by role -/

namespace Renames

variable {d d' : Descriptor}

theorem withRole? (h : d.Renames d') (role : Role) :
    Option.Rel Property.Renames (d.withRole? role) (d'.withRole? role) := by
  rw [Descriptor.withRole?, Descriptor.withRole?, h.roleAt_eq]
  cases d.roleAt role with
  | none => exact .none
  | some i => exact rel_getElem? h.properties i

end Renames

end Descriptor

end ObjectDocument
