import Mathlib.Data.List.Nodup
import ObjectDocument.Proofs.Descriptor.WellFormed
import ObjectDocument.Proofs.Text.Split
import ObjectDocument.Proofs.Validation

/-!
# Validation reports

The report of a validation says for every name that a property has in the index whether the engine
takes it, for every wire name whether it is reserved, and for every wire name which one it collides
with. The check for collisions keeps one name for each lower-case form it has seen; that name is the
earliest one of the form, so the report is the same as if all earlier names were looked through.
-/

namespace ObjectDocument

namespace Validation

/-! ## Field names -/

/-- Whether a name is one or more segments with a dot between neighbours, each of which is not empty
and free of dots and white space. -/
def IsFieldName (name : String) : Prop :=
  ∃ segments : List (List Char), segments ≠ [] ∧
    (∀ segment ∈ segments, segment ≠ [] ∧ '.' ∉ segment ∧ ∀ c ∈ segment, Text.isBlank c = false) ∧
    name.toList = ['.'].intercalate segments

theorem isValidName_iff {name : String} : isValidName name = true ↔ IsFieldName name := by
  have hsegments : isValidName name = true ↔ ∀ segment ∈ Text.splitWhere (· == '.') name.toList,
      segment ≠ [] ∧ ∀ c ∈ segment, Text.isBlank c = false := by
    simp [isValidName]
  rw [hsegments]
  constructor
  · intro h
    obtain ⟨hne, hdots, hname⟩ := Text.splitWhere_eq_iff.mp (Eq.refl _)
    refine ⟨_, hne, ?_, hname⟩
    intro segment hsegment
    obtain ⟨hnil, hblank⟩ := h segment hsegment
    exact ⟨hnil, hdots segment hsegment, hblank⟩
  · rintro ⟨segments, hne, hall, hname⟩
    rw [Text.splitWhere_eq_iff.mpr ⟨hne, fun segment h => (hall segment h).2.1, hname⟩]
    intro segment hsegment
    obtain ⟨hnil, -, hblank⟩ := hall segment hsegment
    exact ⟨hnil, hblank⟩

instance (name : String) : Decidable (IsFieldName name) :=
  decidable_of_iff _ isValidName_iff

/-! ## Collisions -/

/-- Whether a name differs from another one in case only, or not at all. -/
def like (name other : String) : Bool :=
  Text.lowercase other = Text.lowercase name

/-- Whether the names that a check has kept stand for all names before: of those like any name, the
first is kept. -/
def Stands (seen before : List String) : Prop :=
  ∀ name, seen.find? (like name) = before.find? (like name)

variable {seen before names rest : List String} {name other : String}

theorem like_of_like (h : like name other = true) : like other = like name := by
  have hlower : Text.lowercase other = Text.lowercase name := by simpa [like] using h
  funext third
  rw [like, like, hlower]

/-- A name like one that is kept changes nothing for later names. -/
theorem Stands.known (h : Stands seen before) (hfind : seen.find? (like name) = some other) :
    Stands seen (before ++ [name]) := by
  intro later
  rw [List.find?_append, ← h]
  cases hlater : like later name with
  | false => simp [hlater]
  | true =>
      -- The later name is like the known one, so the same name is found for both.
      rw [← like_of_like hlater, hfind]
      rfl

theorem Stands.new (h : Stands seen before) : Stands (seen ++ [name]) (before ++ [name]) := by
  intro later
  rw [List.find?_append, List.find?_append, h]

/-- The calls that the check for collisions makes, with the names that it has kept and those that it
has still to look at. -/
inductive Visits (names : List String) : (seen rest : List String) → Prop
  | start : Visits names [] names
  | known {seen rest : List String} {name other : String} (h : Visits names seen (name :: rest))
      (hfind : seen.find? (like name) = some other) : Visits names seen rest
  | new {seen rest : List String} {name : String} (h : Visits names seen (name :: rest))
      (hfind : seen.find? (like name) = none) : Visits names (seen ++ [name]) rest

/-- What a call finds is the end of what the check finds. -/
theorem Visits.collisions_suffix (entity : String) (h : Visits names seen rest) :
    collisions entity seen rest <:+ collisions entity [] names := by
  induction h with
  | start => exact List.suffix_rfl
  | @known seen rest name other h hfind ih =>
      refine List.IsSuffix.trans ?_ ih
      unfold like at hfind
      rw [collisions.eq_def entity seen (name :: rest)]
      dsimp only
      rw [hfind]
      dsimp only
      split
      · exact List.suffix_rfl
      · exact List.suffix_cons _ _
  | @new seen rest name h hfind ih =>
      unfold like at hfind
      have hcall : collisions entity seen (name :: rest)
          = collisions entity (seen ++ [name]) rest := by
        rw [collisions.eq_def entity seen (name :: rest)]
        dsimp only
        rw [hfind]
      rwa [hcall] at ih

/-- The names that the check has kept stand for those that it has looked at. -/
theorem Visits.stands (h : Visits names seen rest) :
    ∃ before, names = before ++ rest ∧ Stands seen before := by
  induction h with
  | start => exact ⟨[], rfl, fun _ => rfl⟩
  | known h hfind ih =>
      obtain ⟨before, hnames, hstands⟩ := ih
      exact ⟨before ++ [_], by simp [hnames], hstands.known hfind⟩
  | new h hfind ih =>
      obtain ⟨before, hnames, hstands⟩ := ih
      exact ⟨before ++ [_], by simp [hnames], hstands.new⟩

/-- A name before which other ones stand is not among these, if all are distinct. -/
theorem Stands.find?_ne_self (h : Stands seen before) (hnodup : (before ++ name :: rest).Nodup) :
    seen.find? (like name) ≠ some name := by
  intro hfind
  rw [h] at hfind
  have hmem : name ∈ before := List.mem_of_find?_eq_some hfind
  exact (List.nodup_append.mp hnodup).2.2 name hmem name List.mem_cons_self rfl

/-- Among distinct names the check never finds a name itself. -/
theorem Visits.find?_ne_self (h : Visits names seen (name :: rest)) (hnodup : names.Nodup) :
    seen.find? (like name) ≠ some name := by
  obtain ⟨before, rfl, hstands⟩ := h.stands
  exact hstands.find?_ne_self hnodup

/-- The collision of a name with the earliest one that it is like. -/
def collision? (entity : String) (before : List String) (name : String) : Option Diagnostic :=
  (before.find? (like name)).map fun other => ⟨.warning, .caseCollision entity name other⟩

/-- The collisions of each name with the names before it. -/
def collisionReport (entity : String) (names : List String) : List Diagnostic :=
  names.zipIdx.filterMap fun x => collision? entity (names.take x.2) x.1

/-- The check finds the collisions with earlier names. -/
theorem collisions_eq {entity : String} (hstands : Stands seen before)
    (hnodup : (before ++ rest).Nodup) : collisions entity seen rest =
      (rest.zipIdx before.length).filterMap fun x =>
        collision? entity ((before ++ rest).take x.2) x.1 := by
  -- By induction on the names that are left: what was looked at before is in `before`, and `seen`
  -- stands for it.
  induction rest generalizing seen before with
  | nil => rfl
  | cons name rest ih =>
      have happend : before ++ name :: rest = before ++ [name] ++ rest := by simp
      have hrest {seen' : List String} (hstands' : Stands seen' (before ++ [name])) :=
        ih hstands' (happend ▸ hnodup)
      rw [List.length_append, ← happend] at hrest
      rw [collisions, List.zipIdx_cons, List.filterMap_cons, List.take_left, collision?, ← hstands]
      split
      next other hfind =>
        have hfind : seen.find? (like name) = some other := hfind
        have hne : other ≠ name := by
          rintro rfl
          exact hstands.find?_ne_self hnodup hfind
        rw [if_neg hne, hfind, hrest (hstands.known hfind)]
        rfl
      next hfind =>
        have hfind : seen.find? (like name) = none := hfind
        rw [hfind, hrest hstands.new]
        rfl

theorem collisions_nil_eq {entity : String} (hnodup : names.Nodup) :
    collisions entity [] names = collisionReport entity names :=
  collisions_eq (fun _ => rfl) hnodup

/-- There are no collisions exactly if the names are distinct in lower case. -/
theorem collisionReport_eq_nil_iff {entity : String} (hnodup : names.Nodup) :
    collisionReport entity names = [] ↔ (names.map Text.lowercase).Nodup := by
  rw [← collisions_nil_eq hnodup, collisions_eq_nil_iff (by simp), List.nil_append,
    List.nodup_map_iff_inj_on hnodup]

end Validation

/-! ## Reports -/

/-- Whether a diagnostic is about names that differ in case only. -/
def Diagnostic.IsCollision (diagnostic : Diagnostic) : Prop :=
  ∃ entity name other, diagnostic.finding = .caseCollision entity name other

theorem Validation.isCollision_of_mem {entity : String} {names : List String}
    {diagnostic : Diagnostic} (h : diagnostic ∈ collisionReport entity names) :
    diagnostic.IsCollision := by
  obtain ⟨⟨name, i⟩, -, hcollision⟩ := List.mem_filterMap.mp h
  obtain ⟨other, -, rfl⟩ := Option.map_eq_some_iff.mp hcollision
  exact ⟨entity, name, other, rfl⟩

namespace Descriptor

open Validation

/-- The warnings for names in the index that are not field names, by property. -/
def invalidReport (d : Descriptor) : List Diagnostic :=
  d.mapped.flatMap fun p => ((indexedNames p).filter fun name => ¬IsFieldName name).map fun name =>
    ⟨.warning, .invalidFieldName d.name p.name name⟩

/-- The warnings for wire names that are reserved. -/
def reservedReport (d : Descriptor) : List Diagnostic :=
  (d.mapped.filter fun p => p.fieldName ∈ reservedNames).map fun p =>
    ⟨.warning, .reservedFieldName d.name p.name p.fieldName⟩

/-- Whether a validation reports what is wrong with the names of a descriptor, in order, and nothing
else. -/
structure ExactReport (d : Descriptor) : Prop where
  validate_eq : d.validate false = d.invalidReport ++ d.reservedReport ++
    collisionReport d.name (d.mapped.map (·.fieldName))
  /-- There are collisions unless the wire names are distinct in lower case. -/
  no_collision_iff : (∀ diagnostic ∈ d.validate false, ¬diagnostic.IsCollision) ↔
    (d.mapped.map fun p => Text.lowercase p.fieldName).Nodup
  /-- What a call of the check for collisions finds is the end of the report. -/
  collisions_suffix : ∀ seen rest : List String, Visits (d.mapped.map (·.fieldName)) seen rest →
    collisions d.name seen rest <:+ d.validate false
  /-- None of these calls finds a name that is the same. -/
  find?_ne_self : ∀ (seen rest : List String) (name : String),
    Visits (d.mapped.map (·.fieldName)) seen (name :: rest) → seen.find? (like name) ≠ some name

variable {config : Config} {definition : EntityDefinition} {d : Descriptor}

theorem flatMap_invalidNames (d : Descriptor) :
    d.mapped.flatMap (invalidNames.property d) = d.invalidReport := by
  have hfilter (p : Property) : ((indexedNames p).filter fun name => !isValidName name) =
      (indexedNames p).filter fun name => ¬IsFieldName name := by
    apply List.filter_congr
    intro name _
    rw [Bool.eq_iff_iff]
    simp [← isValidName_iff]
  simp only [invalidNames, invalidReport, hfilter]

theorem flatMap_reserved (d : Descriptor) :
    d.mapped.flatMap (reserved.property d) = d.reservedReport := by
  rw [reservedReport, ← flatMap_ite_singleton]
  simp [reserved]

theorem validate_eq_of_build (h : build config definition = .ok d) :
    d.validate false = d.invalidReport ++ d.reservedReport ++
      collisionReport d.name (d.mapped.map (·.fieldName)) := by
  rw [validate_lenient, flatMap_invalidNames, flatMap_reserved,
    collisions_nil_eq (describes_of_build h).nodup_mapped]

/-- The report of every descriptor that is built is exact. -/
theorem exactReport_of_build (h : build config definition = .ok d) : d.ExactReport := by
  have hnodup := (describes_of_build h).nodup_mapped
  have hreport := validate_eq_of_build h
  constructor
  case validate_eq => exact hreport
  case no_collision_iff =>
    have hlower : (d.mapped.map fun p => Text.lowercase p.fieldName) =
        (d.mapped.map (·.fieldName)).map Text.lowercase := by
      rw [List.map_map]
      rfl
    rw [hlower, ← collisionReport_eq_nil_iff hnodup, hreport]
    constructor
    · intro hnone
      rw [List.eq_nil_iff_forall_not_mem]
      intro diagnostic hmem
      exact hnone diagnostic (List.mem_append_right _ hmem) (isCollision_of_mem hmem)
    · intro hnil diagnostic hmem
      rintro ⟨entity, name, other, hcollision⟩
      simp only [hnil, List.append_nil, List.mem_append, invalidReport, reservedReport,
        List.mem_flatMap, List.mem_map] at hmem
      rcases hmem with ⟨p, -, name', -, rfl⟩ | ⟨p, -, rfl⟩
      · cases hcollision
      · cases hcollision
  case collisions_suffix =>
    intro seen rest hvisits
    rw [hreport, ← collisions_nil_eq hnodup]
    exact (hvisits.collisions_suffix d.name).trans (List.suffix_append _ _)
  case find?_ne_self =>
    intro seen rest name hvisits
    exact hvisits.find?_ne_self hnodup

/-! ## Catalogues -/

/-- A catalogue has a name that is reserved, one that is not a field name, and three names that differ
in case only. -/
def catalogue : EntityDefinition where
  name := "Catalogue"
  properties := [
    { name := "key", kind := .string, field := .single { name := some "_ID" } },
    { name := "source", kind := .string, field := .single { name := some "_id" } },
    { name := "title", kind := .string, field := .multi { type := .text, name := some "ti tle" }
        [⟨"raw", { type := .keyword }⟩] },
    { name := "code", kind := .string, field := .single { name := some "_Id" } }]

/-- Each name is reported, and both later names collide with the first one. -/
theorem exactReport_catalogue : ∃ d, build {} catalogue = .ok d ∧ d.validate false = [
    ⟨.warning, .invalidFieldName "Catalogue" "title" "ti tle"⟩,
    ⟨.warning, .invalidFieldName "Catalogue" "title" "ti tle.raw"⟩,
    ⟨.warning, .reservedFieldName "Catalogue" "source" "_id"⟩,
    ⟨.warning, .caseCollision "Catalogue" "_id" "_ID"⟩,
    ⟨.warning, .caseCollision "Catalogue" "_Id" "_ID"⟩] := by
  obtain ⟨d, hd⟩ : ∃ d, build {} catalogue = .ok d := ⟨_, rfl⟩
  have hexact := exactReport_of_build hd
  refine ⟨d, hd, ?_⟩
  rw [hexact.validate_eq]
  cases hd
  decide

end Descriptor

end ObjectDocument
