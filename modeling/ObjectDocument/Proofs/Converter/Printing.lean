import ObjectDocument.Proofs.Datum
import ObjectDocument.Proofs.Descriptor.WellFormed

/-!
# Date converters write every date

Each form of dates prints every date-time, and a date converter that is built has a form. So the
converter of a property without one of its own refuses no value of the property's kind.
-/

namespace ObjectDocument

/-! ## Forms -/

theorem DateForm.exists_write {form : DateForm} (h : form ≠ .lenient []) (t : DateTime) :
    ∃ s, form.write? t = some s := by
  cases form with
  | lenient ps =>
      cases ps with
      | nil => exact absurd rfl h
      | cons p ps => exact ⟨p.print t, rfl⟩
  | _ => exact ⟨_, rfl⟩

/-- The lenient form that a format names has patterns. -/
theorem DateForm.ne_lenient_nil {format : DateFormat} {form : DateForm}
    (h : ofFormat format = .ok (some form)) : form ≠ .lenient [] := by
  unfold ofFormat at h
  split at h
  · cases h
    simp
  · cases h
    simp
  · obtain ⟨ps, hps, hform⟩ := map_eq_ok_iff.mp h
    cases hform
    -- There are as many compiled patterns as texts.
    have hlength := (mapM_eq_ok.mp hps).length_eq
    rintro heq
    cases heq
    cases hlength
  · split at h
    · obtain ⟨p, -, hform⟩ := map_eq_ok_iff.mp h
      cases hform
      simp
    · cases h

namespace DateConverter

variable {kind : Kind} {formats : List DateFormat} {patterns : List String} {c : DateConverter}

/-- A converter that is built has a form, and writes with each of its forms. -/
theorem forms_of_build (h : build kind formats patterns = .ok (some c)) :
    c.forms ≠ [] ∧ ∀ form ∈ c.forms, form ≠ .lenient [] := by
  rw [build] at h
  obtain ⟨named, hnamed, h⟩ := bind_eq_ok.mp h
  obtain ⟨custom, hcustom, h⟩ := bind_eq_ok.mp h
  have hforms : ∀ form ∈ named.filterMap id ++ custom.map .pattern, form ≠ .lenient [] := by
    intro form hform
    rcases List.mem_append.mp hform with hform | hform
    · obtain ⟨named?, hmem, rfl⟩ := List.mem_filterMap.mp hform
      obtain ⟨format, -, hformat⟩ := exists_mem_of_mapM_eq_ok hnamed hmem
      exact DateForm.ne_lenient_nil hformat
    · obtain ⟨p, -, rfl⟩ := List.mem_map.mp hform
      simp
  split at h
  · cases h
  next forms hne =>
    cases h
    exact ⟨hne, hforms⟩

theorem exists_write (h : build kind formats patterns = .ok (some c)) {v : Value} {t : DateTime}
    (hv : utc? v = some t) : ∃ s, c.write v = .ok s := by
  obtain ⟨hne, hforms⟩ := forms_of_build h
  cases hc : c.forms with
  | nil => exact absurd hc hne
  | cons form forms =>
      obtain ⟨s, hs⟩ := DateForm.exists_write (hforms form (hc ▸ List.mem_cons_self)) t
      exact ⟨s, by simp [write, hv, hc, hs]⟩

/-- A single value of a temporal kind is a point in time. -/
theorem exists_utc {d : Datum} {b : Base} {kind : Kind} (hd : d.leaf? = some b)
    (hkind : b.kind = kind.element) (htemporal : kind.isTemporal = true) :
    ∃ t, utc? d.toValue = some t := by
  rw [Kind.isTemporal, ← hkind] at htemporal
  cases d with
  | date d => exact ⟨_, rfl⟩
  | dateTime t => exact ⟨_, rfl⟩
  | instant t => exact ⟨_, rfl⟩
  | _ => cases hd <;> cases htemporal

end DateConverter

/-! ## Properties -/

namespace Property

/-- Whether the converter of a property, if there is one, writes every single value of the
property's kind. -/
def WritesAll (p : Property) : Prop :=
  ∀ c, p.converter = some c → ∀ (d : Datum) (b : Base), d.leaf? = some b →
    b.kind = p.kind.element → ∃ s, c.toConverter.write d.toValue = .ok s

/-- Without a converter of its own, a field has one for dates only. -/
theorem converterOf_eq_ok {entity name : String} {kind : Kind} {field : Option Field}
    {c : PropertyConverter} (hfield : ∀ f, field = some f → f.converter = none)
    (h : converterOf entity name kind field = .ok (some c)) :
    kind.isTemporal = true ∧ ∃ (formats : List DateFormat) (patterns : List String)
      (dates : DateConverter), c = .dates dates ∧
        DateConverter.build kind.element formats patterns = .ok (some dates) := by
  cases field with
  | none => cases h
  | some field =>
      rw [converterOf, hfield field rfl] at h
      dsimp only at h
      split at h
      · cases h
      · split at h
        · cases h
        · split at h
          · cases h
          next htemporal =>
            obtain ⟨dates?, hbuild, hc⟩ := map_eq_ok_iff.mp h
            obtain ⟨dates, rfl, rfl⟩ := Option.map_eq_some_iff.mp hc
            exact ⟨by simpa using htemporal, _, _, dates, rfl, hbuild⟩

theorem writesAll_of_converterFor {entity : String} {e : PropertyDefinition} {p : Property}
    (hfield : ∀ f, e.field.mainField? = some f → f.converter = none) (hkind : p.kind = e.kind)
    (h : converterFor entity e = .ok p.converter) : p.WritesAll := by
  intro c hc d b hd hb
  rw [hc, converterFor] at h
  split at h
  · obtain ⟨htemporal, formats, patterns, dates, rfl, hbuild⟩ := converterOf_eq_ok hfield h
    rw [hkind] at hb
    obtain ⟨t, ht⟩ := DateConverter.exists_utc hd hb htemporal
    exact DateConverter.exists_write hbuild ht
  · cases h

/-- No property of a type writes less than its kind has, if no field has a converter of its own. -/
theorem writesAll_of_build {config : Config} {definition : EntityDefinition} {d : Descriptor}
    (h : Descriptor.build config definition = .ok d)
    (hfields : ∀ e ∈ definition.properties, ∀ f, e.field.mainField? = some f →
      f.converter = none) {p : Property} (hp : p ∈ d.properties) : p.WritesAll := by
  obtain ⟨e, he, hrepresents, hconverter⟩ := Descriptor.converterFor_of_mem h hp
  exact writesAll_of_converterFor (hfields e he) hrepresents.declares.kind_eq hconverter

end Property

end ObjectDocument
