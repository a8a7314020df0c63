import ObjectDocument.Proofs.Converter.FirstForm
import ObjectDocument.Proofs.Index.Declarations

/-!
# Date formats in mappings

The engine parses the dates of a field by the formats in its mapping, and the converter of the field
prints and parses them by its forms. Both are made of the same declaration, by different ways: the
mapping leaves out the formats that have no name, the converter those that have no form. These are the
same formats, so both try the same alternatives in the same order.
-/

namespace ObjectDocument

/-! ## Sources of forms -/

/-- Apart from the epoch formats, the formats without a name are those without a pattern. -/
theorem DateFormat.isUnnamed_eq {format : DateFormat} (hmillis : format ≠ .epochMillis)
    (hsecond : format ≠ .epochSecond) : format.isUnnamed = format.pattern?.isNone := by
  cases format with
  | epochMillis => exact absurd rfl hmillis
  | epochSecond => exact absurd rfl hsecond
  | _ => rfl

/-- What a form of dates is declared by. -/
inductive FormSource where
  | format (format : DateFormat)
  | pattern (source : String)
deriving DecidableEq, Repr

namespace FormSource

/-- How a source is written in mappings: the engine's name of a format, or the text of a pattern. -/
def name : FormSource → String
  | format f => f.name
  | pattern source => source

/-- The form that a source stands for, if it has one. -/
def form : FormSource → Except Error (Option DateForm)
  | format f => DateForm.ofFormat f
  | pattern source => (DateForm.compile source).map fun p => some (.pattern p)

/-- The form of a source; one that is faulty has none. -/
def form? (source : FormSource) : Option DateForm :=
  match source.form with
  | .ok form => form
  | .error _ => none

/-- Whether a source is written in mappings. -/
def isNamed : FormSource → Bool
  | format f => !f.isUnnamed
  | pattern _ => true

/-- The forms of sources in their order, each with the source that it comes from. -/
def forms (sources : List FormSource) : List (FormSource × DateForm) :=
  sources.filterMap fun source => source.form?.map fun form => (source, form)

/-- A named source has a form, and only such a one. -/
theorem isSome_of_form {source : FormSource} {form : Option DateForm} (h : source.form = .ok form) :
    form.isSome = source.isNamed := by
  cases source with
  | pattern text =>
      obtain ⟨p, -, rfl⟩ := map_eq_ok_iff.mp h
      rfl
  | format f =>
      rw [FormSource.form, DateForm.ofFormat.eq_def] at h
      split at h
      next =>
        cases h
        rfl
      next =>
        cases h
        rfl
      next =>
        obtain ⟨ps, -, rfl⟩ := map_eq_ok_iff.mp h
        rfl
      next hmillis hsecond _ =>
        -- What is left has the form of its pattern, or neither a pattern nor a name.
        split at h
        next text htext =>
          obtain ⟨p, -, rfl⟩ := map_eq_ok_iff.mp h
          rw [isNamed, DateFormat.isUnnamed_eq hmillis hsecond, htext]
          rfl
        next htext =>
          cases h
          rw [isNamed, DateFormat.isUnnamed_eq hmillis hsecond, htext]
          rfl

variable {source : FormSource} {form : DateForm} {sources : List FormSource}
  {given : List (Option DateForm)}

theorem forms_cons_of_none (h : source.form = .ok none) :
    forms (source :: sources) = forms sources := by
  unfold forms
  apply List.filterMap_cons_none
  rw [form?, h]
  rfl

theorem forms_cons_of_some (h : source.form = .ok (some form)) :
    forms (source :: sources) = (source, form) :: forms sources := by
  unfold forms
  apply List.filterMap_cons_some
  rw [form?, h]
  rfl

/-- The forms are those that the sources give. -/
theorem map_snd_forms (h : List.Forall₂ (fun source form => source.form = .ok form) sources given) :
    (forms sources).map Prod.snd = given.filterMap id := by
  induction h with
  | nil => rfl
  | @cons source form sources given hform hrest ih =>
      cases form with
      | none =>
          rw [forms_cons_of_none hform, ih]
          exact (List.filterMap_cons_none rfl).symm
      | some form =>
          rw [forms_cons_of_some hform, List.map_cons, ih]
          rfl

/-- Every named source has its form, and no other one. -/
theorem map_fst_forms (h : List.Forall₂ (fun source form => source.form = .ok form) sources given) :
    (forms sources).map Prod.fst = sources.filter (·.isNamed) := by
  induction h with
  | nil => rfl
  | @cons source form sources given hform hrest ih =>
      have hnamed := isSome_of_form hform
      cases form with
      | none =>
          rw [forms_cons_of_none hform, ih, List.filter_cons, ← hnamed]
          rfl
      | some form =>
          rw [forms_cons_of_some hform, List.map_cons, ih, List.filter_cons, ← hnamed]
          rfl

end FormSource

namespace Field

/-- The formats of a field, followed by its patterns. -/
def formSources (f : Field) : List FormSource :=
  f.dateFormats.map .format ++ f.patterns.map .pattern

/-- The forms of a field in their order, each with the format or the pattern that it comes from. -/
def forms (f : Field) : List (FormSource × DateForm) :=
  FormSource.forms f.formSources

end Field

/-- The formats in a mapping are the sources that have a name. -/
theorem Mapping.formatNames_eq (f : Field) :
    formatNames f = (f.formSources.filter (·.isNamed)).map (·.name) := by
  have hformats : ((f.dateFormats.map FormSource.format).filter (·.isNamed)).map (·.name) =
      (f.dateFormats.filter (!·.isUnnamed)).map DateFormat.name := by
    rw [List.filter_map, List.map_map]
    rfl
  have hpatterns : ((f.patterns.map FormSource.pattern).filter (·.isNamed)).map (·.name) =
      f.patterns := by
    rw [List.filter_map, List.map_map]
    exact (List.map_id _).trans (List.filter_eq_self.mpr fun _ _ => rfl)
  rw [formatNames, Field.formSources, List.filter_append, List.map_append, hformats, hpatterns]

/-! ## Forms of converters -/

/-- The converter of some forms; there is none without a form. -/
def DateConverter.ofForms (kind : Kind) : List DateForm → Option DateConverter
  | [] => none
  | forms => some ⟨kind, forms⟩

/-- A converter that is built of a field has the forms of the field. -/
theorem DateConverter.build_field {kind : Kind} {f : Field} {c : Option DateConverter}
    (h : build kind f.dateFormats f.patterns = .ok c) :
    ∃ given, List.Forall₂ (fun source form => source.form = .ok form) f.formSources given ∧
      c = ofForms kind (given.filterMap id) := by
  obtain ⟨named, hnamed, h⟩ := bind_eq_ok.mp h
  obtain ⟨custom, hcustom, h⟩ := bind_eq_ok.mp h
  have hgiven : (named ++ custom.map fun p => some (DateForm.pattern p)).filterMap id =
      named.filterMap id ++ custom.map DateForm.pattern := by
    rw [List.filterMap_append, List.filterMap_map]
    exact congrArg _ (congrFun List.filterMap_eq_map custom)
  refine ⟨named ++ custom.map fun p => some (DateForm.pattern p), ?_, ?_⟩
  · apply List.rel_append
    · rw [List.forall₂_map_left_iff]
      exact mapM_eq_ok.mp hnamed
    · rw [List.forall₂_map_left_iff, List.forall₂_map_right_iff]
      apply (mapM_eq_ok.mp hcustom).imp
      intro text p hp
      rw [FormSource.form, hp]
      rfl
  · rw [hgiven]
    split at h
    next hnil =>
      cases h
      rw [hnil]
      rfl
    next forms hforms =>
      cases h
      cases hcases : named.filterMap id ++ custom.map DateForm.pattern with
      | nil => exact absurd hcases hforms
      | cons form forms => rfl

/-- The converter of a date field without one of its own has the forms of the field. -/
theorem Property.converterOf_field {entity name : String} {kind : Kind} {f : Field}
    {c : Option PropertyConverter} (hconverter : f.converter = none) (hdate : f.type.isDate = true)
    (htemporal : kind.isTemporal = true) (h : converterOf entity name kind (some f) = .ok c) :
    ∃ dates, DateConverter.build kind.element f.dateFormats f.patterns = .ok dates ∧
      c = dates.map .dates := by
  rw [converterOf, hconverter] at h
  dsimp only at h
  rw [hdate, htemporal] at h
  split at h
  next hfalse => cases hfalse
  next =>
    split at h
    next => cases h
    next =>
      obtain ⟨dates, hbuild, rfl⟩ := map_eq_ok_iff.mp h
      exact ⟨dates, hbuild, rfl⟩

/-! ## Agreement -/

/-- Whether the format in the mapping of a date field and the converter of the property are the forms
of the field, in one order. -/
structure FormatsAgree (p : Property) (f : Field) (format : Option Json) : Prop where
  converter_eq : p.converter =
    (DateConverter.ofForms p.kind.element (f.forms.map Prod.snd)).map .dates
  format_eq : format =
    if (f.format.isSome = true ∨ f.patterns ≠ []) ∧ f.forms ≠ [] then
      some (.string (Text.join "||" (f.forms.map fun x => x.1.name)))
    else none
  /-- Values are written in the first form. -/
  write_eq_ok_iff : ∀ c, p.converter = some (.dates c) → ∀ v t, DateConverter.utc? v = some t →
    ∀ text, c.write v = .ok text ↔
      ∃ first rest, f.forms = first :: rest ∧ first.2.write? t = some text
  /-- Texts are read in each form in turn. -/
  read_eq_ok_iff : ∀ c, p.converter = some (.dates c) → ∀ text v, c.read text = .ok v ↔
    ∃ tried x rest, f.forms = tried ++ x :: rest ∧ x.2.read? text p.kind.element = some v ∧
      ∀ y ∈ tried, y.2.read? text p.kind.element = none

namespace DateConverter

variable {c : DateConverter} {shown : List (FormSource × DateForm)}

theorem eq_of_ofForms {kind : Kind} {forms : List DateForm} (h : ofForms kind forms = some c) :
    c = ⟨kind, forms⟩ := by
  cases forms with
  | nil => cases h
  | cons form forms => exact (Option.some.inj h).symm

theorem write_eq_ok_iff_shown (hforms : c.forms = shown.map Prod.snd) {v : Value} {t : DateTime}
    (hv : utc? v = some t) {text : String} : c.write v = .ok text ↔
      ∃ first rest, shown = first :: rest ∧ first.2.write? t = some text := by
  rw [write, hv, hforms]
  cases shown with
  | nil => simp
  | cons first rest =>
      cases hfirst : first.2.write? t with
      | none => simp [hfirst]
      | some written => simp [hfirst]

theorem read_eq_ok_iff_shown (hforms : c.forms = shown.map Prod.snd) {text : String} {v : Value} :
    c.read text = .ok v ↔ ∃ tried x rest, shown = tried ++ x :: rest ∧
      x.2.read? text c.kind = some v ∧ ∀ y ∈ tried, y.2.read? text c.kind = none := by
  rw [read_eq_ok_iff, hforms, List.findSome?_map, List.findSome?_eq_some_iff]
  rfl

end DateConverter

namespace Mapping

variable {family : Family} {config : Config} {d : Descriptor} {p : Property} {m : Mapping}

theorem format?_eq {f : Field} (hdate : f.type.isDate = true)
    (hnames : formatNames f = f.forms.map fun x => x.1.name) : format? f =
      if (f.format.isSome = true ∨ f.patterns ≠ []) ∧ f.forms ≠ [] then
        some (Text.join "||" (f.forms.map fun x => x.1.name))
      else none := by
  rw [format?, hdate, hnames]
  simp

/-- The date formats in a generated mapping are those that the converter writes and reads, in the same
order. -/
theorem formats_agree (h : Generated family config d m) (hp : p ∈ d.mapped)
    (hrole : p.role = .plain ∨ p.role = .id) (htemporal : p.kind.isTemporal = true) {f : Field}
    (hf : p.field? = some f) (htype : f.type = .date ∨ f.type = .dateNanos)
    (hconverter : f.converter = none) :
    ∃ e, Entries.get? p.fieldName m = some e ∧
      FormatsAgree p f (Entries.get? "format" e.parameters) := by
  obtain ⟨⟨definition, hd⟩, -⟩ := h.unfolded
  obtain ⟨e, he, hparameters⟩ := h.exists_entry hp
  refine ⟨e, he, ?_⟩
  have hdate : f.type.isDate = true := Property.isDate_iff.mpr htype
  obtain ⟨declared, -, hrepresents, hbuilt⟩ :=
    Descriptor.converterFor_of_mem hd (List.mem_filter.mp hp).1
  have hmain : declared.field.mainField? = some f := by
    rw [← hrepresents.spec_eq]
    exact hf
  rw [Property.converterFor, if_pos (hrepresents.roleOf_plain_or_id hrole), hmain,
    ← hrepresents.declares.kind_eq] at hbuilt
  obtain ⟨dates, hdates, hc⟩ := Property.converterOf_field hconverter hdate htemporal hbuilt
  obtain ⟨given, hgiven, rfl⟩ := DateConverter.build_field hdates
  rw [← FormSource.map_snd_forms hgiven] at hc
  have hnames : formatNames f = f.forms.map fun x => x.1.name := by
    rw [formatNames_eq, ← FormSource.map_fst_forms hgiven, List.map_map]
    rfl
  have hforms {c : DateConverter} (hsome : p.converter = some (.dates c)) :
      c = ⟨p.kind.element, f.forms.map Prod.snd⟩ := by
    rw [hc] at hsome
    obtain ⟨c', hc', heq⟩ := Option.map_eq_some_iff.mp hsome
    cases heq
    exact DateConverter.eq_of_ofForms hc'
  constructor
  case converter_eq => exact hc
  case format_eq =>
    rw [hparameters, get?_format_parametersOf, hf, Option.bind_some, format?_eq hdate hnames]
    split
    · rfl
    · rfl
  case write_eq_ok_iff =>
    intro c hsome v t hv text
    exact DateConverter.write_eq_ok_iff_shown (congrArg DateConverter.forms (hforms hsome)) hv
  case read_eq_ok_iff =>
    intro c hsome text v
    obtain rfl := hforms hsome
    exact DateConverter.read_eq_ok_iff_shown rfl

/-! ## Appointments -/

/-- A date with named formats, an unnamed one, a pattern and a blank one. -/
def appointmentDay : Field where
  type := .date
  format := some [.custom, .basicDate, .epochMillis, .none]
  pattern := [" ", "dd.MM.uuuu"]

def appointment : EntityDefinition where
  name := "Appointment"
  properties := [{ name := "day", kind := .localDate, field := .single appointmentDay }]

/-- The engine and the converter take days as basic dates, in milliseconds and by the pattern. -/
theorem formats_agree_appointment : ∃ d m p e c, Descriptor.build {} appointment = .ok d ∧
    Generated ⟨[]⟩ {} d m ∧ p ∈ d.mapped ∧ Entries.get? p.fieldName m = some e ∧
    Entries.get? "format" e.parameters =
      some (.string "basic_date||epoch_millis||dd.MM.uuuu") ∧
    p.converter = some (.dates c) ∧
    c.forms.map DateForm.name = ["uuuuMMdd", "epoch_millis", "dd.MM.uuuu"] := by
  obtain ⟨d, hd⟩ : ∃ d, Descriptor.build {} appointment = .ok d := ⟨_, rfl⟩
  obtain ⟨m, hm⟩ : ∃ m, Generated ⟨[]⟩ {} d m := exists_generated (by simp) hd
  have hfirst : ∃ p, d.mapped.head? = some p ∧ p.role = .plain ∧ p.kind = .localDate ∧
      p.field? = some appointmentDay := by
    cases hd
    exact ⟨_, rfl, rfl, rfl, rfl⟩
  obtain ⟨p, hp, hrole, hkind, hf⟩ := hfirst
  have hmapped : p ∈ d.mapped := List.mem_of_head? hp
  have htemporal : p.kind.isTemporal = true := by
    rw [hkind]
    rfl
  obtain ⟨e, he, hagree⟩ := formats_agree hm hmapped (.inl hrole) htemporal hf (.inl rfl) rfl
  have hnames : appointmentDay.forms.map (fun x => x.2.name) =
      ["uuuuMMdd", "epoch_millis", "dd.MM.uuuu"] := rfl
  have hforms : appointmentDay.forms ≠ [] := by
    intro hnil
    rw [hnil] at hnames
    cases hnames
  refine ⟨d, m, p, e, ⟨p.kind.element, appointmentDay.forms.map Prod.snd⟩, hd, hm, hmapped, he, ?_,
    ?_, ?_⟩
  · rw [hagree.format_eq, if_pos ⟨.inl rfl, hforms⟩]
    rfl
  · rw [hagree.converter_eq]
    rfl
  · rw [List.map_map]
    exact hnames

end Mapping

end ObjectDocument
