import ObjectDocument.Proofs.Descriptor.Strict
import ObjectDocument.Proofs.Naming
import ObjectDocument.Proofs.Report

/-!
# Wire names in snake case

Wire names in snake case hold no dot, no white space and no capital, and begin with no underscore. So
none is reserved, and names that are distinct are distinct in lower case. All that a validation can
find is the one name that is empty, of a property whose declared name has no letter or digit.
-/

namespace ObjectDocument

/-- Whether a name has a letter or a digit of ASCII. -/
def HasAlphanum (name : String) : Prop :=
  ∃ c ∈ name.toList, c.isAlphanum = true

instance : DecidablePred HasAlphanum :=
  fun name => decidable_of_iff (name.toList.any Char.isAlphanum = true) List.any_eq_true

/-- Whether the names of properties are ASCII, and the wire names are left to the naming strategy:
none is declared, and there are no inner fields. -/
structure EntityDefinition.NamedByStrategy (definition : EntityDefinition) : Prop where
  ascii : ∀ p ∈ definition.properties, ∀ c ∈ p.name.toList, c.toNat < 128
  unnamed : ∀ p ∈ definition.properties, (p.field.mainField?.bind (·.name)).getD "" = ""
  innerFields_eq : ∀ p ∈ definition.properties, p.field.innerFields = []

namespace NamingStrategy

open Naming

variable {name : String}

/-- Without an explicit name that is not empty the strategy decides. -/
theorem resolve_eq_fieldName (strategy : NamingStrategy) {explicit : Option String}
    (h : explicit.getD "" = "") : strategy.resolve name explicit = strategy.fieldName name := by
  cases explicit with
  | none => rfl
  | some wire =>
      obtain rfl : wire = "" := h
      rfl

theorem isSnakeCase_fieldName (h : ∀ c ∈ name.toList, c.toNat < 128) :
    IsSnakeCase (snakeCase.fieldName name).toList := by
  rw [fieldName, String.toList_ofList]
  exact isSnakeCase_snakeCase h

theorem fieldName_eq_self (h : IsSnakeCase name.toList) : snakeCase.fieldName name = name := by
  rw [fieldName, snakeCase_eq_self h, String.ofList_toList]

theorem fieldName_eq_empty_iff (h : ∀ c ∈ name.toList, c.toNat < 128) :
    snakeCase.fieldName name = "" ↔ ¬HasAlphanum name := by
  rw [fieldName, ← String.toList_eq_nil_iff, String.toList_ofList, snakeCase_eq_nil_iff h]
  simp [HasAlphanum]

end NamingStrategy

namespace Validation

open Naming

variable {name : String}

/-- A name in snake case is a single segment. -/
theorem isFieldName_iff_of_isSnakeCase (h : IsSnakeCase name.toList) :
    IsFieldName name ↔ name ≠ "" := by
  constructor
  · rintro ⟨segments, hne, hsegments, hname⟩ rfl
    have hnonempty : ∀ segment ∈ segments, segment ≠ [] := fun segment hs => (hsegments segment hs).1
    exact hne ((Text.intercalate_eq_nil_iff hnonempty).mp hname.symm)
  · intro hne
    refine ⟨[name.toList], by simp, ?_, by rw [List.intercalate_singleton]⟩
    intro segment hsegment
    obtain rfl := List.mem_singleton.mp hsegment
    refine ⟨by simpa using hne, fun hdot => ?_, fun c hc => ?_⟩
    · rcases h.eq_underscore_or hdot with hdot | hdot
      · exact absurd hdot (by decide)
      · exact absurd hdot (by decide)
    · rcases h.eq_underscore_or hc with rfl | hc
      · rfl
      · exact hc.isBlank_eq

/-- Every reserved name begins with an underscore. -/
theorem head?_of_mem_reservedNames : ∀ name ∈ reservedNames, name.toList.head? = some '_' := by
  decide

theorem not_mem_reservedNames (h : IsSnakeCase name.toList) : name ∉ reservedNames := by
  intro hmem
  have hhead := head?_of_mem_reservedNames name hmem
  cases hname : name.toList with
  | nil =>
      rw [hname] at hhead
      cases hhead
  | cons c cs =>
      rw [hname] at h hhead
      obtain rfl : c = '_' := Option.some.inj hhead
      exact absurd h.isWordChar_head (by decide)

theorem lowercaseAfter_eq_self {before cs : List Char} (h : ∀ c ∈ cs, c = '_' ∨ IsWordChar c) :
    Text.lowercaseAfter before cs = cs := by
  induction cs generalizing before with
  | nil => rfl
  | cons c cs ih =>
      obtain ⟨hc, hcs⟩ := List.forall_mem_cons.mp h
      have hchar : c ≠ Text.capitalSigma ∧ Text.lowercaseChar c = [c] := by
        rcases hc with rfl | hc
        · decide
        · refine ⟨?_, by rw [lowercaseChar_of_ascii hc.toNat_lt, hc.toLower_eq]⟩
          rintro rfl
          exact absurd hc (by decide)
      rw [Text.lowercaseAfter, if_neg hchar.1, hchar.2, ih hcs]
      rfl

theorem lowercase_eq_self (h : IsSnakeCase name.toList) : Text.lowercase name = name := by
  rw [Text.lowercase, lowercaseAfter_eq_self fun c hc => h.eq_underscore_or hc, String.ofList_toList]

end Validation

namespace Descriptor

open Naming Validation

/-- What the validation of a descriptor in snake case comes to, and strict mode with it. -/
structure CleanInSnakeCase (definition : EntityDefinition) (d : Descriptor) : Prop where
  fieldName_eq : ∀ p ∈ d.properties, p.fieldName = NamingStrategy.snakeCase.fieldName p.name
  /-- The strategy leaves the wire names that it gave as they are. -/
  fieldName_fixed : ∀ p ∈ d.properties,
    NamingStrategy.snakeCase.fieldName p.fieldName = p.fieldName
  /-- Only mapped properties are reported whose names have no letter or digit. -/
  validate_eq : d.validate false = (d.mapped.filter fun p => ¬HasAlphanum p.name).map fun p =>
    ⟨.warning, .invalidFieldName d.name p.name p.fieldName⟩
  strict_ok_iff : build ⟨.snakeCase, true⟩ definition = .ok d ↔ ∀ p ∈ d.mapped, HasAlphanum p.name
  /-- Strict mode rejects the definition for such a property. -/
  strict_error : ∀ p ∈ d.mapped, ¬HasAlphanum p.name →
    build ⟨.snakeCase, true⟩ definition =
      .error (.invalidFieldName definition.name ⟨.error, .invalidFieldName d.name p.name ""⟩)

variable {definition : EntityDefinition} {d : Descriptor}

/-- What the wire names of a built descriptor are, and that there are no inner names. -/
theorem fieldName_of_namedByStrategy (h : build ⟨.snakeCase, false⟩ definition = .ok d)
    (hnames : definition.NamedByStrategy) {p : Property} (hp : p ∈ d.properties) :
    (∀ c ∈ p.name.toList, c.toNat < 128) ∧
      p.fieldName = NamingStrategy.snakeCase.fieldName p.name ∧ indexedNames p = [p.fieldName] := by
  obtain ⟨e, he, hrepresents⟩ := represents_of_mem h hp
  rw [indexedNames, hrepresents.spec_eq, hnames.innerFields_eq e he, hrepresents.declares.name_eq]
  refine ⟨hnames.ascii e he, ?_, rfl⟩
  rw [hrepresents.fieldName_eq]
  exact NamingStrategy.resolve_eq_fieldName .snakeCase (hnames.unnamed e he)

/-- Snake case is what such a descriptor has on the wire. -/
theorem isSnakeCase_of_namedByStrategy (h : build ⟨.snakeCase, false⟩ definition = .ok d)
    (hnames : definition.NamedByStrategy) {p : Property} (hp : p ∈ d.properties) :
    IsSnakeCase p.fieldName.toList := by
  obtain ⟨hascii, hname, -⟩ := fieldName_of_namedByStrategy h hnames hp
  rw [hname]
  exact NamingStrategy.isSnakeCase_fieldName hascii

theorem validate_of_namedByStrategy (h : build ⟨.snakeCase, false⟩ definition = .ok d)
    (hnames : definition.NamedByStrategy) :
    d.validate false = (d.mapped.filter fun p => ¬HasAlphanum p.name).map fun p =>
      ⟨.warning, .invalidFieldName d.name p.name p.fieldName⟩ := by
  have hsnake {p : Property} (hp : p ∈ d.mapped) :=
    isSnakeCase_of_namedByStrategy h hnames (List.mem_of_mem_filter hp)
  have hinvalid : d.invalidReport = (d.mapped.filter fun p => ¬HasAlphanum p.name).map fun p =>
      ⟨.warning, .invalidFieldName d.name p.name p.fieldName⟩ := by
    rw [invalidReport, ← flatMap_ite_singleton]
    refine List.flatMap_congr fun p hp => ?_
    obtain ⟨hascii, hname, hindexed⟩ :=
      fieldName_of_namedByStrategy h hnames (List.mem_of_mem_filter hp)
    have hempty : IsFieldName p.fieldName ↔ HasAlphanum p.name := by
      rw [isFieldName_iff_of_isSnakeCase (hsnake hp), hname, ne_eq,
        NamingStrategy.fieldName_eq_empty_iff hascii, not_not]
    rw [hindexed]
    by_cases hp' : HasAlphanum p.name
    · simp [hp', hempty]
    · simp [hp', hempty]
  have hreserved : d.reservedReport = [] := by
    rw [reservedReport, List.map_eq_nil_iff, List.filter_eq_nil_iff]
    intro p hp
    simpa using not_mem_reservedNames (hsnake hp)
  have hcollisions : collisionReport d.name (d.mapped.map (·.fieldName)) = [] := by
    have hnodup := (describes_of_build h).nodup_mapped
    rw [collisionReport_eq_nil_iff hnodup, List.map_map]
    refine (List.map_congr_left fun p hp => ?_ :
      d.mapped.map (Text.lowercase ∘ (·.fieldName)) = d.mapped.map (·.fieldName)) ▸ hnodup
    exact lowercase_eq_self (hsnake hp)
  rw [validate_eq_of_build h, hinvalid, hreserved, hcollisions, List.append_nil,
    List.append_nil]

/-- At most one property has no letter or digit in its name, as only one wire name can be empty. -/
theorem filter_not_hasAlphanum (h : build ⟨.snakeCase, false⟩ definition = .ok d)
    (hnames : definition.NamedByStrategy) {p : Property} (hp : p ∈ d.mapped)
    (hname : ¬HasAlphanum p.name) :
    p.fieldName = "" ∧ (d.mapped.filter fun p => ¬HasAlphanum p.name) = [p] := by
  have hempty : ∀ q ∈ d.mapped, ¬HasAlphanum q.name ↔ q.fieldName = "" := by
    intro q hq
    obtain ⟨hascii, hwire, -⟩ := fieldName_of_namedByStrategy h hnames (List.mem_of_mem_filter hq)
    rw [hwire, NamingStrategy.fieldName_eq_empty_iff hascii]
  have hfilter : (d.mapped.filter fun q => ¬HasAlphanum q.name) =
      d.mapped.filter fun q => q.fieldName = "" :=
    List.filter_congr fun q hq => decide_eq_decide.mpr (hempty q hq)
  have hone := length_filter_le_of_nodup (describes_of_build h).nodup_mapped ""
  have hp' := (hempty p hp).mp hname
  rw [hfilter]
  exact ⟨hp', filter_eq_singleton hone hp (decide_eq_true hp')⟩

/-- Names that are left to snake case are clean: nothing can be wrong with a wire name but that it is
empty, as the declared name has no letter or digit. -/
theorem cleanInSnakeCase_of_build (h : build ⟨.snakeCase, false⟩ definition = .ok d)
    (hnames : definition.NamedByStrategy) : d.CleanInSnakeCase definition := by
  have hreport := validate_of_namedByStrategy h hnames
  constructor
  case fieldName_eq => exact fun p hp => (fieldName_of_namedByStrategy h hnames hp).2.1
  case fieldName_fixed =>
    intro p hp
    exact NamingStrategy.fieldName_eq_self (isSnakeCase_of_namedByStrategy h hnames hp)
  case validate_eq => exact hreport
  case strict_ok_iff =>
    rw [(strictBuild .snakeCase definition).ok_iff d, and_iff_right h, hreport, List.map_eq_nil_iff,
      List.filter_eq_nil_iff]
    simp
  case strict_error =>
    intro p hp hname
    obtain ⟨hempty, hfilter⟩ := filter_not_hasAlphanum h hnames hp hname
    rw [hfilter, List.map_singleton, hempty] at hreport
    obtain ⟨diagnostic, hhead, herror, -⟩ :=
      (strictBuild .snakeCase definition).error_of_found d h (by simp [hreport])
    have hstrict : d.validate true = (d.validate false).map .promote := rfl
    rw [hstrict, hreport, List.map_singleton, List.head?_cons] at hhead
    rw [herror, ← Option.some.inj hhead]
    rfl

/-! ## Shipments -/

/-- A shipment has names with acronyms, digits and punctuation, one that is reserved but for the
strategy, and one without letters and digits. -/
def shipment : EntityDefinition where
  name := "Shipment"
  properties := [
    { name := "_ID", kind := .string },
    { name := "HTTPServer2Name", kind := .string },
    { name := "--weight..inKG__", kind := .double },
    { name := "$", kind := .string, field := .single { name := some "" } },
    { name := "_", kind := .long, role := some .version }]

theorem namedByStrategy_shipment : shipment.NamedByStrategy := by
  constructor
  case ascii =>
    have hall : (shipment.properties.all fun p => p.name.toList.all (·.toNat < 128)) = true := by
      decide
    intro p hp c hc
    exact of_decide_eq_true (List.all_eq_true.mp (List.all_eq_true.mp hall p hp) c hc)
  case unnamed => decide
  case innerFields_eq => decide

/-- The mapped name without letters and digits is all that is found, and all that strict mode
rejects. -/
theorem cleanInSnakeCase_shipment : ∃ d, build ⟨.snakeCase, false⟩ shipment = .ok d ∧
    d.properties.map (·.fieldName) = ["id", "http_server2_name", "weight_in_kg", "", ""] ∧
    d.validate false = [⟨.warning, .invalidFieldName "Shipment" "$" ""⟩] ∧
    build ⟨.snakeCase, true⟩ shipment =
      .error (.invalidFieldName "Shipment" ⟨.error, .invalidFieldName "Shipment" "$" ""⟩) := by
  obtain ⟨d, hd⟩ : ∃ d, build ⟨.snakeCase, false⟩ shipment = .ok d := ⟨_, rfl⟩
  have hclean := cleanInSnakeCase_of_build hd namedByStrategy_shipment
  have hvalidate := hclean.validate_eq
  have hstrict := hclean.strict_error
  cases hd
  refine ⟨_, rfl, by decide, ?_, ?_⟩
  · rw [hvalidate]
    decide
  · exact hstrict _ (List.mem_of_getElem? (i := 3) rfl) (by decide)

end Descriptor

end ObjectDocument
