import Mathlib.Data.List.Nodup
import Mathlib.Data.List.Perm.Subperm
import ObjectDocument.Proofs.EntityType
import ObjectDocument.Proofs.Index.Mapping
import ObjectDocument.Proofs.Index.Parameters

/-!
# Unfolding a graph of entities

The mapping of an entity unfolds the graph of the entities that are embedded in it. Whether an entity
is unfolded at a place depends on the entities that enclose the place and on nothing else: not on what
was unfolded beside it. So every level of a mapping holds exactly the mapped properties of its entity,
an entity that is embedded twice is unfolded twice, and no way down is longer than the family is
large. Main statement: every mapping of a family has only such levels.
-/

namespace ObjectDocument

/-! ## Storage types -/

theorem FieldType.name_ne_auto {type : FieldType} (h : type ≠ .auto) : type.name ≠ "auto" := by
  cases type with
  | auto => exact absurd rfl h
  | _ => decide

theorem Kind.element_ne_list (kind element : Kind) : kind.element ≠ .list element := by
  induction kind with
  | list inner ih => exact ih
  | _ => exact Kind.noConfusion

/-- A storage type is inferred for every kind but that of sequence tokens. -/
theorem FieldType.exists_infer? {kind : Kind} (h : kind.element ≠ .sequenceToken) :
    ∃ type, FieldType.infer? kind = some type ∧ type ≠ .auto := by
  rw [FieldType.infer?]
  cases helement : kind.element with
  | sequenceToken => exact absurd helement h
  | list element => exact absurd helement (kind.element_ne_list element)
  | _ => exact ⟨_, rfl, FieldType.noConfusion⟩

/-- What is in documents has a storage type, declared or inferred. -/
theorem PropertyDefinition.Valid.storageType_ne_auto {c : PropertyDefinition} (hvalid : c.Valid)
    (htravels : c.travels = true) : c.storageType ≠ .auto := by
  have helement : c.kind.element ≠ .sequenceToken := by
    intro htoken
    cases hrole : c.role with
    | none =>
        have hout : Property.roleOf c = .sequenceToken :=
          Property.roleOf_eq_sequenceToken_iff.mpr ⟨hrole, htoken⟩
        simp [PropertyDefinition.travels, hout, Role.isOutOfBand] at htravels
    | some role =>
        cases role with
        | id => rcases hvalid.id_kind hrole with h | h | h <;> rw [h] at htoken <;> cases htoken
        | version => rcases hvalid.version_kind hrole with h | h <;> rw [h] at htoken <;> cases htoken
  obtain ⟨type, hinfer, htype⟩ := FieldType.exists_infer? helement
  rw [PropertyDefinition.storageType]
  split
  next => simpa [hinfer] using htype
  next hdeclared => exact hdeclared

/-! ## Families -/

/-- Whether every embedded type of a family belongs to the family. -/
def Family.Closed (family : Family) : Prop :=
  ∀ type ∈ family.types, ∀ m ∈ type.members, ∀ ref, m.shape.kind.entity? = some ref →
    ∃ inner ∈ family.types, inner.ref = ref

namespace Mapping

variable {describe : EntityRef → Except Error Descriptor} {config : Config} {family : Family}
  {ref inner : EntityRef} {names : List String} {enclosing : List EntityRef} {d : Descriptor}
  {p : Property} {m : Mapping} {e : FieldMapping}

/-! ## Types among parameters -/

theorem typeOf_ne_auto {definition : EntityDefinition}
    (hd : Descriptor.build config definition = .ok d) (hp : p ∈ d.mapped) : typeOf p ≠ .auto := by
  obtain ⟨hmem, hmapped⟩ := List.mem_filter.mp hp
  obtain ⟨c, -, hrepresents⟩ := Descriptor.represents_of_mem hd hmem
  rw [typeOf]
  split
  · simp
  · rw [hrepresents.fieldType_eq]
    exact hrepresents.valid.storageType_ne_auto (hrepresents.isMapped_eq_travels ▸ hmapped)

/-- Whether parameters name a storage type. -/
def IsTyped (parameters : Entries Json) : Prop :=
  ∃ type, Entries.get? "type" parameters = some (.string type) ∧ type ≠ "auto"

/-- Whether the parameters of an entry name a storage type for the field and for every inner one. -/
structure Typed (parameters : Entries Json) : Prop where
  type : IsTyped parameters
  inner : ∀ fields, Entries.get? "fields" parameters = some fields →
    ∃ others : Entries Json, fields = .object others ∧
      ∀ other ∈ others, ∃ more, other.2 = .object more ∧ IsTyped more

theorem isTyped_append {type : FieldType} (h : type ≠ .auto) (more : Entries Json) :
    IsTyped (typeParameter type ++ more) :=
  ⟨type.name, rfl, FieldType.name_ne_auto h⟩

/-- An entry has a storage type, and so have its inner fields. -/
theorem typed_parametersOf {definition : EntityDefinition}
    (hd : Descriptor.build config definition = .ok d) (hp : p ∈ d.mapped) :
    Typed (parametersOf p) := by
  obtain ⟨c, -, hrepresents⟩ := Descriptor.represents_of_mem hd (List.mem_filter.mp hp).1
  refine ⟨?_, fun fields hfields => ?_⟩
  · simp only [parametersOf, List.append_assoc]
    exact isTyped_append (typeOf_ne_auto hd hp) _
  · obtain rfl := eq_innerJson_of_get?_fields hfields
    refine ⟨_, rfl, fun ⟨suffix, j⟩ hother => ?_⟩
    obtain ⟨inner, hinner, heq⟩ := List.mem_map.mp (Entries.mem_of_mem_merge hother)
    cases heq
    refine ⟨_, rfl, isTyped_append ?_ _⟩
    have htype := hrepresents.valid.inner_type inner (hrepresents.spec_eq ▸ hinner)
    exact fun hauto => htype (hauto ▸ List.mem_cons_self)

/-! ## Names that may be unfolded -/

/-- Whether exactly the entities of a family that do not enclose a place may be unfolded there. -/
def Open (family : Family) (names : List String) (enclosing : List EntityRef) : Prop :=
  ∀ ref, (∃ type ∈ family.types, type.ref = ref) →
    ((family.type ref).name ∈ names ↔ ref ∉ enclosing)

/-- Distinct names tell the entities of a family. -/
theorem eq_of_name_eq (hnames : (family.types.map (·.name)).Nodup)
    (href : ∃ type ∈ family.types, type.ref = ref)
    (hinner : ∃ type ∈ family.types, type.ref = inner)
    (hname : (family.type ref).name = (family.type inner).name) : ref = inner := by
  obtain ⟨hmem, heq⟩ := Family.type_mem href
  obtain ⟨hmem', heq'⟩ := Family.type_mem hinner
  rw [← heq, ← heq', List.inj_on_of_nodup_map hnames hmem hmem' hname]

theorem open_nil : Open family (family.types.map (·.name)) [] := by
  intro ref href
  exact iff_of_true (List.mem_map_of_mem (Family.type_mem href).1) List.not_mem_nil

/-- Unfolding an entity makes it one that encloses what is in it. -/
theorem Open.without (hopen : Open family names enclosing)
    (hnames : (family.types.map (·.name)).Nodup)
    (hinner : ∃ type ∈ family.types, type.ref = inner) :
    Open family (Mapping.without (family.type inner).name names) (inner :: enclosing) := by
  intro ref href
  rw [Mapping.without, List.mem_filter, hopen ref href, List.mem_cons, not_or, and_comm,
    decide_eq_true_iff]
  refine and_congr_left fun _ => not_congr ⟨fun hname => ?_, fun heq => by rw [heq]⟩
  exact eq_of_name_eq hnames href hinner hname

/-- A descriptor can be built for every reference, if it can for those of the family. Outside the
family a type has no members. -/
theorem exists_describe
    (hbuilds : ∀ type ∈ family.types, ∃ d, family.describe config type.ref = .ok d)
    (ref : EntityRef) : ∃ d, family.describe config ref = .ok d := by
  cases hfind : family.types.find? fun t => t.ref = ref with
  | some type =>
      have href : type.ref = ref := by simpa using List.find?_some hfind
      exact href ▸ hbuilds type (List.mem_of_find?_eq_some hfind)
  | none =>
      have hbuild : Descriptor.build config ⟨ref.typeName, none, []⟩ =
          .ok (.ofProperties ref.typeName [] none) := by
        obtain ⟨naming, strict⟩ := config
        cases strict with
        | false => rfl
        | true => rfl
      rw [Family.describe, Family.type, hfind]
      exact ⟨_, hbuild⟩

/-! ## One level -/

theorem entity?_of_embedded? (h : embedded? p = some ref) : p.kind.entity? = some ref := by
  rw [embedded?] at h
  split at h
  next => exact h
  next => cases h

/-- What an entry has in it depends on its entity and on the names that may be unfolded. -/
theorem Unfolds.properties?_eq_some_iff (h : Unfolds describe names p e) :
    e.properties? = some m ↔ ∃ ref d, embedded? p = some ref ∧ describe ref = .ok d ∧
      d.name ∈ names ∧ (unfold (without d.name names) d).eval describe = .ok m := by
  cases h with
  | single hp => simp [hp, FieldMapping.properties?]
  | closed hp hd hname => simp [hp, hd, hname, FieldMapping.properties?]
  | nested hp hd hname hm => simp [hp, hd, hname, hm, FieldMapping.properties?]

/-- Whether a mapping is what an entity is unfolded to where entities, itself among them, enclose
the place. -/
structure IsLevel (family : Family) (config : Config) (enclosing : List EntityRef)
    (ref : EntityRef) (d : Descriptor) (m : Mapping) : Prop where
  describe_eq : family.describe config ref = .ok d
  unfolds : ∃ names, (unfold names d).eval (family.describe config) = .ok m ∧
    Open family names enclosing

theorem IsLevel.nodup_mapped (h : IsLevel family config enclosing ref d m) :
    (d.mapped.map (·.fieldName)).Nodup :=
  (Descriptor.describes_of_build h.describe_eq).nodup_mapped

theorem IsLevel.keys_eq (h : IsLevel family config enclosing ref d m) :
    Entries.keys m = d.mapped.map (·.fieldName) := by
  obtain ⟨names, hm, -⟩ := h.unfolds
  exact keys_unfold hm

/-- An entry leads to the level of its entity, unless that encloses it. Then it leads nowhere. -/
theorem IsLevel.step (hnames : (family.types.map (·.name)).Nodup)
    (h : IsLevel family config enclosing ref d m) (hp : p ∈ d.mapped)
    (hkind : p.kind.entity? = some inner) (hinner : ∃ type ∈ family.types, type.ref = inner)
    (he : Entries.get? p.fieldName m = some e) :
    (inner ∈ enclosing → e.properties? = none) ∧ (inner ∉ enclosing → ∃ d' m',
      e.properties? = some m' ∧ IsLevel family config (inner :: enclosing) inner d' m') := by
  obtain ⟨names, hm, hopen⟩ := h.unfolds
  have hopen' := hopen inner hinner
  have hembedded := embedded?_of_entity h.describe_eq (List.mem_filter.mp hp).1 hkind
  cases unfolds_of_get? hm h.nodup_mapped hp he with
  | single hnone =>
      rw [hembedded] at hnone
      cases hnone
  | closed hsome hnested hname =>
      rw [hembedded] at hsome
      cases hsome
      rw [(Descriptor.describes_of_build hnested).name_eq] at hname
      exact ⟨fun _ => rfl, fun hnot => absurd (hopen'.mpr hnot) hname⟩
  | @nested _ d' m' hsome hnested hname hm' =>
      rw [hembedded] at hsome
      cases hsome
      rw [(Descriptor.describes_of_build hnested).name_eq] at hname hm'
      refine ⟨fun hencloses => absurd hencloses (hopen'.mp hname), fun _ => ⟨d', m', rfl, ?_⟩⟩
      exact ⟨hnested, _, hm', hopen.without hnames hinner⟩

/-- The entries of an entity where entities, itself among them, enclose the place. -/
structure Level (enclosing : List EntityRef) (d : Descriptor) (m : Mapping) : Prop where
  /-- There is one entry for each mapped property, in order of declaration. -/
  keys_eq : Entries.keys m = d.mapped.map (·.fieldName)
  nodup_keys : (Entries.keys m).Nodup
  parameters_eq : ∀ p ∈ d.mapped, ∀ e, Entries.get? p.fieldName m = some e →
    e.parameters = parametersOf p
  /-- An entry has entries in it if it is of an entity that does not enclose it. -/
  nested_iff : ∀ p ∈ d.mapped, ∀ e, Entries.get? p.fieldName m = some e →
    ((∃ inside, e.properties? = some inside) ↔
      ∃ inner, p.kind.entity? = some inner ∧ inner ∉ enclosing)
  /-- Two entries of one entity have the same entries in them. -/
  siblings : ∀ p ∈ d.mapped, ∀ q ∈ d.mapped, ∀ e e', p.kind.entity? = q.kind.entity? →
    Entries.get? p.fieldName m = some e → Entries.get? q.fieldName m = some e' →
      e.properties? = e'.properties?
  typed : ∀ entry ∈ m, Typed entry.2.parameters

/-- The entities that are embedded in one of a closed family belong to the family. -/
theorem embedded_mem (hclosed : family.Closed) (href : ∃ type ∈ family.types, type.ref = ref)
    (hd : family.describe config ref = .ok d) (hp : p ∈ d.mapped)
    (hkind : p.kind.entity? = some inner) : ∃ type ∈ family.types, type.ref = inner := by
  have hmembers := (Descriptor.describes_of_build hd).members
  obtain ⟨member, hmember, hdescribed⟩ := exists_mem_of_forall₂ hmembers (List.mem_filter.mp hp).1
  rw [hdescribed.kind_eq] at hkind
  exact hclosed _ (Family.type_mem href).1 member hmember inner hkind

theorem IsLevel.level (hnames : (family.types.map (·.name)).Nodup) (hclosed : family.Closed)
    (href : ∃ type ∈ family.types, type.ref = ref)
    (h : IsLevel family config enclosing ref d m) : Level enclosing d m := by
  obtain ⟨names, hm, -⟩ := h.unfolds
  have hentry {p : Property} (hp : p ∈ d.mapped) {e : FieldMapping}
      (he : Entries.get? p.fieldName m = some e) := unfolds_of_get? hm h.nodup_mapped hp he
  have hembedded {p : Property} (hp : p ∈ d.mapped) : embedded? p = p.kind.entity? := by
    cases hkind : p.kind.entity? with
    | some inner => exact embedded?_of_entity h.describe_eq (List.mem_filter.mp hp).1 hkind
    | none =>
        cases hsome : embedded? p with
        | none => rfl
        | some inner =>
            rw [entity?_of_embedded? hsome] at hkind
            cases hkind
  constructor
  case keys_eq => exact h.keys_eq
  case nodup_keys =>
    rw [h.keys_eq]
    exact h.nodup_mapped
  case parameters_eq =>
    intro p hp e he
    exact (hentry hp he).parameters_eq
  case nested_iff =>
    intro p hp e he
    cases hkind : p.kind.entity? with
    | none =>
        simp [(hentry hp he).properties?_eq_some_iff, hembedded hp, hkind]
    | some inner =>
        have hinner := embedded_mem hclosed href h.describe_eq hp hkind
        obtain ⟨hclose, hnested⟩ := h.step hnames hp hkind hinner he
        by_cases hencloses : inner ∈ enclosing
        · simp [hclose hencloses, hencloses]
        · obtain ⟨-, inside, hinside, -⟩ := hnested hencloses
          simp [hinside, hencloses]
  case siblings =>
    intro p hp q hq e e' hkind he he'
    apply Option.ext
    intro inside
    rw [(hentry hp he).properties?_eq_some_iff, (hentry hq he').properties?_eq_some_iff,
      hembedded hp, hembedded hq, hkind]
  case typed =>
    rintro ⟨key, e⟩ hmem
    have hkey : key ∈ d.mapped.map (·.fieldName) := by
      rw [← h.keys_eq]
      exact List.mem_map_of_mem hmem
    obtain ⟨p, hp, rfl⟩ := List.mem_map.mp hkey
    have he := (Entries.get?_eq_some_iff (h.keys_eq ▸ h.nodup_mapped)).mpr hmem
    rw [(hentry hp he).parameters_eq]
    exact typed_parametersOf h.describe_eq hp

/-! ## Levels of a mapping -/

/-- The levels of the mapping of an entity, each with the entity whose entries it holds and those that
enclose it, from the inside out. -/
inductive LevelAt (describe : EntityRef → Except Error Descriptor) (root : EntityRef)
    (m : Mapping) : List EntityRef → EntityRef → Mapping → Prop
  | top : LevelAt describe root m [] root m
  | inside {ref inner : EntityRef} {enclosing : List EntityRef} {level level' : Mapping}
      {d : Descriptor} {p : Property} {e : FieldMapping}
      (hlevel : LevelAt describe root m enclosing ref level) (hd : describe ref = .ok d)
      (hp : p ∈ d.mapped) (hkind : p.kind.entity? = some inner)
      (he : Entries.get? p.fieldName level = some e) (hinside : e.properties? = some level') :
      LevelAt describe root m (ref :: enclosing) inner level'

/-- Every level holds what its entity is unfolded to there. The entities on the way to it are
distinct. -/
theorem isLevel_of_levelAt {root : EntityRef} {level : Mapping}
    (hnames : (family.types.map (·.name)).Nodup) (hclosed : family.Closed)
    (hroot : ∃ type ∈ family.types, type.ref = root)
    (hm : IsLevel family config [root] root d m)
    (h : LevelAt (family.describe config) root m enclosing ref level) :
    (∃ d', IsLevel family config (ref :: enclosing) ref d' level) ∧ (ref :: enclosing).Nodup ∧
      ∀ other ∈ ref :: enclosing, ∃ type ∈ family.types, type.ref = other := by
  induction h with
  | top =>
      refine ⟨⟨d, hm⟩, List.nodup_singleton root, ?_⟩
      intro other hother
      obtain rfl := List.mem_singleton.mp hother
      exact hroot
  | @inside ref inner enclosing level level' d' p e hlevel hd hp hkind he hinside ih =>
      obtain ⟨⟨found, hfound⟩, hnodup, hmem⟩ := ih
      obtain rfl : found = d' := Except.ok.inj (hfound.describe_eq.symm.trans hd)
      have hinner := embedded_mem hclosed (hmem ref List.mem_cons_self) hd hp hkind
      obtain ⟨hclose, hnested⟩ := hfound.step hnames hp hkind hinner he
      have hnew : inner ∉ ref :: enclosing := by
        intro hencloses
        rw [hclose hencloses] at hinside
        cases hinside
      obtain ⟨d'', m', hm', hlevel'⟩ := hnested hnew
      obtain rfl : m' = level' := Option.some.inj (hm'.symm.trans hinside)
      refine ⟨⟨d'', hlevel'⟩, List.nodup_cons.mpr ⟨hnew, hnodup⟩, ?_⟩
      exact List.forall_mem_cons.mpr ⟨hinner, hmem⟩

/-- The mapping of an entity can be made if its family can be built, and unfolds the graph of its
entities level by level, to a depth of no more than the number of types. -/
theorem unfolds_exactly (c : Context) (hnames : (c.family.types.map (·.name)).Nodup)
    (hbuilds : ∀ type ∈ c.family.types, ∃ d, c.describe type.ref = .ok d)
    (hclosed : c.family.Closed) {root : EntityRef}
    (hroot : ∃ type ∈ c.family.types, type.ref = root) {d : Descriptor}
    (hd : c.describe root = .ok d) :
    ∃ m, ((build c.family d).run c).1 = .ok m ∧
      ∀ enclosing ref level, LevelAt c.describe root m enclosing ref level →
        (∃ d', c.describe ref = .ok d' ∧ Level (ref :: enclosing) d' level) ∧
        (ref :: enclosing).Nodup ∧ (ref :: enclosing).length ≤ c.family.types.length := by
  obtain ⟨m, hm⟩ := exists_eval_unfold (exists_describe hbuilds)
    (without d.name (c.family.types.map (·.name))) d
  have htop : IsLevel c.family c.config [root] root d m := by
    refine ⟨hd, _, hm, ?_⟩
    rw [(Descriptor.describes_of_build hd).name_eq]
    exact open_nil.without hnames hroot
  refine ⟨m, ?_, fun enclosing ref level hlevel => ?_⟩
  · rw [Lookup.run_fst]
    exact hm
  · obtain ⟨⟨d', hd'⟩, hnodup, hmem⟩ := isLevel_of_levelAt hnames hclosed hroot htop hlevel
    refine ⟨⟨d', hd'.describe_eq, ?_⟩, hnodup, ?_⟩
    · exact hd'.level hnames hclosed (hmem ref List.mem_cons_self)
    · have hsubset : ref :: enclosing ⊆ c.family.types.map (·.ref) := by
        intro other hother
        exact List.mem_map.mpr (hmem other hother)
      simpa using (List.subperm_of_subset hnodup hsubset).length_le

end Mapping

/-! ## Trips

A trip leads from one place to another and over places between, so that one entity is embedded three
times. Places and regions embed each other, and regions themselves.
-/

namespace Library

/-- The reference of places. -/
def placeRef : EntityRef := ⟨7, "Place"⟩

/-- The reference of regions. -/
def regionRef : EntityRef := ⟨8, "Region"⟩

/-- The reference of trips. -/
def tripRef : EntityRef := ⟨9, "Trip"⟩

def place : EntityType where
  ref := placeRef
  name := "Place"
  members := [
    { name := "name", shape := .base .string, initial := .string "" },
    { name := "region", shape := .option (.base (.entity regionRef)), initial := .absent }]

def region : EntityType where
  ref := regionRef
  name := "Region"
  members := [
    { name := "capital", shape := .option (.base (.entity placeRef)), initial := .absent },
    { name := "parts", shape := .vec (.base (.entity regionRef)), initial := .vec [] }]

def trip : EntityType where
  ref := tripRef
  name := "Trip"
  members := [
    { name := "start", shape := .option (.base (.entity placeRef)), initial := .absent },
    { name := "end", shape := .option (.base (.entity placeRef)), initial := .absent },
    { name := "stops", shape := .vec (.base (.entity placeRef)), initial := .vec [] }]

/-- Trips, places and regions under the default configuration. -/
def travels : Context where
  config := {}
  family := ⟨[trip, place, region]⟩

theorem exists_describe_travels (type : EntityType) (htype : type ∈ travels.family.types) :
    ∃ d, travels.describe type.ref = .ok d := by
  simp only [travels, List.mem_cons, List.not_mem_nil, or_false] at htype
  rcases htype with rfl | rfl | rfl
  · exact ⟨_, rfl⟩
  · exact ⟨_, rfl⟩
  · exact ⟨_, rfl⟩

theorem closed_travels : travels.family.Closed := by
  intro type htype m hm ref hkind
  have hplace : ∃ inner ∈ travels.family.types, inner.ref = placeRef :=
    ⟨place, by simp [travels], rfl⟩
  have hregion : ∃ inner ∈ travels.family.types, inner.ref = regionRef :=
    ⟨region, by simp [travels], rfl⟩
  simp only [travels, List.mem_cons, List.not_mem_nil, or_false] at htype
  rcases htype with rfl | rfl | rfl
  · simp only [trip, List.mem_cons, List.not_mem_nil, or_false] at hm
    rcases hm with rfl | rfl | rfl
    · cases hkind
      exact hplace
    · cases hkind
      exact hplace
    · cases hkind
      exact hplace
  · simp only [place, List.mem_cons, List.not_mem_nil, or_false] at hm
    rcases hm with rfl | rfl
    · cases hkind
    · cases hkind
      exact hregion
  · simp only [region, List.mem_cons, List.not_mem_nil, or_false] at hm
    rcases hm with rfl | rfl
    · cases hkind
      exact hplace
    · cases hkind
      exact hregion

end Library

namespace Mapping

open Library

/-- The mapping of trips has the places of a trip in it. -/
theorem unfolds_exactly_trip : ∃ d m, travels.describe tripRef = .ok d ∧
    ((build travels.family d).run travels).1 = .ok m ∧
    Entries.keys m = ["start", "end", "stops"] ∧ Level [tripRef] d m := by
  obtain ⟨d, hd⟩ : ∃ d, travels.describe tripRef = .ok d := ⟨_, rfl⟩
  have hnames : (travels.family.types.map (·.name)).Nodup := by decide
  have hroot : ∃ type ∈ travels.family.types, type.ref = tripRef :=
    ⟨trip, List.mem_cons_self, rfl⟩
  obtain ⟨m, hm, hlevels⟩ :=
    unfolds_exactly travels hnames exists_describe_travels closed_travels hroot hd
  obtain ⟨⟨d', hd', hlevel⟩, -, -⟩ := hlevels [] tripRef m .top
  obtain rfl : d = d' := Except.ok.inj (hd.symm.trans hd')
  refine ⟨d, m, hd, hm, ?_, hlevel⟩
  rw [hlevel.keys_eq]
  cases hd
  rfl

end Mapping

end ObjectDocument
