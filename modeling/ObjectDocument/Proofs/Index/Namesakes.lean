import ObjectDocument.Proofs.Index.Unfolding

/-!
# Entities that share a name

A mapping tells by name which entities enclose a place, but types that differ may have one name. So
an entity is left without entries within itself, as it should be, and within another entity of its
name, where its fields are lost. Main statement: nothing else is cut, and a mapping cuts recursion
only exactly if no way through the graph of entities leads from one entity into another of its name.
-/

namespace ObjectDocument

/-- Whether one of some entities is another than a given one and has its name. -/
def Family.HasNamesake (family : Family) (enclosing : List EntityRef) (ref : EntityRef) : Prop :=
  ∃ other ∈ enclosing, other ≠ ref ∧ (family.type other).name = (family.type ref).name

namespace Mapping

/-- Whether a mapping has the entries of a descriptor: one for each mapped property, in order of
declaration, with the parameters of the property. -/
structure Full (d : Descriptor) (m : Mapping) : Prop where
  keys_eq : Entries.keys m = d.mapped.map (·.fieldName)
  nodup_keys : (Entries.keys m).Nodup
  parameters_eq : ∀ p ∈ d.mapped, ∀ e, Entries.get? p.fieldName m = some e →
    e.parameters = parametersOf p

/-- Whether every entity in the mapping of another has all of its entries, except where it encloses
itself. There it has none. -/
def CutsRecursionOnly (describe : EntityRef → Except Error Descriptor) (root : EntityRef)
    (m : Mapping) : Prop :=
  ∀ enclosing ref level d p inner e, LevelAt describe root m enclosing ref level →
    describe ref = .ok d → p ∈ d.mapped → p.kind.entity? = some inner →
    Entries.get? p.fieldName level = some e →
      (inner ∈ ref :: enclosing → e.properties? = none) ∧
      (inner ∉ ref :: enclosing → ∃ d' inside, describe inner = .ok d' ∧
        e.properties? = some inside ∧ Full d' inside)

/-- How the mapping of an entity is cut where types may share names. -/
structure CutsByName (family : Family) (describe : EntityRef → Except Error Descriptor)
    (root : EntityRef) (m : Mapping) : Prop where
  exists_entry : ∀ {enclosing ref level d p}, LevelAt describe root m enclosing ref level →
    describe ref = .ok d → p ∈ d.mapped → ∃ e, Entries.get? p.fieldName level = some e
  /-- An entity is cut within itself and within others of its name. -/
  cut_iff : ∀ {enclosing ref level d p inner e}, LevelAt describe root m enclosing ref level →
    describe ref = .ok d → p ∈ d.mapped → p.kind.entity? = some inner →
    Entries.get? p.fieldName level = some e →
      (e.properties? = none ↔
        inner ∈ ref :: enclosing ∨ family.HasNamesake (ref :: enclosing) inner)
  /-- An entity that is not cut has all of its entries. -/
  full : ∀ {enclosing ref level d p inner e inside},
    LevelAt describe root m enclosing ref level → describe ref = .ok d → p ∈ d.mapped →
    p.kind.entity? = some inner → Entries.get? p.fieldName level = some e →
    e.properties? = some inside → ∃ d', describe inner = .ok d' ∧ Full d' inside

/-- The ways through the graph of the entities that are embedded in one, each with the entities that it
leads through, from the last one. No way leads through an entity twice. -/
inductive Way (describe : EntityRef → Except Error Descriptor) (root : EntityRef) :
    List EntityRef → EntityRef → Prop
  | start : Way describe root [] root
  | into {enclosing : List EntityRef} {ref inner : EntityRef} {d : Descriptor} {p : Property}
      (hway : Way describe root enclosing ref) (hd : describe ref = .ok d) (hp : p ∈ d.mapped)
      (hkind : p.kind.entity? = some inner) (hnew : inner ∉ ref :: enclosing) :
      Way describe root (ref :: enclosing) inner

variable {describe : EntityRef → Except Error Descriptor} {config : Config} {family : Family}
  {root ref inner : EntityRef} {names : List String} {enclosing : List EntityRef} {d : Descriptor}
  {p : Property} {m level : Mapping} {e : FieldMapping}

/-! ## Names that are taken -/

/-- Whether one of some entities has the name of a given one. -/
def NameTaken (family : Family) (enclosing : List EntityRef) (ref : EntityRef) : Prop :=
  ∃ other ∈ enclosing, (family.type other).name = (family.type ref).name

/-- A name is taken by the entity itself or by another. -/
theorem nameTaken_iff :
    NameTaken family enclosing ref ↔ ref ∈ enclosing ∨ family.HasNamesake enclosing ref := by
  constructor
  · rintro ⟨other, hother, hname⟩
    by_cases heq : other = ref
    · exact .inl (heq ▸ hother)
    · exact .inr ⟨other, hother, heq, hname⟩
  · rintro (href | ⟨other, hother, -, hname⟩)
    · exact ⟨ref, href, rfl⟩
    · exact ⟨other, hother, hname⟩

/-- Whether exactly the entities of a family may be unfolded at a place whose names are not taken
there. -/
def Free (family : Family) (names : List String) (enclosing : List EntityRef) : Prop :=
  ∀ ref, (∃ type ∈ family.types, type.ref = ref) →
    ((family.type ref).name ∈ names ↔ ¬NameTaken family enclosing ref)

theorem free_nil : Free family (family.types.map (·.name)) [] := by
  intro ref href
  refine iff_of_true (List.mem_map_of_mem (Family.type_mem href).1) ?_
  rintro ⟨other, hother, -⟩
  cases hother

/-- Unfolding an entity takes its name. -/
theorem Free.without (hfree : Free family names enclosing) (inner : EntityRef) :
    Free family (Mapping.without (family.type inner).name names) (inner :: enclosing) := by
  intro ref href
  rw [Mapping.without, List.mem_filter, hfree ref href, decide_eq_true_iff]
  constructor
  · rintro ⟨hfree, hne⟩ ⟨other, hother, hname⟩
    rcases List.mem_cons.mp hother with rfl | hother
    · exact hne hname.symm
    · exact hfree ⟨other, hother, hname⟩
  · intro hfree
    refine ⟨?_, fun hname => hfree ⟨inner, List.mem_cons_self, hname.symm⟩⟩
    rintro ⟨other, hother, hname⟩
    exact hfree ⟨other, List.mem_cons_of_mem _ hother, hname⟩

/-! ## One level -/

/-- Whether a mapping is what an entity is unfolded to where entities, itself among them, take
names. -/
structure IsUnfolded (family : Family) (config : Config) (enclosing : List EntityRef)
    (ref : EntityRef) (d : Descriptor) (m : Mapping) : Prop where
  describe_eq : family.describe config ref = .ok d
  unfolds : ∃ names, (unfold names d).eval (family.describe config) = .ok m ∧
    Free family names enclosing

theorem IsUnfolded.full (h : IsUnfolded family config enclosing ref d m) : Full d m := by
  obtain ⟨names, hm, -⟩ := h.unfolds
  have hkeys := keys_unfold hm
  have hnodup := (Descriptor.describes_of_build h.describe_eq).nodup_mapped
  refine ⟨hkeys, hkeys ▸ hnodup, fun p hp e he => ?_⟩
  exact (unfolds_of_get? hm hnodup hp he).parameters_eq

theorem IsUnfolded.exists_entry (h : IsUnfolded family config enclosing ref d m)
    (hp : p ∈ d.mapped) : ∃ e, Entries.get? p.fieldName m = some e := by
  obtain ⟨names, hm, -⟩ := h.unfolds
  have hnodup := (Descriptor.describes_of_build h.describe_eq).nodup_mapped
  obtain ⟨e, he, -⟩ := exists_get?_unfold hm hnodup hp
  exact ⟨e, he⟩

/-- An entry leads to the level of its entity, unless the name of that is taken. Then it leads
nowhere. -/
theorem IsUnfolded.step (h : IsUnfolded family config enclosing ref d m) (hp : p ∈ d.mapped)
    (hkind : p.kind.entity? = some inner) (hinner : ∃ type ∈ family.types, type.ref = inner)
    (he : Entries.get? p.fieldName m = some e) :
    (NameTaken family enclosing inner → e.properties? = none) ∧
      (¬NameTaken family enclosing inner → ∃ d' m', e.properties? = some m' ∧
        IsUnfolded family config (inner :: enclosing) inner d' m') := by
  obtain ⟨names, hm, hfree⟩ := h.unfolds
  have hname := hfree inner hinner
  have hembedded := embedded?_of_entity h.describe_eq (List.mem_filter.mp hp).1 hkind
  have hnodup := (Descriptor.describes_of_build h.describe_eq).nodup_mapped
  cases unfolds_of_get? hm hnodup hp he with
  | single hnone =>
      rw [hembedded] at hnone
      cases hnone
  | closed hsome hnested hclosed =>
      rw [hembedded] at hsome
      cases hsome
      rw [(Descriptor.describes_of_build hnested).name_eq] at hclosed
      exact ⟨fun _ => rfl, fun hnot => absurd (hname.mpr hnot) hclosed⟩
  | @nested _ d' m' hsome hnested hopen hm' =>
      rw [hembedded] at hsome
      cases hsome
      rw [(Descriptor.describes_of_build hnested).name_eq] at hopen hm'
      refine ⟨fun htaken => absurd htaken (hname.mp hopen), fun _ => ⟨d', m', rfl, ?_⟩⟩
      exact ⟨hnested, _, hm', hfree.without inner⟩

/-- Every level holds what its entity is unfolded to there. -/
theorem isUnfolded_of_levelAt (hclosed : family.Closed)
    (hroot : ∃ type ∈ family.types, type.ref = root)
    (hm : IsUnfolded family config [root] root d m)
    (h : LevelAt (family.describe config) root m enclosing ref level) :
    (∃ d', IsUnfolded family config (ref :: enclosing) ref d' level) ∧
      ∃ type ∈ family.types, type.ref = ref := by
  induction h with
  | top => exact ⟨⟨d, hm⟩, hroot⟩
  | @inside ref inner enclosing level level' d' p e hlevel hd hp hkind he hinside ih =>
      obtain ⟨⟨found, hfound⟩, href⟩ := ih
      obtain rfl : found = d' := Except.ok.inj (hfound.describe_eq.symm.trans hd)
      have hinner := embedded_mem hclosed href hd hp hkind
      obtain ⟨hcut, hnested⟩ := hfound.step hp hkind hinner he
      obtain ⟨d'', m', hm', hunfolded⟩ := hnested (mt hcut (by simp [hinside]))
      obtain rfl : m' = level' := Option.some.inj (hm'.symm.trans hinside)
      exact ⟨⟨d'', hunfolded⟩, hinner⟩

/-- A mapping that is unfolded is cut by name. -/
theorem IsUnfolded.cutsByName (hclosed : family.Closed)
    (hroot : ∃ type ∈ family.types, type.ref = root)
    (hm : IsUnfolded family config [root] root d m) :
    CutsByName family (family.describe config) root m := by
  have hlevel {enclosing : List EntityRef} {ref : EntityRef} {level : Mapping} {d' : Descriptor}
      (h : LevelAt (family.describe config) root m enclosing ref level)
      (hd' : family.describe config ref = .ok d') :
      IsUnfolded family config (ref :: enclosing) ref d' level ∧
        ∃ type ∈ family.types, type.ref = ref := by
    obtain ⟨⟨found, hfound⟩, href⟩ := isUnfolded_of_levelAt hclosed hroot hm h
    obtain rfl : found = d' := Except.ok.inj (hfound.describe_eq.symm.trans hd')
    exact ⟨hfound, href⟩
  constructor
  case exists_entry =>
    intro _ _ _ _ _ h hd' hp
    exact (hlevel h hd').1.exists_entry hp
  case cut_iff =>
    intro _ _ _ _ _ inner _ h hd' hp hkind he
    obtain ⟨hunfolded, href⟩ := hlevel h hd'
    obtain ⟨hcut, hnested⟩ := hunfolded.step hp hkind (embedded_mem hclosed href hd' hp hkind) he
    rw [← nameTaken_iff]
    refine ⟨fun hnone => ?_, hcut⟩
    by_contra hfree
    obtain ⟨d'', m', hm', -⟩ := hnested hfree
    rw [hnone] at hm'
    cases hm'
  case full =>
    intro _ _ _ _ _ inner _ inside h hd' hp hkind he hinside
    obtain ⟨hunfolded, href⟩ := hlevel h hd'
    obtain ⟨hcut, hnested⟩ := hunfolded.step hp hkind (embedded_mem hclosed href hd' hp hkind) he
    obtain ⟨d'', m', hm', hunfolded'⟩ := hnested (mt hcut (by simp [hinside]))
    obtain rfl : m' = inside := Option.some.inj (hm'.symm.trans hinside)
    exact ⟨d'', hunfolded'.describe_eq, hunfolded'.full⟩

/-! ## Ways and levels -/

/-- A mapping does not lead through an entity twice. -/
theorem CutsByName.way (h : CutsByName family describe root m)
    (hlevel : LevelAt describe root m enclosing ref level) : Way describe root enclosing ref := by
  induction hlevel with
  | top => exact .start
  | inside hlevel hd hp hkind he hinside ih =>
      refine ih.into hd hp hkind fun hmem => ?_
      rw [(h.cut_iff hlevel hd hp hkind he).mpr (.inl hmem)] at hinside
      cases hinside

/-- Every way leads to a level of a mapping that cuts recursion only, and not into an entity within
another of its name. -/
theorem CutsByName.exists_levelAt (h : CutsByName family describe root m)
    (honly : CutsRecursionOnly describe root m) (hway : Way describe root enclosing ref) :
    (∃ level, LevelAt describe root m enclosing ref level) ∧
      ¬family.HasNamesake enclosing ref := by
  induction hway with
  | start =>
      refine ⟨⟨m, .top⟩, ?_⟩
      rintro ⟨other, hother, -⟩
      cases hother
  | into hway hd hp hkind hnew ih =>
      obtain ⟨⟨level, hlevel⟩, -⟩ := ih
      obtain ⟨e, he⟩ := h.exists_entry hlevel hd hp
      obtain ⟨d', inside, -, hinside, -⟩ := (honly _ _ _ _ _ _ _ hlevel hd hp hkind he).2 hnew
      refine ⟨⟨inside, hlevel.inside hd hp hkind he hinside⟩, fun hnamesake => ?_⟩
      rw [(h.cut_iff hlevel hd hp hkind he).mpr (.inr hnamesake)] at hinside
      cases hinside

/-- A mapping cuts recursion only, exactly if no entity lies within another of its name. -/
theorem CutsByName.cutsRecursionOnly_iff (h : CutsByName family describe root m) :
    CutsRecursionOnly describe root m ↔ ∀ enclosing ref, Way describe root enclosing ref →
      ¬family.HasNamesake enclosing ref := by
  constructor
  · intro honly enclosing ref hway
    exact (h.exists_levelAt honly hway).2
  · intro hways enclosing ref level d p inner e hlevel hd hp hkind he
    have hcut := h.cut_iff hlevel hd hp hkind he
    refine ⟨fun hmem => hcut.mpr (.inl hmem), fun hnew => ?_⟩
    have hnamesake := hways _ _ ((h.way hlevel).into hd hp hkind hnew)
    cases hinside : e.properties? with
    | none => exact absurd (hcut.mp hinside) (not_or.mpr ⟨hnew, hnamesake⟩)
    | some inside =>
        obtain ⟨d', hd', hfull⟩ := h.full hlevel hd hp hkind he hinside
        exact ⟨d', inside, hd', rfl, hfull⟩

/-- The mapping of an entity can be made if its family can be built, whatever names the types have. It
leaves an entity without entries within itself and within others of its name, and unfolds it
everywhere else; so it cuts recursion only, exactly if no way leads into an entity within another of
its name. -/
theorem cuts_by_name (c : Context)
    (hbuilds : ∀ type ∈ c.family.types, ∃ d, c.describe type.ref = .ok d)
    (hclosed : c.family.Closed) {root : EntityRef}
    (hroot : ∃ type ∈ c.family.types, type.ref = root) {d : Descriptor}
    (hd : c.describe root = .ok d) :
    ∃ m, ((build c.family d).run c).1 = .ok m ∧ Full d m ∧
      CutsByName c.family c.describe root m ∧
      (CutsRecursionOnly c.describe root m ↔ ∀ enclosing ref, Way c.describe root enclosing ref →
        ¬c.family.HasNamesake enclosing ref) := by
  obtain ⟨m, hm⟩ := exists_eval_unfold (exists_describe hbuilds)
    (without d.name (c.family.types.map (·.name))) d
  have htop : IsUnfolded c.family c.config [root] root d m := by
    refine ⟨hd, _, hm, ?_⟩
    rw [(Descriptor.describes_of_build hd).name_eq]
    exact free_nil.without root
  have hcuts := htop.cutsByName hclosed hroot
  refine ⟨m, ?_, htop.full, hcuts, hcuts.cutsRecursionOnly_iff⟩
  rw [Lookup.run_fst]
  exact hm

end Mapping

/-! ## Nodes

A tree has nodes that branch and nodes that do not. Both are called so, though they are of two
types. -/

namespace Library

/-- The reference of nodes that branch. -/
def branchRef : EntityRef := ⟨14, "branch::Node"⟩

/-- The reference of nodes that do not branch. -/
def leafRef : EntityRef := ⟨15, "leaf::Node"⟩

def branch : EntityType where
  ref := branchRef
  name := "Node"
  members := [
    { name := "leaves", shape := .vec (.base (.entity leafRef)), initial := .vec [] }]

def leaf : EntityType where
  ref := leafRef
  name := "Node"
  members := [
    { name := "label", shape := .base .string, initial := .string "" }]

/-- Nodes of both types under the default configuration. -/
def trees : Context where
  config := {}
  family := ⟨[branch, leaf]⟩

/-- The leaves of a node. -/
def leaves : Property :=
  property 0 "leaves" (.list (.entity leafRef)) .object

theorem describe_branch : trees.describe branchRef = .ok (.ofProperties "Node" [leaves] none) :=
  rfl

theorem exists_describe_trees (type : EntityType) (htype : type ∈ trees.family.types) :
    ∃ d, trees.describe type.ref = .ok d := by
  simp only [trees, List.mem_cons, List.not_mem_nil, or_false] at htype
  rcases htype with rfl | rfl
  · exact ⟨_, rfl⟩
  · exact ⟨_, rfl⟩

theorem closed_trees : trees.family.Closed := by
  intro type htype m hm ref hkind
  simp only [trees, List.mem_cons, List.not_mem_nil, or_false] at htype
  rcases htype with rfl | rfl
  · obtain rfl := List.mem_singleton.mp hm
    cases hkind
    exact ⟨leaf, by simp [trees], rfl⟩
  · obtain rfl := List.mem_singleton.mp hm
    cases hkind

end Library

namespace Mapping

open Library

/-- Leaves are cut within a node that branches. -/
theorem cuts_by_name_trees : ∃ m e,
    ((build trees.family (.ofProperties "Node" [leaves] none)).run trees).1 = .ok m ∧
    Entries.get? "leaves" m = some e ∧ e.properties? = none ∧
    trees.family.HasNamesake [branchRef] leafRef := by
  obtain ⟨m, hm, -, hcuts, -⟩ := cuts_by_name trees exists_describe_trees closed_trees
    ⟨branch, List.mem_cons_self, rfl⟩ describe_branch
  have hleaves : leaves ∈ (Descriptor.ofProperties "Node" [leaves] none).mapped :=
    List.mem_singleton_self _
  have hnamesake : trees.family.HasNamesake [branchRef] leafRef :=
    ⟨branchRef, List.mem_singleton_self _, by decide, rfl⟩
  obtain ⟨e, he⟩ := hcuts.exists_entry .top describe_branch hleaves
  exact ⟨m, e, hm, he, (hcuts.cut_iff .top describe_branch hleaves rfl he).mpr (.inr hnamesake),
    hnamesake⟩

/-- The mapping of nodes that branch cuts more than recursion: leaves are no such nodes, but have no
entries. -/
theorem not_cutsRecursionOnly_trees : ∃ m,
    ((build trees.family (.ofProperties "Node" [leaves] none)).run trees).1 = .ok m ∧
    ¬CutsRecursionOnly trees.describe branchRef m := by
  have hm : ((build trees.family (.ofProperties "Node" [leaves] none)).run trees).1 =
      .ok [("leaves", .mk (parametersOf leaves) none)] := by
    rw [Lookup.run_fst, build, unfold]
    rfl
  refine ⟨_, hm, fun honly => ?_⟩
  have hleaves : leaves ∈ (Descriptor.ofProperties "Node" [leaves] none).mapped :=
    List.mem_singleton_self _
  obtain ⟨-, hfull⟩ := honly [] branchRef _ _ leaves leafRef _ .top describe_branch hleaves rfl rfl
  obtain ⟨d, inside, -, hinside, -⟩ := hfull (by decide)
  cases hinside

end Mapping

end ObjectDocument
