import ObjectDocument.Proofs.Conversion.RoundTrip
import ObjectDocument.Proofs.Conversion.Totality

/-!
# Documents both ways, member by member

Wire names and names are distinct, so the entry of a property in a document depends on its own datum
only, and so does the datum that is read back. Writing and reading an object therefore succeed if
they do for each member, and changing one field of an object changes nothing else of what is read
back.
-/

namespace ObjectDocument

namespace Conversion

section Member

variable (family : Family) (describe : EntityRef → Except Error Descriptor) (entity : String)

/-- The entry that a document gets for a property that holds a datum, if it gets one. -/
def entryOf (p : Property) (e : Datum) : Except Error (Option Json) :=
  if p.stores e then (((writer family e).write entity p).eval describe).map some else .ok none

/-- The value that a property gets from its entry in a document, if it gets one. -/
def valueFrom (p : Property) (entry : Option Json) : Except Error (Option Value) :=
  match entry with
  | some j =>
    if p.isReadable then ((reader family j entity p p.kind).eval describe).map some else .ok none
  | none => .ok none

/-- A datum of a member is written, and another datum is what is read back for the member. -/
def Relays (type : EntityType) (p : Property) (m : Member) (e e' : Datum) : Prop :=
  ∃ entry v, entryOf family describe entity p e = .ok entry ∧
    valueFrom family describe entity p entry = .ok v ∧ type.fieldFor m v = .ok e'

/-- An object is written, and the document is read as another object. -/
def ReadsBackAs (ref : EntityRef) (x y : Instance) : Prop :=
  ∃ doc, (write family ref x).eval describe = .ok doc ∧
    (read family ref { source := doc }).eval describe = .ok y

end Member

variable {family : Family} {describe : EntityRef → Except Error Descriptor} {entity : String}
  {ps : List Property} {ds : List Datum} {ws : List Writer} {p : Property} {es : Entries Json}

/-! ## Writing -/

/-- Properties that find the writers of their own data among those of an object. -/
def FindsWriters (family : Family) (ws : List Writer) (ps : List Property) (ds : List Datum) :
    Prop :=
  List.Forall₂ (fun p e => (ws[p.position]?).getD .null = writer family e) ps ds

theorem eval_writeProperties_cons {e : Datum} (h : (ws[p.position]?).getD .null = writer family e) :
    (writeProperties Writer.atPosition entity ws (p :: ps)).eval describe = .ok es ↔
      ∃ entry rest, entryOf family describe entity p e = .ok entry ∧
        (writeProperties Writer.atPosition entity ws ps).eval describe = .ok rest ∧
        es = (entry.map (p.fieldName, ·)).toList ++ rest := by
  rw [entryOf]
  cases hstores : p.stores e with
  | false =>
      rw [writeProperties_unstored h hstores]
      simp
  | true =>
      rw [writeProperties_stored h hstores, Lookup.eval_bind, bind_eq_ok]
      simp only [if_true, map_eq_ok_iff, Lookup.eval_map]
      constructor
      · rintro ⟨j, hj, rest, hrest, rfl⟩
        exact ⟨some j, rest, ⟨j, hj, rfl⟩, hrest, rfl⟩
      · rintro ⟨_, rest, ⟨j, hj, rfl⟩, hrest, rfl⟩
        exact ⟨j, hj, rest, hrest, rfl⟩

theorem exists_writeProperties_iff (h : FindsWriters family ws ps ds) :
    (∃ es, (writeProperties Writer.atPosition entity ws ps).eval describe = .ok es) ↔
      List.Forall₂ (fun p e => ∃ entry, entryOf family describe entity p e = .ok entry) ps ds := by
  induction h with
  | nil => simp [writeProperties]
  | cons hp hps ih =>
      rw [List.forall₂_cons, ← ih]
      simp only [eval_writeProperties_cons hp]
      constructor
      · rintro ⟨_, entry, rest, hentry, hrest, -⟩
        exact ⟨⟨entry, hentry⟩, rest, hrest⟩
      · rintro ⟨⟨entry, hentry⟩, rest, hrest⟩
        exact ⟨_, entry, rest, hentry, hrest, rfl⟩

theorem isWritable_of_entryOf {e : Datum} {j : Json}
    (h : entryOf family describe entity p e = .ok (some j)) : p.isWritable = true := by
  rw [entryOf] at h
  split at h
  next hstores => exact (Bool.and_eq_true _ _ ▸ hstores).1
  next => cases h

/-- Only properties that documents hold have entries. -/
theorem keys_writeProperties_sublist (h : FindsWriters family ws ps ds)
    (hes : (writeProperties Writer.atPosition entity ws ps).eval describe = .ok es) :
    (Entries.keys es).Sublist (wireNames ps) := by
  induction h generalizing es with
  | nil =>
      cases hes
      exact List.nil_sublist _
  | @cons p e ps ds hp hps ih =>
      obtain ⟨entry, rest, hentry, hrest, rfl⟩ := (eval_writeProperties_cons hp).mp hes
      cases entry with
      | none => exact (ih hrest).trans (wireNames_sublist p ps)
      | some j =>
          rw [wireNames_cons_of_isWritable (isWritable_of_entryOf hentry)]
          exact (ih hrest).cons_cons p.fieldName

/-- A property that is read finds its own entry in the document, if it has one. -/
theorem forall₂_entryOf (h : FindsWriters family ws ps ds)
    (hes : (writeProperties Writer.atPosition entity ws ps).eval describe = .ok es)
    (hnodup : (wireNames ps).Nodup) :
    List.Forall₂ (fun p e => p.isReadable = true →
      entryOf family describe entity p e = .ok (Entries.get? p.fieldName es)) ps ds := by
  induction h generalizing es with
  | nil => exact .nil
  | @cons p e ps ds hp hps ih =>
      obtain ⟨entry, rest, hentry, hrest, rfl⟩ := (eval_writeProperties_cons hp).mp hes
      have htail := ih hrest (hnodup.sublist (wireNames_sublist p ps))
      have hkeys := keys_writeProperties_sublist hps hrest
      cases entry with
      | none =>
          refine .cons ?_ htail
          intro hread
          -- No other property has the wire name.
          rw [wireNames_cons_kept hread] at hnodup
          have hnone : Entries.get? p.fieldName rest = none := Entries.get?_eq_none_iff.mpr
            fun hmem => (List.nodup_cons.mp hnodup).1 (hkeys.subset hmem)
          rw [hentry, Option.map_none, Option.toList_none, List.nil_append, hnone]
      | some j =>
          rw [wireNames_cons_of_isWritable (isWritable_of_entryOf hentry)] at hnodup
          have hname := (List.nodup_cons.mp hnodup).1
          refine .cons (fun _ => ?_) ?_
          · rw [hentry, Option.map_some, Option.toList_some, List.singleton_append, Entries.get?,
              if_pos rfl]
          · refine ((List.forall₂_and_left ps ds).mpr ⟨fun q hq => hq, htail⟩).imp ?_
            rintro q f ⟨hq, hqf⟩ hread
            have hne : p.fieldName ≠ q.fieldName := fun heq =>
              hname (heq ▸ mem_wireNames hq hread)
            rw [hqf hread, Option.map_some, Option.toList_some, List.singleton_append, Entries.get?,
              if_neg hne]

/-! ## Reading -/

/-- Properties are read one after another, each from its own entry. -/
theorem eval_readProperties_cons_bind {all : Entries Json} :
    (readProperties entity (entryReaders family all) (p :: ps)).eval describe = (do
      let v ← valueFrom family describe entity p (Entries.get? p.fieldName all)
      let vs ← (readProperties entity (entryReaders family all) ps).eval describe
      .ok ((v.map (p.name, ·)).toList ++ vs)) := by
  rw [readProperties, get?_entryReaders]
  cases Entries.get? p.fieldName all with
  | none =>
      rw [Option.map_none, valueFrom, ite_self]
      cases (readProperties entity (entryReaders family all) ps).eval describe <;> rfl
  | some j =>
      rw [valueFrom]
      dsimp only [Option.map_some]
      split
      next =>
        rw [Lookup.eval_bind]
        cases (reader family j entity p p.kind).eval describe with
        | error e => rfl
        | ok v => exact Lookup.eval_bind describe _ _
      next =>
        cases (readProperties entity (entryReaders family all) ps).eval describe <;> rfl

theorem eval_readProperties_cons {all : Entries Json} {vs : Entries Value} :
    (readProperties entity (entryReaders family all) (p :: ps)).eval describe = .ok vs ↔
      ∃ v rest, valueFrom family describe entity p (Entries.get? p.fieldName all) = .ok v ∧
        (readProperties entity (entryReaders family all) ps).eval describe = .ok rest ∧
        vs = (v.map (p.name, ·)).toList ++ rest := by
  rw [eval_readProperties_cons_bind, bind_eq_ok]
  simp only [bind_eq_ok, Except.ok.injEq]
  constructor
  · rintro ⟨v, hv, rest, hrest, rfl⟩
    exact ⟨v, rest, hv, hrest, rfl⟩
  · rintro ⟨v, rest, hv, hrest, rfl⟩
    exact ⟨v, hv, rest, hrest, rfl⟩

theorem keys_readProperties_sublist {all : Entries Json} {vs : Entries Value}
    (hvs : (readProperties entity (entryReaders family all) ps).eval describe = .ok vs) :
    (Entries.keys vs).Sublist (ps.map (·.name)) := by
  induction ps generalizing vs with
  | nil =>
      cases hvs
      exact List.nil_sublist _
  | cons p ps ih =>
      obtain ⟨v, rest, -, hrest, rfl⟩ := eval_readProperties_cons.mp hvs
      cases v with
      | none => exact (ih hrest).cons p.name
      | some v => exact (ih hrest).cons_cons p.name

theorem exists_readProperties_iff {all : Entries Json} :
    (∃ vs, (readProperties entity (entryReaders family all) ps).eval describe = .ok vs) ↔
      ∀ p ∈ ps, ∃ v,
        valueFrom family describe entity p (Entries.get? p.fieldName all) = .ok v := by
  induction ps with
  | nil => simp [readProperties]
  | cons p ps ih =>
      rw [List.forall_mem_cons, ← ih]
      simp only [eval_readProperties_cons]
      constructor
      · rintro ⟨_, v, rest, hv, hrest, -⟩
        exact ⟨⟨v, hv⟩, rest, hrest⟩
      · rintro ⟨⟨v, hv⟩, rest, hrest⟩
        exact ⟨_, v, rest, hv, hrest, rfl⟩

/-- A member finds its own value among those that are read, if there is one. -/
theorem valueFrom_of_eval {all : Entries Json} {vs : Entries Value}
    (hvs : (readProperties entity (entryReaders family all) ps).eval describe = .ok vs)
    (hnodup : (ps.map (·.name)).Nodup) : ∀ p ∈ ps,
      valueFrom family describe entity p (Entries.get? p.fieldName all) =
        .ok (Entries.get? p.name vs) := by
  induction ps generalizing vs with
  | nil => simp
  | cons p ps ih =>
      obtain ⟨v, rest, hv, hrest, rfl⟩ := eval_readProperties_cons.mp hvs
      obtain ⟨hname, hnodup⟩ := List.nodup_cons.mp hnodup
      have hnone : Entries.get? p.name rest = none := Entries.get?_eq_none_iff.mpr
        fun hmem => hname ((keys_readProperties_sublist hrest).subset hmem)
      intro q hq
      cases v with
      | none =>
          rw [Option.map_none, Option.toList_none, List.nil_append]
          rcases List.mem_cons.mp hq with rfl | htail
          · rw [hv, hnone]
          · exact ih hrest hnodup q htail
      | some v =>
          rw [Option.map_some, Option.toList_some, List.singleton_append, Entries.get?]
          rcases List.mem_cons.mp hq with rfl | htail
          · rw [hv, if_pos rfl]
          · have hne : p.name ≠ q.name := fun heq =>
              hname (List.mem_map.mpr ⟨q, htail, heq.symm⟩)
            rw [if_neg hne]
            exact ih hrest hnodup q htail

/-- A property takes no notice of entries of other properties. -/
theorem valueFrom_eq {e : Datum} {entry : Option Json}
    (hentry : entryOf family describe entity p e = .ok entry)
    (h : p.isReadable = true →
      entryOf family describe entity p e = .ok (Entries.get? p.fieldName es)) :
    valueFrom family describe entity p (Entries.get? p.fieldName es) =
      valueFrom family describe entity p entry := by
  have hunread (hread : p.isReadable = false) (o : Option Json) :
      valueFrom family describe entity p o = .ok none := by
    cases o with
    | none => rfl
    | some j => simp [valueFrom, hread]
  cases hread : p.isReadable with
  | false => rw [hunread hread, hunread hread]
  | true => rw [Except.ok.inj (hentry.symm.trans (h hread))]

/-! ## Objects -/

section Object

variable {ref : EntityRef} {d : Descriptor} {x y : Instance} {doc : Document}
  (hd : describe ref = .ok d) (hdescribes : d.Describes (family.type ref).definition)
  (hx : x.length = (family.type ref).members.length)

include hdescribes hx in
theorem findsWriters : FindsWriters family (writers family x) d.properties x := by
  have hlength : d.properties.length = x.length := by
    rw [hx, hdescribes.members.length_eq]
  have hall : List.Forall₂ (fun (_ : Property) (_ : Datum) => True) d.properties x :=
    forall₂_iff_getElem?.mpr ⟨hlength, fun _ _ _ _ _ => trivial⟩
  exact (forall₂_writer hall hdescribes.position_eq).imp fun p e h => h.1

include hd in
theorem eval_write_eq_ok_iff : (write family ref x).eval describe = .ok doc ↔
    ∃ es, (writeProperties Writer.atPosition d.name (writers family x) d.properties).eval describe =
      .ok es ∧ Document.ofEntries es = doc := by
  rw [write, Lookup.eval_ask_ok hd, writeObject, ← map_eq_pure_bind, Lookup.eval_map,
    map_eq_ok_iff]

include hd hdescribes hx

/-- An object is written if each of its properties is. -/
theorem exists_write_iff : (∃ doc, (write family ref x).eval describe = .ok doc) ↔
    List.Forall₂ (fun p e => ∃ entry, entryOf family describe d.name p e = .ok entry)
      d.properties x := by
  rw [← exists_writeProperties_iff (findsWriters hdescribes hx)]
  simp only [eval_write_eq_ok_iff hd]
  constructor
  · rintro ⟨doc, es, hes, -⟩
    exact ⟨es, hes⟩
  · rintro ⟨es, hes⟩
    exact ⟨_, es, hes, rfl⟩

omit hx in
/-- A document without metadata is read as the values of its entries, each as that of its member. -/
theorem eval_read_source_iff (hes : (Entries.keys es).Nodup) :
    (read family ref { source := Document.ofEntries es }).eval describe = .ok y ↔
      ∃ vs, (readProperties d.name (entryReaders family es) d.properties).eval describe = .ok vs ∧
        (family.type ref).members.length = y.length ∧
        ∀ (i : Nat) (m : Member) (e' : Datum), (family.type ref).members[i]? = some m →
          y[i]? = some e' →
          (family.type ref).fieldFor m (Entries.get? m.name vs) = .ok e' := by
  have hmerge : (Document.ofEntries es).entries = es := Entries.merge_eq_self hes
  rw [read, Lookup.eval_ask_ok hd, Lookup.eval_bind, bind_eq_ok, hmerge]
  refine exists_congr fun vs => and_congr_right fun hvs => ?_
  have hkeys := hdescribes.nodup_names.sublist (keys_readProperties_sublist hvs)
  rw [Entries.merge_eq_self hkeys, withId_source]
  dsimp only
  rw [withVersion_source, withToken_source, Lookup.eval_done,
    EntityType.instantiate_eq_ok_iff hdescribes.nodup_members hkeys, mapM_eq_ok,
    forall₂_iff_getElem?]

/-- The document of an object is read member by member. -/
theorem eval_read_eq_ok_iff (hdoc : (write family ref x).eval describe = .ok doc) :
    (read family ref { source := doc }).eval describe = .ok y ↔
      (family.type ref).members.length = y.length ∧
        ∀ (i : Nat) (p : Property) (m : Member) (e e' : Datum), d.properties[i]? = some p →
          (family.type ref).members[i]? = some m → x[i]? = some e → y[i]? = some e' →
          Relays family describe d.name (family.type ref) p m e e' := by
  obtain ⟨es, hes, rfl⟩ := (eval_write_eq_ok_iff hd).mp hdoc
  have hwriters := findsWriters hdescribes hx
  have hentries := forall₂_iff_getElem?.mp ((exists_writeProperties_iff hwriters).mp ⟨es, hes⟩)
  have hown := forall₂_iff_getElem?.mp (forall₂_entryOf hwriters hes hdescribes.nodup_fieldNames)
  have hmembers := forall₂_iff_getElem?.mp hdescribes.members
  rw [eval_read_source_iff hd hdescribes
    (hdescribes.nodup_fieldNames.sublist (keys_writeProperties_sublist hwriters hes))]
  constructor
  · rintro ⟨vs, hvs, hlength, hfields⟩
    refine ⟨hlength, fun i p m e e' hp hm he he' => ?_⟩
    obtain ⟨entry, hentry⟩ := hentries.2 i p e hp he
    have hvalue := valueFrom_of_eval hvs hdescribes.nodup_names p (List.mem_of_getElem? hp)
    rw [valueFrom_eq hentry (hown.2 i p e hp he), (hmembers.2 i m p hm hp).name_eq] at hvalue
    exact ⟨entry, _, hentry, hvalue, hfields i m e' hm he'⟩
  · rintro ⟨hlength, hrelays⟩
    have hvalue {i : Nat} {p : Property} (hp : d.properties[i]? = some p) :
        ∃ m e e' v, (family.type ref).members[i]? = some m ∧ x[i]? = some e ∧ y[i]? = some e' ∧
          valueFrom family describe d.name p (Entries.get? p.fieldName es) = .ok v ∧
          (family.type ref).fieldFor m v = .ok e' := by
      obtain ⟨m, hm⟩ := exists_getElem? hmembers.1 hp
      obtain ⟨e, he⟩ := exists_getElem? hx hm
      obtain ⟨e', he'⟩ := exists_getElem? hlength.symm hm
      obtain ⟨entry, v, hentry, hv, hfield⟩ := hrelays i p m e e' hp hm he he'
      exact ⟨m, e, e', v, hm, he, he', (valueFrom_eq hentry (hown.2 i p e hp he)).trans hv, hfield⟩
    have hreads : ∀ p ∈ d.properties, ∃ v,
        valueFrom family describe d.name p (Entries.get? p.fieldName es) = .ok v := by
      intro p hp
      obtain ⟨i, hi⟩ := List.getElem?_of_mem hp
      obtain ⟨m, e, e', v, -, -, -, hv, -⟩ := hvalue hi
      exact ⟨v, hv⟩
    obtain ⟨vs, hvs⟩ := exists_readProperties_iff.mpr hreads
    refine ⟨vs, hvs, hlength, fun i m e' hm he' => ?_⟩
    obtain ⟨p, hp⟩ := exists_getElem? hmembers.1.symm hm
    obtain ⟨m', e, f, v, hm', -, hf, hv, hfield⟩ := hvalue hp
    obtain rfl : m = m' := Option.some.inj (hm.symm.trans hm')
    obtain rfl : e' = f := Option.some.inj (he'.symm.trans hf)
    have hown := valueFrom_of_eval hvs hdescribes.nodup_names p (List.mem_of_getElem? hp)
    rw [(hmembers.2 i m p hm hp).name_eq, hv] at hown
    rw [← Except.ok.inj hown]
    exact hfield

/-- An object is read back as another one if each of its fields is. -/
theorem readsBackAs_iff : ReadsBackAs family describe ref x y ↔
    (family.type ref).members.length = y.length ∧
      ∀ (i : Nat) (p : Property) (m : Member) (e e' : Datum), d.properties[i]? = some p →
        (family.type ref).members[i]? = some m → x[i]? = some e → y[i]? = some e' →
        Relays family describe d.name (family.type ref) p m e e' := by
  have hmembers := hdescribes.members.length_eq
  constructor
  · rintro ⟨doc, hdoc, hy⟩
    exact (eval_read_eq_ok_iff hd hdescribes hx hdoc).mp hy
  · rintro ⟨hlength, hrelays⟩
    obtain ⟨doc, hdoc⟩ := (exists_write_iff hd hdescribes hx).mpr (by
      refine forall₂_iff_getElem?.mpr ⟨by rw [hx, hmembers], fun i p e hp he => ?_⟩
      obtain ⟨m, hm⟩ := exists_getElem? hmembers hp
      obtain ⟨e', he'⟩ := exists_getElem? hlength.symm hm
      obtain ⟨entry, -, hentry, -⟩ := hrelays i p m e e' hp hm he he'
      exact ⟨entry, hentry⟩)
    exact ⟨doc, hdoc, (eval_read_eq_ok_iff hd hdescribes hx hdoc).mpr ⟨hlength, hrelays⟩⟩

/-! ## Changing one field -/

omit hd hdescribes hx in
theorem relays_iff {type : EntityType} {m : Member} {e e' : Datum} {entry : Option Json}
    {v : Option Value} (hentry : entryOf family describe entity p e = .ok entry)
    (hv : valueFrom family describe entity p entry = .ok v) :
    Relays family describe entity type p m e e' ↔ type.fieldFor m v = .ok e' := by
  constructor
  · rintro ⟨entry', v', hentry', hv', hfield⟩
    obtain rfl : entry = entry' := Except.ok.inj (hentry.symm.trans hentry')
    obtain rfl : v = v' := Except.ok.inj (hv.symm.trans hv')
    exact hfield
  · intro hfield
    exact ⟨entry, v, hentry, hv, hfield⟩

omit hd hdescribes hx in
theorem Relays.unique {type : EntityType} {m : Member} {e e' f : Datum}
    (h : Relays family describe entity type p m e e')
    (hf : Relays family describe entity type p m e f) : e' = f := by
  obtain ⟨entry, v, hentry, hv, hfield⟩ := h
  exact Except.ok.inj (hfield.symm.trans ((relays_iff hentry hv).mp hf))

variable {i : Nat} {m : Member} {e : Datum} (hp : d.properties[i]? = some p)
  (hm : (family.type ref).members[i]? = some m) (hy : ReadsBackAs family describe ref x y)

include hp hm hy

/-- Whether an object is written after one of its fields has changed depends on the field. -/
theorem exists_write_set {entry : Option Json}
    (hentry : entryOf family describe d.name p e = .ok entry) :
    ∃ doc, (write family ref (x.set i e)).eval describe = .ok doc := by
  have hset : (x.set i e).length = (family.type ref).members.length := by
    rw [List.length_set, hx]
  obtain ⟨doc₀, hdoc₀, -⟩ := hy
  obtain ⟨hlength, hentries⟩ := forall₂_iff_getElem?.mp
    ((exists_write_iff hd hdescribes hx).mp ⟨doc₀, hdoc₀⟩)
  refine (exists_write_iff hd hdescribes hset).mpr (forall₂_iff_getElem?.mpr ⟨?_, ?_⟩)
  · rw [hlength, List.length_set]
  · intro j q f hq hf
    by_cases hj : i = j
    · subst hj
      obtain rfl : p = q := Option.some.inj (hp.symm.trans hq)
      have hlt : i < x.length := by
        rw [hx]
        exact (List.getElem?_eq_some_iff.mp hm).1
      rw [List.getElem?_set_self hlt] at hf
      exact ⟨entry, Option.some.inj hf ▸ hentry⟩
    · rw [List.getElem?_set_ne hj] at hf
      exact hentries j q f hq hf

/-- After one of its fields has changed, an object is read back with another datum there and with
the same everywhere else, or not at all. -/
theorem eval_read_set_iff {z : Instance}
    (hdoc : (write family ref (x.set i e)).eval describe = .ok doc) :
    (read family ref { source := doc }).eval describe = .ok z ↔
      ∃ e', Relays family describe d.name (family.type ref) p m e e' ∧ z = y.set i e' := by
  have hset : (x.set i e).length = (family.type ref).members.length := by
    rw [List.length_set, hx]
  have hlt : i < (family.type ref).members.length := (List.getElem?_eq_some_iff.mp hm).1
  obtain ⟨hylength, hrelays⟩ := (readsBackAs_iff hd hdescribes hx).mp hy
  rw [eval_read_eq_ok_iff hd hdescribes hset hdoc]
  constructor
  · rintro ⟨hzlength, hz⟩
    obtain ⟨e', he'⟩ := exists_getElem? hzlength.symm hm
    have hrelay := hz i p m e e' hp hm (List.getElem?_set_self (hx ▸ hlt)) he'
    refine ⟨e', hrelay, List.ext_getElem? fun j => ?_⟩
    by_cases hj : i = j
    · subst hj
      rw [he', List.getElem?_set_self (hylength ▸ hlt)]
    · rw [List.getElem?_set_ne hj]
      cases hn : (family.type ref).members[j]? with
      | none =>
          rw [List.getElem?_eq_none_iff] at hn
          rw [List.getElem?_eq_none (hzlength ▸ hn), List.getElem?_eq_none (hylength ▸ hn)]
      | some n =>
          -- The other fields are the same before and after, and so is what is read of them.
          obtain ⟨q, hq⟩ := exists_getElem? hdescribes.members.length_eq.symm hn
          obtain ⟨f, hf⟩ := exists_getElem? hx hn
          obtain ⟨g, hg⟩ := exists_getElem? hzlength.symm hn
          obtain ⟨g', hg'⟩ := exists_getElem? hylength.symm hn
          have hafter := hz j q n f g hq hn (by rw [List.getElem?_set_ne hj, hf]) hg
          have hbefore := hrelays j q n f g' hq hn hf hg'
          rw [hg, hg', hafter.unique hbefore]
  · rintro ⟨e', hrelay, rfl⟩
    refine ⟨by rw [List.length_set, hylength], fun j q n f g hq hn hf hg => ?_⟩
    by_cases hj : i = j
    · subst hj
      rw [List.getElem?_set_self (hx ▸ hlt)] at hf
      rw [List.getElem?_set_self (hylength ▸ hlt)] at hg
      cases hf
      cases hg
      obtain rfl : p = q := Option.some.inj (hp.symm.trans hq)
      obtain rfl : m = n := Option.some.inj (hm.symm.trans hn)
      exact hrelay
    · rw [List.getElem?_set_ne hj] at hf hg
      exact hrelays j q n f g hq hn hf hg

end Object

end Conversion

end ObjectDocument
