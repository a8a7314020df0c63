import ObjectDocument.Proofs.Conversion.Embedding
import ObjectDocument.Proofs.Conversion.Leaf
import ObjectDocument.Proofs.EntityType

/-!
# Documents both ways

An object that is written to a document and read again is the same object, except for its version and
sequence token and those of the objects embedded in it, which travel beside documents. The proof goes
through the datum: what is written of it is read as the value of what a document keeps of it, and
the values of an object's properties make the object again.
-/

namespace ObjectDocument

namespace Conversion

variable {family : Family} {describe : EntityRef → Except Error Descriptor} {entity : String}

/-! ## Entries of a document -/

/-- Whether the document of an object has an entry for a property. -/
def isKept (p : Property) (d : Datum) : Bool :=
  !p.role.isOutOfBand && !(d.toValue.isNull && !p.storesNull)

variable (family describe entity)

/-- Whether what is written of a datum, as one of a property, is read as what a document keeps of the
datum. -/
def Survives (p : Property) (d : Datum) : Prop :=
  ∃ j, ((writer family d).write entity p).eval describe = .ok j ∧
    (reader family j entity p p.kind).eval describe = .ok (d.restored family).toValue

/-- The entries that are written for properties, each one read as what it keeps. -/
inductive Written : List Property → List Datum → Entries Json → Prop
  | nil : Written [] [] []
  | left {p : Property} {ps : List Property} {d : Datum} {ds : List Datum} {es : Entries Json}
      (hp : isKept p d = false) (hrest : Written ps ds es) : Written (p :: ps) (d :: ds) es
  | kept {p : Property} {ps : List Property} {d : Datum} {ds : List Datum} {es : Entries Json}
      {j : Json} (hp : isKept p d = true)
      (hread : (reader family j entity p p.kind).eval describe = .ok (d.restored family).toValue)
      (hrest : Written ps ds es) : Written (p :: ps) (d :: ds) ((p.fieldName, j) :: es)

/-- The values that are read for properties. -/
def keptValues : List Property → List Datum → Entries Value
  | p :: ps, d :: ds =>
    if isKept p d then (p.name, (d.restored family).toValue) :: keptValues ps ds
    else keptValues ps ds
  | _, _ => []

variable {family describe entity}

theorem isWritable_eq {p : Property} (h : p.access = .readWrite) :
    p.isWritable = !p.role.isOutOfBand := by
  rw [Property.isWritable, h]
  exact Bool.and_true _

theorem isReadable_eq {p : Property} (h : p.access = .readWrite) :
    p.isReadable = !p.role.isOutOfBand := by
  rw [Property.isReadable, h]
  exact Bool.and_true _

theorem isReadable_of_isKept {p : Property} {d : Datum} (h : p.access = .readWrite)
    (hd : isKept p d = true) : p.isReadable = true := by
  rw [isReadable_eq h]
  exact (Bool.and_eq_true _ _ ▸ hd).1

section Write

variable {ws : List Writer} {p : Property} {ps : List Property} {d : Datum}

theorem writeProperties_left (hp : p.access = .readWrite) (hd : isKept p d = false)
    (hwriter : (ws[p.position]?).getD .null = writer family d) :
    writeProperties Writer.atPosition entity ws (p :: ps) =
      writeProperties Writer.atPosition entity ws ps := by
  rw [writeProperties, Writer.atPosition, hwriter, isWritable_eq hp]
  dsimp only
  rw [isNull_writer]
  cases hrole : p.role.isOutOfBand with
  | true => rfl
  | false =>
      have hnull : (d.toValue.isNull && !p.storesNull) = true := by simpa [isKept, hrole] using hd
      rw [hnull]
      rfl

theorem writeProperties_kept (hp : p.access = .readWrite) (hd : isKept p d = true)
    (hwriter : (ws[p.position]?).getD .null = writer family d) :
    writeProperties Writer.atPosition entity ws (p :: ps) = (do
      let j ← (writer family d).write entity p
      let es ← writeProperties Writer.atPosition entity ws ps
      pure ((p.fieldName, j) :: es)) := by
  obtain ⟨hrole, hnull⟩ : p.role.isOutOfBand = false ∧
      (d.toValue.isNull && !p.storesNull) = false := by
    simpa only [isKept, Bool.and_eq_true, Bool.not_eq_true'] using hd
  rw [writeProperties, Writer.atPosition, hwriter, isWritable_eq hp]
  dsimp only
  rw [isNull_writer, hrole, hnull]
  rfl

end Write

/-- If every datum survives, writing the properties from a position on succeeds. -/
theorem exists_written {ps : List Property} {ds : List Datum}
    (haccess : ∀ p ∈ ps, p.access = .readWrite)
    (h : List.Forall₂ (Survives family describe entity) ps ds) (before : List Writer)
    (hposition : ∀ (i : Nat) (p : Property), ps[i]? = some p → p.position = before.length + i) :
    ∃ es, (writeProperties Writer.atPosition entity (before ++ writers family ds) ps).eval describe =
        .ok es ∧ Written family describe entity ps ds es := by
  -- The writers before the position only grow, so that positions stay those of the whole object.
  induction h generalizing before with
  | nil => exact ⟨[], rfl, .nil⟩
  | @cons p d ps ds hd hds ih =>
      have hp := haccess p List.mem_cons_self
      have hwriter : ((before ++ writers family (d :: ds))[p.position]?).getD .null =
          writer family d := by
        rw [hposition 0 p rfl, Nat.add_zero, writers]
        simp
      have hsplit : before ++ writers family (d :: ds) =
          (before ++ [writer family d]) ++ writers family ds := by
        rw [writers]
        simp
      obtain ⟨es, hes, hwritten⟩ := ih (fun q hq => haccess q (List.mem_cons_of_mem p hq))
        (before ++ [writer family d]) (by
          intro i q hq
          rw [hposition (i + 1) q hq, List.length_append, List.length_singleton]
          omega)
      rw [← hsplit] at hes
      cases hkept : isKept p d with
      | false => exact ⟨es, by rw [writeProperties_left hp hkept hwriter, hes], .left hkept hwritten⟩
      | true =>
          obtain ⟨j, hwrite, hread⟩ := hd
          refine ⟨(p.fieldName, j) :: es, ?_, .kept hkept hread hwritten⟩
          rw [writeProperties_kept hp hkept hwriter]
          simp only [Lookup.eval_bind, hwrite, hes]
          rfl

/-- The wire names of the properties that documents hold. -/
def wireNames (ps : List Property) : List String :=
  (ps.filter fun p => p.isReadable || p.isWritable).map (·.fieldName)

theorem wireNames_cons_kept {p : Property} (hp : p.isReadable = true) (ps : List Property) :
    wireNames (p :: ps) = p.fieldName :: wireNames ps := by
  simp [wireNames, hp]

theorem wireNames_cons_of_isWritable {p : Property} (hp : p.isWritable = true)
    (ps : List Property) : wireNames (p :: ps) = p.fieldName :: wireNames ps := by
  simp [wireNames, hp]

theorem mem_wireNames {p : Property} {ps : List Property} (hp : p ∈ ps)
    (hread : p.isReadable = true) : p.fieldName ∈ wireNames ps :=
  List.mem_map_of_mem (List.mem_filter.mpr ⟨hp, by rw [hread]; rfl⟩)

theorem wireNames_sublist (p : Property) (ps : List Property) :
    (wireNames ps).Sublist (wireNames (p :: ps)) := by
  rw [wireNames, wireNames, List.filter_cons]
  split
  · exact (List.sublist_cons_self p _).map _
  · exact List.Sublist.refl _

/-- An entry that is written belongs to a property that documents hold. -/
theorem Written.keys_sublist {ps : List Property} {ds : List Datum} {es : Entries Json}
    (haccess : ∀ p ∈ ps, p.access = .readWrite) (h : Written family describe entity ps ds es) :
    (Entries.keys es).Sublist (wireNames ps) := by
  induction h with
  | nil => exact List.nil_sublist _
  | @left p ps d ds es hp hrest ih =>
      exact (ih fun q hq => haccess q (List.mem_cons_of_mem p hq)).trans (wireNames_sublist p ps)
  | @kept p ps d ds es j hp hread hrest ih =>
      have hsub := ih fun q hq => haccess q (List.mem_cons_of_mem p hq)
      rw [wireNames_cons_kept (isReadable_of_isKept (haccess p List.mem_cons_self) hp)]
      exact hsub.cons_cons p.fieldName

/-- The entries that are written are read as what they keep, out of any entries that hold them for
the properties. -/
theorem Written.eval_readProperties {ps : List Property} {ds : List Datum} {es all : Entries Json}
    (haccess : ∀ p ∈ ps, p.access = .readWrite) (h : Written family describe entity ps ds es)
    (hnodup : (wireNames ps).Nodup)
    (hall : ∀ p ∈ ps, p.isReadable = true →
      Entries.get? p.fieldName all = Entries.get? p.fieldName es) :
    (readProperties entity (entryReaders family all) ps).eval describe =
      .ok (keptValues family ps ds) := by
  induction h with
  | nil => rfl
  | @left p ps d ds es hp hrest ih =>
      have haccess' : ∀ q ∈ ps, q.access = .readWrite := fun q hq =>
        haccess q (List.mem_cons_of_mem p hq)
      have htail := ih haccess' (hnodup.sublist (wireNames_sublist p ps)) fun q hq =>
        hall q (List.mem_cons_of_mem p hq)
      rw [readProperties, keptValues, hp]
      split
      next hread =>
        -- Nothing was written under the name of the property.
        rw [wireNames_cons_kept hread] at hnodup
        have hname := (List.nodup_cons.mp hnodup).1
        have hnone : Entries.get? p.fieldName all = none := by
          rw [hall p List.mem_cons_self hread, Entries.get?_eq_none_iff]
          exact fun hmem => hname ((hrest.keys_sublist haccess').subset hmem)
        rw [get?_entryReaders, hnone]
        exact htail
      next hread => exact htail
  | @kept p ps d ds es j hp hread hrest ih =>
      have haccess' : ∀ q ∈ ps, q.access = .readWrite := fun q hq =>
        haccess q (List.mem_cons_of_mem p hq)
      have hreadable := isReadable_of_isKept (haccess p List.mem_cons_self) hp
      rw [wireNames_cons_kept hreadable] at hnodup
      obtain ⟨hname, hnodup'⟩ := List.nodup_cons.mp hnodup
      have hget : Entries.get? p.fieldName all = some j := by
        rw [hall p List.mem_cons_self hreadable, Entries.get?, if_pos rfl]
      have hall' : ∀ q ∈ ps, q.isReadable = true →
          Entries.get? q.fieldName all = Entries.get? q.fieldName es := by
        intro q hq hreadable'
        have hne : p.fieldName ≠ q.fieldName := by
          intro heq
          exact hname (heq ▸ mem_wireNames hq hreadable')
        rw [hall q (List.mem_cons_of_mem p hq) hreadable', Entries.get?, if_neg hne]
      rw [readProperties, if_pos hreadable, get?_entryReaders, hget, keptValues, hp]
      simp only [Option.map_some, Lookup.eval_bind, hread, ih haccess' hnodup' hall']
      rfl

/-! ## Values of the members -/

theorem keys_keptValues_sublist (family : Family) (ps : List Property) (ds : List Datum) :
    (Entries.keys (keptValues family ps ds)).Sublist (ps.map (·.name)) := by
  induction ps generalizing ds with
  | nil => exact List.nil_sublist _
  | cons p ps ih =>
      cases ds with
      | nil => exact List.nil_sublist _
      | cons d ds =>
          rw [keptValues]
          split
          · exact (ih ds).cons_cons p.name
          · exact (ih ds).cons p.name

/-- A member that a document holds no value of is one beside the document, or absent. -/
theorem yields_member {type : EntityType} (htype : type.Restorable) {m : Member} {p : Property}
    {d : Datum} {all : Entries Value} (hm : m ∈ type.members) (hp : m.DescribedBy type p)
    (hfits : d.Fits family m.shape) (hlossless : d.Lossless describe p)
    (hget : Entries.get? p.name all =
      if isKept p d then some (d.restored family).toValue else none) :
    type.Yields all m (if m.isOutOfBand then type.unset m else d.restored family) := by
  rw [EntityType.Yields, ← hp.name_eq, hget]
  cases hband : m.isOutOfBand with
  | true =>
      -- Nothing is written of a member beside the document, so it stays unset.
      have hleft : isKept p d = false := by rw [isKept, hp.isOutOfBand_eq, hband]; rfl
      rw [hleft]
      exact ⟨rfl, fun himmutable => htype.optional himmutable m hm hband⟩
  | false =>
      cases hkept : isKept p d with
      | true => exact Datum.ofValue_restored p d m.shape hfits (htype.unambiguous m hm) hlossless
      | false =>
          -- An absent datum is left out, and unset is how an optional member is absent.
          have hnull : d.toValue.isNull = true := by
            rw [isKept, hp.isOutOfBand_eq, hband, Bool.not_false, Bool.true_and,
              Bool.not_eq_false', Bool.and_eq_true] at hkept
            exact hkept.1
          obtain ⟨rfl, inner, hinner⟩ :=
            Datum.eq_absent_of_isNull hfits (htype.unambiguous m hm) hnull
          refine ⟨?_, fun _ => ⟨inner, hinner⟩⟩
          rw [EntityType.unset]
          cases himmutable : type.immutable with
          | true => rfl
          | false => exact (htype.initial_eq himmutable m hm inner hinner).symm

/-- The values that are read give each member what a document keeps of it. -/
theorem yields_keptValues {type : EntityType} (htype : type.Restorable) {ms : List Member}
    {ps : List Property} {ds : List Datum} {all : Entries Value} (hms : ∀ m ∈ ms, m ∈ type.members)
    (hdescribed : List.Forall₂ (Member.DescribedBy type) ms ps)
    (hfits : Datum.FitsMembers family ds ms) (hlossless : Datum.LosslessMembers describe ds ps)
    (hnodup : (ps.map (·.name)).Nodup)
    (hall : ∀ p ∈ ps, Entries.get? p.name all = Entries.get? p.name (keptValues family ps ds)) :
    List.Forall₂ (type.Yields all) ms (Datum.restoredMembers family type ds ms) := by
  induction hdescribed generalizing ds with
  | nil =>
      cases ds with
      | nil => exact .nil
      | cons d ds => exact absurd hfits id
  | @cons m p ms ps hp hdescribed ih =>
      cases ds with
      | nil => exact absurd hfits id
      | cons d ds =>
          obtain ⟨hname, hnodup'⟩ := List.nodup_cons.mp hnodup
          have hnone : Entries.get? p.name (keptValues family ps ds) = none :=
            Entries.get?_eq_none_iff.mpr fun hmem =>
              hname ((keys_keptValues_sublist family ps ds).subset hmem)
          have htail := ih (fun n hn => hms n (List.mem_cons_of_mem m hn)) hfits.2 hlossless.2
            hnodup' (by
              intro q hq
              have hne : p.name ≠ q.name := fun heq =>
                hname (List.mem_map.mpr ⟨q, hq, heq.symm⟩)
              rw [hall q (List.mem_cons_of_mem p hq), keptValues]
              split
              · rw [Entries.get?, if_neg hne]
              · rfl)
          -- No later property has the name, so the value under it is the one of this property.
          refine .cons ?_ htail
          refine yields_member htype (hms m List.mem_cons_self) hp hfits.1 hlossless.1 ?_
          rw [hall p List.mem_cons_self, keptValues]
          split
          · rw [Entries.get?, if_pos rfl]
          · exact hnone

/-! ## Objects -/

theorem accessOf_eq {type : EntityType} (htype : type.Restorable) {m : Member}
    (hm : m ∈ type.members) : type.accessOf m = .readWrite := by
  rw [EntityType.accessOf]
  cases himmutable : type.immutable with
  | true => exact htype.access_eq m hm
  | false =>
      rw [htype.settable himmutable m hm]
      exact htype.access_eq m hm

/-- An object whose fields survive is written and made again from what was written. -/
theorem exists_object {ref : EntityRef} {d : Descriptor} {x : Instance}
    (htype : (family.type ref).Restorable) (hd : describe ref = .ok d)
    (hdescribes : d.Describes (family.type ref).definition)
    (hfits : Datum.FitsMembers family x (family.type ref).members)
    (hlossless : Datum.LosslessMembers describe x d.properties)
    (hsurvives : List.Forall₂ (Survives family describe d.name) d.properties x) :
    ∃ doc, (write family ref x).eval describe = .ok doc ∧
      (read family ref { source := doc }).eval describe =
        .ok (Datum.restoredMembers family (family.type ref) x (family.type ref).members) := by
  have haccess : ∀ p ∈ d.properties, p.access = .readWrite := by
    intro p hp
    obtain ⟨m, hm, hdescribed⟩ := exists_mem_of_forall₂ hdescribes.members hp
    rw [hdescribed.access_eq, accessOf_eq htype hm]
  have hnodup : (wireNames d.properties).Nodup := hdescribes.nodup_fieldNames
  obtain ⟨es, hes, hwritten⟩ := exists_written haccess hsurvives [] (by
    intro i p hp
    rw [hdescribes.position_eq i p hp]
    simp)
  -- Names and wire names are distinct, so nothing is merged in the document or in its values.
  have hmerge : (Document.ofEntries es).entries = es :=
    Entries.merge_eq_self (hnodup.sublist (hwritten.keys_sublist haccess))
  have hvalues := hwritten.eval_readProperties haccess hnodup (fun p hp hread => rfl)
  have hkeys := keys_keptValues_sublist family d.properties x
  have hinstance := EntityType.instantiate_eq_ok htype hdescribes.nodup_members
    (hdescribes.nodup_names.sublist hkeys)
    (yields_keptValues htype (fun m hm => hm) hdescribes.members hfits hlossless
      hdescribes.nodup_names (fun p hp => rfl))
  refine ⟨Document.ofEntries es, ?_, ?_⟩
  · rw [write, Lookup.eval_ask_ok hd, writeObject, Lookup.eval_bind]
    rw [List.nil_append] at hes
    rw [hes]
    rfl
  · rw [read, Lookup.eval_ask_ok hd, Lookup.eval_bind, hmerge, hvalues]
    have hmerged : Entries.merge (keptValues family d.properties x) =
        keptValues family d.properties x := Entries.merge_eq_self (hdescribes.nodup_names.sublist hkeys)
    simp only [bind, Except.bind, hmerged, withId_source, withVersion_source, withToken_source,
      Lookup.eval_done, hinstance]

/-! ## Data -/

/-- A family whose descriptors can be built and whose objects can be made again from documents. -/
structure RestorableFamily (config : Config) (family : Family) : Prop where
  builds : ∀ type ∈ family.types, ∃ d, family.describe config type.ref = .ok d
  restorable : ∀ type ∈ family.types, type.Restorable

theorem type_restorable {config : Config} (hfamily : RestorableFamily config family)
    {ref : EntityRef} (href : ∃ type ∈ family.types, type.ref = ref) :
    (family.type ref).Restorable :=
  hfamily.restorable (family.type ref) (Family.type_mem href).1

theorem exists_descriptor {config : Config} (hfamily : RestorableFamily config family)
    {ref : EntityRef} (href : ∃ type ∈ family.types, type.ref = ref) :
    ∃ d, family.describe config ref = .ok d := by
  obtain ⟨type, htype, rfl⟩ := href
  exact hfamily.builds type htype

mutual

/-- What is written of a datum is read as the value of what a document keeps of it. -/
theorem exists_datum {config : Config} (hfamily : RestorableFamily config family)
    (entity : String) (p : Property) :
    ∀ (d : Datum) (s : Shape), d.Fits family s → d.Lossless (family.describe config) p →
      ∃ j, ((writer family d).write entity p).eval (family.describe config) = .ok j ∧
        (reader family j entity p s.kind).eval (family.describe config) =
          .ok (d.restored family).toValue
  | .absent, _, _, _ => ⟨.null, rfl, rfl⟩
  | .present d, s, hfits, hlossless => by
    obtain ⟨inner, rfl, hinner⟩ := hfits
    exact exists_datum hfamily entity p d inner hinner hlossless
  | .vec items, s, hfits, hlossless => by
    obtain ⟨element, rfl, hitems⟩ := hfits
    obtain ⟨js, hwrite, hread⟩ := exists_items hfamily entity p items element hitems hlossless
    refine ⟨.array js, ?_, ?_⟩
    · rw [writer]
      simp only [Lookup.eval_bind, hwrite]
      rfl
    · rw [reader, Shape.kind]
      simp only [Lookup.eval_bind, hread]
      rfl
  | .entity ref fields, s, hfits, hlossless => by
    obtain ⟨rfl, href, hfields⟩ := hfits
    -- The embedded object is a document of its own, under the descriptor of its type.
    obtain ⟨d, hd⟩ := exists_descriptor hfamily href
    have hdescribes := Descriptor.describes_of_build hd
    have hsurvives := forall₂_survives hfamily d.name (family.type ref) fields
      (family.type ref).members d.properties hfields hdescribes.members (hlossless d hd)
    obtain ⟨doc, hwrite, hread⟩ := exists_object (type_restorable hfamily href) hd hdescribes hfields
      (hlossless d hd) hsurvives
    refine ⟨doc.toJson, ?_, ?_⟩
    · rw [eval_write_entity (Datum.length_eq_of_fitsMembers hfields), Lookup.eval_map, hwrite]
      rfl
    · rw [Document.toJson, Shape.kind, Base.kind, reader_object, eval_readEmbedded, Lookup.eval_map,
        hread]
      rfl
  | .bool _, s, hfits, hlossless | .long _, s, hfits, hlossless
  | .integer _, s, hfits, hlossless | .double _, s, hfits, hlossless
  | .string _, s, hfits, hlossless | .date _, s, hfits, hlossless
  | .dateTime _, s, hfits, hlossless | .instant _, s, hfits, hlossless
  | .join _, s, hfits, hlossless | .token _, s, hfits, hlossless
  | .json _, s, hfits, hlossless => by
    obtain ⟨b, hb, rfl⟩ := hfits
    exact exists_leaf hb hlossless _ entity
  | .float _, s, hfits, hlossless => by
    obtain ⟨b, hb, rfl⟩ := hfits
    exact exists_leaf hb hlossless.2 _ entity

/-- The items of a list are written and read in order. -/
theorem exists_items {config : Config} (hfamily : RestorableFamily config family)
    (entity : String) (p : Property) :
    ∀ (ds : List Datum) (s : Shape), Datum.FitsAll family ds s →
      Datum.LosslessAll (family.describe config) ds p →
      ∃ js, (writeAll entity p (writers family ds)).eval (family.describe config) = .ok js ∧
        (readAll entity p s.kind (readers family js)).eval (family.describe config) =
          .ok (Datum.toValues (Datum.restoredAll family ds))
  | [], _, _, _ => ⟨[], rfl, rfl⟩
  | d :: ds, s, hfits, hlossless => by
    obtain ⟨j, hwrite, hread⟩ := exists_datum hfamily entity p d s hfits.1 hlossless.1
    obtain ⟨js, hwrites, hreads⟩ := exists_items hfamily entity p ds s hfits.2 hlossless.2
    refine ⟨j :: js, ?_, ?_⟩
    · rw [writers, writeAll]
      simp only [Lookup.eval_bind, hwrite, hwrites]
      rfl
    · rw [readers, readAll]
      simp only [Lookup.eval_bind, hread, hreads]
      rfl

/-- The fields of an object survive, each as one of its property. -/
theorem forall₂_survives {config : Config} (hfamily : RestorableFamily config family)
    (entity : String) (type : EntityType) :
    ∀ (ds : List Datum) (ms : List Member) (ps : List Property),
      Datum.FitsMembers family ds ms → List.Forall₂ (Member.DescribedBy type) ms ps →
      Datum.LosslessMembers (family.describe config) ds ps →
      List.Forall₂ (Survives family (family.describe config) entity) ps ds
  | [], ms, ps, hfits, hdescribed, hlossless => by
    cases hdescribed with
    | nil => exact .nil
    | cons hp hrest => exact absurd hfits id
  | d :: ds, ms, ps, hfits, hdescribed, hlossless => by
    cases hdescribed with
    | nil => exact absurd hfits id
    | @cons m p ms ps hp hrest =>
        have hd := exists_datum hfamily entity p d m.shape hfits.1 hlossless.1
        rw [← hp.kind_eq] at hd
        exact .cons hd (forall₂_survives hfamily entity type ds ms ps hfits.2 hrest hlossless.2)

end

/-- An object that is written is read again as an object that agrees with it on every member, at every
depth, but for versions and sequence tokens. The context is the same in both steps, or rather what
writing leaves of it. -/
theorem read_write_agree (c : Context) (hfamily : RestorableFamily c.config c.family)
    {ref : EntityRef} (href : ∃ type ∈ c.family.types, type.ref = ref) {x : Instance}
    (hfits : Datum.FitsMembers c.family x (c.family.type ref).members)
    (hlossless : ∀ d, c.describe ref = .ok d → Datum.LosslessMembers c.describe x d.properties) :
    ∃ doc, ((write c.family ref x).run c).1 = .ok doc ∧
      ∃ x', ((read c.family ref { source := doc }).run ((write c.family ref x).run c).2).1 = .ok x' ∧
        Datum.AgreeMembers c.family (c.family.type ref).members x x' := by
  obtain ⟨d, hd⟩ := exists_descriptor hfamily href
  have hdescribes := Descriptor.describes_of_build hd
  have hsurvives := forall₂_survives hfamily d.name (c.family.type ref) x
    (c.family.type ref).members d.properties hfits hdescribes.members (hlossless d hd)
  obtain ⟨doc, hwrite, hread⟩ := exists_object (type_restorable hfamily href) hd hdescribes hfits
    (hlossless d hd) hsurvives
  refine ⟨doc, ?_, _, ?_, Datum.agreeMembers_restored (c.family.type ref) x _ hfits⟩
  · rw [Lookup.run_fst]
    exact hwrite
  · rw [Lookup.run_fst, (Lookup.run_snd _ c).2]
    exact hread

/-! ## A book and its document -/

section Sample

open Library

theorem restorableFamily_library :
    RestorableFamily context.config context.family where
  builds := by
    intro type htype
    simp only [context, List.mem_cons, List.not_mem_nil, or_false] at htype
    rcases htype with rfl | rfl
    · exact ⟨_, describe_book⟩
    · exact ⟨_, describe_author⟩
  restorable := by
    intro type htype
    simp only [context, List.mem_cons, List.not_mem_nil, or_false] at htype
    rcases htype with rfl | rfl
    · constructor <;> simp [book, Shape.Unambiguous]
    · constructor <;> simp [author, Shape.Unambiguous, Member.isOutOfBand, Shape.kind, Base.kind,
        Kind.element]

theorem fitsMembers_sampleBook : Datum.FitsMembers context.family sampleBook
    (context.family.type bookRef).members := by
  have hbook : ∃ type ∈ context.family.types, type.ref = bookRef :=
    ⟨book, List.mem_cons_self, rfl⟩
  have hauthor : ∃ type ∈ context.family.types, type.ref = authorRef :=
    ⟨author, List.mem_cons_of_mem _ List.mem_cons_self, rfl⟩
  simp [sampleBook, type_book, type_author, book, author,
    Datum.FitsMembers, Datum.Fits, Datum.FitsAll, Datum.leaf?, hbook, hauthor]

theorem losslessMembers_sampleBook (d : Descriptor)
    (hd : context.describe bookRef = .ok d) :
    Datum.LosslessMembers context.describe sampleBook d.properties := by
  rw [describe_book] at hd
  cases hd
  have hisbn {s : String} (hs : Converter.lowerCase (Converter.upperCase s) = s) :
      isbn.Preserves (.string s) := by
    constructor
    · intro x hx
      cases hx
    · intro h
      cases h
    · intro c hc
      cases hc
      refine ⟨Converter.upperCase s, rfl, ?_⟩
      exact congrArg (fun s => Except.ok (Value.string s)) hs
  have hname : (property 0 "name" .string .keyword).Preserves (.string "Ann") :=
    Property.preserves_plain rfl (by simp) (by simp) (by simp)
  have hborn : (property 1 "born" .localDate .date).Preserves (.date .epoch) :=
    Property.preserves_plain rfl (by simp) (by simp) (by simp)
  have hversion (n : Int64) : version.Preserves (.long n) :=
    Property.preserves_plain rfl (by simp) (by simp) (by simp)
  simp only [sampleBook, Datum.LosslessMembers, Datum.Lossless, Datum.LosslessAll, Datum.toValue,
    bookProperties, authorProperties, describe_book, describe_author, Except.ok.injEq, forall_eq',
    Descriptor.ofProperties_properties, and_true, true_and]
  exact ⟨hisbn rfl, ⟨hname, hborn⟩, ⟨hisbn rfl, hversion 2⟩, hversion 7⟩

theorem read_write_agree_sampleBook :
    ∃ doc, ((write context.family bookRef sampleBook).run context).1 = .ok doc ∧
      ∃ x', ((read context.family bookRef { source := doc }).run
          ((write context.family bookRef sampleBook).run context).2).1 = .ok x' ∧
        Datum.AgreeMembers context.family book.members sampleBook x' :=
  read_write_agree context restorableFamily_library ⟨book, List.mem_cons_self, rfl⟩
    fitsMembers_sampleBook losslessMembers_sampleBook

end Sample

end Conversion

end ObjectDocument
