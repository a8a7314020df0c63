import ObjectDocument.Proofs.Conversion.Metadata
import ObjectDocument.Proofs.Conversion.Request

/-!
# Putting metadata into objects

The engine gives a document an identifier, a version and a sequence token, which are put into the
object that the document was written of. Main statement: each of them changes the field of its own
property and no other, a sequence token that is not assigned changes nothing, and the order in which
they are put in does not matter. This holds of immutable objects too, although these are made anew
from all of their values.
-/

namespace ObjectDocument

/-- A piece of the metadata that the engine gives to a document. -/
inductive Metadatum where
  | id (text : String)
  | version (n : Int64)
  | token (seqNo primaryTerm : Int64)

namespace Metadatum

/-- The role of the property that a piece of metadata is for. -/
def role : Metadatum → Role
  | id _ => .id
  | version _ => .version
  | token .. => .sequenceToken

/-- Put a piece of metadata into an object. -/
def put (a : Metadatum) (family : Family) (ref : EntityRef) (x : Instance) : Lookup Instance :=
  match a with
  | id text => Conversion.populateId family ref x text
  | version n => Conversion.populateVersion family ref x n
  | token seqNo primaryTerm => Conversion.populateToken family ref x seqNo primaryTerm

/-- Whether it is a sequence token that the engine did not assign. -/
def IsUnassigned : Metadatum → Prop
  | token seqNo primaryTerm => ¬(0 ≤ seqNo.toInt ∧ 1 ≤ primaryTerm.toInt)
  | _ => False

/-- The value that a property has of a piece of metadata. An identifier is a number where the property
holds numbers. -/
inductive Gives (p : Property) : Metadatum → Value → Prop
  | text {s : String} (hp : p.kind = .string) : Gives p (.id s) (.string s)
  | number {s : String} {n : Int64} (hp : p.kind = .long ∨ p.kind = .integer)
      (hn : Text.parseInt64? s = some n) : Gives p (.id s) (.long n)
  | version (n : Int64) : Gives p (.version n) (.long n)
  | token {seqNo primaryTerm : Int64} (h : 0 ≤ seqNo.toInt ∧ 1 ≤ primaryTerm.toInt) :
      Gives p (.token seqNo primaryTerm) (.token ⟨seqNo, primaryTerm⟩)

/-- Whether an object differs from another in the field that a piece of metadata is for, and in no
other. -/
structure Changes (d : Descriptor) (a : Metadatum) (x y : Instance) : Prop where
  length_eq : y.length = x.length
  new : ∀ p ∈ d.properties, p.role = a.role → a.Gives p (Conversion.valueOf y p)
  kept : ∀ p ∈ d.properties, p.role ≠ a.role → y[p.position]? = x[p.position]?

/-- The place in the objects of a type that a piece of metadata goes to, with the datum that it
becomes there. Without a place, objects stay as they are. -/
inductive Replaces (type : EntityType) (d : Descriptor) (a : Metadatum) :
    Option (Nat × Datum) → Prop
  | nothing (h : a.IsUnassigned ∨ d.withRole? a.role = none) : Replaces type d a none
  | field {p : Property} {m : Member} {v : Value} {e : Datum} (hp : d.withRole? a.role = some p)
      (hv : a.Gives p v) (hm : type.members[p.position]? = some m)
      (haccepts : type.accepts m = true) (he : m.shape.ofValue v = .ok e) :
      Replaces type d a (some (p.position, e))

/-- An object with a field replaced, if there is one to replace. -/
def replace (x : Instance) : Option (Nat × Datum) → Instance
  | some (i, e) => x.set i e
  | none => x

variable {config : Config} {family : Family} {describe : EntityRef → Except Error Descriptor}
  {ref : EntityRef} {type : EntityType} {d : Descriptor} {p : Property} {a b : Metadatum}
  {r s : Option (Nat × Datum)} {x y z : Instance} {v : Value}

/-! ## Properties and values -/

theorem role_ne_plain (a : Metadatum) : a.role ≠ .plain := by
  cases a <;> simp [role]

/-- The property of a piece of metadata is the one that has its role. -/
theorem withRole?_role_eq_some_iff {definition : EntityDefinition}
    (hbuild : Descriptor.build config definition = .ok d) :
    d.withRole? a.role = some p ↔ p ∈ d.properties ∧ p.role = a.role :=
  (Descriptor.describes_of_build hbuild).withRole?_eq_some_iff a.role_ne_plain

theorem Gives.isNull_eq (h : a.Gives p v) : v.isNull = false := by
  cases h with
  | text | number | version | token => rfl

theorem gives_id_iff {entity s : String}
    (hkind : p.kind = .string ∨ p.kind = .long ∨ p.kind = .integer) :
    (id s).Gives p v ↔ Conversion.idValue entity p s = .ok v := by
  rw [Conversion.idValue]
  constructor
  · intro h
    cases h with
    | text hp => rw [hp]
    | number hp hn => rcases hp with hp | hp <;> rw [hp, hn]
  · intro h
    rcases hkind with hp | hp | hp
    · rw [hp] at h
      cases h
      exact .text hp
    · rw [hp] at h
      dsimp only at h
      split at h
      next n hn =>
        cases h
        exact .number (.inl hp) hn
      next => cases h
    · rw [hp] at h
      dsimp only at h
      split at h
      next n hn =>
        cases h
        exact .number (.inr hp) hn
      next => cases h

theorem gives_version_iff {n : Int64} : (version n).Gives p v ↔ v = .long n := by
  constructor
  · rintro ⟨⟩
    rfl
  · rintro rfl
    exact .version n

theorem gives_token_iff {seqNo primaryTerm : Int64} : (token seqNo primaryTerm).Gives p v ↔
    ∃ t, SequenceToken.assigned? seqNo primaryTerm = some t ∧ v = .token t := by
  rw [SequenceToken.assigned?]
  constructor
  · rintro (_ | _ | _ | h)
    exact ⟨_, if_pos h, rfl⟩
  · rintro ⟨t, ht, rfl⟩
    split at ht
    next h =>
      cases ht
      exact .token h
    next => cases ht

/-! ## One piece of metadata -/

/-- What putting a piece of metadata into an object comes to. -/
theorem eval_put_eq_ok_iff (hd : describe ref = .ok d)
    (hbuild : Descriptor.build config type.definition = .ok d) (htype : family.type ref = type) :
    (a.put family ref x).eval describe = .ok y ↔
      (a.IsUnassigned ∨ d.withRole? a.role = none) ∧ y = x ∨
      ∃ p v, d.withRole? a.role = some p ∧ a.Gives p v ∧ type.withValue x p.name v = .ok y := by
  subst htype
  cases a with
  | id s =>
      rw [put, role, Conversion.populateId, Lookup.eval_ask_ok hd, Descriptor.id?]
      cases hp : d.withRole? .id with
      | none => simp [eq_comm]
      | some p =>
          have hkind : p.kind = .string ∨ p.kind = .long ∨ p.kind = .integer := by
            obtain ⟨hmem, hrole⟩ := (@withRole?_role_eq_some_iff _ d p (id s) _ hbuild).mp hp
            obtain ⟨_, -, hrepresents⟩ := Descriptor.represents_of_mem hbuild hmem
            exact hrepresents.id_kind hrole
          have hgives (v : Value) : (id s).Gives p v ↔ Conversion.idValue d.name p s = .ok v :=
            gives_id_iff hkind
          cases hv : Conversion.idValue d.name p s with
          | error e => simp [IsUnassigned, hgives, hv]
          | ok v => simp [IsUnassigned, hgives, hv]
  | version n =>
      rw [put, role, Conversion.populateVersion, Lookup.eval_ask_ok hd, Descriptor.version?]
      cases d.withRole? .version with
      | none => simp [eq_comm]
      | some p => simp [IsUnassigned, gives_version_iff]
  | token seqNo primaryTerm =>
      have hunassigned : (token seqNo primaryTerm).IsUnassigned ↔
          SequenceToken.assigned? seqNo primaryTerm = none := by
        rw [IsUnassigned, SequenceToken.assigned?]
        simp
      rw [put, role, Conversion.populateToken, Lookup.eval_ask_ok hd, Descriptor.token?,
        hunassigned]
      simp only [gives_token_iff]
      cases d.withRole? .sequenceToken with
      | none => simp [eq_comm]
      | some p =>
          cases SequenceToken.assigned? seqNo primaryTerm with
          | none => simp [eq_comm]
          | some t => simp

/-- The property that a piece of metadata is for, with its member. -/
theorem exists_member_of_withRole? (hbuild : Descriptor.build config type.definition = .ok d)
    (hp : d.withRole? a.role = some p) : ∃ m, type.members[p.position]? = some m ∧
      m.name = p.name ∧ (m.shape.kind.isIdentifier = true ∨ m.shape.kind = .sequenceToken) := by
  obtain ⟨hmem, hrole⟩ := (withRole?_role_eq_some_iff hbuild).mp hp
  obtain ⟨_, -, hrepresents⟩ := Descriptor.represents_of_mem hbuild hmem
  obtain ⟨m, hm, hdescribed⟩ := Conversion.exists_member (Descriptor.describes_of_build hbuild) hmem
  refine ⟨m, hm, hdescribed.name_eq.symm, ?_⟩
  rw [← hdescribed.kind_eq]
  cases a with
  | id s => exact .inl (Property.isIdentifier_iff.mpr (hrepresents.id_kind hrole))
  | version n =>
      exact .inl (Property.isIdentifier_iff.mpr (.inr (hrepresents.version_kind hrole)))
  | token seqNo primaryTerm => exact .inr (hrepresents.token_kind hrole)

/-- Putting a piece of metadata into an object replaces the same datum, whatever the object holds. -/
theorem eval_put_eq_ok_iff_replaces (hd : describe ref = .ok d)
    (hbuild : Descriptor.build config type.definition = .ok d) (htype : family.type ref = type)
    (hlength : x.length = type.members.length) (hx : type.Intact x)
    (htaken : type.immutable = true → ∀ m ∈ type.members, m.taken = true) :
    (a.put family ref x).eval describe = .ok y ↔ ∃ r, Replaces type d a r ∧ y = replace x r := by
  have hnodup := (Descriptor.describes_of_build hbuild).nodup_members
  have hstep {p : Property} {v : Value} (hp : d.withRole? a.role = some p) (hv : a.Gives p v) :
      type.withValue x p.name v = .ok y ↔ ∃ m, type.members[p.position]? = some m ∧
        type.accepts m = true ∧ ∃ e, m.shape.ofValue v = .ok e ∧ y = x.set p.position e := by
    obtain ⟨m, hm, hname, -⟩ := exists_member_of_withRole? hbuild hp
    have htaken' (himmutable : type.immutable = true) : m.taken = true :=
      htaken himmutable m (List.mem_of_getElem? hm)
    rw [← hname, EntityType.withValue_eq_ok_iff_set hnodup hlength hx hm htaken' hv.isNull_eq]
    simp [hm]
  rw [eval_put_eq_ok_iff hd hbuild htype]
  constructor
  · rintro (⟨hnothing, rfl⟩ | ⟨p, v, hp, hv, hy⟩)
    · exact ⟨none, .nothing hnothing, rfl⟩
    · obtain ⟨m, hm, haccepts, e, he, rfl⟩ := (hstep hp hv).mp hy
      exact ⟨_, .field hp hv hm haccepts he, rfl⟩
  · rintro ⟨r, hr, rfl⟩
    cases hr with
    | nothing hnothing => exact .inl ⟨hnothing, rfl⟩
    | field hp hv hm haccepts he =>
        exact .inr ⟨_, _, hp, hv, (hstep hp hv).mpr ⟨_, hm, haccepts, _, he, rfl⟩⟩

theorem length_replace (x : Instance) (r : Option (Nat × Datum)) :
    (replace x r).length = x.length := by
  cases r with
  | none => rfl
  | some r => exact List.length_set

/-- An object stays one that is made again from its own values. -/
theorem Replaces.intact (h : Replaces type d a r)
    (hbuild : Descriptor.build config type.definition = .ok d) (hx : type.Intact x) :
    type.Intact (replace x r) := by
  cases h with
  | nothing => exact hx
  | field hp hv hm haccepts he =>
      obtain ⟨n, hn, -, hkind⟩ := exists_member_of_withRole? hbuild hp
      obtain rfl := Option.some.inj (hm.symm.trans hn)
      apply EntityType.Intact.set hx hm
      rw [Shape.toValue_of_ofValue hkind he, EntityType.fieldFor_accepts haccepts hv.isNull_eq,
        EntityType.convert_eq_ok_iff]
      exact he

/-- Different properties stand at different positions. -/
theorem position_ne {definition : EntityDefinition} {q : Property} (hd : d.Describes definition)
    (hp : p ∈ d.properties) (hq : q ∈ d.properties) (hne : p ≠ q) : p.position ≠ q.position := by
  intro heq
  obtain ⟨i, hi⟩ := List.getElem?_of_mem hp
  obtain ⟨j, hj⟩ := List.getElem?_of_mem hq
  rw [hd.position_eq i p hi, hd.position_eq j q hj] at heq
  subst heq
  exact hne (Option.some.inj (hi.symm.trans hj))

/-- The field of the property becomes a datum of the value that the metadata gives. -/
theorem Replaces.changes (h : Replaces type d a r)
    (hbuild : Descriptor.build config type.definition = .ok d) (ha : ¬a.IsUnassigned)
    (hlength : x.length = type.members.length) : Changes d a x (replace x r) := by
  have hdescribes := Descriptor.describes_of_build hbuild
  refine ⟨length_replace x r, ?_, ?_⟩
  · intro q hq hrole
    have hfind := (withRole?_role_eq_some_iff hbuild).mpr ⟨hq, hrole⟩
    cases h with
    | nothing h => simp [ha, hfind] at h
    | field hp hv hm haccepts he =>
        obtain rfl := Option.some.inj (hfind.symm.trans hp)
        obtain ⟨n, hn, -, hkind⟩ := exists_member_of_withRole? hbuild hp
        obtain rfl := Option.some.inj (hm.symm.trans hn)
        obtain ⟨hlt, -⟩ := List.getElem?_eq_some_iff.mp hm
        rw [replace, Conversion.valueOf, List.getElem?_set_self (hlength ▸ hlt)]
        dsimp only
        rw [Shape.toValue_of_ofValue hkind he]
        exact hv
  · intro q hq hrole
    cases h with
    | nothing h => rfl
    | @field p m v e hp hv hm haccepts he =>
        obtain ⟨hmem, hrole'⟩ := (withRole?_role_eq_some_iff hbuild).mp hp
        have hne : p ≠ q := by
          rintro rfl
          exact hrole hrole'
        exact List.getElem?_set_ne (position_ne hdescribes hmem hq hne)

/-- Fields of different roles are replaced in either order. -/
theorem replace_comm (hbuild : Descriptor.build config type.definition = .ok d)
    (hr : Replaces type d a r) (hs : Replaces type d b s) (hrole : a.role ≠ b.role)
    (x : Instance) : replace (replace x r) s = replace (replace x s) r := by
  cases hr with
  | nothing => rfl
  | @field p m v e hp hv hm haccepts he =>
      cases hs with
      | nothing => rfl
      | @field q n w f hq hw hn haccepts' hf =>
          obtain ⟨hmem, hrole_p⟩ := (withRole?_role_eq_some_iff hbuild).mp hp
          obtain ⟨hmem', hrole_q⟩ := (withRole?_role_eq_some_iff hbuild).mp hq
          have hne : p ≠ q := by
            rintro rfl
            exact hrole (hrole_p.symm.trans hrole_q)
          exact List.set_comm e f (position_ne (Descriptor.describes_of_build hbuild) hmem hmem' hne)

/-! ## Several pieces of metadata -/

/-- Two pieces of metadata, one after the other, replace what each of them does. -/
theorem eval_put_put_eq_ok_iff (hd : describe ref = .ok d)
    (hbuild : Descriptor.build config type.definition = .ok d) (htype : family.type ref = type)
    (hlength : x.length = type.members.length) (hx : type.Intact x)
    (htaken : type.immutable = true → ∀ m ∈ type.members, m.taken = true) :
    (a.put family ref x >>= b.put family ref).eval describe = .ok z ↔
      ∃ r s, Replaces type d a r ∧ Replaces type d b s ∧ z = replace (replace x r) s := by
  rw [Lookup.eval_bind, bind_eq_ok]
  constructor
  · rintro ⟨y, hy, hz⟩
    obtain ⟨r, hr, rfl⟩ :=
      (eval_put_eq_ok_iff_replaces hd hbuild htype hlength hx htaken).mp hy
    have hlength' := (length_replace x r).trans hlength
    obtain ⟨s, hs, rfl⟩ := (eval_put_eq_ok_iff_replaces hd hbuild htype hlength'
      (hr.intact hbuild hx) htaken).mp hz
    exact ⟨r, s, hr, hs, rfl⟩
  · rintro ⟨r, s, hr, hs, rfl⟩
    have hlength' := (length_replace x r).trans hlength
    refine ⟨replace x r, ?_, ?_⟩
    · rw [eval_put_eq_ok_iff_replaces hd hbuild htype hlength hx htaken]
      exact ⟨r, hr, rfl⟩
    · rw [eval_put_eq_ok_iff_replaces hd hbuild htype hlength' (hr.intact hbuild hx) htaken]
      exact ⟨s, hs, rfl⟩

/-- Putting a piece of metadata into an object changes the field of its own property and no other. One
that is not assigned, or that there is no property for, leaves the object as it is. Two pieces for
different properties can be put in in either order, with the same result. An immutable object must be
one that its constructor makes again from its own values. -/
theorem put_frame (c : Context) {ref : EntityRef} {d : Descriptor} (hd : c.describe ref = .ok d)
    {x : Instance} (hfits : Datum.FitsMembers c.family x (c.family.type ref).members)
    (hrebuilds : (c.family.type ref).immutable = true → (c.family.type ref).Rebuilds x) :
    (∀ a y, ((put a c.family ref x).run c).1 = .ok y → ¬a.IsUnassigned → Changes d a x y) ∧
    (∀ a, a.IsUnassigned ∨ (∀ p ∈ d.properties, p.role ≠ a.role) →
      ((put a c.family ref x).run c).1 = .ok x) ∧
    ∀ a b, a.role ≠ b.role → ∀ z,
      ((put a c.family ref x >>= put b c.family ref).run c).1 = .ok z ↔
        ((put b c.family ref x >>= put a c.family ref).run c).1 = .ok z := by
  have hlength := Datum.length_eq_of_fitsMembers hfits
  have hx := EntityType.intact_of_rebuilds hfits hrebuilds
  have htaken (himmutable : (c.family.type ref).immutable = true) := (hrebuilds himmutable).taken
  have hone {a : Metadatum} {y : Instance} :=
    eval_put_eq_ok_iff_replaces (a := a) (y := y) hd hd rfl hlength hx htaken
  simp only [Lookup.run_fst]
  refine ⟨?_, ?_, ?_⟩
  · intro a y hy ha
    obtain ⟨r, hr, rfl⟩ := hone.mp hy
    exact hr.changes hd ha hlength
  · intro a ha
    rw [hone]
    refine ⟨none, .nothing (ha.imp_right fun hnone => ?_), rfl⟩
    refine Option.eq_none_iff_forall_ne_some.mpr fun p hp => ?_
    obtain ⟨hmem, hrole⟩ := (withRole?_role_eq_some_iff hd).mp hp
    exact hnone p hmem hrole
  · intro a b hrole z
    rw [eval_put_put_eq_ok_iff hd hd rfl hlength hx htaken,
      eval_put_put_eq_ok_iff hd hd rfl hlength hx htaken]
    constructor
    · rintro ⟨r, s, hr, hs, rfl⟩
      exact ⟨s, r, hs, hr, replace_comm hd hr hs hrole x⟩
    · rintro ⟨s, r, hs, hr, rfl⟩
      exact ⟨r, s, hr, hs, replace_comm hd hs hr hrole.symm x⟩

end Metadatum

/-! ## A letter and its metadata -/

namespace Library

/-- The reference of letters. -/
def letterRef : EntityRef := ⟨6, "Letter"⟩

/-- Letters are immutable. They have a number, their writers, of whom some may be unknown, and a
remark of any form. -/
def letter : EntityType where
  ref := letterRef
  name := "Letter"
  immutable := true
  members := [
    { name := "id", shape := .option (.base .integer), initial := .absent },
    { name := "writers", shape := .vec (.option (.base (.entity authorRef))), initial := .vec [] },
    { name := "remark", shape := .option (.base .json), initial := .absent },
    { name := "version", shape := .option (.base .long), initial := .absent
      role := some .version },
    { name := "token", shape := .base .token, initial := .token ⟨0, 0⟩ }]

/-- Letters and their writers under the default configuration. -/
def letters : Context where
  config := {}
  family := ⟨[letter, author]⟩

/-- A letter of two writers, with a remark that is `null`. -/
def sampleLetter : Instance :=
  [.absent, .vec [.present (.entity authorRef [.string "Ann", .absent]), .absent],
    .present (.json .null), .absent, .token ⟨0, 0⟩]

end Library

namespace Metadatum

open Library

theorem fitsMembers_sampleLetter : Datum.FitsMembers letters.family sampleLetter
    (letters.family.type letterRef).members := by
  have htype : letters.family.type letterRef = letter := rfl
  have hauthor : letters.family.type authorRef = author := rfl
  have hmem : ∃ type ∈ letters.family.types, type.ref = authorRef :=
    ⟨author, List.mem_cons_of_mem _ List.mem_cons_self, rfl⟩
  simp [sampleLetter, htype, hauthor, letter, author, Datum.FitsMembers, Datum.Fits,
    Datum.FitsAll, Datum.leaf?, hmem]

theorem rebuilds_sampleLetter : (letters.family.type letterRef).Rebuilds sampleLetter := by
  have htype : letters.family.type letterRef = letter := rfl
  rw [htype]
  constructor
  · simp [letter]
  · simp [letter, Shape.Unambiguous]
  · simp [sampleLetter, Datum.KeepsFloats, Datum.KeepsFloatsAll]

/-- A letter is numbered, and numbered and given a token in either order. -/
theorem put_frame_sampleLetter :
    ∃ d y z, letters.describe letterRef = .ok d ∧
      ((put (.id "007") letters.family letterRef sampleLetter).run letters).1 = .ok y ∧
      Changes d (.id "007") sampleLetter y ∧
      ((put (.token (-1) 0) letters.family letterRef sampleLetter).run letters).1 =
        .ok sampleLetter ∧
      ((put (.id "007") letters.family letterRef sampleLetter >>=
        put (.token 5 1) letters.family letterRef).run letters).1 = .ok z ∧
      ((put (.token 5 1) letters.family letterRef sampleLetter >>=
        put (.id "007") letters.family letterRef).run letters).1 = .ok z := by
  obtain ⟨d, hd⟩ : ∃ d, letters.describe letterRef = .ok d := ⟨_, rfl⟩
  obtain ⟨hchanges, hsame, hcommute⟩ :=
    put_frame letters hd fitsMembers_sampleLetter fun _ => rebuilds_sampleLetter
  obtain ⟨y, hy⟩ : ∃ y, ((put (.id "007") letters.family letterRef sampleLetter).run letters).1 =
    .ok y := ⟨_, rfl⟩
  obtain ⟨z, hz⟩ : ∃ z, ((put (.id "007") letters.family letterRef sampleLetter >>=
    put (.token 5 1) letters.family letterRef).run letters).1 = .ok z := ⟨_, rfl⟩
  have hunassigned : (token (-1) 0).IsUnassigned := by
    rw [IsUnassigned]
    decide
  exact ⟨d, y, z, hd, hy, hchanges _ y hy (fun h => h), hsame _ (.inl hunassigned), hz,
    (hcommute _ _ (by decide) z).mp hz⟩

end Metadatum

end ObjectDocument
