import ObjectDocument.Proofs.Descriptor.Structure
import ObjectDocument.Proofs.Outcome

/-!
# Data and what a document keeps of them

A datum of a shape is what its own value is converted to, as long as an optional datum has only one
way to be absent. A document keeps all of a datum but the members of objects that travel beside it.
-/

namespace ObjectDocument

/-- Whether absence has a single datum: no option stands directly in an option. -/
def Shape.Unambiguous : Shape → Prop
  | .base _ => True
  | .option (.option _) => False
  | .option inner => inner.Unambiguous
  | .vec element => element.Unambiguous

theorem Shape.unambiguous_option {inner : Shape} : (Shape.option inner).Unambiguous ↔
    (∀ deeper, inner ≠ .option deeper) ∧ inner.Unambiguous := by
  cases inner with
  | base b => simp [Unambiguous]
  | option deeper => simp [Unambiguous]
  | vec element => simp [Unambiguous]

/-- The type of a datum that is a single value of its own. -/
def Datum.leaf? : Datum → Option Base
  | .bool _ => some .bool
  | .long _ => some .long
  | .integer _ => some .integer
  | .double _ => some .double
  | .float _ => some .float
  | .string _ => some .string
  | .date _ => some .date
  | .dateTime _ => some .dateTime
  | .instant _ => some .instant
  | .join _ => some .join
  | .token _ => some .token
  | .json _ => some .json
  | .absent | .present _ | .vec _ | .entity _ _ => none

section Family

variable (family : Family)

mutual

/-- Whether a datum is of a shape. Embedded objects are of a type of the family, with a field for
each member. -/
def Datum.Fits : Datum → Shape → Prop
  | .absent, s => ∃ inner, s = .option inner
  | .present d, s => ∃ inner, s = .option inner ∧ d.Fits inner
  | .vec items, s => ∃ element, s = .vec element ∧ Datum.FitsAll items element
  | .entity ref fields, s => s = .base (.entity ref) ∧ (∃ type ∈ family.types, type.ref = ref) ∧
      Datum.FitsMembers fields (family.type ref).members
  | d, s => ∃ b, d.leaf? = some b ∧ s = .base b

/-- Whether all data of a list are of a shape. -/
def Datum.FitsAll : List Datum → Shape → Prop
  | [], _ => True
  | d :: ds, s => d.Fits s ∧ Datum.FitsAll ds s

/-- Whether the fields of an object are of the shapes of its members. -/
def Datum.FitsMembers : List Datum → List Member → Prop
  | [], [] => True
  | d :: ds, m :: ms => d.Fits m.shape ∧ Datum.FitsMembers ds ms
  | _, _ => False

end

/-- What a member of a new object holds if no value is given for it. -/
def EntityType.unset (type : EntityType) (m : Member) : Datum :=
  if type.immutable then .absent else m.initial

mutual

/-- What is left of a datum in a document: the members of embedded objects that travel beside a
document are unset. -/
def Datum.restored : Datum → Datum
  | .present d => .present d.restored
  | .vec items => .vec (Datum.restoredAll items)
  | .entity ref fields =>
    .entity ref (Datum.restoredMembers (family.type ref) fields (family.type ref).members)
  | d => d

/-- What is left of the data of a list. -/
def Datum.restoredAll : List Datum → List Datum
  | [] => []
  | d :: ds => d.restored :: Datum.restoredAll ds

/-- What is left of the fields of an object. -/
def Datum.restoredMembers (type : EntityType) : List Datum → List Member → List Datum
  | d :: ds, m :: ms =>
    (if m.isOutOfBand then type.unset m else d.restored) :: Datum.restoredMembers type ds ms
  | _, _ => []

end

mutual

/-- Data that are equal at every depth, except for the members of embedded objects that travel
beside a document. -/
inductive Datum.Agree : Datum → Datum → Prop
  | same (d : Datum) : Datum.Agree d d
  | present {d d' : Datum} (h : Datum.Agree d d') : Datum.Agree (.present d) (.present d')
  | vec {ds ds' : List Datum} (h : Datum.AgreeAll ds ds') : Datum.Agree (.vec ds) (.vec ds')
  | entity {ref : EntityRef} {ds ds' : List Datum}
      (h : Datum.AgreeMembers (family.type ref).members ds ds') :
      Datum.Agree (.entity ref ds) (.entity ref ds')

/-- Lists whose data agree one by one. -/
inductive Datum.AgreeAll : List Datum → List Datum → Prop
  | nil : Datum.AgreeAll [] []
  | cons {d d' : Datum} {ds ds' : List Datum} (h : Datum.Agree d d')
      (hrest : Datum.AgreeAll ds ds') : Datum.AgreeAll (d :: ds) (d' :: ds')

/-- Objects whose fields agree, member by member, where a document keeps the member. -/
inductive Datum.AgreeMembers : List Member → List Datum → List Datum → Prop
  | nil : Datum.AgreeMembers [] [] []
  | outOfBand {m : Member} {ms : List Member} {d d' : Datum} {ds ds' : List Datum}
      (hm : m.isOutOfBand = true) (hrest : Datum.AgreeMembers ms ds ds') :
      Datum.AgreeMembers (m :: ms) (d :: ds) (d' :: ds')
  | kept {m : Member} {ms : List Member} {d d' : Datum} {ds ds' : List Datum}
      (h : Datum.Agree d d') (hrest : Datum.AgreeMembers ms ds ds') :
      Datum.AgreeMembers (m :: ms) (d :: ds) (d' :: ds')

end

end Family

/-- What a single value of a property needs so that a document keeps it: JSON can hold it, and a
converter reads back what it writes. -/
structure Property.Preserves (p : Property) (v : Value) : Prop where
  finite : ∀ x, v = .double x → x.isFinite = true
  plain : p.converter = none → v ≠ .json .null ∧
    ∀ t, v = .instant t → 0 ≤ t.date.year ∧ t.date.year ≤ 9999
  converted : ∀ c, p.converter = some c →
    ∃ s, c.toConverter.write v = .ok s ∧ c.toConverter.read s = .ok v

theorem Property.preserves_plain {p : Property} {v : Value} (hp : p.converter = none)
    (hfinite : ∀ x, v = .double x → x.isFinite = true) (hjson : v ≠ .json .null)
    (hyear : ∀ t, v = .instant t → 0 ≤ t.date.year ∧ t.date.year ≤ 9999) : p.Preserves v := by
  refine ⟨hfinite, fun _ => ⟨hjson, hyear⟩, ?_⟩
  intro c hc
  rw [hp] at hc
  cases hc

section Describe

variable (describe : EntityRef → Except Error Descriptor)

mutual

/-- Whether a document keeps every single value in a datum of a property, at every depth. A `Float32`
must not change when it is widened to a double and rounded back. -/
def Datum.Lossless : Datum → Property → Prop
  | .absent, _ => True
  | .present d, p => d.Lossless p
  | .vec items, p => Datum.LosslessAll items p
  | .entity ref fields, _ => ∀ d, describe ref = .ok d → Datum.LosslessMembers fields d.properties
  | .float x, p => x.toFloat.toFloat32 = x ∧ p.Preserves (.double x.toFloat)
  | d, p => p.Preserves d.toValue

/-- Whether a document keeps the data of a list. -/
def Datum.LosslessAll : List Datum → Property → Prop
  | [], _ => True
  | d :: ds, p => d.Lossless p ∧ Datum.LosslessAll ds p

/-- Whether a document keeps the fields of an object, each as one of its property. -/
def Datum.LosslessMembers : List Datum → List Property → Prop
  | d :: ds, p :: ps => d.Lossless p ∧ Datum.LosslessMembers ds ps
  | _, _ => True

end

end Describe

theorem Value.eq_null_of_isNull {v : Value} (h : v.isNull = true) : v = .null := by
  cases v with
  | null => rfl
  | _ => cases h

namespace Datum

variable {family : Family}

theorem length_eq_of_fitsMembers {ds : List Datum} {ms : List Member}
    (h : FitsMembers family ds ms) : ds.length = ms.length := by
  induction ds generalizing ms with
  | nil =>
      cases ms with
      | nil => rfl
      | cons m ms => exact absurd h id
  | cons d ds ih =>
      cases ms with
      | nil => exact absurd h id
      | cons m ms => rw [List.length_cons, List.length_cons, ih h.2]

/-- The fields of an object fit its members, each its own. -/
theorem fits_of_getElem? {ds : List Datum} {ms : List Member} (h : FitsMembers family ds ms)
    {i : Nat} {d : Datum} {m : Member} (hd : ds[i]? = some d) (hm : ms[i]? = some m) :
    d.Fits family m.shape := by
  induction ds generalizing ms i with
  | nil => cases hd
  | cons e ds ih =>
      cases ms with
      | nil => cases hm
      | cons n ms =>
          cases i with
          | zero =>
              cases hd
              cases hm
              exact h.1
          | succ i => exact ih h.2 hd hm

mutual

/-- What is left of a datum agrees with it. -/
theorem agree_restored : ∀ (d : Datum) (s : Shape), d.Fits family s →
    d.Agree family (d.restored family)
  | .absent, _, _ => .same _
  | .present d, _, hfits => by
    obtain ⟨inner, rfl, h⟩ := hfits
    exact .present (agree_restored d inner h)
  | .vec items, _, hfits => by
    obtain ⟨element, rfl, h⟩ := hfits
    exact .vec (agreeAll_restored items element h)
  | .entity ref fields, _, hfits =>
    .entity (agreeMembers_restored (family.type ref) fields (family.type ref).members hfits.2.2)
  | .bool _, _, _ | .long _, _, _ | .integer _, _, _ | .double _, _, _ | .float _, _, _
  | .string _, _, _ | .date _, _, _ | .dateTime _, _, _ | .instant _, _, _ | .join _, _, _
  | .token _, _, _ | .json _, _, _ => .same _

theorem agreeAll_restored : ∀ (ds : List Datum) (s : Shape), FitsAll family ds s →
    AgreeAll family ds (restoredAll family ds)
  | [], _, _ => .nil
  | d :: ds, s, hfits => .cons (agree_restored d s hfits.1) (agreeAll_restored ds s hfits.2)

theorem agreeMembers_restored (type : EntityType) : ∀ (ds : List Datum) (ms : List Member),
    FitsMembers family ds ms → AgreeMembers family ms ds (restoredMembers family type ds ms)
  | [], ms, hfits => by
    cases ms with
    | nil => exact .nil
    | cons m ms => exact absurd hfits id
  | d :: ds, ms, hfits => by
    cases ms with
    | nil => exact absurd hfits id
    | cons m ms =>
        have hrest := agreeMembers_restored type ds ms hfits.2
        cases hm : m.isOutOfBand with
        | true => exact .outOfBand hm hrest
        | false =>
            rw [restoredMembers, hm]
            exact .kept (agree_restored d m.shape hfits.1) hrest

end

/-! ## Values of data -/

/-- What is left of a datum is absent when the datum is. -/
theorem isNull_restored (d : Datum) : (d.restored family).toValue.isNull = d.toValue.isNull := by
  match d with
  | .present d => exact isNull_restored d
  | .absent | .vec _ | .entity _ _ | .bool _ | .long _ | .integer _ | .double _ | .float _
  | .string _ | .date _ | .dateTime _ | .instant _ | .join _ | .token _ | .json _ => rfl

/-- Only an option can be absent. -/
theorem isNull_eq_false {d : Datum} {s : Shape} (hfits : d.Fits family s)
    (hs : ∀ inner, s ≠ .option inner) : d.toValue.isNull = false := by
  cases d with
  | absent =>
      obtain ⟨inner, heq⟩ := hfits
      exact absurd heq (hs inner)
  | present d =>
      obtain ⟨inner, heq, -⟩ := hfits
      exact absurd heq (hs inner)
  | _ => rfl

/-- Absence has one datum only. -/
theorem eq_absent_of_isNull {d : Datum} {s : Shape} (hfits : d.Fits family s)
    (hs : s.Unambiguous) (hnull : d.toValue.isNull = true) :
    d = .absent ∧ ∃ inner, s = .option inner := by
  cases d with
  | absent => exact ⟨rfl, hfits⟩
  | present d =>
      obtain ⟨inner, rfl, hinner⟩ := hfits
      have hpresent := isNull_eq_false hinner (Shape.unambiguous_option.mp hs).1
      exact absurd hnull (by rw [toValue, hpresent]; simp)
  | _ => cases hnull

theorem int32?_toInt (n : Int32) : Base.int32? n.toInt = some n := by
  rw [Base.int32?, if_pos ⟨n.minValue_le_toInt, n.toInt_le⟩, Int32.ofInt_toInt]

/-- A leaf is what its value is converted to. -/
theorem ofValue_leaf {d : Datum} {b : Base} (hb : d.leaf? = some b)
    (hfloat : ∀ x, d = .float x → x.toFloat.toFloat32 = x) : b.ofValue d.toValue = .ok d := by
  cases d with
  | integer n =>
      cases hb
      rw [toValue, Base.ofValue, Int32.toInt_toInt64, int32?_toInt]
  | float x =>
      cases hb
      rw [toValue, Base.ofValue, Base.doubleOf, Except.map, hfloat x rfl]
  | absent => cases hb
  | present d => cases hb
  | vec items => cases hb
  | entity ref fields => cases hb
  | _ =>
      cases hb
      rfl

theorem float_of_lossless {describe : EntityRef → Except Error Descriptor} {d : Datum}
    {p : Property} (h : d.Lossless describe p) (x : Float32) (hd : d = .float x) :
    x.toFloat.toFloat32 = x := by
  subst hd
  exact h.1

theorem ofValue_option {inner : Shape} {v : Value} (hv : v.isNull = false) :
    (Shape.option inner).ofValue v = (inner.ofValue v).map .present := by
  cases v with
  | null => cases hv
  | _ => rfl

mutual

theorem ofValue_restored {describe : EntityRef → Except Error Descriptor} (p : Property) :
    ∀ (d : Datum) (s : Shape), d.Fits family s → s.Unambiguous → d.Lossless describe p →
      s.ofValue (d.restored family).toValue = .ok (d.restored family)
  | .absent, s, hfits, _, _ => by
    obtain ⟨inner, rfl⟩ := hfits
    rfl
  | .present d, s, hfits, hs, hlossless => by
    -- An absent value would be taken for an absent datum, so the inner datum must not be absent.
    obtain ⟨inner, rfl, hinner⟩ := hfits
    obtain ⟨hne, hunambiguous⟩ := Shape.unambiguous_option.mp hs
    have hnull : (d.restored family).toValue.isNull = false := by
      rw [isNull_restored, isNull_eq_false hinner hne]
    have hvalue := ofValue_restored p d inner hinner hunambiguous hlossless
    rw [restored, toValue, ofValue_option hnull, hvalue]
    rfl
  | .vec items, s, hfits, hs, hlossless => by
    obtain ⟨element, rfl, hitems⟩ := hfits
    have hvalues := mapM_ofValue_restored p items element hitems hs hlossless
    rw [restored, toValue, Shape.ofValue, hvalues]
    rfl
  | .entity ref fields, s, hfits, _, _ => by
    obtain ⟨rfl, -⟩ := hfits
    simp [restored, toValue, Shape.ofValue, Base.ofValue]
  | .bool _, s, hfits, _, hlossless | .long _, s, hfits, _, hlossless
  | .integer _, s, hfits, _, hlossless | .double _, s, hfits, _, hlossless
  | .float _, s, hfits, _, hlossless | .string _, s, hfits, _, hlossless
  | .date _, s, hfits, _, hlossless | .dateTime _, s, hfits, _, hlossless
  | .instant _, s, hfits, _, hlossless | .join _, s, hfits, _, hlossless
  | .token _, s, hfits, _, hlossless | .json _, s, hfits, _, hlossless => by
    obtain ⟨b, hb, rfl⟩ := hfits
    exact ofValue_leaf hb (float_of_lossless hlossless)

theorem mapM_ofValue_restored {describe : EntityRef → Except Error Descriptor} (p : Property) :
    ∀ (ds : List Datum) (s : Shape), FitsAll family ds s → s.Unambiguous →
      LosslessAll describe ds p →
      (toValues (restoredAll family ds)).mapM s.ofValue = .ok (restoredAll family ds)
  | [], _, _, _, _ => rfl
  | d :: ds, s, hfits, hs, hlossless => by
    have hd := ofValue_restored p d s hfits.1 hs hlossless.1
    have hds := mapM_ofValue_restored p ds s hfits.2 hs hlossless.2
    rw [restoredAll, toValues, List.mapM_cons, hd, hds]
    rfl

end

end Datum

end ObjectDocument
