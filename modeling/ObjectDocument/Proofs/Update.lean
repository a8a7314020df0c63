import ObjectDocument.Proofs.EntityType
import ObjectDocument.Proofs.Shape

/-!
# Changing members of objects

Changing a member of an object gives what is made of the values the object was made of, with the
value of that member replaced. For a mutable object this is so because no other member is touched. An
immutable object is made anew from its own values, and each of its fields has to come out as it was.
-/

namespace ObjectDocument

namespace EntityType

variable {type : EntityType} {m : Member} {values : Entries Value} {d : Datum} {v : Value}
  {x y : Instance}

/-- The members of an object changed one after another. -/
def withValues (type : EntityType) : Instance → Entries Value → Except Error Instance
  | x, [] => .ok x
  | x, (name, v) :: vs => do
    let x ← type.withValue x name v
    withValues type x vs

theorem withValues_singleton (type : EntityType) (x : Instance) (name : String) (v : Value) :
    type.withValues x [(name, v)] = type.withValue x name v := by
  rw [withValues]
  cases type.withValue x name v with
  | ok y => rfl
  | error e => rfl

theorem withValues_append (type : EntityType) (x : Instance) (vs ws : Entries Value) :
    type.withValues x (vs ++ ws) = type.withValues x vs >>= fun y => type.withValues y ws := by
  induction vs generalizing x with
  | nil => rfl
  | cons entry vs ih =>
      obtain ⟨name, v⟩ := entry
      rw [List.cons_append, withValues, withValues]
      cases type.withValue x name v with
      | ok y => exact ih y
      | error e => rfl

/-- Whether the fields that an immutable object gets from values are made again from their own
values. -/
def Stable (type : EntityType) (values : Entries Value) : Prop :=
  type.immutable = true → ∀ m ∈ type.members, ∀ d,
    type.fieldFor m (Entries.get? m.name values) = .ok d →
      type.fieldFor m (some d.toValue) = .ok d

/-! ## Fields made again -/

theorem convert_eq_ok_iff : type.convert m v = .ok d ↔ m.shape.ofValue v = .ok d := by
  rw [convert]
  cases m.shape.ofValue v with
  | ok e => simp
  | error reason => simp

theorem take_absent (h : argument.absent type m = .ok d) :
    type.take m (some d.toValue) = .ok d := by
  rw [argument.absent] at h
  split at h
  next e habsent =>
    cases h
    cases hs : m.shape with
    | base b =>
        rw [hs] at habsent
        cases habsent
    | option inner =>
        rw [hs] at habsent
        cases habsent
        have hnull : Datum.absent.toValue.isNull = true := rfl
        rw [take, if_pos hnull, argument.absent, hs]
        rfl
    | vec element =>
        rw [hs] at habsent
        cases habsent
        rw [take, if_neg (by simp [Datum.toValue, Value.isNull]), convert_eq_ok_iff, hs]
        rfl
  next => cases h

/-- An argument is taken again from its own value. -/
theorem take_toValue {given : Option Value} (h : type.take m given = .ok d) (hd : d.KeepsFloats) :
    type.take m (some d.toValue) = .ok d := by
  cases given with
  | none => exact take_absent h
  | some v =>
      rw [take] at h
      split at h
      next hnull => exact take_absent h
      next hnull =>
        have hvalue := convert_eq_ok_iff.mp h
        have hd' := Shape.isNull_toValue hvalue (Bool.of_not_eq_true hnull)
        rw [take, if_neg (Bool.not_eq_true _ ▸ hd'), convert_eq_ok_iff]
        exact Shape.ofValue_toValue hvalue hd

theorem keepsFloats_of_take {given : Option Value} (h : type.take m given = .ok d)
    (hcollection : m.shape.kind.isCollection = false) (hfloat : m.shape.kind ≠ .float) :
    d.KeepsFloats := by
  have habsent (h : argument.absent type m = .ok d) : d.KeepsFloats := by
    rw [argument.absent] at h
    split at h
    next e he =>
      cases h
      cases hs : m.shape <;> rw [hs] at he <;> cases he <;> trivial
    next => cases h
  cases given with
  | none => exact habsent h
  | some v =>
      rw [take] at h
      split at h
      next => exact habsent h
      next => exact Shape.keepsFloats_of_kind (convert_eq_ok_iff.mp h) hcollection hfloat

theorem fieldFor_toValue {given : Option Value} (himmutable : type.immutable = true)
    (h : type.fieldFor m given = .ok d) (hd : m.taken = true → d.KeepsFloats) :
    type.fieldFor m (some d.toValue) = .ok d := by
  rw [fieldFor, if_pos himmutable] at h ⊢
  split at h
  next htaken =>
    rw [if_pos htaken]
    exact take_toValue h (hd htaken)
  next htaken =>
    rw [if_neg htaken]
    exact h

/-- The fields of an object whose floats survive are stable. -/
theorem stable_of_keepsFloats (hnodup : (type.members.map (·.name)).Nodup)
    (hkeys : (Entries.keys values).Nodup) (hx : type.instantiate values = .ok x)
    (hfloats : type.immutable = true → ∀ d ∈ x, d.KeepsFloats) : type.Stable values := by
  intro himmutable m hm d hd
  apply fieldFor_toValue himmutable hd
  intro _
  -- The field stands in the object that is made of the values.
  have hfields := mapM_eq_ok.mp ((instantiate_eq_ok_iff hnodup hkeys).mp hx)
  obtain ⟨e, he, hme⟩ := exists_mem_of_forall₂ hfields.flip hm
  rw [hd] at hme
  cases hme
  exact hfloats himmutable d he

/-- Fields stay stable when the value of one that cannot hold a `Float32` is replaced. -/
theorem Stable.set (h : type.Stable values) (hnodup : (type.members.map (·.name)).Nodup)
    (hm : m ∈ type.members) (hcollection : m.shape.kind.isCollection = false)
    (hfloat : m.shape.kind ≠ .float) : type.Stable (Entries.set m.name v values) := by
  intro himmutable n hn d hd
  rw [Entries.get?_set] at hd
  split at hd
  next hname =>
    obtain ⟨i, hi⟩ := List.getElem?_of_mem hm
    obtain ⟨j, hj⟩ := List.getElem?_of_mem hn
    obtain rfl := index_eq_of_name_eq hnodup hi hj hname
    obtain rfl := Option.some.inj (hi.symm.trans hj)
    apply fieldFor_toValue himmutable hd
    intro htaken
    rw [fieldFor, if_pos himmutable, if_pos htaken] at hd
    exact keepsFloats_of_take hd hcollection hfloat
  next => exact h himmutable n hn d hd

/-! ## Changing one member -/

theorem find?_name (hnodup : (type.members.map (·.name)).Nodup) (hm : m ∈ type.members) :
    type.members.find? (fun n => n.name = m.name) = some m := by
  rw [find?_eq_some_iff_mem (length_filter_le_of_nodup hnodup m.name)]
  exact ⟨hm, by simp⟩

theorem withValue_immutable (himmutable : type.immutable = true)
    (hnodup : (type.members.map (·.name)).Nodup) (hkeys : (Entries.keys values).Nodup)
    (hy : type.instantiate values = .ok y) (hstable : type.Stable values)
    (hm : m ∈ type.members) : type.withValue y m.name v = .ok x ↔
      type.instantiate (Entries.set m.name v values) = .ok x := by
  have hfields := forall₂_iff_getElem?.mp
    (mapM_eq_ok.mp ((instantiate_eq_ok_iff hnodup hkeys).mp hy))
  have hkeys' : (Entries.keys (type.values y)).Nodup := by
    rw [keys_values hfields.1.symm]
    exact hnodup
  rw [withValue, find?_name hnodup hm]
  dsimp only
  rw [if_pos himmutable, instantiate_eq_ok_iff hnodup (Entries.nodup_set _ _ _ hkeys'),
    instantiate_eq_ok_iff hnodup (Entries.nodup_set _ _ _ hkeys)]
  -- Every other member gets the field that it has, of its own value as of the one it was made of.
  have hsame (n : Member) (hn : n ∈ type.members) :
      type.fieldFor n (Entries.get? n.name (Entries.set m.name v (type.values y))) =
        type.fieldFor n (Entries.get? n.name (Entries.set m.name v values)) := by
    rw [Entries.get?_set, Entries.get?_set]
    split
    · rfl
    · obtain ⟨i, hi⟩ := List.getElem?_of_mem hn
      obtain ⟨hlt, -⟩ := List.getElem?_eq_some_iff.mp hi
      have hyi : y[i]? = some y[i] := List.getElem?_eq_getElem (hfields.1 ▸ hlt)
      have hfield := hfields.2 i n y[i] hi hyi
      rw [get?_values hnodup hfields.1.symm hi hyi, hfield]
      exact hstable himmutable n hn y[i] hfield
  rw [mapM_congr hsame]

theorem withValue_mutable (hmutable : type.immutable = false)
    (hnodup : (type.members.map (·.name)).Nodup) (hkeys : (Entries.keys values).Nodup)
    (hy : type.instantiate values = .ok y) (hm : m ∈ type.members) (hsettable : m.settable = true) :
    type.withValue y m.name v = .ok x ↔
      type.instantiate (Entries.set m.name v values) = .ok x := by
  have hfields := (instantiate_eq_ok_iff hnodup hkeys).mp hy
  obtain ⟨i, hi⟩ := List.getElem?_of_mem hm
  obtain ⟨hlt, -⟩ := List.getElem?_eq_some_iff.mp hi
  have hlength := (mapM_eq_ok.mp hfields).length_eq
  have hyi : y[i]? = some y[i] := List.getElem?_eq_getElem (hlength ▸ hlt)
  have hassign : type.assign m y[i] (some v) =
      type.fieldFor m (Entries.get? m.name (Entries.set m.name v values)) := by
    rw [Entries.get?_set, if_pos rfl, fieldFor, hmutable, if_neg Bool.false_ne_true, assign, assign,
      if_pos hsettable, if_pos hsettable]
  rw [withValue, find?_name hnodup hm]
  dsimp only
  rw [hmutable, if_neg Bool.false_ne_true, if_pos hsettable, set_eq_ok_iff hnodup hi hyi, hassign,
    instantiate_eq_ok_iff hnodup (Entries.nodup_set _ _ _ hkeys)]
  -- The object differs from the one before in this member only.
  symm
  apply mapM_eq_ok_iff_set hfields hi
  intro j n hj hn
  rw [Entries.get?_set, if_neg fun heq => hj (index_eq_of_name_eq hnodup hi hn heq)]

/-- Changing a member is making the object with another value for it. -/
theorem withValue_eq_ok_iff (hnodup : (type.members.map (·.name)).Nodup)
    (hkeys : (Entries.keys values).Nodup) (hy : type.instantiate values = .ok y)
    (hstable : type.Stable values) (hm : m ∈ type.members)
    (hsettable : type.immutable = false → m.settable = true) :
    type.withValue y m.name v = .ok x ↔
      type.instantiate (Entries.set m.name v values) = .ok x := by
  cases himmutable : type.immutable with
  | true => exact withValue_immutable himmutable hnodup hkeys hy hstable hm
  | false => exact withValue_mutable himmutable hnodup hkeys hy hm (hsettable himmutable)

/-! ## Members of objects -/

/-- Whether a value for the member gets into the objects of the type: it can be set, or the
constructor takes it. -/
def accepts (type : EntityType) (m : Member) : Bool :=
  if type.immutable then m.taken else m.settable

/-- What a member that holds a datum holds after a change of its object, given the value for it if
it is the member that is changed. -/
def fieldAfter (type : EntityType) (m : Member) (d : Datum) (v : Option Value) :
    Except Error Datum :=
  if type.immutable then type.fieldFor m (some (v.getD d.toValue)) else type.assign m d v

/-- An object that is made of values has a field for each member. -/
theorem fields_of_instantiate (hnodup : (type.members.map (·.name)).Nodup)
    (hkeys : (Entries.keys values).Nodup) (hx : type.instantiate values = .ok x) :
    x.length = type.members.length ∧ ∀ (i : Nat) (m : Member), type.members[i]? = some m →
      ∃ e, x[i]? = some e ∧ type.fieldFor m (Entries.get? m.name values) = .ok e := by
  have hfields := mapM_eq_ok.mp ((instantiate_eq_ok_iff hnodup hkeys).mp hx)
  refine ⟨hfields.length_eq.symm, ?_⟩
  intro i m hm
  exact exists_getElem?_of_forall₂ hfields hm

/-- A change of one member says what every member holds after it. -/
theorem fields_of_withValue {name : String} (hnodup : (type.members.map (·.name)).Nodup)
    (hlength : x.length = type.members.length) (hy : type.withValue x name v = .ok y) :
    y.length = type.members.length ∧ ∀ (i : Nat) (m : Member) (d : Datum),
      type.members[i]? = some m → x[i]? = some d →
        ∃ e, y[i]? = some e ∧
          type.fieldAfter m d (if name = m.name then some v else none) = .ok e := by
  rw [withValue] at hy
  split at hy
  next => cases hy
  next n _ =>
    split at hy
    next himmutable =>
      have hkeys : (Entries.keys (type.values x)).Nodup := by
        rw [keys_values hlength]
        exact hnodup
      obtain ⟨hlength', hfields⟩ :=
        fields_of_instantiate hnodup (Entries.nodup_set name v _ hkeys) hy
      refine ⟨hlength', ?_⟩
      intro i m d hm hd
      obtain ⟨e, he, hfield⟩ := hfields i m hm
      rw [Entries.get?_set, get?_values hnodup hlength hm hd] at hfield
      refine ⟨e, he, ?_⟩
      rw [fieldAfter, if_pos himmutable]
      split
      next hname => rwa [if_pos hname] at hfield
      next hname => rwa [if_neg hname] at hfield
    next hmutable =>
      split at hy
      next hsettable =>
        -- The members are set one after another, with one of them to set.
        have hset : type.setAll x [(name, v)] = .ok y := by
          rw [setAll, hy]
          rfl
        obtain ⟨hlength', hfields⟩ :=
          (setAll_eq_ok_iff hnodup (by simp [Entries.keys]) hlength).mp hset
        refine ⟨hlength', ?_⟩
        intro i m d hm hd
        obtain ⟨e, he, hfield⟩ := hfields i m d hm hd
        rw [fieldAfter, if_neg hmutable]
        exact ⟨e, he, hfield⟩
      next => cases hy

theorem fieldFor_accepts (hm : type.accepts m = true) (hv : v.isNull = false) :
    type.fieldFor m (some v) = type.convert m v := by
  rw [accepts] at hm
  rw [fieldFor]
  cases himmutable : type.immutable with
  | true =>
      rw [himmutable, if_pos rfl] at hm
      rw [if_pos rfl, if_pos hm, take, hv]
      rfl
  | false =>
      rw [himmutable, if_neg Bool.false_ne_true] at hm
      rw [if_neg Bool.false_ne_true, assign, if_pos hm]

theorem fieldAfter_accepts (hm : type.accepts m = true) (hv : v.isNull = false) :
    type.fieldAfter m d (some v) = type.convert m v := by
  rw [fieldAfter]
  cases himmutable : type.immutable with
  | true => rw [if_pos rfl, Option.getD_some, fieldFor_accepts hm hv]
  | false =>
      rw [accepts, himmutable, if_neg Bool.false_ne_true] at hm
      rw [if_neg Bool.false_ne_true, assign, if_pos hm]

section Source

variable {given : Option Value} {e : Datum}
  (hkind : m.shape.kind.isIdentifier = true ∨ m.shape.kind = .sequenceToken)

include hkind

theorem toValue_of_take (h : type.take m given = .ok e) :
    e.toValue = .null ∨ given = some e.toValue := by
  have habsent (h : argument.absent type m = .ok e) : e.toValue = .null := by
    rw [argument.absent] at h
    cases hs : m.shape with
    | base b =>
        rw [hs] at h
        cases h
    | option inner =>
        rw [hs] at h
        cases h
        rfl
    | vec element => simp [hs, Shape.kind, Kind.isIdentifier] at hkind
  cases given with
  | none => exact .inl (habsent h)
  | some v =>
      rw [take] at h
      split at h
      next => exact .inl (habsent h)
      next =>
        rw [Shape.toValue_of_ofValue hkind (convert_eq_ok_iff.mp h)]
        exact .inr rfl

theorem toValue_of_assign (h : type.assign m d given = .ok e) :
    given = some e.toValue ∨ e = d := by
  cases given with
  | none =>
      cases h
      exact .inr rfl
  | some v =>
      rw [assign] at h
      split at h
      next =>
        rw [Shape.toValue_of_ofValue hkind (convert_eq_ok_iff.mp h)]
        exact .inl rfl
      next =>
        cases h
        exact .inr rfl

/-- What a field holds is nothing, the value that is given for it or what it holds in a new
object. -/
theorem toValue_of_fieldFor (h : type.fieldFor m given = .ok e) :
    e.toValue = .null ∨ given = some e.toValue ∨ e = m.initial := by
  rw [fieldFor] at h
  split at h
  next =>
    split at h
    next => exact (toValue_of_take hkind h).imp_right .inl
    next =>
      cases h
      exact .inr (.inr rfl)
  next => exact .inr (toValue_of_assign hkind h)

/-- What a field holds after a change may also be what it held before. -/
theorem toValue_of_fieldAfter (h : type.fieldAfter m d given = .ok e) :
    e.toValue = .null ∨ given = some e.toValue ∨ e.toValue = d.toValue ∨ e = m.initial := by
  rw [fieldAfter] at h
  split at h
  next =>
    rcases toValue_of_fieldFor hkind h with hnull | hgiven | hinitial
    · exact .inl hnull
    · cases given with
      | none => exact .inr (.inr (.inl (Option.some.inj hgiven).symm))
      | some v => exact .inr (.inl hgiven)
    · exact .inr (.inr (.inr hinitial))
  next =>
    rcases toValue_of_assign hkind h with hgiven | rfl
    · exact .inr (.inl hgiven)
    · exact .inr (.inr (.inl rfl))

end Source

/-! ## One field of an object -/

/-- Whether every field of an object is made again from its own value. A mutable object is not made
again, so nothing is asked of its fields. -/
def Intact (type : EntityType) (x : Instance) : Prop :=
  type.immutable = true → ∀ (i : Nat) (m : Member) (d : Datum), type.members[i]? = some m →
    x[i]? = some d → type.fieldFor m (some d.toValue) = .ok d

/-- What gives an object back from its own values: the constructor takes every member, an optional
member has only one way to be absent, and no `Float32` changes when it is widened to a double and
rounded back. -/
structure Rebuilds (type : EntityType) (x : Instance) : Prop where
  taken : ∀ m ∈ type.members, m.taken = true
  unambiguous : ∀ m ∈ type.members, m.shape.Unambiguous
  keepsFloats : ∀ d ∈ x, d.KeepsFloats

theorem intact_of_rebuilds {family : Family} (hfits : Datum.FitsMembers family x type.members)
    (h : type.immutable = true → type.Rebuilds x) : type.Intact x := by
  intro himmutable i m d hm hd
  have hrebuilds := h himmutable
  have hmem := List.mem_of_getElem? hm
  have hfit := Datum.fits_of_getElem? hfits hd hm
  have hunambiguous := hrebuilds.unambiguous m hmem
  rw [fieldFor, if_pos himmutable, if_pos (hrebuilds.taken m hmem), take]
  split
  next hnull =>
    obtain ⟨rfl, inner, hinner⟩ := Datum.eq_absent_of_isNull hfit hunambiguous hnull
    rw [argument.absent, hinner]
    rfl
  next =>
    rw [convert_eq_ok_iff]
    exact Datum.ofValue_toValue d m.shape hfit hunambiguous
      (hrebuilds.keepsFloats d (List.mem_of_getElem? hd))

/-- Changing a member replaces its field by the datum of the new value, and nothing else. -/
theorem withValue_eq_ok_iff_set {i : Nat} (hnodup : (type.members.map (·.name)).Nodup)
    (hlength : x.length = type.members.length) (hx : type.Intact x)
    (hm : type.members[i]? = some m) (htaken : type.immutable = true → m.taken = true)
    (hv : v.isNull = false) : type.withValue x m.name v = .ok y ↔
      type.accepts m = true ∧ ∃ e, m.shape.ofValue v = .ok e ∧ y = x.set i e := by
  obtain ⟨d, hd⟩ := exists_getElem? hlength hm
  rw [withValue, find?_name hnodup (List.mem_of_getElem? hm)]
  dsimp only
  cases himmutable : type.immutable with
  | true =>
      have haccepts : type.accepts m = true := by
        rw [accepts, if_pos himmutable, htaken himmutable]
      have hkeys : (Entries.keys (type.values x)).Nodup := by
        rw [keys_values hlength]
        exact hnodup
      have hself : type.members.mapM
          (fun n => type.fieldFor n (Entries.get? n.name (type.values x))) = .ok x := by
        rw [mapM_eq_ok, forall₂_iff_getElem?]
        refine ⟨hlength.symm, ?_⟩
        intro j n e hn he
        rw [get?_values hnodup hlength hn he]
        exact hx himmutable j n e hn he
      rw [if_pos rfl, instantiate_eq_ok_iff hnodup (Entries.nodup_set _ _ _ hkeys),
        mapM_eq_ok_iff_set hself hm, Entries.get?_set, if_pos rfl, fieldFor_accepts haccepts hv]
      · simp only [convert_eq_ok_iff, haccepts, true_and]
      · intro j n hj hn
        rw [Entries.get?_set, if_neg fun heq => hj (index_eq_of_name_eq hnodup hm hn heq)]
  | false =>
      rw [if_neg Bool.false_ne_true, accepts, himmutable, if_neg Bool.false_ne_true]
      cases hsettable : m.settable with
      | true =>
          rw [if_pos rfl, set_eq_ok_iff hnodup hm hd, assign, if_pos hsettable]
          simp only [convert_eq_ok_iff, true_and]
      | false => simp

/-- An object stays intact when a field is replaced by a datum that is made again from its value. -/
theorem Intact.set {i : Nat} {e : Datum} (hx : type.Intact x) (hm : type.members[i]? = some m)
    (he : type.fieldFor m (some e.toValue) = .ok e) : type.Intact (x.set i e) := by
  intro himmutable j n d hn hd
  by_cases hj : i = j
  · subst hj
    obtain rfl : m = n := Option.some.inj (hm.symm.trans hn)
    obtain ⟨hlt, -⟩ := List.getElem?_eq_some_iff.mp hd
    rw [List.getElem?_set_self (by simpa using hlt)] at hd
    obtain rfl : e = d := Option.some.inj hd
    exact he
  · rw [List.getElem?_set_ne hj] at hd
    exact hx himmutable j n d hn hd

/-! ## Changing members one after another -/

/-- Members that can be changed to any value of theirs, and back to their own. -/
structure Replaceable (type : EntityType) (m : Member) : Prop where
  mem : m ∈ type.members
  settable : type.immutable = false → m.settable = true
  isCollection_eq : m.shape.kind.isCollection = false
  kind_ne_float : m.shape.kind ≠ .float

/-- A value that does not fit its member keeps the object from being made, whatever values other
members get. -/
theorem exists_instantiate_set {name : String} {es : Entries Value}
    (hnodup : (type.members.map (·.name)).Nodup) (hkeys : (Entries.keys values).Nodup)
    (hname : name ∉ Entries.keys es) (hy : type.instantiate values = .ok y)
    (hx : type.instantiate (Entries.setAll (Entries.set name v values) es) = .ok x) :
    ∃ z, type.instantiate (Entries.set name v values) = .ok z := by
  have hkeys' := Entries.nodup_set name v _ hkeys
  rw [instantiate_eq_ok_iff hnodup (Entries.nodup_setAll _ _ hkeys')] at hx
  simp only [instantiate_eq_ok_iff hnodup hkeys']
  rw [instantiate_eq_ok_iff hnodup hkeys] at hy
  rw [exists_mapM_eq_ok_iff]
  intro n hn
  have hold := exists_mapM_eq_ok_iff.mp ⟨y, hy⟩ n hn
  have hnew := exists_mapM_eq_ok_iff.mp ⟨x, hx⟩ n hn
  by_cases heq : name = n.name
  · rwa [Entries.get?_setAll_of_not_mem (heq ▸ hname)] at hnew
  · rwa [Entries.get?_set, if_neg heq]

/-- Changing members one after another is making the object with other values for them. -/
theorem withValues_eq_ok_iff {es : Entries Value} (hnodup : (type.members.map (·.name)).Nodup)
    (hkeys : (Entries.keys values).Nodup) (hy : type.instantiate values = .ok y)
    (hstable : type.Stable values) (hes : (Entries.keys es).Nodup)
    (hmembers : ∀ name ∈ Entries.keys es, ∃ m, m.name = name ∧ type.Replaceable m) :
    type.withValues y es = .ok x ↔ type.instantiate (Entries.setAll values es) = .ok x := by
  -- By induction on the changes, over the values that the object so far is made of.
  induction es generalizing values y with
  | nil =>
      rw [withValues, Entries.setAll, hy]
  | cons entry es ih =>
      obtain ⟨name, v⟩ := entry
      obtain ⟨m, rfl, hm⟩ := hmembers name List.mem_cons_self
      obtain ⟨hname, hes'⟩ := List.nodup_cons.mp hes
      have hstep {z : Instance} := @withValue_eq_ok_iff type m values v z y hnodup hkeys hy hstable
        hm.mem hm.settable
      have hrest {z : Instance} (hz : type.instantiate (Entries.set m.name v values) = .ok z) :=
        ih (Entries.nodup_set _ _ _ hkeys) hz
          (hstable.set hnodup hm.mem hm.isCollection_eq hm.kind_ne_float) hes'
          (fun n hn => hmembers n (List.mem_cons_of_mem _ hn))
      rw [withValues, bind_eq_ok, Entries.setAll]
      constructor
      · rintro ⟨z, hz, h⟩
        exact (hrest (hstep.mp hz)).mp h
      · intro h
        obtain ⟨z, hz⟩ := exists_instantiate_set hnodup hkeys hname hy h
        exact ⟨z, hstep.mpr hz, (hrest hz).mpr h⟩

end EntityType

end ObjectDocument
