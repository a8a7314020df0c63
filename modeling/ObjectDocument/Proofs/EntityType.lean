import ObjectDocument.Proofs.Datum

/-!
# Making objects from values

A mutable object is made by setting members one after another, an immutable one by taking all values
at once. Either way a member depends on nothing but the value that is given for it, if one is, so
objects can be compared member by member.
-/

namespace ObjectDocument

namespace EntityType

/-- A type whose objects can be made again from a document: all of its members travel both ways, a
mutable object can have them set and starts out without optional ones, and the constructor of an
immutable object takes them, the members beside the document as optional ones. -/
structure Restorable (type : EntityType) : Prop where
  access_eq : ∀ m ∈ type.members, m.access = .readWrite
  unambiguous : ∀ m ∈ type.members, m.shape.Unambiguous
  settable : type.immutable = false → ∀ m ∈ type.members, m.settable = true
  initial_eq : type.immutable = false → ∀ m ∈ type.members, ∀ inner, m.shape = .option inner →
    m.initial = .absent
  taken : type.immutable = true → ∀ m ∈ type.members, m.taken = true
  optional : type.immutable = true → ∀ m ∈ type.members, m.isOutOfBand = true →
    ∃ inner, m.shape = .option inner

variable {type : EntityType} {values : Entries Value}

/-- Whether a datum is what values give for a member. -/
def Yields (type : EntityType) (values : Entries Value) (m : Member) (d : Datum) : Prop :=
  match Entries.get? m.name values with
  | some v => m.shape.ofValue v = .ok d
  | none => d = type.unset m ∧ (type.immutable = true → ∃ inner, m.shape = .option inner)

/-- What a member of a mutable object holds after a value for it is set, or none is. -/
def assign (type : EntityType) (m : Member) (d : Datum) : Option Value → Except Error Datum
  | some v => if m.settable then type.convert m v else .ok d
  | none => .ok d

/-- What the constructor of an immutable object takes for a member. -/
def take (type : EntityType) (m : Member) : Option Value → Except Error Datum
  | some v => if v.isNull then argument.absent type m else type.convert m v
  | none => argument.absent type m

/-- What a member of a new object holds, given the value for it if there is one. -/
def fieldFor (type : EntityType) (m : Member) (v : Option Value) : Except Error Datum :=
  if type.immutable then
    if m.taken then type.take m v else .ok m.initial
  else type.assign m m.initial v

/-! ## Setting members -/

/-- Distinct names tell the places of members. -/
theorem index_eq_of_name_eq {ms : List Member} {i j : Nat} {m n : Member}
    (hnodup : (ms.map (·.name)).Nodup) (hm : ms[i]? = some m) (hn : ms[j]? = some n)
    (hname : m.name = n.name) : i = j := by
  obtain ⟨hlt, -⟩ := List.getElem?_eq_some_iff.mp hm
  refine (List.getElem?_inj (by simpa using hlt) hnodup).mp ?_
  rw [List.getElem?_map, List.getElem?_map, hm, hn, Option.map_some, Option.map_some, hname]

theorem findIdx?_name {ms : List Member} {i : Nat} {m : Member} (hnodup : (ms.map (·.name)).Nodup)
    (hm : ms[i]? = some m) : ms.findIdx? (fun n => n.name = m.name) = some i := by
  obtain ⟨hlt, heq⟩ := List.getElem?_eq_some_iff.mp hm
  refine List.findIdx?_eq_some_iff_getElem.mpr ⟨hlt, by simp [heq], ?_⟩
  intro j hj
  have hj' : ms[j]? = some ms[j] := List.getElem?_eq_getElem (Nat.lt_trans hj hlt)
  simp only [decide_eq_true_eq]
  intro hname
  exact absurd (index_eq_of_name_eq hnodup hj' hm hname) (Nat.ne_of_lt hj)

/-- A value under a name that no member has is passed over. -/
theorem set_eq_self {x : Instance} {k : String} {v : Value}
    (hk : k ∉ type.members.map (·.name)) : type.set x k v = .ok x := by
  have hfind : type.members.findIdx? (fun m => m.name = k) = none := by
    rw [List.findIdx?_eq_none_iff]
    intro m hm
    rw [decide_eq_false_iff_not]
    exact fun heq => hk (List.mem_map.mpr ⟨m, hm, heq⟩)
  rw [set, hfind]

theorem set_eq_ok_iff {x y : Instance} {i : Nat} {m : Member} {d : Datum} {v : Value}
    (hnodup : (type.members.map (·.name)).Nodup) (hm : type.members[i]? = some m)
    (hd : x[i]? = some d) : type.set x m.name v = .ok y ↔
      ∃ e, type.assign m d (some v) = .ok e ∧ y = x.set i e := by
  rw [set, findIdx?_name hnodup hm]
  dsimp only
  rw [hm, assign]
  dsimp only
  split
  next hsettable =>
    cases type.convert m v with
    | ok e => simp [Except.map, eq_comm]
    | error e => simp [Except.map]
  next hsettable =>
    obtain ⟨hlt, rfl⟩ := List.getElem?_eq_some_iff.mp hd
    simp [eq_comm]

/-- Whether an object comes of another by giving each member the datum of its value, if there is one
for it. -/
def Assigned (type : EntityType) (vs : Entries Value) (x y : Instance) : Prop :=
  y.length = type.members.length ∧
    ∀ (i : Nat) (m : Member) (d : Datum), type.members[i]? = some m → x[i]? = some d →
      ∃ e, y[i]? = some e ∧ type.assign m d (Entries.get? m.name vs) = .ok e

section Assigned

variable {vs : Entries Value} {v : Value} {x y : Instance}

theorem assigned_nil_iff (hx : x.length = type.members.length) :
    type.Assigned [] x y ↔ x = y := by
  constructor
  · rintro ⟨hy, h⟩
    refine List.ext_getElem (hx.trans hy.symm) fun i hi hi' => ?_
    obtain ⟨e, he, hd⟩ := h i type.members[i] x[i] (List.getElem?_eq_getElem (hx ▸ hi))
      (List.getElem?_eq_getElem hi)
    rw [Except.ok.inj hd]
    exact (List.getElem_eq_iff hi').mpr he |>.symm
  · rintro rfl
    exact ⟨hx, fun i m d _ hd => ⟨d, hd, rfl⟩⟩

theorem assigned_cons_of_not_mem {k : String} (hk : k ∉ type.members.map (·.name)) :
    type.Assigned ((k, v) :: vs) x y ↔ type.Assigned vs x y := by
  refine and_congr_right fun _ => ?_
  refine forall_congr' fun i => forall_congr' fun m => forall_congr' fun d => ?_
  refine imp_congr_right fun hm => ?_
  have hne : k ≠ m.name := fun heq =>
    hk (heq ▸ List.mem_map_of_mem (List.mem_of_getElem? hm))
  rw [Entries.get?, if_neg hne]

/-- A member may get its datum first, before those that other values are for. -/
theorem assigned_cons_iff {i : Nat} {m : Member} {d : Datum}
    (hnodup : (type.members.map (·.name)).Nodup) (hi : type.members[i]? = some m)
    (hd : x[i]? = some d) (hk : m.name ∉ Entries.keys vs) :
    type.Assigned ((m.name, v) :: vs) x y ↔
      ∃ e, type.assign m d (some v) = .ok e ∧ type.Assigned vs (x.set i e) y := by
  obtain ⟨hlt, -⟩ := List.getElem?_eq_some_iff.mp hd
  have hnone : Entries.get? m.name vs = none := Entries.get?_eq_none_iff.mpr hk
  have hother {j : Nat} {n : Member} (hj : i ≠ j) (hn : type.members[j]? = some n) :
      Entries.get? n.name ((m.name, v) :: vs) = Entries.get? n.name vs := by
    rw [Entries.get?, if_neg fun heq => hj (index_eq_of_name_eq hnodup hi hn heq)]
  constructor
  · rintro ⟨hy, h⟩
    obtain ⟨e, hye, he⟩ := h i m d hi hd
    rw [Entries.get?, if_pos rfl] at he
    refine ⟨e, he, hy, fun j n c hn hc => ?_⟩
    by_cases hj : i = j
    · subst hj
      obtain rfl : m = n := Option.some.inj (hi.symm.trans hn)
      rw [List.getElem?_set_self hlt] at hc
      obtain rfl : e = c := Option.some.inj hc
      exact ⟨e, hye, by rw [hnone, assign]⟩
    · rw [List.getElem?_set_ne hj] at hc
      rw [← hother hj hn]
      exact h j n c hn hc
  · rintro ⟨e, he, hy, h⟩
    refine ⟨hy, fun j n c hn hc => ?_⟩
    by_cases hj : i = j
    · subst hj
      obtain rfl : m = n := Option.some.inj (hi.symm.trans hn)
      obtain rfl : d = c := Option.some.inj (hd.symm.trans hc)
      obtain ⟨f, hf, hfe⟩ := h i m e hi (List.getElem?_set_self hlt)
      rw [hnone] at hfe
      refine ⟨f, hf, ?_⟩
      rw [Entries.get?, if_pos rfl, he]
      exact hfe
    · rw [hother hj hn]
      exact h j n c hn (by rw [List.getElem?_set_ne hj, hc])

/-- Setting members one after another gives each the datum of its value and keeps the others. -/
theorem setAll_eq_ok_iff (hnodup : (type.members.map (·.name)).Nodup)
    (hkeys : (Entries.keys vs).Nodup) (hx : x.length = type.members.length) :
    type.setAll x vs = .ok y ↔ type.Assigned vs x y := by
  -- By induction on the values still to be set: what is not among them is as it will be.
  induction vs generalizing x with
  | nil => rw [setAll, assigned_nil_iff hx, Except.ok.injEq]
  | cons entry vs ih =>
      obtain ⟨k, v⟩ := entry
      obtain ⟨hk, hkeys'⟩ := List.nodup_cons.mp hkeys
      rw [setAll, bind_eq_ok]
      by_cases hmem : k ∈ type.members.map (·.name)
      · obtain ⟨m, hm, rfl⟩ := List.mem_map.mp hmem
        obtain ⟨i, hi⟩ := List.getElem?_of_mem hm
        obtain ⟨hlt, -⟩ := List.getElem?_eq_some_iff.mp hi
        have hd : x[i]? = some x[i] := List.getElem?_eq_getElem (hx ▸ hlt)
        rw [assigned_cons_iff hnodup hi hd hk]
        simp only [set_eq_ok_iff hnodup hi hd]
        constructor
        · rintro ⟨_, ⟨e, he, rfl⟩, h⟩
          exact ⟨e, he, (ih hkeys' (by simpa using hx)).mp h⟩
        · rintro ⟨e, he, h⟩
          exact ⟨_, ⟨e, he, rfl⟩, (ih hkeys' (by simpa using hx)).mpr h⟩
      · rw [assigned_cons_of_not_mem hmem, set_eq_self hmem]
        simp only [Except.ok.injEq, exists_eq_left', ih hkeys' hx]

end Assigned

/-! ## Making objects -/

/-- An object is made member by member. -/
theorem instantiate_eq_ok_iff (hnodup : (type.members.map (·.name)).Nodup)
    (hkeys : (Entries.keys values).Nodup) {x : Instance} : type.instantiate values = .ok x ↔
      type.members.mapM (fun m => type.fieldFor m (Entries.get? m.name values)) = .ok x := by
  rw [instantiate]
  cases himmutable : type.immutable with
  | true =>
      have hargument : type.argument values =
          fun m => type.fieldFor m (Entries.get? m.name values) := by
        funext m
        rw [argument, fieldFor, himmutable, if_pos rfl]
        cases m.taken with
        | false => rfl
        | true =>
            cases Entries.get? m.name values with
            | none => rfl
            | some v => rfl
      rw [if_pos rfl, hargument]
  | false =>
      have hfresh : type.fresh.length = type.members.length := by simp [fresh]
      rw [if_neg Bool.false_ne_true, setAll_eq_ok_iff hnodup hkeys hfresh, mapM_eq_ok,
        forall₂_iff_getElem?]
      have hfield (m : Member) : type.fieldFor m (Entries.get? m.name values) =
          type.assign m m.initial (Entries.get? m.name values) := by
        rw [fieldFor, himmutable, if_neg Bool.false_ne_true]
      have hinitial {i : Nat} {m : Member} (hm : type.members[i]? = some m) :
          type.fresh[i]? = some m.initial := by
        rw [fresh, List.getElem?_map, hm, Option.map_some]
      constructor
      · rintro ⟨hlength, h⟩
        refine ⟨hlength.symm, fun i m d hm hd => ?_⟩
        obtain ⟨e, he, hassign⟩ := h i m m.initial hm (hinitial hm)
        rw [hfield, hassign, Option.some.inj (he.symm.trans hd)]
      · rintro ⟨hlength, h⟩
        refine ⟨hlength.symm, fun i m d hm hd => ?_⟩
        obtain rfl : m.initial = d := Option.some.inj ((hinitial hm).symm.trans hd)
        obtain ⟨hlt, -⟩ := List.getElem?_eq_some_iff.mp hm
        have hx : x[i]? = some x[i] := List.getElem?_eq_getElem (hlength ▸ hlt)
        exact ⟨x[i], hx, hfield m ▸ h i m x[i] hm hx⟩

/-! ## Making objects again -/

/-- The datum for absence is what the absent value is converted to. -/
theorem absent?_eq_some_iff {s : Shape} {d : Datum} :
    s.absent? = some d ↔ s.ofValue .null = .ok d := by
  cases s with
  | base b => cases b <;> simp [Shape.absent?, Shape.ofValue, Base.ofValue, Base.doubleOf, Except.map]
  | option inner => simp [Shape.absent?, Shape.ofValue]
  | vec element => simp [Shape.absent?, Shape.ofValue]

/-- A new object holds for a member the datum of the value that is given for it. -/
theorem fieldFor_some_eq_ok_iff {m : Member} {v : Value} {d : Datum}
    (hsettable : type.immutable = false → m.settable = true)
    (htaken : type.immutable = true → m.taken = true) :
    type.fieldFor m (some v) = .ok d ↔ m.shape.ofValue v = .ok d := by
  have hconvert : type.convert m v = .ok d ↔ m.shape.ofValue v = .ok d := by
    rw [convert]
    cases m.shape.ofValue v with
    | ok e => simp
    | error reason => simp
  rw [fieldFor]
  cases himmutable : type.immutable with
  | false => rw [if_neg Bool.false_ne_true, assign, if_pos (hsettable himmutable), hconvert]
  | true =>
      rw [if_pos rfl, if_pos (htaken himmutable), take]
      split
      next hnull =>
        rw [Value.eq_null_of_isNull hnull, ← absent?_eq_some_iff, argument.absent]
        cases m.shape.absent? with
        | none => simp
        | some e => simp
      next => exact hconvert

/-- A new object leaves a member unset that no value is given for, if the constructor of an immutable
one can do without. -/
theorem fieldFor_none {m : Member} (htaken : type.immutable = true → m.taken = true)
    (hoption : type.immutable = true → ∃ inner, m.shape = .option inner) :
    type.fieldFor m none = .ok (type.unset m) := by
  rw [fieldFor, unset]
  cases himmutable : type.immutable with
  | false => rfl
  | true =>
      obtain ⟨inner, hinner⟩ := hoption himmutable
      rw [if_pos rfl, if_pos (htaken himmutable), take, argument.absent, hinner]
      rfl

theorem fieldFor_of_yields (htype : type.Restorable) {m : Member} {d : Datum}
    (hm : m ∈ type.members) (h : Yields type values m d) :
    type.fieldFor m (Entries.get? m.name values) = .ok d := by
  have htaken (himmutable : type.immutable = true) := htype.taken himmutable m hm
  rw [Yields] at h
  cases hv : Entries.get? m.name values with
  | none =>
      rw [hv] at h
      obtain ⟨rfl, hoption⟩ := h
      exact fieldFor_none htaken hoption
  | some v =>
      rw [hv] at h
      exact (fieldFor_some_eq_ok_iff (fun hmutable => htype.settable hmutable m hm) htaken).mpr h

/-- An object is made from values if they give a datum for each member. -/
theorem instantiate_eq_ok (htype : type.Restorable) (hnodup : (type.members.map (·.name)).Nodup)
    (hkeys : (Entries.keys values).Nodup) {x : Instance}
    (h : List.Forall₂ (Yields type values) type.members x) :
    type.instantiate values = .ok x := by
  rw [instantiate_eq_ok_iff hnodup hkeys, mapM_eq_ok]
  refine ((List.forall₂_and_left type.members x).mpr ⟨fun m hm => hm, h⟩).imp ?_
  rintro m d ⟨hm, hyields⟩
  exact fieldFor_of_yields htype hm hyields

end EntityType

/-- The type with a reference of a family belongs to it. -/
theorem Family.type_mem {family : Family} {ref : EntityRef}
    (href : ∃ type ∈ family.types, type.ref = ref) :
    family.type ref ∈ family.types ∧ (family.type ref).ref = ref := by
  obtain ⟨type, htype, rfl⟩ := href
  rw [Family.type]
  cases hfind : family.types.find? fun t => t.ref = type.ref with
  | none => exact absurd (List.find?_eq_none.mp hfind type htype) (by simp)
  | some found => exact ⟨List.mem_of_find?_eq_some hfind, by simpa using List.find?_some hfind⟩

end ObjectDocument
