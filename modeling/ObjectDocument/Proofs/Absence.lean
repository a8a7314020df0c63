import ObjectDocument.Proofs.Entries
import ObjectDocument.Proofs.EntityType

/-!
# Values that are null and values that are missing

An object can be made of values with a `null` among them or without it. An immutable object is the
same either way. So is a mutable one, where the member starts out as what `null` is converted to.
Only the order in which other members are set may differ, and with it the error that is found first.
-/

namespace ObjectDocument

/-! ## Entries without their nulls -/

/-- Entries of values, and the same without some that are `null`, whose names satisfy a condition. -/
inductive DropsNulls (P : String → Prop) : Entries Value → Entries Value → Prop
  | nil : DropsNulls P [] []
  | keep {name : String} {v : Value} {vs vs' : Entries Value} (h : DropsNulls P vs vs') :
      DropsNulls P ((name, v) :: vs) ((name, v) :: vs')
  | drop {name : String} {vs vs' : Entries Value} (hname : P name) (h : DropsNulls P vs vs') :
      DropsNulls P ((name, .null) :: vs) vs'

/-- Whether a name has the same value on either side, or `null` on the left and none on the right. -/
def NullOrSame (P : String → Prop) (values values' : Entries Value) : Prop :=
  ∀ name, Entries.get? name values = Entries.get? name values' ∨
    P name ∧ Entries.get? name values = some .null ∧ Entries.get? name values' = none

namespace DropsNulls

variable {P : String → Prop} {vs vs' : Entries Value}

theorem keys_sublist (h : DropsNulls P vs vs') : (Entries.keys vs').Sublist (Entries.keys vs) := by
  induction h with
  | nil => exact List.Sublist.slnil
  | keep _ ih => exact ih.cons_cons _
  | drop _ _ ih => exact ih.cons _

theorem nullOrSame (h : DropsNulls P vs vs') (hkeys : (Entries.keys vs).Nodup) :
    NullOrSame P vs vs' := by
  intro k
  induction h with
  | nil => exact .inl rfl
  | @keep name v vs vs' h ih =>
      obtain ⟨-, hrest⟩ := List.nodup_cons.mp hkeys
      rw [Entries.get?, Entries.get?]
      split
      · exact .inl rfl
      · exact ih hrest
  | @drop name vs vs' hname h ih =>
      obtain ⟨hnot, hrest⟩ := List.nodup_cons.mp hkeys
      rw [Entries.get?]
      split
      next hk =>
        subst hk
        exact .inr ⟨hname, rfl, Entries.get?_eq_none_iff.mpr fun hmem =>
          hnot (h.keys_sublist.subset hmem)⟩
      next => exact ih hrest

/-- Setting a value does not touch what is dropped, if its own name is not among that. -/
theorem set (h : DropsNulls P vs vs') {key : String} (v : Value)
    (hkey : key ∈ Entries.keys vs → key ∈ Entries.keys vs') (hkeys : (Entries.keys vs).Nodup) :
    DropsNulls P (Entries.set key v vs) (Entries.set key v vs') := by
  induction h with
  | nil => exact .keep .nil
  | @keep name w vs vs' h ih =>
      obtain ⟨-, hrest⟩ := List.nodup_cons.mp hkeys
      rw [Entries.set, Entries.set]
      split
      next => exact .keep h
      next hne =>
        refine .keep (ih (fun hmem => ?_) hrest)
        exact (List.mem_cons.mp (hkey (List.mem_cons_of_mem _ hmem))).resolve_left (Ne.symm hne)
  | @drop name vs vs' hname h ih =>
      obtain ⟨hnot, hrest⟩ := List.nodup_cons.mp hkeys
      have hne : name ≠ key := by
        rintro rfl
        exact hnot (h.keys_sublist.subset (hkey List.mem_cons_self))
      rw [Entries.set, if_neg hne]
      exact .drop hname (ih (fun hmem => hkey (List.mem_cons_of_mem _ hmem)) hrest)

/-- A name that is dropped stands between others of which nothing but nulls are dropped. -/
theorem exists_split (h : DropsNulls P vs vs') {key : String} (hmem : key ∈ Entries.keys vs)
    (hnot : key ∉ Entries.keys vs') : ∃ pre pre' post post',
      vs = pre ++ (key, .null) :: post ∧ vs' = pre' ++ post' ∧ P key ∧
      DropsNulls P pre pre' ∧ DropsNulls P post post' := by
  induction h with
  | nil => cases hmem
  | @keep name v vs vs' h ih =>
      have hne : key ≠ name := fun heq => hnot (heq ▸ List.mem_cons_self)
      obtain ⟨pre, pre', post, post', rfl, rfl, hkey, hpre, hpost⟩ :=
        ih ((List.mem_cons.mp hmem).resolve_left hne) fun hmem' =>
          hnot (List.mem_cons_of_mem _ hmem')
      exact ⟨(name, v) :: pre, (name, v) :: pre', post, post', rfl, rfl, hkey, hpre.keep, hpost⟩
  | @drop name vs vs' hname h ih =>
      by_cases heq : key = name
      · subst heq
        exact ⟨[], [], vs, vs', rfl, rfl, hname, .nil, h⟩
      · obtain ⟨pre, pre', post, post', rfl, rfl, hkey, hpre, hpost⟩ :=
          ih ((List.mem_cons.mp hmem).resolve_left heq) hnot
        exact ⟨(name, .null) :: pre, pre', post, post', rfl, rfl, hkey, hpre.drop hname, hpost⟩

theorem setAll {more : Entries Value} (h : DropsNulls P vs vs') (hkeys : (Entries.keys vs).Nodup)
    (hmore : ∀ key ∈ Entries.keys more, key ∈ Entries.keys vs → key ∈ Entries.keys vs') :
    DropsNulls P (Entries.setAll vs more) (Entries.setAll vs' more) := by
  induction more generalizing vs vs' with
  | nil => exact h
  | cons e more ih =>
      obtain ⟨hfirst, hrest⟩ := List.forall_mem_cons.mp hmore
      refine ih (h.set e.2 hfirst hkeys) (Entries.nodup_set _ _ _ hkeys) fun key hkey => ?_
      rw [Entries.mem_keys_set, Entries.mem_keys_set]
      exact Or.imp_right (hrest key hkey)

theorem findSome?_eq {α : Type} (h : DropsNulls P vs vs') {f : String × Value → Option α}
    (hf : ∀ name, P name → f (name, .null) = none) : vs.findSome? f = vs'.findSome? f := by
  induction h with
  | nil => rfl
  | keep _ ih => rw [List.findSome?_cons, List.findSome?_cons, ih]
  | drop hname _ ih => rw [List.findSome?_cons, hf _ hname, ih]

end DropsNulls

/-- Values that replace others do so on either side. -/
theorem NullOrSame.setAll {P : String → Prop} {values values' : Entries Value}
    (h : NullOrSame P values values') (more : Entries Value) :
    NullOrSame P (Entries.setAll values more) (Entries.setAll values' more) := by
  intro name
  rw [Entries.get?_setAll, Entries.get?_setAll]
  cases (Entries.lastWith? Prod.fst more name).map Prod.snd with
  | some v => exact .inl rfl
  | none => exact h name

namespace EntityType

variable {type : EntityType} {P : String → Prop} {values values' vs vs' : Entries Value}
  {x : Instance} {name : String} {v : Value} {e : Error}

/-- Whether a member may be left out instead of `null`. Any member of an immutable object may, since
a constructor takes `null` for a missing value. One of a mutable object may if it is optional or a
list, and is absent or empty in a new object. -/
def MayOmit (type : EntityType) (m : Member) : Prop :=
  type.immutable = true ∨ m.shape.absent? = some m.initial

/-- Whether all members of a name may be left out instead of `null`. -/
def MayOmitName (type : EntityType) (name : String) : Prop :=
  ∀ m ∈ type.members, m.name = name → type.MayOmit m

/-! ## Fields -/

theorem convert_null {m : Member} (hm : m.shape.absent? = some m.initial) :
    type.convert m .null = .ok m.initial := by
  rw [convert, absent?_eq_some_iff.mp hm]

theorem fieldFor_null {m : Member} (hm : type.MayOmit m) :
    type.fieldFor m (some .null) = type.fieldFor m none := by
  rw [fieldFor, fieldFor]
  split
  next => rfl
  next hmutable =>
    have habsent := hm.resolve_left hmutable
    rw [assign, assign, convert_null habsent, ite_self]

theorem fieldFor_of_nullOrSame (h : NullOrSame P values values')
    (hP : ∀ name, P name → type.MayOmitName name) {m : Member} (hm : m ∈ type.members) :
    type.fieldFor m (Entries.get? m.name values) =
      type.fieldFor m (Entries.get? m.name values') := by
  rcases h m.name with hsame | ⟨hname, hnull, hnone⟩
  · rw [hsame]
  · rw [hnull, hnone, fieldFor_null (hP m.name hname m hm rfl)]

/-- The same object is made of values with and without nulls, in whatever order they come. -/
theorem instantiate_eq_ok_iff_of_nullOrSame (hnodup : (type.members.map (·.name)).Nodup)
    (hkeys : (Entries.keys values).Nodup) (hkeys' : (Entries.keys values').Nodup)
    (h : NullOrSame P values values') (hP : ∀ name, P name → type.MayOmitName name) :
    type.instantiate values = .ok x ↔ type.instantiate values' = .ok x := by
  rw [instantiate_eq_ok_iff hnodup hkeys, instantiate_eq_ok_iff hnodup hkeys',
    mapM_congr fun m hm => fieldFor_of_nullOrSame h hP hm]

/-- A constructor takes its arguments in its own order. -/
theorem instantiate_of_immutable (himmutable : type.immutable = true)
    (h : NullOrSame P values values') : type.instantiate values = type.instantiate values' := by
  rw [instantiate, instantiate, if_pos himmutable, if_pos himmutable]
  refine mapM_congr fun m _ => ?_
  rw [argument, argument]
  rcases h m.name with hsame | ⟨-, hnull, hnone⟩
  · rw [hsame]
  · rw [hnull, hnone]
    rfl

/-! ## Errors of mutable objects -/

/-- The error that setting a value fails with. It does not depend on the object. -/
def misfit? (type : EntityType) (entry : String × Value) : Option Error :=
  match type.set [] entry.1 entry.2 with
  | .ok _ => none
  | .error e => some e

theorem set_eq_error_iff : type.set x name v = .error e ↔ type.misfit? (name, v) = some e := by
  rw [misfit?, set, set]
  cases type.members.findIdx? fun m => m.name = name with
  | none => simp
  | some i =>
      dsimp only
      cases type.members[i]? with
      | none => simp
      | some m =>
          dsimp only
          split
          · cases type.convert m v <;> simp [Except.map]
          · simp

/-- Setting values one after another fails with the error of the first that does not fit. -/
theorem setAll_eq_error_iff : type.setAll x vs = .error e ↔ vs.findSome? type.misfit? = some e := by
  induction vs generalizing x with
  | nil => simp [setAll]
  | cons entry vs ih =>
      obtain ⟨name, v⟩ := entry
      rw [setAll, List.findSome?_cons]
      cases hset : type.set x name v with
      | error first =>
          rw [set_eq_error_iff.mp hset]
          simp [bind, Except.bind]
      | ok y =>
          have hfits : type.misfit? (name, v) = none := by
            rw [Option.eq_none_iff_forall_ne_some]
            intro first hfirst
            cases hset.symm.trans (set_eq_error_iff.mpr hfirst)
          rw [hfits]
          exact ih

/-- A value that does not fit is one for a member. -/
theorem exists_of_misfit? (h : type.misfit? (name, v) = some e) :
    ∃ m ∈ type.members, m.name = name ∧ type.convert m v = .error e := by
  rw [← set_eq_error_iff (x := [])] at h
  rw [set] at h
  split at h
  next => cases h
  next i hfind =>
    obtain ⟨hlt, hname, -⟩ := List.findIdx?_eq_some_iff_getElem.mp hfind
    rw [List.getElem?_eq_getElem hlt] at h
    dsimp only at h
    split at h
    next =>
      refine ⟨type.members[i], List.getElem_mem hlt, by simpa using hname, ?_⟩
      cases hconvert : type.convert type.members[i] v with
      | ok d =>
          rw [hconvert] at h
          cases h
      | error first =>
          rw [hconvert] at h
          cases h
          rfl
    next => cases h

theorem misfit?_null (hmutable : type.immutable = false) (hname : type.MayOmitName name) :
    type.misfit? (name, .null) = none := by
  rw [Option.eq_none_iff_forall_ne_some]
  intro e he
  obtain ⟨m, hm, hmname, herror⟩ := exists_of_misfit? he
  have habsent := (hname m hm hmname).resolve_left (by simp [hmutable])
  cases (convert_null habsent).symm.trans herror

theorem instantiate_eq_error_iff (hmutable : type.immutable = false) :
    type.instantiate values = .error e ↔ values.findSome? type.misfit? = some e := by
  rw [instantiate, hmutable, if_neg Bool.false_ne_true, setAll_eq_error_iff]

/-! ## Making objects -/

/-- Values without some of their nulls make the same object, or fail alike. -/
theorem instantiate_of_dropsNulls (hnodup : (type.members.map (·.name)).Nodup)
    (hkeys : (Entries.keys vs).Nodup) (h : DropsNulls P vs vs')
    (hP : ∀ name, P name → type.MayOmitName name) :
    type.instantiate vs = type.instantiate vs' := by
  cases himmutable : type.immutable with
  | true => exact instantiate_of_immutable himmutable (h.nullOrSame hkeys)
  | false =>
      apply outcome_ext
      · intro x
        exact instantiate_eq_ok_iff_of_nullOrSame hnodup hkeys (hkeys.sublist h.keys_sublist)
          (h.nullOrSame hkeys) hP
      · intro e
        rw [instantiate_eq_error_iff himmutable, instantiate_eq_error_iff himmutable,
          h.findSome?_eq fun name hname => misfit?_null himmutable (hP name hname)]

/-- A value that takes the place of a null is set there, and after all others where the null is left
out. If neither it nor one of those in between fits, either way reports the one that it sets first. -/
theorem instantiate_late (hmutable : type.immutable = false)
    (hP : ∀ name, P name → type.MayOmitName name) {pre pre' post post' rest : Entries Value}
    (hpre : DropsNulls P pre pre') (hpost : DropsNulls P post post')
    (hok : ∀ x, type.instantiate (pre ++ (name, v) :: (post ++ rest)) = .ok x ↔
      type.instantiate (pre' ++ (post' ++ (name, v) :: rest)) = .ok x) :
    type.instantiate (pre ++ (name, v) :: (post ++ rest)) =
        type.instantiate (pre' ++ (post' ++ (name, v) :: rest)) ∨
      ∃ e entry e', type.misfit? (name, v) = some e ∧ entry ∈ post ∧
        type.misfit? entry = some e' ∧
        type.instantiate (pre ++ (name, v) :: (post ++ rest)) = .error e ∧
        type.instantiate (pre' ++ (post' ++ (name, v) :: rest)) = .error e' := by
  have hnull (name : String) (hname : P name) : type.misfit? (name, .null) = none :=
    misfit?_null hmutable (hP name hname)
  have hsame (h : ∀ e, type.instantiate (pre ++ (name, v) :: (post ++ rest)) = .error e ↔
      type.instantiate (pre' ++ (post' ++ (name, v) :: rest)) = .error e) := outcome_ext hok h
  simp only [instantiate_eq_error_iff hmutable, List.findSome?_append, List.findSome?_cons,
    ← hpre.findSome?_eq hnull, ← hpost.findSome?_eq hnull] at hsame ⊢
  cases hfirst : pre.findSome? type.misfit? with
  | some e => exact .inl (hsame (by simp [hfirst]))
  | none =>
      cases hvalue : type.misfit? (name, v) with
      | none => exact .inl (hsame (by simp [hfirst, hvalue]))
      | some e =>
          cases hbetween : post.findSome? type.misfit? with
          | none => exact .inl (hsame (by simp [hfirst, hvalue, hbetween]))
          | some e' =>
              obtain ⟨entry, hmem, hentry⟩ := List.exists_of_findSome?_eq_some hbetween
              refine .inr ⟨e, entry, e', rfl, hmem, hentry, ?_, ?_⟩
              · simp
              · simp

/-- A value that is set among values with and without nulls, instead of one of these. It makes the same
object or fails alike, unless the object is mutable and neither the value nor a later one fits. -/
theorem instantiate_setAll_of_dropped {more : Entries Value}
    (hnodup : (type.members.map (·.name)).Nodup)
    (hP : ∀ name, P name → type.MayOmitName name) (hkeys : (Entries.keys vs).Nodup)
    (h : DropsNulls P vs vs') (hname : name ∈ Entries.keys vs) (hnot : name ∉ Entries.keys vs')
    (hmore : (Entries.keys ((name, v) :: more)).Nodup)
    (hdisjoint : ∀ key ∈ Entries.keys more, key ∉ Entries.keys vs) :
    type.instantiate (Entries.setAll vs ((name, v) :: more)) =
        type.instantiate (Entries.setAll vs' ((name, v) :: more)) ∨
      ∃ pre post e entry e', type.immutable = false ∧ vs = pre ++ (name, .null) :: post ∧
        P name ∧ type.misfit? (name, v) = some e ∧ entry ∈ post ∧
        type.misfit? entry = some e' ∧
        type.instantiate (Entries.setAll vs ((name, v) :: more)) = .error e ∧
        type.instantiate (Entries.setAll vs' ((name, v) :: more)) = .error e' := by
  have hkeys' := hkeys.sublist h.keys_sublist
  have hsame := (h.nullOrSame hkeys).setAll ((name, v) :: more)
  have hok {x : Instance} := instantiate_eq_ok_iff_of_nullOrSame (x := x) hnodup
    (Entries.nodup_setAll _ _ hkeys) (Entries.nodup_setAll _ _ hkeys') hsame hP
  obtain ⟨pre, pre', post, post', rfl, rfl, hPname, hpre, hpost⟩ := h.exists_split hname hnot
  have hleft : Entries.setAll (pre ++ (name, .null) :: post) ((name, v) :: more) =
      pre ++ (name, v) :: (post ++ more) := Entries.setAll_append_cons hkeys hmore hdisjoint
  have hright : Entries.setAll (pre' ++ post') ((name, v) :: more) =
      pre' ++ (post' ++ (name, v) :: more) := by
    rw [Entries.setAll_eq_append_of_disjoint hkeys' hmore, List.append_assoc]
    intro key hkey
    rcases List.mem_cons.mp hkey with rfl | hkey
    · exact hnot
    · exact fun hmem => hdisjoint key hkey (h.keys_sublist.subset hmem)
  cases himmutable : type.immutable with
  | true => exact .inl (instantiate_of_immutable himmutable hsame)
  | false =>
      rw [hleft, hright] at hok ⊢
      rcases instantiate_late himmutable hP hpre hpost fun x => hok with hequal | hfails
      · exact .inl hequal
      · obtain ⟨e, entry, e', hvalue, hmem, hentry, hnull, hnone⟩ := hfails
        exact .inr ⟨pre, post, e, entry, e', rfl, rfl, hPname, hvalue, hmem, hentry, hnull, hnone⟩

end EntityType

end ObjectDocument
