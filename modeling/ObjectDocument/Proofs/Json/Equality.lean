import Mathlib.Data.List.Forall2
import Mathlib.Data.List.Perm.Subperm
import ObjectDocument.Json.Decode

/-!
# Equality of JSON values

Two objects are equal if they have the same keys with equal values, in whatever order. Equal values
are not told apart by anything that looks for keys: what is decoded of them is the same.
-/

namespace ObjectDocument.Json

/-- Whether two values are equal, whatever the order of their keys. -/
abbrev Same (j j' : Json) : Prop :=
  j.same j' = true

/-- Whether an object has each key once, as one that is parsed has. -/
def HasDistinctKeys : Json → Prop
  | object es => (Entries.keys es).Nodup
  | _ => True

/-- Equal values, by their form. Only two zeros are equal doubles of different texts. -/
inductive SameForm : Json → Json → Prop
  | null : SameForm null null
  | bool (b : Bool) : SameForm (bool b) (bool b)
  | int (n : Int) : SameForm (number (.int n)) (number (.int n))
  | float {x y : Float} (h : (x == y) = true) : SameForm (number (.float x)) (number (.float y))
  | string (s : String) : SameForm (string s) (string s)
  | array {js js' : List Json} (h : List.Forall₂ Same js js') : SameForm (array js) (array js')
  | object {es es' : Entries Json} (hlength : es.length = es'.length)
      (h : sameEntries es es' = true) : SameForm (object es) (object es')

variable {j j' : Json}

theorem forall₂_of_sameItems {js js' : List Json} (h : sameItems js js' = true) :
    List.Forall₂ Same js js' := by
  induction js generalizing js' with
  | nil =>
      cases js' with
      | nil => exact .nil
      | cons j' js' => simp [sameItems] at h
  | cons j js ih =>
      cases js' with
      | nil => simp [sameItems] at h
      | cons j' js' =>
          rw [sameItems, Bool.and_eq_true] at h
          exact .cons h.1 (ih h.2)

/-- Equal values are of one form. -/
theorem Same.form (h : Same j j') : SameForm j j' := by
  rw [Same, same.eq_def] at h
  split at h
  · exact .null
  · rw [beq_iff_eq.mp h]
    exact .bool _
  · next n n' =>
      rw [Number.same.eq_def] at h
      split at h
      · rw [beq_iff_eq.mp h]
        exact .int _
      · exact .float h
      · cases h
  · rw [beq_iff_eq.mp h]
    exact .string _
  · exact .array (forall₂_of_sameItems h)
  · rw [Bool.and_eq_true, beq_iff_eq] at h
    exact .object h.1 h.2
  · cases h

/-! ## Entries of equal objects -/

section Entries

variable {es es' : Entries Json}

theorem exists_get?_of_sameEntries (h : sameEntries es es' = true) {k : String} {a : Json}
    (ha : Entries.get? k es = some a) : ∃ b, Entries.get? k es' = some b ∧ Same a b := by
  induction es with
  | nil => cases ha
  | cons e es ih =>
      obtain ⟨key, c⟩ := e
      rw [sameEntries, Bool.and_eq_true] at h
      obtain ⟨hhead, htail⟩ := h
      rw [Entries.get?] at ha
      split at ha
      next hkey =>
        subst hkey
        cases ha
        split at hhead
        next b hb => exact ⟨b, hb, hhead⟩
        next => cases hhead
      next => exact ih htail ha

/-- Equal objects have the same keys, as none of them is there twice. -/
theorem keys_perm_of_sameEntries (hkeys : (Entries.keys es).Nodup)
    (hlength : es.length = es'.length) (h : sameEntries es es' = true) :
    (Entries.keys es).Perm (Entries.keys es') := by
  have hsubset : Entries.keys es ⊆ Entries.keys es' := by
    intro k hk
    by_contra hk'
    have hne : Entries.get? k es ≠ none := fun h => Entries.get?_eq_none_iff.mp h hk
    obtain ⟨a, ha⟩ := Option.ne_none_iff_exists'.mp hne
    obtain ⟨b, hb, -⟩ := exists_get?_of_sameEntries h ha
    rw [Entries.get?_eq_none_iff.mpr hk'] at hb
    cases hb
  apply (hkeys.subperm hsubset).perm_of_length_le
  rw [Entries.keys, Entries.keys, List.length_map, List.length_map]
  exact Nat.le_of_eq hlength.symm

/-- Under each key, equal objects have equal values or none. -/
theorem get?_of_sameEntries (hkeys : (Entries.keys es).Nodup) (hlength : es.length = es'.length)
    (h : sameEntries es es' = true) (k : String) :
    Option.Rel Same (Entries.get? k es) (Entries.get? k es') := by
  cases ha : Entries.get? k es with
  | some a =>
      obtain ⟨b, hb, hab⟩ := exists_get?_of_sameEntries h ha
      rw [hb]
      exact .some hab
  | none =>
      have hb : Entries.get? k es' = none := by
        rw [Entries.get?_eq_none_iff] at ha ⊢
        exact fun hk => ha ((keys_perm_of_sameEntries hkeys hlength h).mem_iff.mpr hk)
      rw [hb]
      exact .none

end Entries

/-! ## Decoding equal values -/

theorem isNull_of_same (h : Same j j') : j.isNull = j'.isNull := by
  cases h.form with
  | _ => rfl

theorem bool?_of_same (h : Same j j') : j.bool? = j'.bool? := by
  cases h.form with
  | _ => rfl

theorem string?_of_same (h : Same j j') : j.string? = j'.string? := by
  cases h.form with
  | _ => rfl

theorem int64?_of_same (h : Same j j') : j.int64? = j'.int64? := by
  cases h.form with
  | _ => rfl

/-- A field of a record, by its name. -/
theorem filter_key {es : Entries Json} (hkeys : (Entries.keys es).Nodup) (name : String) :
    es.filter (fun e => e.1 = name) = ((Entries.get? name es).map (name, ·)).toList := by
  induction es with
  | nil => rfl
  | cons e es ih =>
      obtain ⟨key, j⟩ := e
      obtain ⟨hkey, hkeys⟩ := List.nodup_cons.mp hkeys
      rw [Entries.get?]
      split
      next heq =>
        subst heq
        rw [List.filter_cons_of_pos (by simp), ih hkeys, Entries.get?_eq_none_iff.mpr hkey]
        rfl
      next hne => rw [List.filter_cons_of_neg (by simpa using hne), ih hkeys]

/-- A record has its fields under their names, each of which an object has at most once. -/
theorem members?_object {es : Entries Json} (hkeys : (Entries.keys es).Nodup)
    (names : List String) :
    members? names (object es) = some (names.map (Entries.get? · es)) := by
  rw [members?]
  induction names with
  | nil => rfl
  | cons name names ih =>
      rw [List.mapM_cons, ih, filter_key hkeys, List.map_cons]
      cases Entries.get? name es with
      | none => rfl
      | some j => rfl

/-- Records that are equal have equal fields. -/
theorem members?_of_same (h : Same j j') (hkeys : j.HasDistinctKeys) (names : List String) :
    Option.Rel (List.Forall₂ (Option.Rel Same)) (j.members? names) (j'.members? names) := by
  cases h.form with
  | @object es es' hlength hes =>
      have hkeys' : (Entries.keys es').Nodup :=
        (keys_perm_of_sameEntries hkeys hlength hes).nodup_iff.mp hkeys
      rw [members?_object hkeys, members?_object hkeys']
      refine .some ?_
      rw [List.forall₂_map_left_iff, List.forall₂_map_right_iff, List.forall₂_same]
      exact fun k _ => get?_of_sameEntries hkeys hlength hes k
  | array hjs =>
      rw [members?, members?, hjs.length_eq]
      split
      next =>
        refine .some (List.rel_append ?_ ?_)
        · rw [List.forall₂_map_left_iff, List.forall₂_map_right_iff]
          exact hjs.imp fun a b hab => .some hab
        · refine List.forall₂_same.mpr fun o ho => ?_
          rw [List.eq_of_mem_replicate ho]
          exact .none
      next => exact .none
  | _ => exact .none

/-- What is decoded of the fields of a record is the same for equal records. -/
theorem bind_members?_of_same {α : Type} {names : List String} {f : List (Option Json) → Option α}
    (hf : ∀ ms ms', List.Forall₂ (Option.Rel Same) ms ms' → f ms = f ms') (h : Same j j')
    (hkeys : j.HasDistinctKeys) :
    (j.members? names).bind f = (j'.members? names).bind f := by
  have hmembers := members?_of_same h hkeys names
  generalize j.members? names = found at hmembers
  generalize j'.members? names = found' at hmembers
  cases hmembers with
  | some hms => exact hf _ _ hms
  | none => rfl

theorem required_of_rel {α : Type} {decode : Json → Option α} {o o' : Option Json}
    (hdecode : ∀ {j j' : Json}, Same j j' → decode j = decode j') (h : Option.Rel Same o o') :
    required decode o = required decode o' := by
  cases h with
  | some h => exact hdecode h
  | none => rfl

theorem optional_of_rel {α : Type} {decode : Json → Option α} {o o' : Option Json}
    (hdecode : ∀ {j j' : Json}, Same j j' → decode j = decode j') (h : Option.Rel Same o o') :
    optional decode o = optional decode o' := by
  cases h with
  | none => rfl
  | some h =>
      have hd := hdecode h
      cases h.form with
      | null => rfl
      | _ => exact congrArg (Option.map some) hd

end ObjectDocument.Json
