/-!
# Ordered entries

Objects of a document keep their keys in the order in which they first appeared. Their entries are
lists of key and value; setting a key that is present keeps its place and replaces its value, and
removing a key keeps the order of the others.
-/

namespace ObjectDocument

/-- Keys with values, in order. -/
abbrev Entries (α : Type) := List (String × α)

namespace Entries

variable {α : Type}

def keys (es : Entries α) : List String :=
  es.map (·.1)

def get? (key : String) : Entries α → Option α
  | [] => none
  | (k, v) :: es => if k = key then some v else get? key es

/-- Set the value of a key, in place if it is present and at the end otherwise. -/
def set (key : String) (value : α) : Entries α → Entries α
  | [] => [(key, value)]
  | (k, v) :: es => if k = key then (k, value) :: es else (k, v) :: set key value es

def erase (key : String) : Entries α → Entries α
  | [] => []
  | (k, v) :: es => if k = key then es else (k, v) :: erase key es

/-- Set one entry after another, starting from `es`. -/
def setAll (es : Entries α) : Entries α → Entries α
  | [] => es
  | (k, v) :: more => setAll (set k v es) more

/-- Entries with repeated keys merged: each key keeps its first place and its last value. -/
def merge (es : Entries α) : Entries α :=
  setAll [] es

/-! ## Values of keys -/

theorem get?_set (key : String) (value : α) (k : String) :
    ∀ es : Entries α, get? k (set key value es) = if key = k then some value else get? k es
  | [] => rfl
  | (k', v') :: es => by
    have ih := get?_set key value k es
    by_cases h : k' = key
    · subst h
      rw [set, if_pos rfl, get?, get?]
      split
      · rfl
      · rfl
    · rw [set, if_neg h, get?, get?, ih]
      split
      · next hk => rw [if_neg fun hkey => h (hk.trans hkey.symm)]
      · rfl

theorem get?_eq_none_iff {k : String} : ∀ {es : Entries α}, get? k es = none ↔ k ∉ keys es
  | [] => by simp [get?, keys]
  | (k', v') :: es => by
    have ih : get? k es = none ↔ k ∉ keys es := get?_eq_none_iff
    rw [get?, keys, List.map_cons, List.mem_cons, ← keys]
    split
    · next h => simp [h]
    · next h => simp [ih, Ne.symm h]

theorem mem_of_get?_eq_some {k : String} {v : α} :
    ∀ {es : Entries α}, get? k es = some v → (k, v) ∈ es
  | (k', v') :: es, h => by
    rw [get?] at h
    split at h
    · next hk =>
      cases hk
      cases h
      exact List.mem_cons_self
    · exact List.mem_cons_of_mem _ (mem_of_get?_eq_some h)

theorem get?_eq_some_iff {k : String} {v : α} :
    ∀ {es : Entries α}, (keys es).Nodup → (get? k es = some v ↔ (k, v) ∈ es)
  | [], _ => by simp [get?]
  | (k', v') :: es, h => by
    have hk : k' ∉ keys es ∧ (keys es).Nodup := List.nodup_cons.1 h
    refine ⟨mem_of_get?_eq_some, fun hm => ?_⟩
    rcases List.mem_cons.1 hm with heq | hm
    · cases heq
      exact if_pos rfl
    · have hne : k' ≠ k := fun heq => hk.1 (heq ▸ List.mem_map_of_mem hm)
      rw [get?, if_neg hne]
      exact (get?_eq_some_iff hk.2).2 hm

/-! ## Keys -/

theorem mem_keys_set (key : String) (value : α) (k : String) :
    ∀ es : Entries α, k ∈ keys (set key value es) ↔ k = key ∨ k ∈ keys es
  | [] => by simp [set, keys]
  | (k', v') :: es => by
    by_cases h : k' = key
    · rw [set, if_pos h]
      simp [keys, h]
    · rw [set, if_neg h]
      have ih := mem_keys_set key value k es
      rw [keys, keys, List.map_cons, List.map_cons, List.mem_cons, List.mem_cons,
        ← keys, ← keys, ih]
      exact or_left_comm

theorem nodup_set (key : String) (value : α) :
    ∀ es : Entries α, (keys es).Nodup → (keys (set key value es)).Nodup
  | [], _ => by simp [set, keys]
  | (k', v') :: es, h => by
    have hk : k' ∉ keys es ∧ (keys es).Nodup := List.nodup_cons.1 h
    by_cases hkey : k' = key
    · rw [set, if_pos hkey]
      exact List.nodup_cons.2 hk
    · rw [set, if_neg hkey]
      exact List.nodup_cons.2
        ⟨fun hm => ((mem_keys_set key value k' es).1 hm).elim hkey hk.1, nodup_set key value es hk.2⟩

theorem erase_sublist (key : String) : ∀ es : Entries α, (erase key es).Sublist es
  | [] => List.Sublist.slnil
  | (k', v') :: es => by
    rw [erase]
    split
    · exact List.sublist_cons_self (k', v') es
    · exact (erase_sublist key es).cons_cons (k', v')

theorem nodup_erase (key : String) {es : Entries α} (h : (keys es).Nodup) :
    (keys (erase key es)).Nodup :=
  h.sublist ((erase_sublist key es).map Prod.fst)

theorem get?_erase {key k : String} :
    ∀ {es : Entries α}, (keys es).Nodup →
      get? k (erase key es) = if key = k then none else get? k es
  | [], _ => by simp [erase, get?]
  | (k', v') :: es, h => by
    have hk : k' ∉ keys es ∧ (keys es).Nodup := List.nodup_cons.1 h
    by_cases hkey : k' = key
    · subst hkey
      rw [erase, if_pos rfl, get?]
      split
      · next heq => exact get?_eq_none_iff.2 (heq ▸ hk.1)
      · rfl
    · rw [erase, if_neg hkey, get?, get?, get?_erase hk.2]
      split
      · next heq => rw [if_neg fun hk' => hkey (heq.trans hk'.symm)]
      · rfl

theorem get?_erase_of_ne {key k : String} (h : key ≠ k) :
    ∀ es : Entries α, get? k (erase key es) = get? k es
  | [] => rfl
  | (k', v') :: es => by
    by_cases hkey : k' = key
    · rw [erase, if_pos hkey, get?, if_neg fun heq => h (hkey.symm.trans heq)]
    · rw [erase, if_neg hkey, get?, get?, get?_erase_of_ne h es]

/-! ## Merging -/

theorem nodup_setAll : ∀ (more es : Entries α), (keys es).Nodup → (keys (setAll es more)).Nodup
  | [], _, h => h
  | (k, v) :: more, es, h => nodup_setAll more (set k v es) (nodup_set k v es h)

theorem setAll_append : ∀ (es more further : Entries α),
    setAll es (more ++ further) = setAll (setAll es more) further
  | _, [], _ => rfl
  | es, (k, v) :: more, further => setAll_append (set k v es) more further

theorem get?_setAll_of_not_mem {k : String} :
    ∀ {more es : Entries α}, k ∉ keys more → get? k (setAll es more) = get? k es
  | [], _, _ => rfl
  | (k', v') :: more, es, h => by
    have hk : k' ≠ k := fun heq => h (heq ▸ List.mem_cons_self)
    have hmore : k ∉ keys more := fun hm => h (List.mem_cons_of_mem _ hm)
    rw [setAll, get?_setAll_of_not_mem hmore, get?_set, if_neg hk]

/-- Among entries with distinct keys, each sets the value of its key. -/
theorem get?_setAll_of_mem {k : String} {v : α} :
    ∀ {more es : Entries α}, (keys more).Nodup → (k, v) ∈ more → get? k (setAll es more) = some v
  | (k', v') :: more, es, h, hm => by
    have hk : k' ∉ keys more ∧ (keys more).Nodup := List.nodup_cons.1 h
    rcases List.mem_cons.1 hm with heq | hm
    · cases heq
      rw [setAll, get?_setAll_of_not_mem hk.1, get?_set, if_pos rfl]
    · rw [setAll]
      exact get?_setAll_of_mem hk.2 hm

theorem mem_or_get?_of_get?_setAll {k : String} {v : α} : ∀ {more es : Entries α},
    get? k (setAll es more) = some v → (k, v) ∈ more ∨ get? k es = some v
  | [], _, h => .inr h
  | (k', v') :: more, es, h => by
    rw [setAll] at h
    rcases mem_or_get?_of_get?_setAll h with hm | hes
    · exact .inl (List.mem_cons_of_mem _ hm)
    · rw [get?_set] at hes
      split at hes
      next hk =>
        cases hk
        cases hes
        exact .inl List.mem_cons_self
      next => exact .inr hes

theorem mem_of_get?_merge {k : String} {v : α} {es : Entries α} (h : get? k (merge es) = some v) :
    (k, v) ∈ es := by
  rcases mem_or_get?_of_get?_setAll h with hm | hnil
  · exact hm
  · cases hnil

theorem nodup_merge (es : Entries α) : (keys (merge es)).Nodup :=
  nodup_setAll es [] List.nodup_nil

theorem mem_of_mem_merge {k : String} {v : α} {es : Entries α} (h : (k, v) ∈ merge es) :
    (k, v) ∈ es :=
  mem_of_get?_merge ((get?_eq_some_iff (nodup_merge es)).2 h)

theorem set_eq_append {key : String} (value : α) :
    ∀ {es : Entries α}, key ∉ keys es → set key value es = es ++ [(key, value)]
  | [], _ => rfl
  | (k', v') :: es, h => by
    have hk : k' ≠ key := fun heq => h (heq ▸ List.mem_cons_self)
    have hes : key ∉ keys es := fun hm => h (List.mem_cons_of_mem _ hm)
    rw [set, if_neg hk, set_eq_append value hes, List.cons_append]

theorem setAll_eq_append : ∀ {more es : Entries α}, (keys (es ++ more)).Nodup →
    setAll es more = es ++ more
  | [], es, _ => (List.append_nil es).symm
  | (k, v) :: more, es, h => by
    have hk : k ∉ keys es := by
      rw [keys, List.map_append, List.map_cons, List.nodup_append] at h
      exact fun hm => h.2.2 k hm k List.mem_cons_self rfl
    rw [setAll, set_eq_append v hk]
    have happ : (es ++ [(k, v)]) ++ more = es ++ (k, v) :: more := by simp
    rw [setAll_eq_append (happ ▸ h), happ]

/-- Merging keeps entries whose keys are distinct. -/
theorem merge_eq_self {es : Entries α} (h : (keys es).Nodup) : merge es = es :=
  setAll_eq_append h

end Entries

end ObjectDocument
