import Mathlib.Data.List.Dedup
import Mathlib.Data.List.Nodup
import ObjectDocument.Entries

/-!
# Merged entries

Merging entries with repeated keys is writing one after another: of the entries with one key the last
is kept, and an earlier one is shadowed. So nothing is lost exactly where the keys are distinct.
-/

namespace ObjectDocument.Entries

variable {α β : Type}

theorem get?_append (k : String) (es more : Entries α) :
    get? k (es ++ more) = (get? k es).or (get? k more) := by
  induction es with
  | nil => rfl
  | cons e es ih =>
      rw [List.cons_append, get?, get?, ih]
      split
      · rfl
      · rfl

/-! ## Values -/

/-- The last of some things that has a key. -/
def lastWith? (key : β → String) (bs : List β) (k : String) : Option β :=
  bs.reverse.find? fun b => key b = k

theorem get?_setAll (k : String) (es more : Entries α) :
    get? k (setAll es more) = ((lastWith? Prod.fst more k).map Prod.snd).or (get? k es) := by
  induction more generalizing es with
  | nil => rfl
  | cons e more ih =>
      rw [setAll, ih, get?_set, lastWith?, lastWith?, List.reverse_cons, List.find?_append]
      by_cases he : e.1 = k
      · cases (more.reverse.find? fun b => b.1 = k) <;> simp [he]
      · cases (more.reverse.find? fun b => b.1 = k) <;> simp [he]

/-- Merged entries of things with keys have under a key what the last of them with that key has. -/
theorem get?_merge_map (key : β → String) (value : β → α) (bs : List β) (k : String) :
    get? k (merge (bs.map fun b => (key b, value b))) = (lastWith? key bs k).map value := by
  rw [merge, get?_setAll, lastWith?, lastWith?, ← List.map_reverse, List.find?_map,
    Option.map_map]
  exact Option.or_none

theorem mem_of_lastWith? {key : β → String} {bs : List β} {k : String} {b : β}
    (h : lastWith? key bs k = some b) : b ∈ bs ∧ key b = k := by
  refine ⟨List.mem_reverse.mp (List.mem_of_find?_eq_some h), ?_⟩
  simpa using List.find?_some h

theorem exists_lastWith? (key : β → String) {bs : List β} {b : β} (hb : b ∈ bs) :
    ∃ last, lastWith? key bs (key b) = some last := by
  cases hlast : lastWith? key bs (key b) with
  | some last => exact ⟨last, rfl⟩
  | none =>
      rw [lastWith?, List.find?_eq_none] at hlast
      exact absurd (decide_eq_true rfl) (hlast b (List.mem_reverse.mpr hb))

/-- Among things with distinct keys each is the last with its key. -/
theorem lastWith?_of_nodup {key : β → String} {bs : List β} (h : (bs.map key).Nodup) {b : β}
    (hb : b ∈ bs) : lastWith? key bs (key b) = some b := by
  obtain ⟨last, hlast⟩ := exists_lastWith? key hb
  obtain ⟨hmem, hkey⟩ := mem_of_lastWith? hlast
  rw [hlast, List.inj_on_of_nodup_map h hmem hb hkey]

/-- The first entry with a key is the one that is set. -/
theorem set_append_cons {k : String} {value v : α} :
    ∀ {es more : Entries α}, k ∉ keys es →
      set k value (es ++ (k, v) :: more) = es ++ (k, value) :: more
  | [], _, _ => if_pos rfl
  | (k', v') :: es, more, h => by
    have hk : k' ≠ k := fun heq => h (heq ▸ List.mem_cons_self)
    have hes : k ∉ keys es := fun hm => h (List.mem_cons_of_mem _ hm)
    rw [List.cons_append, set, if_neg hk, set_append_cons hes, List.cons_append]

theorem setAll_eq_append_of_disjoint {es more : Entries α} (hes : (keys es).Nodup)
    (hmore : (keys more).Nodup) (hdisjoint : ∀ k ∈ keys more, k ∉ keys es) :
    setAll es more = es ++ more := by
  apply setAll_eq_append
  rw [keys, List.map_append, List.nodup_append]
  exact ⟨hes, hmore, fun k hk k' hk' heq => hdisjoint k' hk' (heq ▸ hk)⟩

/-- Of entries that are set, one replaces an entry and all others come after. -/
theorem setAll_append_cons {k : String} {value v : α} {pre post more : Entries α}
    (hes : (keys (pre ++ (k, v) :: post)).Nodup) (hmore : (keys ((k, value) :: more)).Nodup)
    (hdisjoint : ∀ key ∈ keys more, key ∉ keys (pre ++ (k, v) :: post)) :
    setAll (pre ++ (k, v) :: post) ((k, value) :: more) = pre ++ (k, value) :: (post ++ more) := by
  have hkeys : keys (pre ++ (k, value) :: post) = keys (pre ++ (k, v) :: post) := by simp [keys]
  have hpre : k ∉ keys pre := by
    rw [keys, List.map_append, List.nodup_append] at hes
    exact fun hmem => hes.2.2 k hmem k List.mem_cons_self rfl
  rw [setAll, set_append_cons hpre, setAll_eq_append_of_disjoint (hkeys ▸ hes)
    (List.nodup_cons.mp hmore).2 (hkeys ▸ hdisjoint), List.append_assoc, List.cons_append]

/-! ## Number of entries -/

theorem mem_keys_setAll {k : String} {es more : Entries α} :
    k ∈ keys (setAll es more) ↔ k ∈ keys es ∨ k ∈ keys more := by
  induction more generalizing es with
  | nil => simp [setAll, keys]
  | cons e more ih =>
      rw [setAll, ih, mem_keys_set, keys, keys, keys, List.map_cons, List.mem_cons]
      tauto

/-- There are as many merged entries as there are different keys. -/
theorem length_merge (es : Entries α) : (merge es).length = (keys es).dedup.length := by
  have hperm : (keys (merge es)).Perm (keys es).dedup := by
    rw [List.perm_ext_iff_of_nodup (nodup_merge es) (List.nodup_dedup _)]
    intro k
    rw [List.mem_dedup, merge, mem_keys_setAll]
    simp [keys]
  simpa [keys] using hperm.length_eq

/-! ## Related entries -/

section Related

variable {R : α → β → Prop} {es more : Entries α} {es' more' : Entries β}

/-- Entries with the same keys, in the same order, whose values are related. -/
def Related (R : α → β → Prop) (es : Entries α) (es' : Entries β) : Prop :=
  List.Forall₂ (fun e e' => e.1 = e'.1 ∧ R e.2 e'.2) es es'

theorem Related.get? (h : Related R es es') (k : String) :
    Option.Rel R (get? k es) (get? k es') := by
  induction h with
  | nil => exact .none
  | cons he _ ih =>
      obtain ⟨hkey, hvalue⟩ := he
      rw [Entries.get?, Entries.get?, ← hkey]
      split
      · exact .some hvalue
      · exact ih

theorem Related.set (h : Related R es es') (k : String) {a : α} {b : β} (hab : R a b) :
    Related R (set k a es) (set k b es') := by
  induction h with
  | nil => exact .cons ⟨rfl, hab⟩ .nil
  | cons he hrest ih =>
      rw [Entries.set, Entries.set, ← he.1]
      split
      · exact .cons ⟨rfl, hab⟩ hrest
      · exact .cons ⟨rfl, he.2⟩ ih

theorem Related.setAll (hmore : Related R more more') (h : Related R es es') :
    Related R (setAll es more) (setAll es' more') := by
  induction hmore generalizing es es' with
  | nil => exact h
  | cons he _ ih =>
      rw [Entries.setAll, Entries.setAll, ← he.1]
      exact ih (h.set _ he.2)

theorem Related.merge (h : Related R es es') : Related R (merge es) (merge es') :=
  h.setAll .nil

end Related

end ObjectDocument.Entries
