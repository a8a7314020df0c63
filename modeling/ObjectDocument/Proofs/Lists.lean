import Mathlib.Data.List.Forall2

/-!
# Lists item by item

Two lists that are made from one another, such as declarations and properties or members and fields,
are related item by item. These laws compare such lists, and look items up that only one can be.
-/

namespace ObjectDocument

variable {α β : Type}

/-! ## Related lists -/

/-- What is related to a list item by item is related to an item of it. -/
theorem exists_mem_of_forall₂ {R : α → β → Prop} {xs : List α} {ys : List β}
    (h : List.Forall₂ R xs ys) {y : β} (hy : y ∈ ys) : ∃ x ∈ xs, R x y := by
  induction h with
  | nil => cases hy
  | @cons x z xs zs hx hxs ih =>
      rcases List.mem_cons.mp hy with rfl | htail
      · exact ⟨x, List.mem_cons_self, hx⟩
      · obtain ⟨w, hw, hrel⟩ := ih htail
        exact ⟨w, List.mem_cons_of_mem x hw, hrel⟩

/-- Relating two lists item by item is relating what stands at each place. -/
theorem forall₂_iff_getElem? {R : α → β → Prop} {xs : List α} {ys : List β} :
    List.Forall₂ R xs ys ↔ xs.length = ys.length ∧
      ∀ (i : Nat) (x : α) (y : β), xs[i]? = some x → ys[i]? = some y → R x y := by
  rw [List.forall₂_iff_get]
  refine and_congr_right fun _ => ?_
  constructor
  · intro h i x y hx hy
    obtain ⟨hi, rfl⟩ := List.getElem?_eq_some_iff.mp hx
    obtain ⟨hi', rfl⟩ := List.getElem?_eq_some_iff.mp hy
    exact h i hi hi'
  · intro h i hi hi'
    exact h i xs[i] ys[i] (List.getElem?_eq_getElem hi) (List.getElem?_eq_getElem hi')

/-- Lists of one length have items at the same places. -/
theorem exists_getElem? {xs : List α} {ys : List β} {i : Nat} {y : β}
    (hlength : xs.length = ys.length) (hy : ys[i]? = some y) : ∃ x, xs[i]? = some x := by
  obtain ⟨hlt, -⟩ := List.getElem?_eq_some_iff.mp hy
  exact ⟨xs[i], List.getElem?_eq_getElem (hlength ▸ hlt)⟩

theorem exists_getElem?_of_forall₂ {R : α → β → Prop} {xs : List α} {ys : List β} {i : Nat} {x : α}
    (h : List.Forall₂ R xs ys) (hx : xs[i]? = some x) : ∃ y, ys[i]? = some y ∧ R x y := by
  obtain ⟨hlength, hR⟩ := forall₂_iff_getElem?.mp h
  obtain ⟨y, hy⟩ := exists_getElem? hlength.symm hx
  exact ⟨y, hy, hR i x y hx hy⟩

/-- Items that are related may take the same place in lists that are. -/
theorem forall₂_set {R : α → β → Prop} {xs : List α} {ys : List β} {x : α} {y : β}
    (h : List.Forall₂ R xs ys) (hxy : R x y) (i : Nat) :
    List.Forall₂ R (xs.set i x) (ys.set i y) := by
  induction h generalizing i with
  | nil => exact .nil
  | cons hhead hrest ih =>
      cases i with
      | zero => exact .cons hxy hrest
      | succ i => exact .cons hhead (ih i)

/-- Lists that are related item by item through values of the items have the same values. -/
theorem map_eq_map_of_forall₂ {γ : Type} {f : α → γ} {g : β → γ} {xs : List α} {ys : List β}
    (h : List.Forall₂ (fun x y => f x = g y) xs ys) : xs.map f = ys.map g := by
  induction h with
  | nil => rfl
  | cons hx hxs ih => rw [List.map_cons, List.map_cons, hx, ih]

theorem findIdx?_eq_of_map_eq {xs : List α} {ys : List β} {f : α → Bool} {g : β → Bool}
    (h : xs.map f = ys.map g) : xs.findIdx? f = ys.findIdx? g := by
  have hmap := congrArg (List.findIdx? id) h
  rw [List.findIdx?_map, List.findIdx?_map] at hmap
  exact hmap

/-- What stands at a position in lists that are related item by item is related. -/
theorem rel_getElem? {R : α → β → Prop} {xs : List α} {ys : List β} (h : List.Forall₂ R xs ys)
    (i : Nat) : Option.Rel R xs[i]? ys[i]? := by
  induction h generalizing i with
  | nil => exact .none
  | cons hx hxs ih =>
      cases i with
      | zero => exact .some hx
      | succ i => exact ih i

/-- An item for each of those that satisfy a condition, and none for the others. -/
theorem flatMap_ite_singleton (p : α → Prop) [DecidablePred p] (f : α → β) (xs : List α) :
    (xs.flatMap fun x => if p x then [f x] else []) = (xs.filter p).map f := by
  induction xs with
  | nil => rfl
  | cons x xs ih =>
      rw [List.flatMap_cons, ih, List.filter_cons]
      by_cases hx : p x
      · simp [hx]
      · simp [hx]

/-! ## Look-ups that have one item to find -/

variable {xs : List α}

theorem find?_eq_some_iff_mem {p : α → Bool} {a : α} (h : (xs.filter p).length ≤ 1) :
    xs.find? p = some a ↔ a ∈ xs ∧ p a = true := by
  rw [← List.mem_filter, ← List.head?_filter]
  match xs.filter p, h with
  | [], _ => simp
  | [b], _ => simp [eq_comm]

/-- Where at most one element satisfies a condition, it stands at the position that is found. -/
theorem findIdx?_eq_some_iff_getElem? {p : α → Bool} {i : Nat} (h : (xs.filter p).length ≤ 1) :
    xs.findIdx? p = some i ↔ ∃ a, xs[i]? = some a ∧ p a = true := by
  have hone : (xs.zipIdx.filter fun e => p e.1).length ≤ 1 := by
    rw [← List.length_map Prod.fst]
    change ((xs.zipIdx.filter (p ∘ Prod.fst)).map Prod.fst).length ≤ 1
    rwa [← List.filter_map, List.zipIdx_map_fst]
  rw [List.findIdx?_eq_fst_find?_zipIdx, Option.map_eq_some_iff]
  constructor
  · rintro ⟨e, he, rfl⟩
    obtain ⟨hmem, hp⟩ := (find?_eq_some_iff_mem hone).mp he
    exact ⟨e.1, List.mem_zipIdx_iff_getElem?.mp hmem, hp⟩
  · rintro ⟨a, ha, hp⟩
    have hmem : (a, i) ∈ xs.zipIdx := List.mem_zipIdx_iff_getElem?.mpr ha
    exact ⟨(a, i), (find?_eq_some_iff_mem hone).mpr ⟨hmem, hp⟩, rfl⟩

theorem filter_eq_singleton {p : α → Bool} {a : α} (h : (xs.filter p).length ≤ 1) (ha : a ∈ xs)
    (hp : p a = true) : xs.filter p = [a] := by
  have hmem : a ∈ xs.filter p := List.mem_filter.mpr ⟨ha, hp⟩
  match hfilter : xs.filter p, h with
  | [], _ => simp [hfilter] at hmem
  | [b], _ =>
      rw [hfilter, List.mem_singleton] at hmem
      rw [hmem]

/-- At most one item has a value, where all items have distinct ones. -/
theorem length_filter_le_of_nodup [DecidableEq β] {f : α → β} (h : (xs.map f).Nodup) (b : β) :
    (xs.filter fun x => f x = b).length ≤ 1 := by
  have hcount : (xs.map f).count b ≤ 1 := List.nodup_iff_count.mp h b
  rw [List.count, List.countP_map, List.countP_eq_length_filter] at hcount
  exact hcount

end ObjectDocument
