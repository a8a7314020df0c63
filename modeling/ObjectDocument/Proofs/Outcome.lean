import ObjectDocument.Error
import ObjectDocument.Proofs.Lists

/-!
# Outcomes of steps

A sequence of steps that may fail succeeds when each of its steps does. These laws take such a
sequence apart.
-/

namespace ObjectDocument

variable {ε α β : Type}

theorem outcome_ext {x y : Except ε α} (hok : ∀ a, x = .ok a ↔ y = .ok a)
    (herror : ∀ e, x = .error e ↔ y = .error e) : x = y := by
  cases x with
  | ok a => exact ((hok a).mp rfl).symm
  | error e => exact ((herror e).mp rfl).symm

theorem bind_eq_ok {x : Except ε α} {f : α → Except ε β} {b : β} :
    (x >>= f) = .ok b ↔ ∃ a, x = .ok a ∧ f a = .ok b := by
  cases x with
  | ok a => simp [bind, Except.bind]
  | error e => simp [bind, Except.bind]

theorem map_eq_ok_iff {x : Except ε α} {f : α → β} {b : β} :
    x.map f = .ok b ↔ ∃ a, x = .ok a ∧ f a = b := by
  cases x with
  | ok a => simp [Except.map]
  | error e => simp [Except.map]

/-- Changing a result does not change whether there is one. -/
theorem exists_map_eq_ok_iff {x : Except ε α} {f : α → β} :
    (∃ b, x.map f = .ok b) ↔ ∃ a, x = .ok a := by
  simp [map_eq_ok_iff]

theorem mapM_cons_eq_ok_iff {f : α → Except ε β} {x : α} {xs : List α} {ys : List β} :
    (x :: xs).mapM f = .ok ys ↔ ∃ y zs, f x = .ok y ∧ xs.mapM f = .ok zs ∧ ys = y :: zs := by
  rw [List.mapM_cons, bind_eq_ok]
  simp only [bind_eq_ok]
  constructor
  · rintro ⟨y, hy, zs, hzs, heq⟩
    exact ⟨y, zs, hy, hzs, (Except.ok.inj heq).symm⟩
  · rintro ⟨y, zs, hy, hzs, rfl⟩
    exact ⟨y, hy, zs, hzs, rfl⟩

/-- A step for each item of a list succeeds when each of the steps does. -/
theorem mapM_eq_ok {f : α → Except ε β} {xs : List α} {ys : List β} :
    xs.mapM f = .ok ys ↔ List.Forall₂ (fun x y => f x = .ok y) xs ys := by
  induction xs generalizing ys with
  | nil => simp [pure, Except.pure, eq_comm]
  | cons x xs ih =>
      rw [mapM_cons_eq_ok_iff, List.forall₂_cons_left_iff]
      simp only [ih]

/-- Steps that do the same for every item of a list do the same for the list. -/
theorem mapM_congr {f g : α → Except ε β} {xs : List α} (h : ∀ x ∈ xs, f x = g x) :
    xs.mapM f = xs.mapM g := by
  induction xs with
  | nil => rfl
  | cons x xs ih =>
      obtain ⟨hx, hxs⟩ := List.forall_mem_cons.mp h
      rw [List.mapM_cons, List.mapM_cons, hx, ih hxs]

/-- Steps that do something else for one item of a list give another result there and nowhere else. -/
theorem mapM_eq_ok_iff_set {f g : α → Except ε β} {xs : List α} {ys zs : List β} {i : Nat} {x : α}
    (hys : xs.mapM f = .ok ys) (hx : xs[i]? = some x)
    (h : ∀ (j : Nat) (z : α), i ≠ j → xs[j]? = some z → g z = f z) :
    xs.mapM g = .ok zs ↔ ∃ y, g x = .ok y ∧ zs = ys.set i y := by
  induction xs generalizing ys zs i with
  | nil => cases hx
  | cons w xs ih =>
      obtain ⟨y, ys, hy, hrest, rfl⟩ := mapM_cons_eq_ok_iff.mp hys
      rw [mapM_cons_eq_ok_iff]
      cases i with
      | zero =>
          obtain rfl : w = x := Option.some.inj hx
          have htail : xs.mapM g = .ok ys := by
            rw [← hrest]
            refine mapM_congr fun z hz => ?_
            obtain ⟨j, hj⟩ := List.getElem?_of_mem hz
            exact h (j + 1) z (Nat.zero_ne_add_one j) hj
          simp [htail]
      | succ i =>
          have hhead : g w = .ok y := (h 0 w (Nat.add_one_ne_zero i) rfl).trans hy
          have htail {zs : List β} := @ih ys zs i hrest hx fun j z hj hz =>
            h (j + 1) z (fun heq => hj (Nat.succ.inj heq)) hz
          simp only [htail]
          constructor
          · rintro ⟨_, _, hw, ⟨e, he, rfl⟩, rfl⟩
            obtain rfl := Except.ok.inj (hhead.symm.trans hw)
            exact ⟨e, he, rfl⟩
          · rintro ⟨e, he, rfl⟩
            exact ⟨y, ys.set i e, hhead, ⟨e, he, rfl⟩, rfl⟩

theorem exists_mem_of_mapM_eq_ok {f : α → Except ε β} {xs : List α} {ys : List β}
    (h : xs.mapM f = .ok ys) {y : β} (hy : y ∈ ys) : ∃ x ∈ xs, f x = .ok y :=
  exists_mem_of_forall₂ (mapM_eq_ok.mp h) hy

/-- A step for each item of a list succeeds as a whole when it does for every item. -/
theorem exists_mapM_eq_ok_iff {f : α → Except ε β} {xs : List α} :
    (∃ ys, xs.mapM f = .ok ys) ↔ ∀ x ∈ xs, ∃ y, f x = .ok y := by
  simp only [mapM_eq_ok]
  induction xs with
  | nil => simp
  | cons x xs ih =>
      rw [List.forall_mem_cons, ← ih]
      constructor
      · rintro ⟨_, hx | ⟨hx, hxs⟩⟩
        exact ⟨⟨_, hx⟩, _, hxs⟩
      · rintro ⟨⟨y, hy⟩, ys, hys⟩
        exact ⟨y :: ys, .cons hy hys⟩

/-- Steps for the items of a list fail as a whole with the first error of one of them. -/
theorem mapM_eq_error_iff {f : α → Except ε β} {error? : α → Option ε} {xs : List α} {e : ε}
    (h : ∀ x ∈ xs, ∀ e, f x = .error e ↔ error? x = some e) :
    xs.mapM f = .error e ↔ (xs.filterMap error?).head? = some e := by
  induction xs with
  | nil => simp [pure, Except.pure]
  | cons x xs ih =>
      obtain ⟨hhead, htail⟩ := List.forall_mem_cons.mp h
      rw [List.mapM_cons, List.filterMap_cons]
      cases hx : f x with
      | error first => simp [(hhead first).mp hx, bind, Except.bind]
      | ok y =>
          have hnone : error? x = none := by
            rw [Option.eq_none_iff_forall_ne_some]
            intro first hfirst
            cases hx.symm.trans ((hhead first).mpr hfirst)
          rw [hnone, ← ih htail]
          cases xs.mapM f with
          | error first => rfl
          | ok ys => simp [bind, Except.bind, pure, Except.pure]

/-- A check of each item of a list passes as a whole when it does for every item. -/
theorem forM_eq_ok_iff {f : α → Except ε Unit} {xs : List α} :
    xs.forM f = .ok () ↔ ∀ x ∈ xs, f x = .ok () := by
  induction xs with
  | nil => simp [List.forM, pure, Except.pure]
  | cons x xs ih =>
      rw [List.forM, bind_eq_ok, List.forall_mem_cons, ← ih]
      exact ⟨fun ⟨_, hx, hxs⟩ => ⟨hx, hxs⟩, fun ⟨hx, hxs⟩ => ⟨(), hx, hxs⟩⟩

/-! ## Errors -/

/-- Every error of an outcome satisfies a condition. -/
def FailsWith (P : ε → Prop) (x : Except ε α) : Prop :=
  ∀ e, x = .error e → P e

namespace FailsWith

variable {P : ε → Prop} {x : Except ε α} {xs : List α}

theorem ok (a : α) : FailsWith P (.ok a : Except ε α) :=
  fun _ h => by cases h

theorem error {e : ε} (h : P e) : FailsWith P (.error e : Except ε α) := by
  intro e' he
  cases he
  exact h

theorem bind {f : α → Except ε β} (hx : FailsWith P x) (hf : ∀ a, FailsWith P (f a)) :
    FailsWith P (x >>= f) := by
  cases x with
  | ok a => exact hf a
  | error e => exact .error (hx e rfl)

theorem map {f : α → β} (hx : FailsWith P x) : FailsWith P (x.map f) := by
  cases x with
  | ok a => exact .ok (f a)
  | error e => exact .error (hx e rfl)

theorem mapM {f : α → Except ε β} (h : ∀ a ∈ xs, FailsWith P (f a)) :
    FailsWith P (xs.mapM f) := by
  induction xs with
  | nil => exact .ok []
  | cons a xs ih =>
      obtain ⟨ha, hxs⟩ := List.forall_mem_cons.mp h
      rw [List.mapM_cons]
      exact ha.bind fun b => (ih hxs).bind fun bs => .ok (b :: bs)

theorem forM {f : α → Except ε PUnit} (h : ∀ a ∈ xs, FailsWith P (f a)) :
    FailsWith P (xs.forM f) := by
  induction xs with
  | nil => exact .ok ()
  | cons a xs ih =>
      obtain ⟨ha, hxs⟩ := List.forall_mem_cons.mp h
      exact ha.bind fun _ => ih hxs

end FailsWith

/-! ## Outcomes of two runs -/

/-- Two outcomes that are the same up to a relation of their results: results that are related, or
one error. -/
inductive SameOutcome (R : α → β → Prop) : Except ε α → Except ε β → Prop
  | ok {a : α} {b : β} (h : R a b) : SameOutcome R (.ok a) (.ok b)
  | error (e : ε) : SameOutcome R (.error e) (.error e)

namespace SameOutcome

variable {γ δ : Type} {R : α → β → Prop} {S : γ → δ → Prop} {x : Except ε α} {y : Except ε β}

/-- Two runs go on alike from results that are related. -/
theorem bind {f : α → Except ε γ} {g : β → Except ε δ} (h : SameOutcome R x y)
    (hf : ∀ a b, R a b → SameOutcome S (f a) (g b)) : SameOutcome S (x >>= f) (y >>= g) := by
  cases h with
  | ok hab => exact hf _ _ hab
  | error e => exact .error e

theorem map {f : α → γ} {g : β → δ} (h : SameOutcome R x y)
    (hf : ∀ a b, R a b → S (f a) (g b)) : SameOutcome S (x.map f) (y.map g) := by
  cases h with
  | ok hab => exact .ok (hf _ _ hab)
  | error e => exact .error e

theorem ok_or_error (h : SameOutcome R x y) :
    (∃ a b, x = .ok a ∧ y = .ok b ∧ R a b) ∨ ∃ e, x = .error e ∧ y = .error e := by
  cases h with
  | ok hab => exact .inl ⟨_, _, rfl, rfl, hab⟩
  | error e => exact .inr ⟨e, rfl, rfl⟩

theorem imp {R' : α → β → Prop} (h : SameOutcome R x y) (hR : ∀ a b, R a b → R' a b) :
    SameOutcome R' x y := by
  cases h with
  | ok hab => exact .ok (hR _ _ hab)
  | error e => exact .error e

end SameOutcome

/-- Two outcomes that are related: results by one relation, or errors by another. -/
inductive RelatedOutcome (E : ε → ε → Prop) (R : α → β → Prop) : Except ε α → Except ε β → Prop
  | ok {a : α} {b : β} (h : R a b) : RelatedOutcome E R (.ok a) (.ok b)
  | error {e e' : ε} (h : E e e') : RelatedOutcome E R (.error e) (.error e')

namespace RelatedOutcome

variable {γ δ : Type} {E : ε → ε → Prop} {R : α → β → Prop} {S : γ → δ → Prop}

theorem refl {R : α → α → Prop} (hE : ∀ e, E e e) (hR : ∀ a, R a a) (x : Except ε α) :
    RelatedOutcome E R x x := by
  cases x with
  | ok a => exact .ok (hR a)
  | error e => exact .error (hE e)

/-- Two runs go on from results that are related. -/
theorem bind {x : Except ε α} {y : Except ε β} {f : α → Except ε γ} {g : β → Except ε δ}
    (h : RelatedOutcome E R x y) (hf : ∀ a b, R a b → RelatedOutcome E S (f a) (g b)) :
    RelatedOutcome E S (x >>= f) (y >>= g) := by
  cases h with
  | ok hab => exact hf _ _ hab
  | error he => exact .error he

theorem map {x : Except ε α} {y : Except ε β} {f : α → γ} {g : β → δ}
    (h : RelatedOutcome E R x y) (hf : ∀ a b, R a b → S (f a) (g b)) :
    RelatedOutcome E S (x.map f) (y.map g) := by
  cases h with
  | ok hab => exact .ok (hf _ _ hab)
  | error he => exact .error he

/-- Steps for the items of two lists, related item by item. -/
theorem mapM {f : α → Except ε γ} {g : β → Except ε δ} {xs : List α} {ys : List β}
    (h : List.Forall₂ R xs ys) (hf : ∀ a b, R a b → RelatedOutcome E S (f a) (g b)) :
    RelatedOutcome E (List.Forall₂ S) (xs.mapM f) (ys.mapM g) := by
  induction h with
  | nil => exact .ok .nil
  | cons hab _ ih =>
      rw [List.mapM_cons, List.mapM_cons]
      exact (hf _ _ hab).bind fun c d hcd => ih.bind fun cs ds hcds => .ok (.cons hcd hcds)

/-- Outcomes that are related by equality are equal. -/
theorem eq {R : α → α → Prop} {x y : Except ε α} (h : RelatedOutcome E R x y)
    (hE : ∀ e e', E e e' → e = e') (hR : ∀ a b, R a b → a = b) : x = y := by
  cases h with
  | ok hab => rw [hR _ _ hab]
  | error he => rw [hE _ _ he]

end RelatedOutcome

end ObjectDocument
