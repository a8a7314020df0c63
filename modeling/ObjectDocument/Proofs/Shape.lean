import ObjectDocument.Proofs.Datum

/-!
# Data that values are converted to

A datum is a normal form of the values that are converted to it: its own value is converted to the
same datum again, whatever value it came from. So is every datum of a shape, as long as an optional
one has only one way to be absent. Only a `Float32` could differ, which is widened to a double in
between.
-/

namespace ObjectDocument

mutual

/-- Whether no `Float32` of a datum changes when it is widened to a double and rounded back. Widening
is exact, so no number does, but the two conversions are opaque to the logic. Embedded objects are
moved around as they are, so theirs do not matter. -/
def Datum.KeepsFloats : Datum → Prop
  | .float x => x.toFloat.toFloat32 = x
  | .present d => d.KeepsFloats
  | .vec items => Datum.KeepsFloatsAll items
  | _ => True

/-- Whether no `Float32` of a list changes. -/
def Datum.KeepsFloatsAll : List Datum → Prop
  | [] => True
  | d :: ds => d.KeepsFloats ∧ Datum.KeepsFloatsAll ds

end

namespace Base

variable {b : Base} {v : Value} {d : Datum}

theorem kind_injective : Function.Injective Base.kind := by
  intro a b h
  cases a <;> cases b <;> cases h <;> rfl

/-- An integer of 64 bits is kept by the one of 32 bits that it is converted to. -/
theorem toInt64_of_int32? {n : Int64} {k : Int32} (h : int32? n.toInt = some k) :
    k.toInt64 = n := by
  rw [int32?] at h
  split at h
  next hrange =>
    cases h
    rw [← Int64.toInt_inj, Int32.toInt_toInt64]
    exact Int32.toInt_ofInt_of_le hrange.1 (Int.lt_add_one_of_le hrange.2)
  next => cases h

/-- No single value is converted to absence. -/
theorem isNull_toValue (h : b.ofValue v = .ok d) : d.toValue.isNull = false := by
  cases b with
  | integer =>
      cases v with
      | long n =>
          rw [ofValue] at h
          split at h
          · cases h
            rfl
          · cases h
      | _ => cases h
  | double =>
      obtain ⟨x, -, rfl⟩ := map_eq_ok_iff.mp h
      rfl
  | float =>
      obtain ⟨x, -, rfl⟩ := map_eq_ok_iff.mp h
      rfl
  | entity type =>
      cases v with
      | embedded found fields =>
          rw [ofValue] at h
          split at h
          · cases h
            rfl
          · cases h
      | _ => cases h
  | _ => cases v <;> cases h; rfl

theorem ofValue_toValue (h : b.ofValue v = .ok d) (hd : d.KeepsFloats) :
    b.ofValue d.toValue = .ok d := by
  cases b with
  | integer =>
      cases v with
      | long n =>
          rw [ofValue] at h
          split at h
          next k hk =>
            cases h
            rw [Datum.toValue, ofValue, Int32.toInt_toInt64, Datum.int32?_toInt]
          next => cases h
      | _ => cases h
  | double =>
      obtain ⟨x, -, rfl⟩ := map_eq_ok_iff.mp h
      rfl
  | float =>
      obtain ⟨x, -, rfl⟩ := map_eq_ok_iff.mp h
      rw [Datum.KeepsFloats] at hd
      rw [Datum.toValue, ofValue, doubleOf, Except.map, hd]
  | entity type =>
      cases v with
      | embedded found fields =>
          rw [ofValue] at h
          split at h
          next hfound =>
            cases h
            rw [Datum.toValue, ofValue, if_pos rfl]
          next => cases h
      | _ => cases h
  | _ => cases v <;> cases h; rfl

end Base

namespace Shape

variable {s : Shape} {v : Value} {d : Datum}

theorem isNull_toValue (h : s.ofValue v = .ok d) (hv : v.isNull = false) :
    d.toValue.isNull = false := by
  induction s generalizing d with
  | base b => exact Base.isNull_toValue h
  | option inner ih =>
      rw [Datum.ofValue_option hv] at h
      obtain ⟨e, he, rfl⟩ := map_eq_ok_iff.mp h
      rw [Datum.toValue]
      exact ih he
  | vec element ih =>
      cases v with
      | null => cases hv
      | list items =>
          obtain ⟨ds, -, rfl⟩ := map_eq_ok_iff.mp h
          rfl
      | _ => cases h

theorem mapM_ofValue_toValues {items : List Value} {ds : List Datum}
    (hitem : ∀ (v : Value) (d : Datum), s.ofValue v = .ok d → d.KeepsFloats →
      s.ofValue d.toValue = .ok d)
    (h : List.Forall₂ (fun v d => s.ofValue v = .ok d) items ds) (hds : Datum.KeepsFloatsAll ds) :
    (Datum.toValues ds).mapM s.ofValue = .ok ds := by
  induction h with
  | nil => rfl
  | cons hd hrest ih =>
      rw [Datum.toValues, List.mapM_cons, hitem _ _ hd hds.1, ih hds.2]
      rfl

/-- A datum that a value was converted to is what its own value is converted to. -/
theorem ofValue_toValue (h : s.ofValue v = .ok d) (hd : d.KeepsFloats) :
    s.ofValue d.toValue = .ok d := by
  induction s generalizing v d with
  | base b => exact Base.ofValue_toValue h hd
  | option inner ih =>
      cases hv : v.isNull with
      | true =>
          rw [Value.eq_null_of_isNull hv] at h
          cases h
          rfl
      | false =>
          rw [Datum.ofValue_option hv] at h
          obtain ⟨e, he, rfl⟩ := map_eq_ok_iff.mp h
          -- The value is not absent, so the inner datum is not taken for absence either.
          rw [Datum.toValue, Datum.ofValue_option (isNull_toValue he hv), ih he hd]
          rfl
  | vec element ih =>
      cases v with
      | null =>
          cases h
          rfl
      | list items =>
          obtain ⟨ds, hds, rfl⟩ := map_eq_ok_iff.mp h
          have hvalues := mapM_ofValue_toValues (fun _ _ hv hd => ih hv hd) (mapM_eq_ok.mp hds) hd
          rw [Datum.toValue, ofValue, hvalues]
          rfl
      | _ => cases h

/-- Only a field for a `Float32` holds one. -/
theorem keepsFloats_of_kind (h : s.ofValue v = .ok d) (hcollection : s.kind.isCollection = false)
    (hfloat : s.kind ≠ .float) : d.KeepsFloats := by
  induction s generalizing d with
  | base b =>
      cases b with
      | float => exact absurd rfl hfloat
      | double =>
          obtain ⟨x, -, rfl⟩ := map_eq_ok_iff.mp h
          trivial
      | integer =>
          cases v with
          | long n =>
              rw [ofValue, Base.ofValue] at h
              split at h
              · cases h
                trivial
              · cases h
          | _ => cases h
      | entity type =>
          cases v with
          | embedded found fields =>
              rw [ofValue, Base.ofValue] at h
              split at h
              · cases h
                trivial
              · cases h
          | _ => cases h
      | _ => cases v <;> cases h; trivial
  | option inner ih =>
      cases hv : v.isNull with
      | true =>
          rw [Value.eq_null_of_isNull hv] at h
          cases h
          trivial
      | false =>
          rw [Datum.ofValue_option hv] at h
          obtain ⟨e, he, rfl⟩ := map_eq_ok_iff.mp h
          rw [Datum.KeepsFloats]
          exact ih he hcollection hfloat
  | vec element => cases hcollection

/-- A single value that does not fit a field does not fit its base type. -/
theorem exists_base_of_ofValue_eq_error {reason : Mismatch} (h : s.ofValue v = .error reason)
    (hcollection : s.kind.isCollection = false) (hv : v.isNull = false) :
    ∃ b : Base, b.kind = s.kind ∧ b.ofValue v = .error reason := by
  induction s with
  | base b => exact ⟨b, rfl, h⟩
  | option inner ih =>
      rw [Datum.ofValue_option hv] at h
      cases hinner : inner.ofValue v with
      | ok d =>
          rw [hinner] at h
          cases h
      | error first =>
          rw [hinner] at h
          cases h
          exact ih hinner hcollection
  | vec element => cases hcollection

/-- A datum of an identifier's or token's kind has the value that it was made of. -/
theorem toValue_of_ofValue (hkind : s.kind.isIdentifier = true ∨ s.kind = .sequenceToken)
    (h : s.ofValue v = .ok d) : d.toValue = v := by
  induction s generalizing d with
  | base b =>
      cases b with
      | long | string | token => cases v <;> cases h; rfl
      | integer =>
          cases v with
          | long n =>
              rw [ofValue, Base.ofValue] at h
              split at h
              next k hk =>
                cases h
                rw [Datum.toValue, Base.toInt64_of_int32? hk]
              next => cases h
          | _ => cases h
      | _ => simp [Shape.kind, Base.kind, Kind.isIdentifier] at hkind
  | option inner ih =>
      cases hv : v.isNull with
      | true =>
          obtain rfl := Value.eq_null_of_isNull hv
          cases h
          rfl
      | false =>
          rw [Datum.ofValue_option hv] at h
          obtain ⟨e, he, rfl⟩ := map_eq_ok_iff.mp h
          rw [Datum.toValue]
          exact ih hkind he
  | vec element => simp [Shape.kind, Kind.isIdentifier] at hkind

end Shape

/-! ## Data of a shape -/

namespace Datum

variable {family : Family}

theorem float_of_keepsFloats {d : Datum} (h : d.KeepsFloats) (x : Float32) (hd : d = .float x) :
    x.toFloat.toFloat32 = x := by
  subst hd
  exact h

mutual

/-- A datum of a shape is what its own value is converted to, wherever it comes from. -/
theorem ofValue_toValue : ∀ (d : Datum) (s : Shape), d.Fits family s → s.Unambiguous →
    d.KeepsFloats → s.ofValue d.toValue = .ok d
  | .absent, s, hfits, _, _ => by
    obtain ⟨inner, rfl⟩ := hfits
    rfl
  | .present d, s, hfits, hs, hd => by
    obtain ⟨inner, rfl, hinner⟩ := hfits
    obtain ⟨hne, hunambiguous⟩ := Shape.unambiguous_option.mp hs
    have hvalue := ofValue_toValue d inner hinner hunambiguous hd
    rw [toValue, ofValue_option (isNull_eq_false hinner hne), hvalue]
    rfl
  | .vec items, s, hfits, hs, hd => by
    obtain ⟨element, rfl, hitems⟩ := hfits
    rw [toValue, Shape.ofValue, mapM_ofValue_toValues items element hitems hs hd]
    rfl
  | .entity ref fields, s, hfits, _, _ => by
    obtain ⟨rfl, -⟩ := hfits
    rw [toValue, Shape.ofValue, Base.ofValue, if_pos rfl]
  | .bool _, s, hfits, _, hd | .long _, s, hfits, _, hd | .integer _, s, hfits, _, hd
  | .double _, s, hfits, _, hd | .float _, s, hfits, _, hd | .string _, s, hfits, _, hd
  | .date _, s, hfits, _, hd | .dateTime _, s, hfits, _, hd | .instant _, s, hfits, _, hd
  | .join _, s, hfits, _, hd | .token _, s, hfits, _, hd | .json _, s, hfits, _, hd => by
    obtain ⟨b, hb, rfl⟩ := hfits
    exact ofValue_leaf hb (float_of_keepsFloats hd)

theorem mapM_ofValue_toValues : ∀ (ds : List Datum) (s : Shape), FitsAll family ds s →
    s.Unambiguous → KeepsFloatsAll ds → (toValues ds).mapM s.ofValue = .ok ds
  | [], _, _, _, _ => rfl
  | d :: ds, s, hfits, hs, hd => by
    have hhead := ofValue_toValue d s hfits.1 hs hd.1
    have htail := mapM_ofValue_toValues ds s hfits.2 hs hd.2
    rw [toValues, List.mapM_cons, hhead, htail]
    rfl

end

end Datum

end ObjectDocument
