import ObjectDocument.Proofs.Datum
import ObjectDocument.Proofs.Entries
import ObjectDocument.Proofs.Json.Equality

/-!
# Equal data

Data can be equal up to the JSON in them, of which it is only known that it is related. To convert
values and to make objects of them keeps such a relation: it leads to objects that are equal up to
the same relation, or to errors that differ in nothing but the values that they show.
-/

namespace ObjectDocument

section Relations

variable (R : Json → Json → Prop)

/-- Data that are equal up to the JSON in them. A double is as its number in JSON, and a `Float32`
is what it is rounded to. -/
inductive Datum.EqualUpTo : Datum → Datum → Prop
  | same (d : Datum) : Datum.EqualUpTo d d
  | double {x y : Float} (h : R (.number (.float x)) (.number (.float y))) :
      Datum.EqualUpTo (.double x) (.double y)
  | float {x y : Float} (h : R (.number (.float x)) (.number (.float y))) :
      Datum.EqualUpTo (.float x.toFloat32) (.float y.toFloat32)
  | json {j j' : Json} (h : R j j') : Datum.EqualUpTo (.json j) (.json j')
  | present {d d' : Datum} (h : Datum.EqualUpTo d d') :
      Datum.EqualUpTo (.present d) (.present d')
  | vec {ds ds' : List Datum} (h : List.Forall₂ Datum.EqualUpTo ds ds') :
      Datum.EqualUpTo (.vec ds) (.vec ds')
  | entity {ref : EntityRef} {ds ds' : List Datum} (h : List.Forall₂ Datum.EqualUpTo ds ds') :
      Datum.EqualUpTo (.entity ref ds) (.entity ref ds')

/-- Values that are equal up to the JSON in them. -/
inductive Value.EqualUpTo : Value → Value → Prop
  | same (v : Value) : Value.EqualUpTo v v
  | double {x y : Float} (h : R (.number (.float x)) (.number (.float y))) :
      Value.EqualUpTo (.double x) (.double y)
  | json {j j' : Json} (h : R j j') : Value.EqualUpTo (.json j) (.json j')
  | list {vs vs' : List Value} (h : List.Forall₂ Value.EqualUpTo vs vs') :
      Value.EqualUpTo (.list vs) (.list vs')
  | embedded {ref : EntityRef} {ds ds' : List Datum}
      (h : List.Forall₂ (Datum.EqualUpTo R) ds ds') :
      Value.EqualUpTo (.embedded ref ds) (.embedded ref ds')

/-- Mismatches that differ in nothing but the value that they show. -/
inductive Mismatch.EqualUpTo : Mismatch → Mismatch → Prop
  | same (m : Mismatch) : Mismatch.EqualUpTo m m
  | shown (expected : Expectation) {v v' : Value} (h : v.EqualUpTo R v') :
      Mismatch.EqualUpTo (v.mismatch expected) (v'.mismatch expected)

/-- Errors that differ in nothing but the values that they show. -/
inductive Error.EqualUpTo : Error → Error → Prop
  | same (e : Error) : Error.EqualUpTo e e
  | conversion (entity property : String) {v v' : Value} {m m' : Mismatch}
      (hv : v.EqualUpTo R v') (hm : m.EqualUpTo R m') :
      Error.EqualUpTo (.conversion entity property v.display m)
        (.conversion entity property v'.display m')

end Relations

/-! ## Equality itself -/

section Equality

mutual

theorem Datum.eq_of_equalUpTo : ∀ {d d' : Datum}, d.EqualUpTo Eq d' → d = d'
  | _, _, .same _ => rfl
  | _, _, .double h => by cases h; rfl
  | _, _, .float h => by cases h; rfl
  | _, _, .json h => by rw [h]
  | _, _, .present h => by rw [Datum.eq_of_equalUpTo h]
  | _, _, .vec h => by rw [Datum.eq_of_forall₂ h]
  | _, _, .entity h => by rw [Datum.eq_of_forall₂ h]

theorem Datum.eq_of_forall₂ : ∀ {ds ds' : List Datum},
    List.Forall₂ (Datum.EqualUpTo Eq) ds ds' → ds = ds'
  | _, _, .nil => rfl
  | _, _, .cons h hs => by rw [Datum.eq_of_equalUpTo h, Datum.eq_of_forall₂ hs]

end

mutual

theorem Value.eq_of_equalUpTo : ∀ {v v' : Value}, v.EqualUpTo Eq v' → v = v'
  | _, _, .same _ => rfl
  | _, _, .double h => by cases h; rfl
  | _, _, .json h => by rw [h]
  | _, _, .list h => by rw [Value.eq_of_forall₂ h]
  | _, _, .embedded h => by rw [Datum.eq_of_forall₂ h]

theorem Value.eq_of_forall₂ : ∀ {vs vs' : List Value},
    List.Forall₂ (Value.EqualUpTo Eq) vs vs' → vs = vs'
  | _, _, .nil => rfl
  | _, _, .cons h hs => by rw [Value.eq_of_equalUpTo h, Value.eq_of_forall₂ hs]

end

theorem Error.eq_of_equalUpTo {e e' : Error} (h : e.EqualUpTo Eq e') : e = e' := by
  cases h with
  | same e => rfl
  | conversion entity property hv hm =>
      rw [Value.eq_of_equalUpTo hv]
      cases hm with
      | same m => rfl
      | shown expected h => rw [Value.eq_of_equalUpTo h]

end Equality

/-! ## Converting values -/

variable {R : Json → Json → Prop} {v v' : Value}

theorem Value.EqualUpTo.isNull_eq (h : v.EqualUpTo R v') : v.isNull = v'.isNull := by
  cases h with
  | _ => rfl

/-- What one value is converted to or fails with, as far as the JSON in it is not told apart. -/
theorem Base.ofValue_equalUpTo (h : v.EqualUpTo R v') (b : Base) :
    RelatedOutcome (Mismatch.EqualUpTo R) (Datum.EqualUpTo R) (b.ofValue v) (b.ofValue v') := by
  cases h with
  | same v => exact .refl .same .same _
  | double h =>
      cases b with
      | double => exact .ok (.double h)
      | float => exact .ok (.float h)
      | _ => exact .error (.shown _ (.double h))
  | json h =>
      cases b with
      | json => exact .ok (.json h)
      | _ => exact .error (.shown _ (.json h))
  | list h =>
      cases b with
      | _ => exact .error (.shown _ (.list h))
  | embedded h =>
      cases b with
      | entity type =>
          rw [ofValue, ofValue]
          split
          · exact .ok (.entity h)
          · exact .error (.same _)
      | _ => exact .error (.shown _ (.embedded h))

theorem Shape.ofValue_equalUpTo (h : v.EqualUpTo R v') (s : Shape) :
    RelatedOutcome (Mismatch.EqualUpTo R) (Datum.EqualUpTo R) (s.ofValue v) (s.ofValue v') := by
  induction s generalizing v v' with
  | base b => exact Base.ofValue_equalUpTo h b
  | option inner ih =>
      cases hnull : v.isNull with
      | true =>
          have hnull' : v'.isNull = true := h.isNull_eq ▸ hnull
          rw [Value.eq_null_of_isNull hnull, Value.eq_null_of_isNull hnull']
          exact .ok (.same _)
      | false =>
          have hnull' : v'.isNull = false := h.isNull_eq ▸ hnull
          rw [Datum.ofValue_option hnull, Datum.ofValue_option hnull']
          exact (ih h).map fun d d' hd => .present hd
  | vec element ih =>
      cases h with
      | same v => exact .refl .same .same _
      | list h =>
          exact (RelatedOutcome.mapM h fun w w' hw => ih hw).map fun ds ds' hds => .vec hds
      | double h => exact .error (.shown _ (.double h))
      | json h => exact .error (.shown _ (.json h))
      | embedded h => exact .error (.shown _ (.embedded h))

/-! ## Making objects -/

/-- Outcomes that are results of a relation, or errors that differ in nothing but what they show. -/
abbrev EqualOutcome (R : Json → Json → Prop) {α β : Type} (S : α → β → Prop) :
    Except Error α → Except Error β → Prop :=
  RelatedOutcome (Error.EqualUpTo R) S

namespace EntityType

variable {type : EntityType} {x x' : Instance} {vs vs' : Entries Value}

theorem convert_equalUpTo (h : v.EqualUpTo R v') (m : Member) :
    EqualOutcome R (Datum.EqualUpTo R) (type.convert m v) (type.convert m v') := by
  have hd := Shape.ofValue_equalUpTo h m.shape
  rw [convert, convert]
  generalize m.shape.ofValue v = found at hd
  generalize m.shape.ofValue v' = found' at hd
  cases hd with
  | ok hd => exact .ok hd
  | error hm => exact .error (.conversion type.name m.name h hm)

theorem set_equalUpTo (hx : List.Forall₂ (Datum.EqualUpTo R) x x') (name : String)
    (h : v.EqualUpTo R v') :
    EqualOutcome R (List.Forall₂ (Datum.EqualUpTo R)) (type.set x name v)
      (type.set x' name v') := by
  rw [set, set]
  split
  next => exact .ok hx
  next i _ =>
    split
    next => exact .ok hx
    next m _ =>
      split
      next => exact (convert_equalUpTo h m).map fun d d' hd => forall₂_set hx hd i
      next => exact .ok hx

theorem setAll_equalUpTo (hx : List.Forall₂ (Datum.EqualUpTo R) x x')
    (h : Entries.Related (Value.EqualUpTo R) vs vs') :
    EqualOutcome R (List.Forall₂ (Datum.EqualUpTo R)) (type.setAll x vs) (type.setAll x' vs') := by
  induction h generalizing x x' with
  | nil => exact .ok hx
  | @cons e e' _ _ he _ ih =>
      obtain ⟨name, v⟩ := e
      obtain ⟨name', v'⟩ := e'
      obtain ⟨rfl, hv⟩ := he
      exact (set_equalUpTo hx name hv).bind fun y y' hy => ih hy

theorem argument_equalUpTo (h : Entries.Related (Value.EqualUpTo R) vs vs') (m : Member) :
    EqualOutcome R (Datum.EqualUpTo R) (type.argument vs m) (type.argument vs' m) := by
  have hget := h.get? m.name
  have habsent : EqualOutcome R (Datum.EqualUpTo R) (argument.absent type m)
      (argument.absent type m) := .refl .same .same _
  rw [argument, argument]
  split
  next => exact .ok (.same _)
  next =>
    generalize Entries.get? m.name vs = found at hget
    generalize Entries.get? m.name vs' = found' at hget
    cases hget with
    | none => exact habsent
    | some hv =>
        dsimp only
        rw [hv.isNull_eq]
        split
        · exact habsent
        · exact convert_equalUpTo hv m

/-- Objects that are made of values are equal up to the JSON in these, and so are the errors. -/
theorem instantiate_equalUpTo (h : Entries.Related (Value.EqualUpTo R) vs vs') :
    EqualOutcome R (List.Forall₂ (Datum.EqualUpTo R)) (type.instantiate vs)
      (type.instantiate vs') := by
  rw [instantiate, instantiate]
  split
  · exact RelatedOutcome.mapM (R := Eq) (List.forall₂_same.mpr fun _ _ => rfl)
      fun m n hm => hm ▸ argument_equalUpTo h m
  · exact setAll_equalUpTo (List.forall₂_same.mpr fun d _ => .same d) h

end EntityType

end ObjectDocument
