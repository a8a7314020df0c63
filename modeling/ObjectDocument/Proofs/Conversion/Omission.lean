import ObjectDocument.Proofs.Absence
import ObjectDocument.Proofs.Conversion.Memberwise
import ObjectDocument.Proofs.Index.Unfolding
import ObjectDocument.Proofs.Json.Places

/-!
# Reading values without their nulls

The fields of a body that may be `null` and may be missing are those of members that an object can
do without, at any depth. Whether such fields are `null` or missing, a value is read as the same
value or with the same error.
-/

namespace ObjectDocument

namespace Conversion

/-! ## Places where null may be left out -/

/-- Where `null` may be left out of a value of a kind: in the fields of members that may be omitted,
and in those of objects that are embedded in it. -/
inductive Omissible (family : Family) (describe : EntityRef → Except Error Descriptor) :
    Kind → Json.Place → Prop
  | field {ref : EntityRef} {d : Descriptor} {p : Property} {m : Member} {key : String}
      (hd : describe ref = .ok d) (hp : p ∈ d.properties) (hread : p.isReadable = true)
      (hkey : p.fieldName = key) (hm : (family.type ref).members[p.position]? = some m)
      (homit : (family.type ref).MayOmit m) : Omissible family describe (.entity ref) [.field key]
  | inside {ref : EntityRef} {d : Descriptor} {p : Property} {key : String} {step : Json.Step}
      {place : Json.Place} (hd : describe ref = .ok d) (hp : p ∈ d.properties)
      (hread : p.isReadable = true) (hkey : p.fieldName = key)
      (h : Omissible family describe p.kind (step :: place)) :
      Omissible family describe (.entity ref) (.field key :: step :: place)
  | item {element : Kind} {i : Nat} {place : Json.Place}
      (h : Omissible family describe element place) :
      Omissible family describe (.list element) (.item i :: place)
  /-- A single object is read as the only item of a list. -/
  | single {element : Kind} {key : String} {place : Json.Place}
      (h : Omissible family describe element (.field key :: place)) :
      Omissible family describe (.list element) (.field key :: place)

variable {family : Family} {describe : EntityRef → Except Error Descriptor} {config : Config}
  {ref : EntityRef} {d : Descriptor} {kind : Kind} {chosen : Json.Place → Bool} {key : String}
  {place : Json.Place} {entity : String} {p : Property} {ps : List Property}
  {es es' : Entries Json} {vs vs' : Entries Value}

theorem Omissible.element (h : Omissible family describe kind (.field key :: place)) :
    Omissible family describe kind.element (.field key :: place) := by
  induction kind with
  | list element ih =>
      cases h with
      | single h => exact ih h
  | _ => exact h

/-- Whether the field that a property is read from is in a body and chosen there. -/
structure IsChosen (chosen : Json.Place → Bool) (es : Entries Json) (p : Property) : Prop where
  isReadable : p.isReadable = true
  chosen_eq : chosen [.field p.fieldName] = true
  mem_keys : p.fieldName ∈ Entries.keys es

/-- Whether a name is that of a property whose field is chosen. -/
def IsChosenName (d : Descriptor) (chosen : Json.Place → Bool) (es : Entries Json) (name : String) :
    Prop :=
  ∃ p ∈ d.properties, p.name = name ∧ IsChosen chosen es p

section Object

variable (hd : family.describe config ref = .ok d)
  (h : ∀ {key place}, chosen (.field key :: place) = true →
    Omissible family (family.describe config) (.entity ref) (.field key :: place))

include hd h

theorem mayOmitName_of_isChosenName {name : String} (hname : IsChosenName d chosen es name) :
    (family.type ref).MayOmitName name := by
  have hdescribes := Descriptor.describes_of_build hd
  obtain ⟨p, hp, rfl, hchosen⟩ := hname
  intro m hm hmname
  cases h hchosen.chosen_eq with
  | @field _ d' q n _ hd' hq hread hkey hn homit =>
      obtain rfl : d = d' := Except.ok.inj (hd.symm.trans hd')
      obtain rfl : q = p := hdescribes.eq_of_fieldName_eq hq (by rw [hread, Bool.true_or]) hp
        (by rw [hchosen.isReadable, Bool.true_or]) hkey
      obtain rfl : m = n :=
        Option.some.inj ((hdescribes.getElem?_of_name_eq hp hm hmname).symm.trans hn)
      exact homit

/-- Where `null` may be left out in the field of a property that is not chosen itself. -/
theorem omissible_inside (hp : p ∈ d.properties) (hread : p.isReadable = true)
    (hchosen : chosen [.field p.fieldName] = false) (place : Json.Place)
    (hplace : chosen (.field p.fieldName :: place) = true) :
    Omissible family (family.describe config) p.kind place := by
  cases place with
  | nil => cases hchosen.symm.trans hplace
  | cons step place =>
      cases h hplace with
      | @inside _ d' q _ _ _ hd' hq hqread hkey h =>
          obtain rfl : d = d' := Except.ok.inj (hd.symm.trans hd')
          obtain rfl : q = p := (Descriptor.describes_of_build hd).eq_of_fieldName_eq hq
            (by rw [hqread, Bool.true_or]) hp (by rw [hread, Bool.true_or]) hkey
          exact h

end Object

/-! ## Values of properties -/

/-- Whether a property has the same outcome either way, or has `null` and no value. The latter takes a
condition. -/
def FoundAlike (P : Prop) (x y : Except Error (Option Value)) : Prop :=
  x = y ∨ P ∧ x = .ok (some .null) ∧ y = .ok none

/-- The values of properties are the same for either body, apart from nulls. -/
theorem sameOutcome_readProperties {P : String → Prop}
    (h : ∀ p ∈ ps, FoundAlike (P p.name)
      (valueFrom family describe entity p (Entries.get? p.fieldName es))
      (valueFrom family describe entity p (Entries.get? p.fieldName es'))) :
    SameOutcome (DropsNulls P)
      ((readProperties entity (entryReaders family es) ps).eval describe)
      ((readProperties entity (entryReaders family es') ps).eval describe) := by
  induction ps with
  | nil => exact .ok .nil
  | cons p ps ih =>
      obtain ⟨hp, hps⟩ := List.forall_mem_cons.mp h
      rw [eval_readProperties_cons_bind, eval_readProperties_cons_bind]
      rcases hp with hsame | ⟨hname, hnull, hnone⟩
      · rw [hsame]
        cases valueFrom family describe entity p (Entries.get? p.fieldName es') with
        | error e => exact .error e
        | ok v =>
            refine (ih hps).bind fun vs vs' hvs => .ok ?_
            cases v with
            | none => exact hvs
            | some v => exact hvs.keep
      · rw [hnull, hnone]
        exact (ih hps).bind fun vs vs' hvs => .ok (hvs.drop hname)

/-- Whether two values are read alike at a kind, as a value of any property. -/
def ReadAlike (family : Family) (describe : EntityRef → Except Error Descriptor) (kind : Kind)
    (j j' : Json) : Prop :=
  ∀ (entity : String) (p : Property), (reader family j entity p kind).eval describe =
    (reader family j' entity p kind).eval describe

/-- A property finds `null` or nothing if its field is chosen, and else what is read alike. -/
theorem foundAlike_refill (hp : p ∈ d.properties)
    (hinside : ∀ j, Entries.get? p.fieldName es = some j → p.isReadable = true →
      chosen [.field p.fieldName] = false → ReadAlike family describe p.kind
        (Json.refill (fun place => chosen (.field p.fieldName :: place)) (some .null) j)
        (Json.refill (fun place => chosen (.field p.fieldName :: place)) none j)) :
    FoundAlike (IsChosenName d chosen es p.name)
      (valueFrom family describe entity p
        (Entries.get? p.fieldName (Json.refillEntries chosen (some .null) es)))
      (valueFrom family describe entity p
        (Entries.get? p.fieldName (Json.refillEntries chosen none es))) := by
  rw [Json.get?_refillEntries, Json.get?_refillEntries]
  cases hget : Entries.get? p.fieldName es with
  | none => exact .inl (by simp)
  | some j =>
      cases hread : p.isReadable with
      | false =>
          refine .inl ?_
          split <;> simp [valueFrom, hread]
      | true =>
          cases hchosen : chosen [.field p.fieldName] with
          | true =>
              refine .inr ⟨⟨p, hp, rfl, hread, hchosen, ?_⟩, ?_, ?_⟩
              · exact List.mem_map.mpr ⟨_, Entries.mem_of_get?_eq_some hget, rfl⟩
              · simp [valueFrom, hread, reader, Except.map]
              · simp [valueFrom]
          | false =>
              have halike := hinside j hget hread hchosen entity p
              refine .inl ?_
              simp only [Bool.false_eq_true, if_false, Option.map_some, valueFrom, halike]

/-- An embedded object is read alike if the values of its properties are found alike. -/
theorem eval_readEmbedded_refill
    (h : ∀ {key place}, chosen (.field key :: place) = true →
      Omissible family (family.describe config) (.entity ref) (.field key :: place))
    (hfound : ∀ d, family.describe config ref = .ok d → ∀ p ∈ d.properties,
      FoundAlike (IsChosenName d chosen es p.name)
        (valueFrom family (family.describe config) d.name p
          (Entries.get? p.fieldName (Json.refillEntries chosen (some .null) es)))
        (valueFrom family (family.describe config) d.name p
          (Entries.get? p.fieldName (Json.refillEntries chosen none es)))) :
    (readEmbedded family ref (entryReaders family (Json.refillEntries chosen (some .null) es))).eval
        (family.describe config) =
      (readEmbedded family ref (entryReaders family (Json.refillEntries chosen none es))).eval
        (family.describe config) := by
  rw [readEmbedded, readEmbedded]
  cases hd : family.describe config ref with
  | error e => rw [Lookup.eval_ask_error hd, Lookup.eval_ask_error hd]
  | ok d =>
      have hdescribes := Descriptor.describes_of_build hd
      rw [Lookup.eval_ask_ok hd, Lookup.eval_ask_ok hd, Lookup.eval_bind, Lookup.eval_bind]
      rcases (sameOutcome_readProperties (hfound d hd)).ok_or_error with
        ⟨vs, vs', hvs, hvs', hdrops⟩ | ⟨e, he, he'⟩
      · have hkeys := hdescribes.nodup_names.sublist (keys_readProperties_sublist hvs)
        have hkeys' := hkeys.sublist hdrops.keys_sublist
        have hsame := EntityType.instantiate_of_dropsNulls hdescribes.nodup_members hkeys hdrops
          fun name => mayOmitName_of_isChosenName hd h
        rw [hvs, hvs']
        change (instantiateEmbedded family ref (Entries.merge vs)).eval _ =
          (instantiateEmbedded family ref (Entries.merge vs')).eval _
        rw [instantiateEmbedded, instantiateEmbedded, Lookup.eval_ask_ok hd,
          Lookup.eval_ask_ok hd, Entries.merge_eq_self hkeys, Entries.merge_eq_self hkeys', hsame]
      · rw [he, he']

mutual

/-- A value is read alike with nulls that may be left out and without them. -/
theorem readAlike_refill : ∀ (j : Json) (kind : Kind) {chosen : Json.Place → Bool},
    (∀ place, chosen place = true → Omissible family (family.describe config) kind place) →
      ReadAlike family (family.describe config) kind (Json.refill chosen (some .null) j)
        (Json.refill chosen none j)
  | .array js, kind, chosen, h => by
    intro entity p
    cases kind with
    | list element =>
        rw [Json.refill, Json.refill, reader, reader]
        dsimp only
        rw [Lookup.eval_bind, Lookup.eval_bind, eval_readAll_refill entity p js element 0]
        intro i place hplace
        cases h _ hplace with
        | item h => exact h
    | _ =>
        -- Nothing can be chosen in an array where no list is looked for.
        have hnone : ∀ i place, chosen (.item i :: place) = false := by
          intro i place
          rw [Bool.eq_false_iff]
          intro hplace
          cases h _ hplace
        rw [Json.refill, Json.refill, Json.refillItems_eq_self hnone,
          Json.refillItems_eq_self hnone]
  | .object es, kind, chosen, h => by
    intro entity p
    rw [Json.refill, Json.refill, reader, reader, eval_readSingle, eval_readSingle]
    have hfields {key : String} {place : Json.Place}
        (hplace : chosen (.field key :: place) = true) :
        Omissible family (family.describe config) kind.element (.field key :: place) :=
      (h _ hplace).element
    cases helement : kind.element with
    | entity ref =>
        rw [helement] at hfields
        dsimp only
        rw [eval_readEmbedded_refill hfields]
        intro d hd p hp
        refine foundAlike_refill hp fun j hj hread hchosen => ?_
        refine readAlike_refill_of_get? es j p.kind hj fun place hplace => ?_
        exact omissible_inside hd hfields hp hread hchosen place hplace
    | list element => exact absurd helement (kind.element_ne_list element)
    | _ =>
        have hnone : ∀ key place, chosen (.field key :: place) = false := by
          intro key place
          rw [Bool.eq_false_iff]
          intro hplace
          rw [helement] at hfields
          cases hfields hplace
        rw [Json.refillEntries_eq_self hnone, Json.refillEntries_eq_self hnone]
  | .null, _, _, _ | .bool _, _, _, _ | .number _, _, _, _ | .string _, _, _, _ => fun _ _ => rfl

/-- The items of a list are read alike. -/
theorem eval_readAll_refill (entity : String) (p : Property) : ∀ (js : List Json) (kind : Kind)
    (i : Nat) {chosen : Json.Place → Bool},
    (∀ i place, chosen (.item i :: place) = true →
      Omissible family (family.describe config) kind place) →
    (readAll entity p kind (readers family (Json.refillItems chosen (some .null) i js))).eval
        (family.describe config) =
      (readAll entity p kind (readers family (Json.refillItems chosen none i js))).eval
        (family.describe config)
  | [], _, _, _, _ => rfl
  | j :: js, kind, i, chosen, h => by
    rw [Json.refillItems, Json.refillItems, readers, readers, readAll, readAll]
    simp only [Lookup.eval_bind, readAlike_refill j kind (h i) entity p,
      eval_readAll_refill entity p js kind (i + 1) h]

/-- What an object has under a key is read alike. -/
theorem readAlike_refill_of_get? : ∀ (es : List (String × Json)) (j : Json) {key : String}
    (kind : Kind) {chosen : Json.Place → Bool}, Entries.get? key es = some j →
    (∀ place, chosen place = true → Omissible family (family.describe config) kind place) →
      ReadAlike family (family.describe config) kind (Json.refill chosen (some .null) j)
        (Json.refill chosen none j)
  | (k, j) :: es, j', key, kind, chosen, hget, h => by
    rw [Entries.get?] at hget
    split at hget
    next =>
      obtain rfl : j = j' := Option.some.inj hget
      exact readAlike_refill j kind h
    next => exact readAlike_refill_of_get? es j' kind hget h

end

end Conversion

end ObjectDocument
