import ObjectDocument.Descriptor.Build

/-!
# Tables of descriptors

A descriptor is looked up through tables of positions that a build makes one after another, the first
of them before a property may become the identifier. Each table is made if and only if its keys are
distinct, and it then has the position of each property, in order. So a look-up through a table finds
what going through all the properties would find.
-/

namespace ObjectDocument.Descriptor

/-! ## Making tables -/

/-- Properties can be entered exactly if their keys are distinct and not in the table yet. They come
behind what the table has. -/
theorem enter_eq_ok_iff {key : Property → String} {rest : List (Property × Nat)}
    {table table' : Entries Nat} (htable : (Entries.keys table).Nodup) :
    enter key table rest = .ok table' ↔
      (Entries.keys table ++ rest.map fun e => key e.1).Nodup ∧
        table' = table ++ rest.map fun e => (key e.1, e.2) := by
  induction rest generalizing table with
  | nil => simp [enter, htable, eq_comm]
  | cons e rest ih =>
      obtain ⟨p, i⟩ := e
      rw [enter]
      split
      next other hother =>
        have hmem : key p ∈ Entries.keys table :=
          List.mem_map_of_mem (Entries.mem_of_get?_eq_some hother)
        refine iff_of_false (by simp) fun h => ?_
        exact (List.nodup_append.mp h.1).2.2 (key p) hmem (key p) List.mem_cons_self rfl
      next hnone =>
        have hnew : key p ∉ Entries.keys table := Entries.get?_eq_none_iff.mp hnone
        have hkeys : Entries.keys (Entries.set (key p) i table) = Entries.keys table ++ [key p] := by
          rw [Entries.set_eq_append i hnew, Entries.keys, List.map_append]
          rfl
        rw [ih (Entries.nodup_set _ _ _ htable), hkeys, Entries.set_eq_append i hnew]
        simp only [List.append_assoc, List.singleton_append, List.map_cons]

theorem enter_nil_eq_ok_iff {key : Property → String} {rest : List (Property × Nat)}
    {table : Entries Nat} : enter key [] rest = .ok table ↔
      (rest.map fun e => key e.1).Nodup ∧ table = rest.map fun e => (key e.1, e.2) :=
  enter_eq_ok_iff List.nodup_nil

variable {entity : String} {ps : List Property}

theorem indexNames_eq_ok_iff {table : Entries Nat} : indexNames entity ps = .ok table ↔
    (ps.map (·.name)).Nodup ∧ table = (ps.map (·.name)).zipIdx := by
  have henter := @enter_nil_eq_ok_iff Property.name ps.zipIdx table
  have hkeys : (ps.zipIdx.map fun e => e.1.name) = ps.map (·.name) := by
    rw [show (fun e : Property × Nat => e.1.name) = Property.name ∘ Prod.fst from rfl,
      ← List.map_map, List.zipIdx_map_fst]
  rw [hkeys] at henter
  rw [indexNames, List.zipIdx_map]
  refine Iff.trans ?_ henter
  cases enter Property.name [] ps.zipIdx with
  | ok table => simp
  | error fault => simp

theorem map_travelling {α : Type} (f : Property → α) : ((travelling ps).map fun e => f e.1) =
    (ps.filter fun p => p.isReadable || p.isWritable).map f := by
  have hfilter : (travelling ps).map Prod.fst =
      (ps.zipIdx.map Prod.fst).filter fun p => p.isReadable || p.isWritable := by
    rw [List.filter_map]
    rfl
  rw [show (fun e : Property × Nat => f e.1) = f ∘ Prod.fst from rfl, ← List.map_map, hfilter,
    List.zipIdx_map_fst]

theorem indexFieldNames_eq_ok_iff {table : Entries Nat} : indexFieldNames entity ps = .ok table ↔
    ((ps.filter fun p => p.isReadable || p.isWritable).map (·.fieldName)).Nodup ∧
      table = (travelling ps).map fun e => (e.1.fieldName, e.2) := by
  have henter := @enter_nil_eq_ok_iff Property.fieldName (travelling ps) table
  rw [map_travelling] at henter
  rw [indexFieldNames]
  refine Iff.trans ?_ henter
  cases enter Property.fieldName [] (travelling ps) with
  | ok table => simp
  | error fault => simp

/-- A role is given to at most one property, and the table has the position of the first. -/
theorem uniqueRole_eq_ok_iff {role : Role} {position : Option Nat} :
    uniqueRole entity ps role = .ok position ↔
      (ps.filter fun p => p.role = role).length ≤ 1 ∧
        position = ps.findIdx? fun p => p.role = role := by
  have hfilter : (ps.zipIdx.filter fun e => e.1.role = role).map Prod.fst =
      (ps.zipIdx.map Prod.fst).filter fun p => p.role = role := by
    rw [List.filter_map]
    rfl
  rw [List.zipIdx_map_fst] at hfilter
  rw [List.findIdx?_eq_fst_find?_zipIdx, ← List.head?_filter, ← hfilter, List.length_map, uniqueRole]
  generalize (ps.zipIdx.filter fun e => e.1.role = role) = found
  match found with
  | [] => simp [eq_comm]
  | [e] => simp [eq_comm]
  | e :: f :: rest => simp

/-! ## Looking up -/

/-- The descriptor of properties, with the tables that they lead to. -/
def ofProperties (name : String) (ps : List Property) (document : Option DocumentMetadata) :
    Descriptor where
  name := name
  properties := ps
  byName := (ps.map (·.name)).zipIdx
  byFieldName := (travelling ps).map fun e => (e.1.fieldName, e.2)
  idAt := ps.findIdx? fun p => p.role = .id
  versionAt := ps.findIdx? fun p => p.role = .version
  tokenAt := ps.findIdx? fun p => p.role = .sequenceToken
  joinAt := ps.findIdx? fun p => p.role = .join
  document := document

variable {name : String} {document : Option DocumentMetadata}

@[simp]
theorem ofProperties_name : (ofProperties name ps document).name = name :=
  rfl

@[simp]
theorem ofProperties_properties : (ofProperties name ps document).properties = ps :=
  rfl

@[simp]
theorem ofProperties_document : (ofProperties name ps document).document = document :=
  rfl

/-- A table is searched like the list that it was made of. -/
theorem get?_map_zipIdx (key : Property → String) (es : List (Property × Nat)) (k : String) :
    Entries.get? k (es.map fun e => (key e.1, e.2)) = (es.find? fun e => key e.1 = k).map (·.2) := by
  induction es with
  | nil => rfl
  | cons e es ih =>
      rw [List.map_cons, Entries.get?, List.find?_cons, ih]
      split
      next h => simp [h]
      next h => simp [h]

/-- The table of names has the first property with a name. -/
theorem get?_byName_ofProperties (k : String) :
    Entries.get? k (ofProperties name ps document).byName = ps.findIdx? fun p => p.name = k := by
  have htable : (ofProperties name ps document).byName = ps.zipIdx.map fun e => (e.1.name, e.2) :=
    List.zipIdx_map
  rw [htable, get?_map_zipIdx, List.findIdx?_eq_fst_find?_zipIdx]

/-- The table of wire names has the first property that travels under a name. -/
theorem get?_byFieldName_ofProperties (k : String) :
    Entries.get? k (ofProperties name ps document).byFieldName =
      ps.findIdx? fun p => (p.isReadable || p.isWritable) && p.fieldName = k := by
  have htable : (ofProperties name ps document).byFieldName =
      (travelling ps).map fun e => (e.1.fieldName, e.2) := rfl
  rw [htable, get?_map_zipIdx, travelling, List.find?_filter, List.findIdx?_eq_fst_find?_zipIdx]
  simp only [Bool.decide_and, Bool.decide_eq_true]

theorem roleAt_ofProperties {role : Role} (hrole : role ≠ .plain) :
    (ofProperties name ps document).roleAt role = ps.findIdx? fun p => p.role = role := by
  cases role with
  | plain => exact absurd rfl hrole
  | _ => rfl

/-- A position that is right for a condition leads to the property that satisfies it. -/
theorem propertyAt?_eq_some_iff {d : Descriptor} {position : Option Nat} {P : Property → Prop}
    (h : ∀ i, position = some i ↔ ∃ p, d.properties[i]? = some p ∧ P p) {p : Property} :
    d.propertyAt? position = some p ↔ p ∈ d.properties ∧ P p := by
  rw [propertyAt?, Option.bind_eq_some_iff]
  constructor
  · rintro ⟨i, hi, hp⟩
    obtain ⟨q, hq, hqP⟩ := (h i).mp hi
    obtain rfl : q = p := Option.some.inj (hq.symm.trans hp)
    exact ⟨List.mem_of_getElem? hp, hqP⟩
  · rintro ⟨hmem, hP⟩
    obtain ⟨i, hi⟩ := List.getElem?_of_mem hmem
    exact ⟨i, (h i).mpr ⟨p, hi, hP⟩, hi⟩

theorem mem_of_propertyAt? {d : Descriptor} {position : Option Nat} {p : Property}
    (h : d.propertyAt? position = some p) : p ∈ d.properties := by
  obtain ⟨i, -, hi⟩ := Option.bind_eq_some_iff.mp h
  exact List.mem_of_getElem? hi

end ObjectDocument.Descriptor
