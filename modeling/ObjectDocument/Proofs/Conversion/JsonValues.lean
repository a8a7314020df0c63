import ObjectDocument.Proofs.Conversion.Memberwise

/-!
# JSON in properties

A field may hold JSON, in options and lists of any depth. JSON `null` is what absence is written as,
and is read as absence wherever it stands. Main statement: in a property without a converter, what
is written of JSON is read back if no `null` stands outside of an option, and is then written as the
same JSON again; else an object cannot be read from the document that was written of it.
-/

namespace ObjectDocument

namespace Datum

/-- Whether a datum is JSON `null`. -/
def isJsonNull : Datum → Bool
  | .json j => j.isNull
  | _ => false

mutual

/-- Whether a datum holds JSON `null` where absence has no datum: outside of an option. -/
def holdsBareNull : Datum → Bool
  | .json j => j.isNull
  | .present d => !d.isJsonNull && d.holdsBareNull
  | .vec items => anyHoldsBareNull items
  | _ => false

/-- Whether one of the data of a list holds JSON `null` outside of an option. -/
def anyHoldsBareNull : List Datum → Bool
  | [] => false
  | d :: ds => d.holdsBareNull || anyHoldsBareNull ds

end

mutual

/-- The datum with absence in the place of JSON `null` in options. -/
def settled : Datum → Datum
  | .present d => if d.isJsonNull then .absent else .present d.settled
  | .vec items => .vec (settledAll items)
  | d => d

/-- The data of a list with absence in the place of JSON `null` in options. -/
def settledAll : List Datum → List Datum
  | [] => []
  | d :: ds => d.settled :: settledAll ds

end

mutual

/-- The value that is read of what is written of a datum. -/
def reread : Datum → Value
  | .json j => if j.isNull then .null else .json j
  | .present d => d.reread
  | .vec items => .list (rereadAll items)
  | d => d.toValue

/-- The values that are read of what is written of a list. -/
def rereadAll : List Datum → List Value
  | [] => []
  | d :: ds => d.reread :: rereadAll ds

end

theorem toJson_of_isJsonNull {d : Datum} (h : d.isJsonNull = true) : d.toValue.toJson = .null := by
  cases d with
  | json j =>
      cases j with
      | null => rfl
      | _ => cases h
  | _ => cases h

mutual

/-- Absence is written as JSON `null` is. -/
theorem toJson_settled : ∀ d : Datum, d.settled.toValue.toJson = d.toValue.toJson
  | .present d => by
    rw [settled, toValue]
    split
    next h => rw [toJson_of_isJsonNull h, toValue, Value.toJson]
    next h => rw [toValue, toJson_settled d]
  | .vec items => by
    rw [settled, toValue, toValue, Value.toJson, Value.toJson, listJson_settledAll items]
  | .absent | .entity _ _ | .bool _ | .long _ | .integer _ | .double _ | .float _ | .string _
  | .date _ | .dateTime _ | .instant _ | .join _ | .token _ | .json _ => rfl

theorem listJson_settledAll : ∀ ds : List Datum,
    Value.listJson (toValues (settledAll ds)) = Value.listJson (toValues ds)
  | [] => rfl
  | d :: ds => by
    rw [settledAll, toValues, toValues, Value.listJson, Value.listJson, toJson_settled d,
      listJson_settledAll ds]

end

/-! ## Data by shape -/

section Fits

variable {family : Family} {d : Datum} {s : Shape}

theorem fits_json (h : d.Fits family (.base .json)) : ∃ j, d = .json j := by
  cases d with
  | json j => exact ⟨j, rfl⟩
  | absent =>
      obtain ⟨_, heq⟩ := h
      cases heq
  | present e =>
      obtain ⟨_, heq, -⟩ := h
      cases heq
  | vec items =>
      obtain ⟨_, heq, -⟩ := h
      cases heq
  | entity ref fields => cases h.1
  | _ =>
      obtain ⟨b, hb, heq⟩ := h
      cases heq
      cases hb

theorem fits_option (h : d.Fits family (.option s)) :
    d = .absent ∨ ∃ e, d = .present e ∧ e.Fits family s := by
  cases d with
  | absent => exact .inl rfl
  | present e =>
      obtain ⟨_, heq, he⟩ := h
      cases heq
      exact .inr ⟨e, rfl, he⟩
  | vec items =>
      obtain ⟨_, heq, -⟩ := h
      cases heq
  | entity ref fields => cases h.1
  | _ =>
      obtain ⟨b, -, heq⟩ := h
      cases heq

theorem fitsAll_iff {ds : List Datum} : FitsAll family ds s ↔ ∀ d ∈ ds, d.Fits family s := by
  induction ds with
  | nil => simp [FitsAll]
  | cons d ds ih => rw [FitsAll, List.forall_mem_cons, ih]

theorem fits_vec (h : d.Fits family (.vec s)) :
    ∃ items, d = .vec items ∧ ∀ e ∈ items, e.Fits family s := by
  cases d with
  | vec items =>
      obtain ⟨_, heq, hitems⟩ := h
      cases heq
      exact ⟨items, rfl, fitsAll_iff.mp hitems⟩
  | absent =>
      obtain ⟨_, heq⟩ := h
      cases heq
  | present e =>
      obtain ⟨_, heq, -⟩ := h
      cases heq
  | entity ref fields => cases h.1
  | _ =>
      obtain ⟨b, -, heq⟩ := h
      cases heq

mutual

theorem fits_settled : ∀ (d : Datum) (s : Shape), d.Fits family s → d.settled.Fits family s
  | .present d, _, h => by
    obtain ⟨inner, rfl, hinner⟩ := h
    rw [settled]
    split
    · exact ⟨inner, rfl⟩
    · exact ⟨inner, rfl, fits_settled d inner hinner⟩
  | .vec items, _, h => by
    obtain ⟨element, rfl, hitems⟩ := h
    exact ⟨element, rfl, fitsAll_settledAll items element hitems⟩
  | .absent, _, h | .entity _ _, _, h | .bool _, _, h | .long _, _, h | .integer _, _, h
  | .double _, _, h | .float _, _, h | .string _, _, h | .date _, _, h | .dateTime _, _, h
  | .instant _, _, h | .join _, _, h | .token _, _, h | .json _, _, h => h

theorem fitsAll_settledAll : ∀ (ds : List Datum) (s : Shape), FitsAll family ds s →
    FitsAll family (settledAll ds) s
  | [], _, _ => trivial
  | d :: ds, s, h => ⟨fits_settled d s h.1, fitsAll_settledAll ds s h.2⟩

end

end Fits

/-! ## Reading JSON -/

section Reading

variable {family : Family} {d : Datum} {s : Shape} {p : Property} {entity : String}
  {describe : EntityRef → Except Error Descriptor}

open Conversion

/-- Where a single value is looked for, `null` is what is taken for absence. -/
theorem isNull_reread (h : d.Fits family s) (hs : ∀ inner, s ≠ .option inner) :
    d.reread.isNull = d.isJsonNull := by
  cases d with
  | json j =>
      rw [reread, isJsonNull]
      split
      next hnull => exact hnull.symm
      next hnull => exact (Bool.eq_false_iff.mpr hnull).symm
  | absent =>
      obtain ⟨inner, heq⟩ := h
      exact absurd heq (hs inner)
  | present e =>
      obtain ⟨inner, heq, -⟩ := h
      exact absurd heq (hs inner)
  | _ => rfl

theorem mapM_ofValue_rereadAll_iff {items ds : List Datum}
    (h : ∀ d ∈ items, ∀ e, s.ofValue d.reread = .ok e ↔ d.holdsBareNull = false ∧ e = d.settled) :
    (rereadAll items).mapM s.ofValue = .ok ds ↔
      anyHoldsBareNull items = false ∧ ds = settledAll items := by
  induction items generalizing ds with
  | nil => simp [rereadAll, anyHoldsBareNull, settledAll, pure, Except.pure, eq_comm]
  | cons d items ih =>
      obtain ⟨hd, hitems⟩ := List.forall_mem_cons.mp h
      rw [rereadAll, mapM_cons_eq_ok_iff, anyHoldsBareNull, settledAll, Bool.or_eq_false_iff]
      simp only [hd, ih hitems]
      constructor
      · rintro ⟨_, _, ⟨hbare, rfl⟩, ⟨hbares, rfl⟩, rfl⟩
        exact ⟨⟨hbare, hbares⟩, rfl⟩
      · rintro ⟨⟨hbare, hbares⟩, rfl⟩
        exact ⟨_, _, ⟨hbare, rfl⟩, ⟨hbares, rfl⟩, rfl⟩

/-- The value that is read is of the shape of the datum if no `null` stands outside of an option. -/
theorem ofValue_reread_iff (hs : s.Unambiguous) (hjson : s.kind.element = .json)
    (h : d.Fits family s) {e : Datum} :
    s.ofValue d.reread = .ok e ↔ d.holdsBareNull = false ∧ e = d.settled := by
  induction s generalizing d e with
  | base b =>
      rw [Shape.kind, b.element_kind] at hjson
      cases b <;> cases hjson
      obtain ⟨j, rfl⟩ := fits_json h
      have hsettled : (Datum.json j).settled = .json j := rfl
      rw [reread, holdsBareNull, hsettled, Shape.ofValue]
      cases j.isNull with
      | true => simp [Base.ofValue]
      | false =>
          rw [if_neg Bool.false_ne_true, Base.ofValue, Except.ok.injEq, eq_comm]
          simp
  | option inner ih =>
      obtain ⟨hne, hinner⟩ := Shape.unambiguous_option.mp hs
      obtain rfl | ⟨f, rfl, hf⟩ := fits_option h
      · have hread : (Shape.option inner).ofValue Datum.absent.reread = .ok .absent := rfl
        have hsettled : Datum.absent.settled = .absent := rfl
        have hbare : Datum.absent.holdsBareNull = false := rfl
        rw [hread, hsettled, hbare, Except.ok.injEq, eq_comm]
        simp
      · have hnull := isNull_reread hf hne
        rw [reread, holdsBareNull, settled]
        cases hbare : f.isJsonNull with
        | true =>
            rw [hbare] at hnull
            rw [Value.eq_null_of_isNull hnull, Shape.ofValue, Except.ok.injEq, eq_comm]
            simp
        | false =>
            rw [hbare] at hnull
            rw [ofValue_option hnull, map_eq_ok_iff]
            simp only [ih hinner hjson hf]
            constructor
            · rintro ⟨_, ⟨hbare, rfl⟩, rfl⟩
              exact ⟨hbare, rfl⟩
            · rintro ⟨hbare, rfl⟩
              exact ⟨_, ⟨hbare, rfl⟩, rfl⟩
  | vec element ih =>
      obtain ⟨items, rfl, hitems⟩ := fits_vec h
      rw [reread, holdsBareNull, settled, Shape.ofValue, map_eq_ok_iff]
      simp only [mapM_ofValue_rereadAll_iff fun f hf e => ih hs hjson (hitems f hf)]
      constructor
      · rintro ⟨_, ⟨hbare, rfl⟩, rfl⟩
        exact ⟨hbare, rfl⟩
      · rintro ⟨hbare, rfl⟩
        exact ⟨_, ⟨hbare, rfl⟩, rfl⟩

/-- Data that are read of what is written of them are so in a list. -/
theorem eval_writeAll_readAll {kind : Kind} {items : List Datum}
    (h : ∀ d ∈ items, ((writer family d).write entity p).eval describe = .ok d.toValue.toJson ∧
      (reader family d.toValue.toJson entity p kind).eval describe = .ok d.reread) :
    (writeAll entity p (writers family items)).eval describe =
        .ok (Value.listJson (toValues items)) ∧
      (readAll entity p kind (readers family (Value.listJson (toValues items)))).eval describe =
        .ok (rereadAll items) := by
  induction items with
  | nil => exact ⟨rfl, rfl⟩
  | cons d items ih =>
      obtain ⟨⟨hwrite, hread⟩, hitems⟩ := List.forall_mem_cons.mp h
      obtain ⟨hwrites, hreads⟩ := ih hitems
      constructor
      · rw [writers, writeAll]
        simp only [Lookup.eval_bind, hwrite, hwrites]
        rfl
      · rw [toValues, Value.listJson, readers, readAll]
        simp only [Lookup.eval_bind, hread, hreads]
        rfl

/-- JSON is written as it is, and the value of a datum is read of what is written. -/
theorem eval_write_read (describe : EntityRef → Except Error Descriptor) (entity : String)
    (hconverter : p.converter = none) (hjson : s.kind.element = .json)
    (h : d.Fits family s) :
    ((writer family d).write entity p).eval describe = .ok d.toValue.toJson ∧
      (reader family d.toValue.toJson entity p s.kind).eval describe = .ok d.reread := by
  induction s generalizing d with
  | base b =>
      rw [Shape.kind, b.element_kind] at hjson
      cases b <;> cases hjson
      obtain ⟨j, rfl⟩ := fits_json h
      have hleaf : (Datum.json j).leaf? = some .json := rfl
      constructor
      · rw [writer_leaf hleaf, Writer.leaf]
        dsimp only
        rw [Lookup.eval_done, writeLeaf_finite entity p (by simp [toValue]), hconverter]
      · rw [toValue, Value.toJson, reread]
        cases hnull : j.isNull with
        | true =>
            cases j with
            | null => rfl
            | _ => cases hnull
        | false =>
            rw [Shape.kind, reader_leaf hnull hleaf, Lookup.eval_done]
            exact readLeaf_plain hconverter rfl
  | option inner ih =>
      obtain rfl | ⟨f, rfl, hf⟩ := fits_option h
      · exact ⟨rfl, rfl⟩
      · exact @ih f hjson hf
  | vec element ih =>
      obtain ⟨items, rfl, hitems⟩ := fits_vec h
      obtain ⟨hwrites, hreads⟩ := eval_writeAll_readAll fun f hf => ih hjson (hitems f hf)
      constructor
      · rw [writer]
        dsimp only
        rw [Lookup.eval_bind, hwrites]
        rfl
      · rw [toValue, Value.toJson, reader, Shape.kind]
        dsimp only
        rw [Lookup.eval_bind, hreads]
        rfl

end Reading

end Datum

/-! ## JSON in objects -/

namespace EntityType

variable {type : EntityType} {m : Member} {p : Property}

/-- A member that holds JSON, in options and lists, with a property that travels both ways and has
no converter. The constructor of an immutable object takes it. -/
structure HoldsJson (type : EntityType) (m : Member) (p : Property) : Prop where
  element_kind : m.shape.kind.element = .json
  unambiguous : m.shape.Unambiguous
  converter_eq : p.converter = none
  isReadable : p.isReadable = true
  isWritable : p.isWritable = true
  taken : type.immutable = true → m.taken = true

/-- A mutable object can have a member set that travels both ways. -/
theorem HoldsJson.settable (h : type.HoldsJson m p) (hp : m.DescribedBy type p)
    (hmutable : type.immutable = false) : m.settable = true := by
  have hreads : (type.accessOf m).reads = true :=
    hp.access_eq ▸ (Bool.and_eq_true _ _ ▸ h.isReadable).2
  have hwrites : (type.accessOf m).writes = true :=
    hp.access_eq ▸ (Bool.and_eq_true _ _ ▸ h.isWritable).2
  by_contra hunset
  rw [Bool.not_eq_true] at hunset
  rw [accessOf, hmutable, hunset] at hreads hwrites
  cases haccess : m.access <;> simp [haccess, Access.reads, Access.writes] at hreads hwrites

end EntityType

namespace Conversion

variable {family : Family} {describe : EntityRef → Except Error Descriptor} {entity : String}
  {type : EntityType} {m : Member} {p : Property} {e : Datum}

/-- JSON is written as it is, unless its property is left out. -/
theorem entryOf_json (describe : EntityRef → Except Error Descriptor) (entity : String)
    (hjson : type.HoldsJson m p) (he : e.Fits family m.shape) :
    entryOf family describe entity p e =
      .ok (if p.stores e then some e.toValue.toJson else none) := by
  have hwrite := (Datum.eval_write_read describe entity hjson.converter_eq
    hjson.element_kind he).1
  rw [entryOf, hwrite]
  split
  · rfl
  · rfl

/-- JSON is read back if no `null` stands outside of an option. -/
theorem relays_json_iff (hjson : type.HoldsJson m p) (hp : m.DescribedBy type p)
    (he : e.Fits family m.shape) {e' : Datum} :
    Relays family describe entity type p m e e' ↔
      e.holdsBareNull = false ∧ e' = if p.stores e then e.settled else type.unset m := by
  have hread := (Datum.eval_write_read describe entity hjson.converter_eq
    hjson.element_kind he).2
  rw [← hp.kind_eq] at hread
  have hentry := entryOf_json describe entity hjson he
  cases hstores : p.stores e with
  | true =>
      rw [hstores, if_pos rfl] at hentry
      have hv : valueFrom family describe entity p (some e.toValue.toJson) =
          .ok (some e.reread) := by
        rw [valueFrom, if_pos hjson.isReadable, hread]
        rfl
      rw [relays_iff hentry hv,
        EntityType.fieldFor_some_eq_ok_iff (hjson.settable hp) hjson.taken, if_pos rfl]
      exact Datum.ofValue_reread_iff hjson.unambiguous hjson.element_kind he
  | false =>
      rw [hstores, if_neg Bool.false_ne_true] at hentry
      -- Only absence is left out.
      have hnull : e.toValue.isNull = true := by
        rw [Property.stores, hjson.isWritable, Bool.true_and, Bool.or_eq_false_iff] at hstores
        simpa using hstores.1
      obtain ⟨rfl, inner, hs⟩ := Datum.eq_absent_of_isNull he hjson.unambiguous hnull
      have hbare : Datum.absent.holdsBareNull = false := rfl
      rw [relays_iff hentry rfl, EntityType.fieldFor_none hjson.taken fun _ => ⟨inner, hs⟩,
        if_neg Bool.false_ne_true, Except.ok.injEq, eq_comm]
      exact (and_iff_right hbare).symm

/-- In an object that can be read back, JSON of a property without a converter can be replaced by any
other JSON, and the object is written. It is read back exactly if no `null` stands outside of an
option, with the other fields as before. The property is then written as the same JSON again, but if
it is absent and its field does not store `null`. -/
theorem read_write_json (c : Context) {ref : EntityRef} {d : Descriptor} {x y : Instance} {i : Nat}
    (hd : c.describe ref = .ok d) (hm : (c.family.type ref).members[i]? = some m)
    (hp : d.properties[i]? = some p) (hjson : (c.family.type ref).HoldsJson m p)
    (hx : x.length = (c.family.type ref).members.length)
    (hy : ReadsBackAs c.family c.describe ref x y) (he : e.Fits c.family m.shape) :
    ∃ doc, ((write c.family ref (x.set i e)).run c).1 = .ok doc ∧
      (∀ z, ((read c.family ref { source := doc }).run
          ((write c.family ref (x.set i e)).run c).2).1 = .ok z ↔
        e.holdsBareNull = false ∧
          z = y.set i (if p.stores e then e.settled else (c.family.type ref).unset m)) ∧
      entryOf c.family c.describe d.name p e =
        .ok (if p.stores e then some e.toValue.toJson else none) ∧
      entryOf c.family c.describe d.name p e.settled =
        .ok (if p.stores e.settled then some e.toValue.toJson else none) := by
  have hdescribes := Descriptor.describes_of_build hd
  have hdescribed := (forall₂_iff_getElem?.mp hdescribes.members).2 i m p hm hp
  have hentry := entryOf_json c.describe d.name hjson he
  obtain ⟨doc, hdoc⟩ := exists_write_set hd hdescribes hx hp hm hy hentry
  refine ⟨doc, ?_, ?_, hentry, ?_⟩
  · rw [Lookup.run_fst]
    exact hdoc
  · intro z
    rw [Lookup.run_fst, (Lookup.run_snd _ c).2,
      eval_read_set_iff hd hdescribes hx hp hm hy hdoc]
    simp only [relays_json_iff hjson hdescribed he, and_assoc, exists_and_left, exists_eq_left]
  · rw [← Datum.toJson_settled e]
    exact entryOf_json c.describe d.name hjson (Datum.fits_settled e m.shape he)

end Conversion

/-! ## Memos -/

namespace Library

/-- The reference of memos. -/
def memoRef : EntityRef := ⟨18, "Memo"⟩

/-- A memo has a title and any data. -/
def memo : EntityType where
  ref := memoRef
  name := "Memo"
  members := [
    { name := "title", shape := .base .string, initial := .string "" },
    { name := "data", shape := .base .json, initial := .json .null }]

/-- Memos under the default configuration. -/
def memos : Context where
  config := {}
  family := ⟨[memo]⟩

/-- A memo that holds JSON. -/
def sampleMemo (j : Json) : Instance :=
  [.string "Read me", .json j]

theorem describe_memo : memos.describe memoRef = .ok (.ofProperties "Memo"
    [property 0 "title" .string .keyword, property 1 "data" .json .object] none) :=
  rfl

end Library

namespace Conversion

open Library

theorem read_write_json_sampleMemo :
    (∃ doc, ((write memos.family memoRef (sampleMemo (.array [.null]))).run memos).1 = .ok doc ∧
      ((read memos.family memoRef { source := doc }).run
        ((write memos.family memoRef (sampleMemo (.array [.null]))).run memos).2).1 =
          .ok (sampleMemo (.array [.null]))) ∧
    ∃ doc, ((write memos.family memoRef (sampleMemo .null)).run memos).1 = .ok doc ∧
      ∀ z, ((read memos.family memoRef { source := doc }).run
        ((write memos.family memoRef (sampleMemo .null)).run memos).2).1 ≠ .ok z := by
  have hjson : (memos.family.type memoRef).HoldsJson
      { name := "data", shape := .base .json, initial := .json .null }
      (property 1 "data" .json .object) := by
    refine ⟨rfl, trivial, rfl, rfl, rfl, ?_⟩
    intro h
    cases h
  have hy : ReadsBackAs memos.family memos.describe memoRef (sampleMemo (.bool true))
      (sampleMemo (.bool true)) := ⟨_, rfl, rfl⟩
  have hfits (j : Json) : (Datum.json j).Fits memos.family (.base .json) := ⟨.json, rfl, rfl⟩
  constructor
  · obtain ⟨doc, hdoc, hread, -⟩ := read_write_json memos (i := 1) describe_memo rfl rfl hjson rfl
      hy (hfits (.array [.null]))
    exact ⟨doc, hdoc, (hread _).mpr ⟨rfl, rfl⟩⟩
  · obtain ⟨doc, hdoc, hread, -⟩ := read_write_json memos (i := 1) describe_memo rfl rfl hjson rfl
      hy (hfits .null)
    refine ⟨doc, hdoc, ?_⟩
    intro z hz
    cases ((hread z).mp hz).1

/-- A new memo is written, but cannot be read back. -/
theorem not_readsBack_freshMemo :
    (∃ doc, ((write memos.family memoRef memo.fresh).run memos).1 = .ok doc ∧
      ((read memos.family memoRef { source := doc }).run memos).1 =
        .error (.conversion "Memo" "data" "null" ⟨.jsonValue, "null"⟩)) ∧
      ¬∀ x : Instance, Datum.FitsMembers memos.family x memo.members →
        ∃ y, ReadsBackAs memos.family memos.describe memoRef x y := by
  refine ⟨⟨_, rfl, rfl⟩, ?_⟩
  intro hreads
  have hfits : Datum.FitsMembers memos.family memo.fresh memo.members :=
    ⟨⟨.string, rfl, rfl⟩, ⟨.json, rfl, rfl⟩, trivial⟩
  obtain ⟨y, doc, hdoc, hy⟩ := hreads memo.fresh hfits
  cases hdoc
  cases hy

end Conversion

end ObjectDocument
