import ObjectDocument.Conversion.Read
import ObjectDocument.Proofs.Calendar.Iso
import ObjectDocument.Proofs.Datum

/-!
# Single values both ways

A single value that its property preserves is read back from what is written of it: by the converter
of the property, or else from the default form of its type.
-/

namespace ObjectDocument

namespace Conversion

open Calendar

variable {family : Family} {d : Datum} {b : Base}

/-! ## Writers -/

theorem writer_leaf (hd : d.leaf? = some b) : writer family d = .leaf d.toValue := by
  cases d with
  | absent => cases hd
  | present d => cases hd
  | vec items => cases hd
  | entity ref fields => cases hd
  | _ => rfl

/-- The writer of a datum knows whether the datum is absent. -/
theorem isNull_writer (d : Datum) : (writer family d).isNull = d.toValue.isNull := by
  match d with
  | .present d => exact isNull_writer d
  | .absent | .vec _ | .entity _ _ | .bool _ | .long _ | .integer _ | .double _ | .float _
  | .string _ | .date _ | .dateTime _ | .instant _ | .join _ | .token _ | .json _ => rfl

/-! ## Default forms -/

theorem int64?_toInt (n : Int64) : Text.int64? n.toInt = some n := by
  rw [Text.int64?, if_pos ⟨n.minValue_le_toInt, n.toInt_le⟩, Int64.ofInt_toInt]

theorem readInteger_int (n : Int64) : readInteger (.int n.toInt) = .ok (.long n) := by
  rw [readInteger, Json.int, Json.int64?, int64?_toInt]

theorem join?_toJson (j : Join) : join? j.toJson = some j := by
  obtain ⟨name, parent⟩ := j
  cases parent with
  | none => rfl
  | some parent => rfl

theorem token?_toJson (t : SequenceToken) : token? t.toJson = some t := by
  have hmembers : t.toJson.members? ["seq_no", "primary_term"] =
      some [some (.int t.seqNo.toInt), some (.int t.primaryTerm.toInt)] := rfl
  simp [token?, hmembers, Json.required, Json.int, Json.int64?, int64?_toInt]

theorem toJson_double {x : Float} (hx : x.isFinite = true) :
    (Value.double x).toJson = .number (.float x) := by
  rw [Value.toJson, Value.doubleJson, if_pos hx]

/-- A leaf is decoded from the JSON form of its value. -/
theorem decode_leaf {p : Property} (hd : d.leaf? = some b) (hp : p.Preserves d.toValue)
    (hconverter : p.converter = none) : decode b.kind d.toValue.toJson = .ok d.toValue := by
  cases d with
  | bool x =>
      cases hd
      rfl
  | long n =>
      cases hd
      exact readInteger_int n
  | integer n =>
      cases hd
      exact readInteger_int n.toInt64
  | double x =>
      cases hd
      rw [Datum.toValue, toJson_double (hp.finite x rfl)]
      rfl
  | float x =>
      cases hd
      rw [Datum.toValue, toJson_double (hp.finite x.toFloat rfl)]
      rfl
  | string s =>
      cases hd
      rfl
  | date x =>
      cases hd
      simp [Base.kind, Datum.toValue, Value.toJson, decode, readText, Json.string?,
        readDate?_printDate]
  | dateTime x =>
      cases hd
      simp [Base.kind, Datum.toValue, Value.toJson, decode, readText, Json.string?,
        readDateTime?_printDateTime]
  | instant x =>
      cases hd
      have hread := readInstant?_printInstant x ((hp.plain hconverter).2 x rfl)
      simp [Base.kind, Datum.toValue, Value.toJson, decode, readText, Json.string?, hread]
  | join j =>
      cases hd
      simp [Base.kind, Datum.toValue, Value.toJson, decode, join?_toJson]
  | token t =>
      cases hd
      simp [Base.kind, Datum.toValue, Value.toJson, decode, token?_toJson]
  | json j =>
      cases hd
      rfl
  | absent => cases hd
  | present d => cases hd
  | vec items => cases hd
  | entity ref fields => cases hd

/-- The default form of a value is not `null`. -/
theorem isNull_toJson {p : Property} (hd : d.leaf? = some b) (hp : p.Preserves d.toValue)
    (hconverter : p.converter = none) : d.toValue.toJson.isNull = false := by
  cases d with
  | double x =>
      rw [Datum.toValue, toJson_double (hp.finite x rfl)]
      rfl
  | float x =>
      rw [Datum.toValue, toJson_double (hp.finite x.toFloat rfl)]
      rfl
  | join j =>
      obtain ⟨name, parent⟩ := j
      cases parent with
      | none => rfl
      | some parent => rfl
  | json j =>
      cases j with
      | null => exact absurd rfl (hp.plain hconverter).1
      | _ => rfl
  | absent => cases hd
  | present d => cases hd
  | vec items => cases hd
  | entity ref fields => cases hd
  | _ => rfl

/-! ## Reading what was written -/

theorem readSingle_kind (read : Kind → Lookup Value) (b : Base) :
    readSingle read b.kind = read b.kind := by
  cases b with
  | _ => rfl

/-- Where a single value is looked for, a JSON value is read as a whole. -/
theorem reader_leaf {j : Json} (hj : j.isNull = false) (hd : d.leaf? = some b) (entity : String)
    (p : Property) : reader family j entity p b.kind = .done (readLeaf entity p b.kind j) := by
  cases j with
  | null => cases hj
  | bool x => exact readSingle_kind _ b
  | number n => exact readSingle_kind _ b
  | string s => exact readSingle_kind _ b
  | array js =>
      rw [reader]
      cases b with
      | _ => rfl
  | object es =>
      refine (readSingle_kind _ b).trans ?_
      cases b with
      | entity ref => cases d <;> cases hd
      | _ => rfl

theorem writeLeaf_finite (entity : String) (p : Property) {v : Value}
    (hfinite : ∀ x, v = .double x → x.isFinite = true) : writeLeaf entity p v =
      match p.converter with
      | none => .ok v.toJson
      | some c =>
        match c.toConverter.write v with
        | .ok s => .ok (.string s)
        | .error reason => .error (fault entity p v.display reason) := by
  cases v with
  | double x =>
      rw [writeLeaf]
      exact if_pos (hfinite x rfl)
  | _ => rfl

theorem readLeaf_plain {entity : String} {p : Property} {kind : Kind} {j : Json} {v : Value}
    (hconverter : p.converter = none) (hread : decode kind j = .ok v) :
    readLeaf entity p kind j = .ok v := by
  simp [readLeaf, hconverter, hread]

theorem readLeaf_converted {entity : String} {p : Property} {kind : Kind} {s : String} {v : Value}
    {c : PropertyConverter} (hconverter : p.converter = some c)
    (hread : c.toConverter.read s = .ok v) : readLeaf entity p kind (.string s) = .ok v := by
  simp [readLeaf, hconverter, hread]

/-- A leaf is written, and read back from what was written. -/
theorem exists_leaf {p : Property} (hd : d.leaf? = some b) (hp : p.Preserves d.toValue)
    (describe : EntityRef → Except Error Descriptor) (entity : String) :
    ∃ j, ((writer family d).write entity p).eval describe = .ok j ∧
      (reader family j entity p b.kind).eval describe = .ok d.toValue := by
  rw [writer_leaf hd, Writer.leaf]
  dsimp only
  rw [Lookup.eval_done, writeLeaf_finite entity p hp.finite]
  cases hconverter : p.converter with
  | none =>
      refine ⟨d.toValue.toJson, rfl, ?_⟩
      rw [reader_leaf (isNull_toJson hd hp hconverter) hd, Lookup.eval_done]
      exact readLeaf_plain hconverter (decode_leaf hd hp hconverter)
  | some c =>
      obtain ⟨s, hwrite, hread⟩ := hp.converted c hconverter
      refine ⟨.string s, by simp only [hwrite], ?_⟩
      rw [reader_leaf rfl hd, Lookup.eval_done]
      exact readLeaf_converted hconverter hread

end Conversion

end ObjectDocument
