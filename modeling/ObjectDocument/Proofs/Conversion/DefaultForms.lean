import ObjectDocument.Proofs.Calendar.Range
import ObjectDocument.Proofs.Conversion.Leaf
import ObjectDocument.Proofs.Converter.FirstForm
import ObjectDocument.Proofs.Descriptor.Structure

/-!
# Default forms of points in time

Without a converter, dates, date-times and instants are written in their default forms. Main
statement: a value is read back from its default form, alone and in a list, if it is no instant or
its year has four digits; an instant of another year is refused, and with it the list.
-/

namespace ObjectDocument

namespace Conversion

/-- Whether the value of a kind at a date-time has a default form that can be read: the form of
instants has room for four digits of the year and no sign. -/
def HasReadableForm (kind : Kind) (t : DateTime) : Prop :=
  kind = .instant → 0 ≤ t.date.year ∧ t.date.year ≤ 9999

instance (kind : Kind) (t : DateTime) : Decidable (HasReadableForm kind t) :=
  inferInstanceAs (Decidable (_ → _))

theorem hasReadableForm_of_ne {kind : Kind} {t : DateTime} (h : kind ≠ .instant) :
    HasReadableForm kind t :=
  fun heq => absurd heq h

/-- The mismatch of a default form that cannot be read. -/
def unreadableInstant (v : Value) : Mismatch :=
  v.mismatch .rfcInstant

variable {family : Family} {entity : String} {p : Property} {kind : Kind} {v : Value}
  {t : DateTime} {vs : List Value} {ts : List DateTime}

/-! ## A single value -/

theorem decode_toJson (hv : v.IsAt kind t) : decode kind v.toJson =
    if HasReadableForm kind t then .ok v else .error (unreadableInstant v) := by
  obtain ⟨hutc, hvalue⟩ := hv
  cases kind with
  | localDate =>
      cases hvalue
      rw [if_pos (hasReadableForm_of_ne (by decide))]
      simp [decode, readText, Value.toJson, Json.string?, Calendar.readDate?_printDate]
  | localDateTime =>
      cases hvalue
      rw [if_pos (hasReadableForm_of_ne (by decide))]
      simp [decode, readText, Value.toJson, Json.string?, Calendar.readDateTime?_printDateTime]
  | instant =>
      cases hvalue
      split
      next h =>
        simp [decode, readText, Value.toJson, Json.string?,
          Calendar.readInstant?_printInstant t (h rfl)]
      next h =>
        have hyear : ¬(0 ≤ t.date.year ∧ t.date.year ≤ 9999) := fun hyear => h fun _ => hyear
        simp [decode, readText, Value.toJson, Json.string?, unreadableInstant, Value.mismatch,
          Value.display, Calendar.readInstant?_printInstant_eq_none t hyear]
  | _ => cases hvalue

/-- Where a property has no converter, its reader decodes the default form. -/
theorem reader_toJson (hconverter : p.converter = none) (hv : v.IsAt kind t) :
    reader family v.toJson entity p kind = .done
      (if HasReadableForm kind t then .ok v
      else .error (fault entity p v.display (unreadableInstant v))) := by
  have hread : readLeaf entity p kind v.toJson =
      if HasReadableForm kind t then .ok v
      else .error (fault entity p v.display (unreadableInstant v)) := by
    simp only [readLeaf, hconverter, decode_toJson hv]
    by_cases h : HasReadableForm kind t
    · simp only [h, if_true]
    · simp only [h, if_false]
      rfl
  rw [← hread]
  obtain ⟨hutc, hvalue⟩ := hv
  cases kind with
  | localDate => cases hvalue; rfl
  | localDateTime => cases hvalue; rfl
  | instant => cases hvalue; rfl
  | _ => cases hvalue

/-! ## Lists -/

theorem reader_list (family : Family) (vs : List Value) (entity : String) (p : Property)
    (kind : Kind) : reader family (Value.list vs).toJson entity p (.list kind) =
      readAll entity p kind (readers family (Value.listJson vs)) >>= fun vs => pure (.list vs) :=
  rfl

theorem readers_listJson_cons (family : Family) (v : Value) (vs : List Value) :
    readers family (Value.listJson (v :: vs)) =
      reader family v.toJson :: readers family (Value.listJson vs) :=
  rfl

/-- A list is read from its default form if all of its values are. -/
theorem readAll_listJson (hconverter : p.converter = none)
    (hvs : List.Forall₂ (fun v t => v.IsAt kind t) vs ts)
    (hreadable : ∀ t ∈ ts, HasReadableForm kind t) :
    readAll entity p kind (readers family (Value.listJson vs)) = .done (.ok vs) := by
  induction hvs with
  | nil => rfl
  | cons hv hvs ih =>
      rw [readers_listJson_cons, readAll, reader_toJson hconverter hv,
        if_pos (hreadable _ List.mem_cons_self),
        ih fun t ht => hreadable t (List.mem_cons_of_mem _ ht)]
      rfl

/-- The first value of a list that cannot be read is reported. -/
theorem readAll_listJson_eq_error (hconverter : p.converter = none)
    (hvs : List.Forall₂ (fun v t => v.IsAt kind t) vs ts) {i : Nat} (hi : vs[i]? = some v)
    (ht : ts[i]? = some t) (hbefore : ∀ u ∈ ts.take i, HasReadableForm kind u)
    (hunreadable : ¬HasReadableForm kind t) :
    readAll entity p kind (readers family (Value.listJson vs)) =
      .done (.error (fault entity p v.display (unreadableInstant v))) := by
  induction hvs generalizing i with
  | nil => cases hi
  | cons hw hvs ih =>
      rw [readers_listJson_cons, readAll, reader_toJson hconverter hw]
      cases i with
      | zero =>
          cases hi
          cases ht
          rw [if_neg hunreadable]
          rfl
      | succ i =>
          rw [List.take_succ_cons] at hbefore
          rw [if_pos (hbefore _ List.mem_cons_self),
            ih hi ht fun u hu => hbefore u (List.mem_cons_of_mem _ hu)]
          rfl

/-- Without a converter, a date or date-time is read back from its default form, and so is an instant
of a year from 0 to 9999. An instant of another year is not read. A list is read back if all of its
values are, and else its first value that is not is reported. -/
theorem reads_default_form (kind : Kind) :
    (∀ v t, v.IsAt kind t → decode kind v.toJson =
      if HasReadableForm kind t then .ok v else .error (unreadableInstant v)) ∧
    ∀ family entity p vs ts, p.converter = none →
      List.Forall₂ (fun v t => v.IsAt kind t) vs ts →
      ((∀ t ∈ ts, HasReadableForm kind t) →
        reader family (Value.list vs).toJson entity p (.list kind) = .done (.ok (.list vs))) ∧
      ∀ i v t, vs[i]? = some v → ts[i]? = some t → (∀ u ∈ ts.take i, HasReadableForm kind u) →
        ¬HasReadableForm kind t →
        reader family (Value.list vs).toJson entity p (.list kind) =
          .done (.error (fault entity p v.display (unreadableInstant v))) := by
  refine ⟨fun v t => decode_toJson, ?_⟩
  intro family entity p vs ts hconverter hvs
  constructor
  · intro hreadable
    rw [reader_list, readAll_listJson hconverter hvs hreadable]
    rfl
  · intro i v t hi ht hbefore hunreadable
    rw [reader_list, readAll_listJson_eq_error hconverter hvs hi ht hbefore hunreadable]
    rfl

/-- Half of the leap second at the end of 2016. -/
def leapSecond : DateTime where
  date := ⟨2016, 12, 31, by decide, Date.last.month_range, by decide⟩
  time :=
    ⟨23, 59, 59, 1500000000, Time.last.hour_range, Time.last.minute_range,
      Time.last.second_range, .inr (by decide)⟩

/-- The start of the year 10000. -/
def afterYear9999 : DateTime :=
  .atMidnight ⟨10000, 1, 1, by decide, Date.epoch.month_range, by decide⟩

/-- A property for instants. -/
def instants : Property :=
  Library.property 0 "instants" (.list .instant) .date

theorem reads_default_form_leapSecond :
    decode .instant (Value.instant leapSecond).toJson = .ok (.instant leapSecond) ∧
    reader ⟨[]⟩ (Value.list [.instant leapSecond]).toJson "Log" instants (.list .instant) =
      .done (.ok (.list [.instant leapSecond])) ∧
    reader ⟨[]⟩ (Value.list [.instant leapSecond, .instant afterYear9999]).toJson "Log" instants
        (.list .instant) =
      .done (.error (fault "Log" instants "\"+10000-01-01T00:00:00Z\""
        ⟨.rfcInstant, "\"+10000-01-01T00:00:00Z\""⟩)) := by
  have hleap : HasReadableForm .instant leapSecond := by decide
  have hafter : ¬HasReadableForm .instant afterYear9999 := by decide
  obtain ⟨hone, hlist⟩ := reads_default_form .instant
  refine ⟨?_, ?_, ?_⟩
  · exact (hone _ _ (.instant leapSecond)).trans (if_pos hleap)
  · exact (hlist ⟨[]⟩ "Log" instants _ _ rfl (.cons (.instant leapSecond) .nil)).1
      (List.forall_mem_singleton.mpr hleap)
  · exact (hlist ⟨[]⟩ "Log" instants _ _ rfl
      (.cons (.instant leapSecond) (.cons (.instant afterYear9999) .nil))).2 1 _ _ rfl rfl
        (List.forall_mem_singleton.mpr hleap) hafter

theorem not_decode_toJson_afterYear9999 :
    decode .instant (Value.instant afterYear9999).toJson =
        .error ⟨.rfcInstant, "\"+10000-01-01T00:00:00Z\""⟩ ∧
      ¬∀ (kind : Kind) (v : Value) (t : DateTime), v.IsAt kind t →
        decode kind v.toJson = .ok v := by
  have hrefused : decode .instant (Value.instant afterYear9999).toJson =
      .error ⟨.rfcInstant, "\"+10000-01-01T00:00:00Z\""⟩ := rfl
  refine ⟨hrefused, ?_⟩
  intro hread
  have hok := hread .instant _ _ (.instant afterYear9999)
  rw [hrefused] at hok
  cases hok

end Conversion

end ObjectDocument
