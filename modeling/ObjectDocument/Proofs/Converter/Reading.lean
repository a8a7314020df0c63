import ObjectDocument.Converter.Dates
import ObjectDocument.Proofs.Calendar.Resolution

/-!
# Texts of date-times

What a pattern makes of a text, for local date-times and instants. The date is the one that the
text says. The time of day is the one that the text says if the pattern has all its parts down to
the minute; else it is midnight, whatever hour the text says. An offset is honoured if it is less than
a day and leads to a date-time in range; else it is left out.
-/

namespace ObjectDocument

open Calendar

namespace Calendar.Fields

variable {f g : Fields} {d : Date} {t u : DateTime}

/-- Whether fields differ in the hour of the day, and in nothing else. -/
structure DifferInHour (f g : Fields) : Prop where
  hour : (f.afternoon, f.hourOfHalf) ≠ (g.afternoon, g.hourOfHalf)
  rest : { f with afternoon := none, hourOfHalf := none } =
    { g with afternoon := none, hourOfHalf := none }

/-- Whether the offset of fields with a date and a time of day can be applied. -/
def IsShifted (f : Fields) : Prop :=
  ∃ u t, f.SaysLocal u ∧ f.Shifts u t

theorem SaysLocal.not_isShifted (hu : f.SaysLocal u) (hrange : f.InRange) (hdate : f.HasDate)
    (hstays : ∀ t, ¬f.Shifts u t) : ¬f.IsShifted := by
  rintro ⟨u', t, hu', hshifts⟩
  obtain rfl := hu.unique hrange hdate hu'
  exact hstays t hshifts

namespace DifferInHour

theorem toDate?_eq (h : f.DifferInHour g) : f.toDate? = g.toDate? := by
  have hf : f.toDate? = toDate? { f with afternoon := none, hourOfHalf := none } := rfl
  have hg : g.toDate? = toDate? { g with afternoon := none, hourOfHalf := none } := rfl
  rw [hf, hg, h.rest]

theorem offset_eq (h : f.DifferInHour g) : f.offset = g.offset := by
  have hoffset := congrArg Fields.offset h.rest
  exact hoffset

theorem fraction_eq (h : f.DifferInHour g) : f.has .fraction = g.has .fraction := by
  have hnanos := congrArg Fields.nanos h.rest
  exact congrArg Option.isSome hnanos

/-- Fields that differ in the hour do not say the same time of day. -/
theorem ne_of_saysLocal (h : f.DifferInHour g) (hf : f.SaysLocal t) (hg : g.SaysLocal u) :
    t ≠ u := by
  rintro rfl
  apply h.hour
  rw [hf.time.halfDay, hf.time.hourOfHalf, hg.time.halfDay, hg.time.hourOfHalf]

end DifferInHour

end Calendar.Fields

namespace Pattern

variable {p : Pattern} {s : String} {f : Fields}

/-- Whether a pattern has the fields of a whole date: a year, with month and day or with the day of
the year. -/
structure HasDate (p : Pattern) : Prop where
  year : .year ∈ p.slots ∨ .yearOfCentury ∈ p.slots
  day : (.month ∈ p.slots ∧ .day ∈ p.slots) ∨ .ordinal ∈ p.slots

instance (p : Pattern) : Decidable p.HasDate :=
  decidable_of_iff ((.year ∈ p.slots ∨ .yearOfCentury ∈ p.slots) ∧
      ((.month ∈ p.slots ∧ .day ∈ p.slots) ∨ .ordinal ∈ p.slots))
    ⟨fun ⟨hyear, hday⟩ => ⟨hyear, hday⟩, fun h => ⟨h.year, h.day⟩⟩

/-- Whether the fields of a pattern are enough for a time of day, of a text with a fraction or of one
without. -/
structure HasTime (p : Pattern) (fraction : Bool) : Prop where
  halfDay : .halfDay ∈ p.slots
  hourOfHalf : .hourOfHalf ∈ p.slots
  minute : .minute ∈ p.slots
  second_of_fraction : fraction = true → .second ∈ p.slots

instance (p : Pattern) (fraction : Bool) : Decidable (p.HasTime fraction) :=
  decidable_of_iff ((.halfDay ∈ p.slots ∧ .hourOfHalf ∈ p.slots ∧ .minute ∈ p.slots) ∧
      (fraction = true → .second ∈ p.slots))
    ⟨fun ⟨⟨hhalf, hhour, hminute⟩, hsecond⟩ => ⟨hhalf, hhour, hminute, hsecond⟩,
      fun h => ⟨⟨h.halfDay, h.hourOfHalf, h.minute⟩, h.second_of_fraction⟩⟩

theorem HasTime.of_imp {fraction other : Bool} (h : p.HasTime fraction)
    (hother : other = true → fraction = true) : p.HasTime other :=
  ⟨h.halfDay, h.hourOfHalf, h.minute, fun hfraction => h.second_of_fraction (hother hfraction)⟩

/-- Of the named formats with a date and an hour, only one lacks the rest of a time of day. -/
theorem hasTime_of_pattern? {format : DateFormat} {source : String}
    (hsource : format.pattern? = some source) (hp : compile source = .ok p)
    (hyear : .year ∈ p.slots) (hhour : .hourOfHalf ∈ p.slots) (hformat : format ≠ .dateHour) :
    p.HasTime (decide (.fraction ∈ p.slots)) := by
  cases format
  all_goals cases hsource
  all_goals obtain rfl := Except.ok.inj hp
  all_goals revert hyear hhour hformat
  all_goals decide

/-- So a text of any other of these formats says a time of day. -/
theorem hasTime_of_read? {format : DateFormat} {source : String}
    (hsource : format.pattern? = some source) (hp : compile source = .ok p)
    (hyear : .year ∈ p.slots) (hhour : .hourOfHalf ∈ p.slots) (hformat : format ≠ .dateHour)
    (h : p.read? s = some f) : p.HasTime (f.has .fraction) := by
  apply (hasTime_of_pattern? hsource hp hyear hhour hformat).of_imp
  intro hhas
  rcases (gains_read? h).introduced .fraction hhas with hempty | hmem
  · cases hempty
  · exact decide_eq_true hmem

/-- A text has a whole date just if its pattern has. -/
theorem hasDate_iff (h : p.read? s = some f) : f.HasDate ↔ p.HasDate := by
  have hyear := has_read?_iff h (show Slot.year ≠ .fraction by decide)
  have hcentury := has_read?_iff h (show Slot.yearOfCentury ≠ .fraction by decide)
  have hmonth := has_read?_iff h (show Slot.month ≠ .fraction by decide)
  have hday := has_read?_iff h (show Slot.day ≠ .fraction by decide)
  have hordinal := has_read?_iff h (show Slot.ordinal ≠ .fraction by decide)
  constructor
  · rintro ⟨hy, hd⟩
    rw [hyear, hcentury] at hy
    rw [hmonth, hday, hordinal] at hd
    exact ⟨hy, hd⟩
  · rintro ⟨hy, hd⟩
    rw [← hyear, ← hcentury] at hy
    rw [← hmonth, ← hday, ← hordinal] at hd
    exact ⟨hy, hd⟩

theorem hasTime_iff (h : p.read? s = some f) : f.HasTime ↔ p.HasTime (f.has .fraction) := by
  have hhalf := has_read?_iff h (show Slot.halfDay ≠ .fraction by decide)
  have hhour := has_read?_iff h (show Slot.hourOfHalf ≠ .fraction by decide)
  have hminute := has_read?_iff h (show Slot.minute ≠ .fraction by decide)
  have hsecond := has_read?_iff h (show Slot.second ≠ .fraction by decide)
  constructor
  · rintro ⟨hh, ho, hm, hs⟩
    exact ⟨hhalf.mp hh, hhour.mp ho, hminute.mp hm, fun hfraction => hsecond.mp (hs hfraction)⟩
  · rintro ⟨hh, ho, hm, hs⟩
    exact ⟨hhalf.mpr hh, hhour.mpr ho, hminute.mpr hm, fun hfraction =>
      hsecond.mpr (hs hfraction)⟩

end Pattern

namespace DateForm

variable {p : Pattern} {s : String} {kind : Kind} {t u : DateTime} {v : Value}

theorem eq_of_valueAt? (ht : valueAt? t kind = some v) (hu : valueAt? u kind = some v)
    (hkind : kind = .localDateTime ∨ kind = .instant) : t = u := by
  rcases hkind with rfl | rfl
  · cases ht
    cases hu
    rfl
  · cases ht
    cases hu
    rfl

/-- What a pattern makes of a text is the date-time that the fields of the text resolve to. -/
theorem readPattern?_eq_some_iff (hkind : kind = .localDateTime ∨ kind = .instant) :
    readPattern? s kind p = some v ↔ ∃ f, p.read? s = some f ∧ f.HasDate ∧
      ∃ t, f.Resolves t ∧ valueAt? t kind = some v := by
  have hread : readPattern? s kind p = some v ↔ ∃ f, p.read? s = some f ∧
      ∃ t, f.toDateTime? = some t ∧ valueAt? t kind = some v := by
    rcases hkind with rfl | rfl
    · simp only [readPattern?, valueOf?, Option.bind_eq_some_iff]
    · simp only [readPattern?, valueOf?, Option.bind_eq_some_iff]
  rw [hread]
  constructor
  · rintro ⟨f, hf, t, ht, hv⟩
    obtain ⟨hdate, hresolves⟩ := (Fields.toDateTime?_eq_some_iff (Pattern.inRange_read? hf)).mp ht
    exact ⟨f, hf, hdate, t, hresolves, hv⟩
  · rintro ⟨f, hf, hdate, t, hresolves, hv⟩
    exact ⟨f, hf, t, (Fields.toDateTime?_eq_some_iff (Pattern.inRange_read? hf)).mpr
      ⟨hdate, hresolves⟩, hv⟩

/-! ## The time of day -/

/-- Texts that differ in the hour are read as different values if they have a time of day and their
offset can be applied to both or to neither, and as the same value if they have no time of day. -/
theorem readPattern?_differInHour (hkind : kind = .localDateTime ∨ kind = .instant)
    {s₁ s₂ : String} {f₁ f₂ : Fields} {v₁ v₂ : Value} (hf₁ : p.read? s₁ = some f₁)
    (hf₂ : p.read? s₂ = some f₂) (hdiffer : f₁.DifferInHour f₂)
    (hv₁ : readPattern? s₁ kind p = some v₁) (hv₂ : readPattern? s₂ kind p = some v₂) :
    (f₁.HasTime → (f₁.IsShifted ↔ f₂.IsShifted) → v₁ ≠ v₂) ∧ (¬f₁.HasTime → v₁ = v₂) := by
  obtain ⟨f, hf, hdate₁, t₁, hresolves₁, ht₁⟩ := (readPattern?_eq_some_iff hkind).mp hv₁
  obtain rfl := Option.some.inj (hf₁.symm.trans hf)
  obtain ⟨f, hf, hdate₂, t₂, hresolves₂, ht₂⟩ := (readPattern?_eq_some_iff hkind).mp hv₂
  obtain rfl := Option.some.inj (hf₂.symm.trans hf)
  have hrange₁ := Pattern.inRange_read? hf₁
  have hrange₂ := Pattern.inRange_read? hf₂
  have htime : f₁.HasTime ↔ f₂.HasTime := by
    rw [Pattern.hasTime_iff hf₁, Pattern.hasTime_iff hf₂, hdiffer.fraction_eq]
  constructor
  · rintro htime₁ hshifted rfl
    obtain rfl := eq_of_valueAt? ht₁ ht₂ hkind
    obtain ⟨u₁, hu₁, h₁⟩ := hresolves₁.exists_local htime₁
    obtain ⟨u₂, hu₂, h₂⟩ := hresolves₂.exists_local (htime.mp htime₁)
    have hne : u₁ ≠ u₂ := hdiffer.ne_of_saysLocal hu₁ hu₂
    -- One offset shifts both date-times alike; that it shifts one of them only is excluded.
    rcases h₁ with hshifts₁ | ⟨rfl, hstays₁⟩
    · rcases h₂ with hshifts₂ | ⟨rfl, hstays₂⟩
      · obtain ⟨o, ho, -, hearlier₁⟩ := hshifts₁
        obtain ⟨o', ho', -, hearlier₂⟩ := hshifts₂
        obtain rfl : o = o' := Option.some.inj (ho.symm.trans (hdiffer.offset_eq.trans ho'))
        exact hne (hearlier₁.unique hearlier₂)
      · exact hu₂.not_isShifted hrange₂ hdate₂ hstays₂ (hshifted.mp ⟨u₁, t₁, hu₁, hshifts₁⟩)
    · rcases h₂ with hshifts₂ | ⟨rfl, hstays₂⟩
      · exact hu₁.not_isShifted hrange₁ hdate₁ hstays₁ (hshifted.mpr ⟨u₂, t₁, hu₂, hshifts₂⟩)
      · exact hne rfl
  · intro htimeless
    obtain ⟨d₁, hd₁, rfl⟩ := hresolves₁.exists_midnight htimeless
    obtain ⟨d₂, hd₂, rfl⟩ := hresolves₂.exists_midnight fun h => htimeless (htime.mpr h)
    have hd : d₁ = d₂ := by
      have heq₁ := (Fields.toDate?_eq_some_iff hrange₁).mpr ⟨hdate₁, hd₁⟩
      have heq₂ := (Fields.toDate?_eq_some_iff hrange₂).mpr ⟨hdate₂, hd₂⟩
      rw [hdiffer.toDate?_eq, heq₂] at heq₁
      exact (Option.some.inj heq₁).symm
    rw [hd, ht₂] at ht₁
    exact (Option.some.inj ht₁).symm

/-- A pattern with a year, a month and a day reads the date that a text says. If its other fields are
enough for a time of day, it reads that too, shifted by an offset that can be applied, and keeps texts
apart that differ in the hour; else it reads the start of the date, whatever the hour. Of the patterns
of named formats with an hour, that of a date with an hour is the only one that drops it. -/
theorem readPattern?_of_date (hkind : kind = .localDateTime ∨ kind = .instant)
    (hyear : .year ∈ p.slots) (hmonth : .month ∈ p.slots) (hday : .day ∈ p.slots) :
    (∀ s v, readPattern? s kind p = some v ↔ ∃ f d t, p.read? s = some f ∧
      (f.year = some d.year ∧ f.month = some d.month ∧ f.day = some d.day ∧ f.SaysDate d) ∧
      valueAt? t kind = some v ∧
      (p.HasTime (f.has .fraction) → ∃ time, f.SaysTime time ∧
        (f.Shifts ⟨d, time⟩ t ∨ t = ⟨d, time⟩ ∧ ∀ t', ¬f.Shifts ⟨d, time⟩ t')) ∧
      (¬p.HasTime (f.has .fraction) → t = .atMidnight d)) ∧
    (∀ s₁ s₂ f₁ f₂ v₁ v₂, p.read? s₁ = some f₁ → p.read? s₂ = some f₂ → f₁.DifferInHour f₂ →
      readPattern? s₁ kind p = some v₁ → readPattern? s₂ kind p = some v₂ →
      (p.HasTime (f₁.has .fraction) → (f₁.IsShifted ↔ f₂.IsShifted) → v₁ ≠ v₂) ∧
        (¬p.HasTime (f₁.has .fraction) → v₁ = v₂)) ∧
    ∀ (format : DateFormat) source, format.pattern? = some source → Pattern.compile source = .ok p →
      .hourOfHalf ∈ p.slots → format ≠ .dateHour →
        ∀ s f, p.read? s = some f → p.HasTime (f.has .fraction) := by
  refine ⟨fun s v => ⟨?_, ?_⟩, ?_, ?_⟩
  · intro hv
    obtain ⟨f, hf, -, t, hresolves, ht⟩ := (readPattern?_eq_some_iff hkind).mp hv
    have hhas := Pattern.hasTime_iff hf
    have hgiven : ∀ {d : Date}, f.SaysDate d → f.year = some d.year ∧ f.month = some d.month ∧
        f.day = some d.day ∧ f.SaysDate d := by
      intro d hd
      have hy := (Pattern.has_read?_iff hf (show Slot.year ≠ .fraction by decide)).mpr hyear
      have hm := (Pattern.has_read?_iff hf (show Slot.month ≠ .fraction by decide)).mpr hmonth
      have hn := (Pattern.has_read?_iff hf (show Slot.day ≠ .fraction by decide)).mpr hday
      exact ⟨hd.year_eq hy, hd.month_eq hm, hd.day_eq hn, hd⟩
    by_cases htime : f.HasTime
    · obtain ⟨u, hu, hshifts⟩ := hresolves.exists_local htime
      exact ⟨f, u.date, t, hf, hgiven hu.date, ht, fun _ => ⟨u.time, hu.time, hshifts⟩,
        fun htimeless => absurd (hhas.mp htime) htimeless⟩
    · obtain ⟨d, hd, rfl⟩ := hresolves.exists_midnight htime
      exact ⟨f, d, .atMidnight d, hf, hgiven hd, ht, fun h => absurd (hhas.mpr h) htime, fun _ => rfl⟩
  · rintro ⟨f, d, t, hf, ⟨-, -, -, hd⟩, ht, htimed, htimeless⟩
    have hdate : f.HasDate := (Pattern.hasDate_iff hf).mpr ⟨.inl hyear, .inl ⟨hmonth, hday⟩⟩
    refine (readPattern?_eq_some_iff hkind).mpr ⟨f, hf, hdate, t, ?_, ht⟩
    by_cases htime : p.HasTime (f.has .fraction)
    · obtain ⟨time, htime, hshifts | ⟨rfl, hstays⟩⟩ := htimed htime
      · exact .shifted ⟨hd, htime⟩ hshifts
      · exact .unshifted ⟨hd, htime⟩ hstays
    · obtain rfl := htimeless htime
      exact .midnight hd fun h => htime ((Pattern.hasTime_iff hf).mp h)
  · intro s₁ s₂ f₁ f₂ v₁ v₂ hf₁ hf₂ hdiffer hv₁ hv₂
    rw [← Pattern.hasTime_iff hf₁]
    exact readPattern?_differInHour hkind hf₁ hf₂ hdiffer hv₁ hv₂
  · intro format source hsource hp hhour hformat s f hf
    exact Pattern.hasTime_of_read? hsource hp hyear hhour hformat hf

/-- The pattern of a date with an hour. -/
def dateHour : Pattern where
  source := "uuuu-MM-dd'T'HH"
  items := [.component .year, .literal '-', .component (.month true), .literal '-',
    .component (.day true), .literal 'T', .component (.hour true)]

/-- The pattern of a date with an hour and a minute. -/
def dateHourMinute : Pattern where
  source := "uuuu-MM-dd'T'HH:mm"
  items := dateHour.items ++ [.literal ':', .component (.minute true)]

/-- The fields of an hour of the morning of 2020-02-29. -/
def morningFields (hour : Nat) (minute : Option Nat) : Fields where
  year := some 2020
  month := some 2
  day := some 29
  afternoon := some false
  hourOfHalf := some hour
  minute := minute

/-- The date 2020-02-29. -/
def sampleDate : Date :=
  ⟨2020, 2, 29, by decide, by decide, by decide⟩

/-- A whole minute of that date. -/
def sampleDateTime (hour minute : Nat) (hhour : hour < 24) (hminute : minute < 60) : DateTime :=
  ⟨sampleDate, ⟨hour, minute, 0, 0, hhour, hminute, Time.midnight.second_range,
    Time.midnight.nanos_range⟩⟩

theorem readPattern?_of_date_dateHourMinute :
    readPattern? "2020-02-29T10:05" .localDateTime dateHourMinute =
      some (.dateTime (sampleDateTime 10 5 (by decide) (by decide))) ∧
    readPattern? "2020-02-29T11:05" .localDateTime dateHourMinute =
      some (.dateTime (sampleDateTime 11 5 (by decide) (by decide))) ∧
    Value.dateTime (sampleDateTime 10 5 (by decide) (by decide)) ≠
      .dateTime (sampleDateTime 11 5 (by decide) (by decide)) := by
  have hten : readPattern? "2020-02-29T10:05" .localDateTime dateHourMinute =
      some (.dateTime (sampleDateTime 10 5 (by decide) (by decide))) := rfl
  have heleven : readPattern? "2020-02-29T11:05" .localDateTime dateHourMinute =
      some (.dateTime (sampleDateTime 11 5 (by decide) (by decide))) := rfl
  have hten' : dateHourMinute.read? "2020-02-29T10:05" = some (morningFields 10 (some 5)) := by
    decide
  have heleven' : dateHourMinute.read? "2020-02-29T11:05" = some (morningFields 11 (some 5)) := by
    decide
  refine ⟨hten, heleven, ?_⟩
  have hshifted : ∀ hour, ¬(morningFields hour (some 5)).IsShifted := by
    rintro hour ⟨u, t, -, o, ho, -⟩
    cases ho
  exact ((readPattern?_of_date (.inl rfl) (by decide) (by decide) (by decide)).2.1 _ _ _ _ _ _ hten'
    heleven' ⟨by decide, rfl⟩ hten heleven).1 ⟨by decide, by decide, by decide, by decide⟩
    ⟨fun h => absurd h (hshifted 10), fun h => absurd h (hshifted 11)⟩

/-- Whether a pattern keeps texts apart that differ in the hour. -/
def KeepsHour (p : Pattern) (kind : Kind) : Prop :=
  ∀ s₁ s₂ f₁ f₂ v₁ v₂, p.read? s₁ = some f₁ → p.read? s₂ = some f₂ → f₁.DifferInHour f₂ →
    readPattern? s₁ kind p = some v₁ → readPattern? s₂ kind p = some v₂ → v₁ ≠ v₂

/-- A date with an hour is read as midnight, whatever the hour. -/
theorem not_keepsHour_dateHour : Pattern.compile "uuuu-MM-dd'T'HH" = .ok dateHour ∧
    readPattern? "2020-02-29T10" .localDateTime dateHour =
      some (.dateTime (sampleDateTime 0 0 (by decide) (by decide))) ∧
    ¬KeepsHour dateHour .localDateTime := by
  have hten : readPattern? "2020-02-29T10" .localDateTime dateHour =
      some (.dateTime (sampleDateTime 0 0 (by decide) (by decide))) := rfl
  have heleven : readPattern? "2020-02-29T11" .localDateTime dateHour =
      some (.dateTime (sampleDateTime 0 0 (by decide) (by decide))) := rfl
  refine ⟨rfl, hten, ?_⟩
  intro hkeeps
  exact hkeeps "2020-02-29T10" "2020-02-29T11" (morningFields 10 none) (morningFields 11 none) _ _
    (by decide) (by decide) ⟨by decide, rfl⟩ hten heleven rfl

/-! ## The offset -/

/-- An offset cannot be applied if it is a day or more, or leads out of range. -/
theorem not_shifts_iff {f : Fields} {o : Int} (ho : f.offset = some o) :
    (∀ t, ¬f.Shifts u t) ↔
      (o ≤ -Fields.offsetLimit ∨ Fields.offsetLimit ≤ o) ∨
        ∀ t : DateTime, ¬t.IsEarlier o u := by
  constructor
  · intro hstays
    by_cases hlimit : -Fields.offsetLimit < o ∧ o < Fields.offsetLimit
    · exact .inr fun t ht => hstays t ⟨o, ho, hlimit, ht⟩
    · exact .inl (by omega)
  · rintro hstays t ⟨o', ho', hlimit, ht⟩
    obtain rfl := Option.some.inj (ho.symm.trans ho')
    rcases hstays with hday | hrange
    · omega
    · exact hrange t ht

/-- A pattern with a date, an hour, a minute and an offset reads the date-time that a text says,
earlier by the offset of the text. But it leaves out an offset of a day or more and one that leads
out of range, and it reads midnight if the half of the day is missing or a fraction has no
second. -/
theorem readPattern?_of_offset (hkind : kind = .localDateTime ∨ kind = .instant)
    (hdate : p.HasDate) (hhour : .hourOfHalf ∈ p.slots) (hminute : .minute ∈ p.slots)
    (hoffset : .offset ∈ p.slots) :
    readPattern? s kind p = some v ↔ ∃ f o d t, p.read? s = some f ∧
      (f.offset = some o ∧ IsOffset o) ∧ f.SaysDate d ∧ valueAt? t kind = some v ∧
      ((∃ time, f.SaysTime time ∧
        (((-Fields.offsetLimit < o ∧ o < Fields.offsetLimit) ∧ t.IsEarlier o ⟨d, time⟩) ∨
          (t = ⟨d, time⟩ ∧ ((o ≤ -Fields.offsetLimit ∨ Fields.offsetLimit ≤ o) ∨
            ∀ t' : DateTime, ¬t'.IsEarlier o ⟨d, time⟩)))) ∨
      (¬(.halfDay ∈ p.slots ∧ (f.has .fraction = true → .second ∈ p.slots)) ∧
        t = .atMidnight d)) := by
  rw [readPattern?_eq_some_iff hkind]
  have htime : ∀ {f : Fields}, p.read? s = some f →
      (f.HasTime ↔ .halfDay ∈ p.slots ∧ (f.has .fraction = true → .second ∈ p.slots)) := by
    intro f hf
    rw [Pattern.hasTime_iff hf]
    constructor
    · intro h
      exact ⟨h.halfDay, h.second_of_fraction⟩
    · rintro ⟨hhalf, hsecond⟩
      exact ⟨hhalf, hhour, hminute, hsecond⟩
  constructor
  · rintro ⟨f, hf, -, t, hresolves, ht⟩
    obtain ⟨o, ho⟩ := Option.isSome_iff_exists.mp
      ((Pattern.has_read?_iff hf (show Slot.offset ≠ .fraction by decide)).mpr hoffset)
    have hrange : IsOffset o := (Pattern.inRange_read? hf).offset o ho
    cases hresolves with
    | @shifted u t hu hshifts =>
        obtain ⟨o', ho', hlimit, hearlier⟩ := hshifts
        obtain rfl := Option.some.inj (ho.symm.trans ho')
        exact ⟨f, o, u.date, t, hf, ⟨ho, hrange⟩, hu.date, ht,
          .inl ⟨u.time, hu.time, .inl ⟨hlimit, hearlier⟩⟩⟩
    | unshifted hu hstays =>
        exact ⟨f, o, t.date, t, hf, ⟨ho, hrange⟩, hu.date, ht,
          .inl ⟨t.time, hu.time, .inr ⟨rfl, (not_shifts_iff ho).mp hstays⟩⟩⟩
    | midnight hd htimeless =>
        exact ⟨f, o, _, _, hf, ⟨ho, hrange⟩, hd, ht,
          .inr ⟨fun h => htimeless ((htime hf).mpr h), rfl⟩⟩
  · rintro ⟨f, o, d, t, hf, ⟨ho, -⟩, hd, ht, hcases⟩
    refine ⟨f, hf, (Pattern.hasDate_iff hf).mpr hdate, t, ?_, ht⟩
    rcases hcases with ⟨time, htime, ⟨hlimit, hearlier⟩ | ⟨rfl, hstays⟩⟩ | ⟨htimeless, rfl⟩
    · exact .shifted ⟨hd, htime⟩ ⟨o, ho, hlimit, hearlier⟩
    · exact .unshifted ⟨hd, htime⟩ ((not_shifts_iff ho).mpr hstays)
    · exact .midnight hd fun h => htimeless ((htime hf).mp h)

/-- The pattern of a date-time with milliseconds and an offset, without separators. -/
def basicDateTime : Pattern where
  source := "uuuuMMdd'T'HHmmss.SSSXXX"
  items := [.component .year, .component (.month true), .component (.day true), .literal 'T',
    .component (.hour true), .component (.minute true), .component (.second true),
    .dottedFraction 3, .component (.offset ⟨true, true⟩)]

/-- The fields of 10:05 on 2020-02-29 with an offset. -/
def shiftedFields (offset : Int) : Fields :=
  { morningFields 10 (some 5) with second := some 0, nanos := some 0, offset := some offset }

theorem saysLocal_shiftedFields (offset : Int) :
    (shiftedFields offset).SaysLocal (sampleDateTime 10 5 (by decide) (by decide)) where
  date := by
    constructor
    all_goals rintro _ ⟨⟩
    all_goals rfl
  time := ⟨rfl, rfl, rfl, rfl, rfl, fun _ => rfl⟩

theorem readPattern?_of_offset_basicDateTime :
    readPattern? "20200229T100500.000+01:30" .instant basicDateTime =
      some (.instant (sampleDateTime 8 35 (by decide) (by decide))) := by
  have hlocal := saysLocal_shiftedFields 5400
  have hoffset : IsOffset 5400 := ⟨1, 30, by decide, by decide, rfl⟩
  exact (readPattern?_of_offset (.inr rfl) ⟨by decide, by decide⟩ (by decide) (by decide)
    (by decide)).mpr ⟨shiftedFields 5400, 5400, _, _, by decide, ⟨rfl, hoffset⟩, hlocal.date, rfl,
      .inl ⟨_, hlocal.time, .inl ⟨by decide, by decide, rfl⟩⟩⟩

/-- Whether a pattern honours the offset of each text that it reads. -/
def HonoursOffset (p : Pattern) (kind : Kind) : Prop :=
  ∀ s f o u v, p.read? s = some f → f.offset = some o → f.SaysLocal u →
    readPattern? s kind p = some v → ∃ t : DateTime, t.IsEarlier o u ∧ valueAt? t kind = some v

/-- An offset of 99 hours is left out. -/
theorem not_honoursOffset_basicDateTime :
    Pattern.compile "uuuuMMdd'T'HHmmss.SSSXXX" = .ok basicDateTime ∧
    readPattern? "20200229T100500.000+99:00" .instant basicDateTime =
      some (.instant (sampleDateTime 10 5 (by decide) (by decide))) ∧
    ¬HonoursOffset basicDateTime .instant := by
  have hread : readPattern? "20200229T100500.000+99:00" .instant basicDateTime =
      some (.instant (sampleDateTime 10 5 (by decide) (by decide))) := rfl
  refine ⟨rfl, hread, ?_⟩
  intro hhonours
  obtain ⟨t, hearlier, ht⟩ := hhonours "20200229T100500.000+99:00" (shiftedFields 356400) 356400
    _ _ (by decide) rfl (saysLocal_shiftedFields 356400) hread
  cases ht
  exact absurd hearlier.1 (by decide)

end DateForm

end ObjectDocument
