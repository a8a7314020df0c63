import ObjectDocument.Proofs.Calendar.Fields
import ObjectDocument.Proofs.Calendar.Slots

/-!
# What the fields of a text say

The fields of a text say a date if all fields of a date that are given agree with it, and a time of
day if they give its hour, half of the day and minute. The date-time that is made of them is the one
they say, shifted by their offset; but an offset that cannot be applied is left out, and without a
time the date-time is the start of the date.
-/

namespace ObjectDocument

open Calendar

theorem Date.ofYmd?_eq_some_iff {year : Int} {month day : Nat} {d : Date} :
    Date.ofYmd? year month day = some d ↔ d.year = year ∧ d.month = month ∧ d.day = day := by
  constructor
  · exact Date.eq_of_ofYmd?
  · rintro ⟨rfl, rfl, rfl⟩
    exact d.ofYmd?_eq

theorem Date.ofOrdinal?_eq_some_iff {year : Int} {n : Nat} {d : Date} :
    Date.ofOrdinal? year n = some d ↔ d.year = year ∧ d.ordinal = n := by
  constructor
  · exact Date.ordinal_of_ofOrdinal?
  · rintro ⟨rfl, rfl⟩
    exact d.ofOrdinal?_ordinal

/-- Whether a date-time lies a number of seconds before another, in the same nanosecond. -/
def DateTime.IsEarlier (t : DateTime) (seconds : Int) (u : DateTime) : Prop :=
  t.epochSeconds = u.epochSeconds - seconds ∧ t.time.nanos = u.time.nanos

/-- Date-times that one offset shifts to one date-time are the same. -/
theorem DateTime.IsEarlier.unique {t u u' : DateTime} {seconds : Int} (h : t.IsEarlier seconds u)
    (h' : t.IsEarlier seconds u') : u = u' := by
  have hseconds : u.epochSeconds = u'.epochSeconds := by
    have hu := h.1
    have hu' := h'.1
    omega
  have hnanos : u.time.nanos = u'.time.nanos := h.2.symm.trans h'.2
  exact Option.some.inj (u.ofEpoch?_epochSeconds.symm.trans
    (DateTime.ofEpoch?_eq_some_iff.mpr ⟨hseconds.symm, hnanos.symm⟩))

namespace Calendar

theorem permits_iff {α : Type} [DecidableEq α] {given : Option α} {value : α} :
    Fields.permits given value = true ↔ ∀ known ∈ given, known = value := by
  cases given with
  | none => simp [Fields.permits]
  | some known => simp [Fields.permits]

namespace Fields

variable {f : Fields} {d : Date} {time : Time} {t u : DateTime}

/-! ## Dates -/

/-- Whether a date agrees with every field of a date that is given. Two digits of a year that stand
alone name a year from 1970 to 2069. -/
structure SaysDate (f : Fields) (d : Date) : Prop where
  year : ∀ y ∈ f.year, y = d.year
  yearOfCentury : ∀ r ∈ f.yearOfCentury, 0 ≤ d.year ∧ d.year % 100 = r ∧
    (f.year = none → 1970 ≤ d.year ∧ d.year < 2070)
  month : ∀ m ∈ f.month, m = d.month
  day : ∀ n ∈ f.day, n = d.day
  ordinal : ∀ n ∈ f.ordinal, n = d.ordinal
  weekday : ∀ w ∈ f.weekday, w = d.weekday

namespace SaysDate

variable (h : f.SaysDate d)

include h

theorem year_eq (hyear : f.has .year = true) : f.year = some d.year := by
  obtain ⟨y, hy⟩ := Option.isSome_iff_exists.mp hyear
  rw [hy, h.year y hy]

theorem month_eq (hmonth : f.has .month = true) : f.month = some d.month := by
  obtain ⟨m, hm⟩ := Option.isSome_iff_exists.mp hmonth
  rw [hm, h.month m hm]

theorem day_eq (hday : f.has .day = true) : f.day = some d.day := by
  obtain ⟨n, hn⟩ := Option.isSome_iff_exists.mp hday
  rw [hn, h.day n hn]

end SaysDate

/-- Whether the fields have a whole date: a year, with month and day or with the day of the year. -/
structure HasDate (f : Fields) : Prop where
  year : f.has .year = true ∨ f.has .yearOfCentury = true
  day : (f.has .month = true ∧ f.has .day = true) ∨ f.has .ordinal = true

theorem resolveYear_eq_some_iff (h : f.InRange) {y : Int} :
    f.resolveYear = some y ↔ (f.has .year = true ∨ f.has .yearOfCentury = true) ∧
      (∀ z ∈ f.year, z = y) ∧ ∀ r ∈ f.yearOfCentury, 0 ≤ y ∧ y % 100 = r ∧
        (f.year = none → 1970 ≤ y ∧ y < 2070) := by
  have hcentury := h.yearOfCentury
  cases hy : f.year with
  | none =>
      cases hr : f.yearOfCentury with
      | none => simp [resolveYear, has, hy, hr]
      | some r =>
          have hlt : r < 100 := hcentury r hr
          simp only [resolveYear, has, hy, hr, Option.some.injEq, forall_eq', reduceCtorEq,
            Option.isSome_some, Option.mem_def]
          constructor
          · intro heq
            refine ⟨.inr trivial, by simp, ?_⟩
            split at heq
            · omega
            · omega
          · rintro ⟨-, -, -, hmod, hrange⟩
            have hrange := hrange trivial
            split
            · omega
            · omega
  | some z =>
      cases hr : f.yearOfCentury with
      | none => simp [resolveYear, has, hy, hr]
      | some r =>
          simp only [resolveYear, has, hy, hr, Option.mem_some_iff, forall_eq', reduceCtorEq,
            Option.isSome_some]
          split
          next hz =>
            constructor
            · intro heq
              cases heq
              exact ⟨.inl trivial, rfl, hz.1, hz.2, False.elim⟩
            · rintro ⟨-, rfl, -⟩
              rfl
          next hz =>
            constructor
            · intro heq
              cases heq
            · rintro ⟨-, rfl, hnonneg, hmod, -⟩
              exact absurd ⟨hnonneg, hmod⟩ hz

/-- A date with a month and a day is resolved from them. -/
theorem toDate?_of_month_day {m n : Nat} (hm : f.month = some m) (hn : f.day = some n) :
    f.toDate? = some d ↔ f.resolveYear = some d.year ∧ m = d.month ∧ n = d.day ∧
      permits f.weekday d.weekday = true ∧ permits f.ordinal d.ordinal = true := by
  have hdate : f.toDate? = some d ↔ ∃ y, f.resolveYear = some y ∧ ∃ e, Date.ofYmd? y m n = some e ∧
      (permits f.weekday e.weekday = true ∧ permits f.ordinal e.ordinal = true) ∧ e = d := by
    simp [toDate?, hm, hn, Option.bind_eq_some_iff]
  rw [hdate]
  constructor
  · rintro ⟨y, hy, e, he, ⟨hweekday, hordinal⟩, rfl⟩
    obtain ⟨rfl, rfl, rfl⟩ := Date.ofYmd?_eq_some_iff.mp he
    exact ⟨hy, rfl, rfl, hweekday, hordinal⟩
  · rintro ⟨hy, rfl, rfl, hweekday, hordinal⟩
    exact ⟨d.year, hy, d, d.ofYmd?_eq, ⟨hweekday, hordinal⟩, rfl⟩

/-- A date without both of them is resolved from the day of the year. -/
theorem toDate?_of_ordinal (hmd : ∀ m n, f.month = some m → f.day ≠ some n) :
    f.toDate? = some d ↔ f.resolveYear = some d.year ∧ f.ordinal = some d.ordinal ∧
      permits f.weekday d.weekday = true ∧ permits f.month d.month = true ∧
        permits f.day d.day = true := by
  have hdate : f.toDate? = some d ↔ ∃ y, f.resolveYear = some y ∧ ∃ n, f.ordinal = some n ∧
      ∃ e, Date.ofOrdinal? y n = some e ∧ ((permits f.weekday e.weekday = true ∧
        permits f.month e.month = true) ∧ permits f.day e.day = true) ∧ e = d := by
    rw [toDate?]
    cases hm : f.month with
    | none => cases hk : f.ordinal <;> simp [Option.bind_eq_some_iff]
    | some m =>
        cases hn : f.day with
        | none => cases hk : f.ordinal <;> simp [Option.bind_eq_some_iff]
        | some n => exact absurd hn (hmd m n hm)
  rw [hdate]
  constructor
  · rintro ⟨y, hy, n, hn, e, he, ⟨⟨hweekday, hmonth⟩, hday⟩, rfl⟩
    obtain ⟨rfl, rfl⟩ := Date.ofOrdinal?_eq_some_iff.mp he
    exact ⟨hy, hn, hweekday, hmonth, hday⟩
  · rintro ⟨hy, hn, hweekday, hmonth, hday⟩
    exact ⟨d.year, hy, d.ordinal, hn, d, d.ofOrdinal?_ordinal, ⟨⟨hweekday, hmonth⟩, hday⟩, rfl⟩

/-- The fields resolve to a date just if they have a whole date and all agree with it. -/
theorem toDate?_eq_some_iff (h : f.InRange) :
    f.toDate? = some d ↔ f.HasDate ∧ f.SaysDate d := by
  by_cases hmd : ∃ m n, f.month = some m ∧ f.day = some n
  · obtain ⟨m, n, hm, hn⟩ := hmd
    rw [toDate?_of_month_day hm hn, resolveYear_eq_some_iff h, permits_iff, permits_iff]
    constructor
    · rintro ⟨⟨hhas, hyear, hcentury⟩, rfl, rfl, hweekday, hordinal⟩
      exact ⟨⟨hhas, .inl ⟨by simp [has, hm], by simp [has, hn]⟩⟩,
        ⟨hyear, hcentury, by simp [hm], by simp [hn], hordinal, hweekday⟩⟩
    · rintro ⟨hhas, hagrees⟩
      exact ⟨⟨hhas.year, hagrees.year, hagrees.yearOfCentury⟩, hagrees.month m hm, hagrees.day n hn,
        hagrees.weekday, hagrees.ordinal⟩
  · have hnone : ∀ m n, f.month = some m → f.day ≠ some n :=
      fun m n hm hn => hmd ⟨m, n, hm, hn⟩
    rw [toDate?_of_ordinal hnone, resolveYear_eq_some_iff h, permits_iff, permits_iff, permits_iff]
    constructor
    · rintro ⟨⟨hhas, hyear, hcentury⟩, hordinal, hweekday, hmonth, hday⟩
      exact ⟨⟨hhas, .inr (by simp [has, hordinal])⟩,
        ⟨hyear, hcentury, hmonth, hday, by simp [hordinal], hweekday⟩⟩
    · rintro ⟨hhas, hagrees⟩
      have hordinal : f.ordinal = some d.ordinal := by
        rcases hhas.day with ⟨hm, hn⟩ | hk
        · obtain ⟨m, hm⟩ := Option.isSome_iff_exists.mp hm
          obtain ⟨n, hn⟩ := Option.isSome_iff_exists.mp hn
          exact absurd hn (hnone m n hm)
        · obtain ⟨n, hn⟩ := Option.isSome_iff_exists.mp hk
          rw [hn, hagrees.ordinal n hn]
      exact ⟨⟨hhas.year, hagrees.year, hagrees.yearOfCentury⟩, hordinal, hagrees.weekday, hagrees.month,
        hagrees.day⟩

/-! ## Times -/

/-- Whether the fields say a time of day. A second that is not given is zero, and so is a fraction
that is not given. -/
structure SaysTime (f : Fields) (t : Time) : Prop where
  halfDay : f.afternoon = some (decide (12 ≤ t.hour))
  hourOfHalf : f.hourOfHalf = some (t.hour % 12)
  minute : f.minute = some t.minute
  second : f.second.getD 0 = Pattern.displayedSecond t
  nanos : f.nanos.getD 0 = t.nanos % nanosPerSecond
  second_of_fraction : f.has .fraction = true → f.has .second = true

/-- Whether the fields have a time of day: an hour with its half of the day, a minute, and a second
if there is a fraction. -/
structure HasTime (f : Fields) : Prop where
  halfDay : f.has .halfDay = true
  hourOfHalf : f.has .hourOfHalf = true
  minute : f.has .minute = true
  second_of_fraction : f.has .fraction = true → f.has .second = true

theorem toTime?_of_saysTime (h : f.SaysTime time) : f.toTime? = some time := by
  have hhour := time.hour_range
  have hclock : (if 12 ≤ time.hour then time.hour % 12 + 12 else time.hour % 12) = time.hour := by
    split
    · omega
    · omega
  cases hsecond : f.second with
  | none =>
      -- Without a second there is no fraction either, and both are zero.
      have hfraction : f.nanos = none := by
        cases hnanos : f.nanos with
        | none => rfl
        | some n =>
            have hhas := h.second_of_fraction (by simp [has, hnanos])
            simp [has, hsecond] at hhas
      have hshown := h.second
      have hnanos := h.nanos
      have hrange := time.nanos_range
      rw [hsecond, Option.getD_none, Pattern.displayedSecond] at hshown
      rw [hfraction, Option.getD_none] at hnanos
      have hzero : time.second = 0 ∧ time.nanos = 0 := by
        rw [nanosPerSecond] at *
        omega
      have heq := time.of?_eq
      rw [hzero.1, hzero.2] at heq
      simp [toTime?, h.halfDay, h.hourOfHalf, h.minute, hsecond, hfraction, hclock, heq]
  | some second =>
      have hshown := h.second
      rw [hsecond, Option.getD_some] at hshown
      simp [toTime?, h.halfDay, h.hourOfHalf, h.minute, hsecond, h.nanos, hclock, hshown,
        of?_displayedSecond]

/-- A time is resolved from its clock; its second and nanoseconds together show the second and the
fraction of the fields. -/
theorem exists_clock_of_toTime? (h : f.InRange) (htime : f.toTime? = some time) :
    ∃ afternoon half minute second nanos,
      (f.afternoon = some afternoon ∧ f.hourOfHalf = some half ∧ f.minute = some minute) ∧
      Time.of? (if afternoon then half + 12 else half) minute second nanos = some time ∧
      (f.second.getD 0 = second + nanos / nanosPerSecond ∧
        f.nanos.getD 0 = nanos % nanosPerSecond) ∧
      (f.has .fraction = true → f.has .second = true) := by
  obtain ⟨afternoon, hafternoon, half, hhalf, minute, hminute, hclock⟩ := by
    simpa only [toTime?, Option.bind_eq_bind, Option.bind_eq_some_iff] using htime
  refine ⟨afternoon, half, minute, ?_⟩
  cases hsecond : f.second with
  | none =>
      cases hnanos : f.nanos with
      | none =>
          rw [hsecond, hnanos] at hclock
          exact ⟨0, 0, ⟨hafternoon, hhalf, hminute⟩, hclock, ⟨rfl, rfl⟩, by simp [has, hnanos]⟩
      | some n =>
          rw [hsecond, hnanos] at hclock
          cases hclock
  | some second =>
      have hnanos : f.nanos.getD 0 < nanosPerSecond := by
        cases hn : f.nanos with
        | none => decide
        | some n => exact h.nanos n hn
      rw [hsecond] at hclock
      simp only at hclock
      -- A second 60 is a leap second.
      split at hclock
      next hleap =>
        refine ⟨59, nanosPerSecond + f.nanos.getD 0, ⟨hafternoon, hhalf, hminute⟩, hclock, ⟨?_, ?_⟩,
          by simp [has, hsecond]⟩
        · rw [Option.getD_some, Nat.add_div_left _ (by decide), Nat.div_eq_of_lt hnanos, hleap]
        · rw [Nat.add_mod_left, Nat.mod_eq_of_lt hnanos]
      next hleap =>
        refine ⟨second, f.nanos.getD 0, ⟨hafternoon, hhalf, hminute⟩, hclock, ⟨?_, ?_⟩,
          by simp [has, hsecond]⟩
        · rw [Option.getD_some, Nat.div_eq_of_lt hnanos, Nat.add_zero]
        · rw [Nat.mod_eq_of_lt hnanos]

/-- A time is resolved to the time that the fields say. -/
theorem saysTime_of_toTime? (h : f.InRange) (htime : f.toTime? = some time) : f.SaysTime time := by
  obtain ⟨afternoon, half, minute, second, nanos, ⟨hafternoon, hhalf, hminute⟩, hclock,
    ⟨hsecond, hnanos⟩, hfraction⟩ := exists_clock_of_toTime? h htime
  have hlt : half < 12 := h.hourOfHalf half hhalf
  obtain ⟨hhour, rfl, rfl, rfl⟩ := Time.eq_of_of? hclock
  have hhalfDay : afternoon = decide (12 ≤ time.hour) ∧ half = time.hour % 12 := by
    rw [hhour]
    cases afternoon with
    | true => exact ⟨by simp, by simp; omega⟩
    | false => exact ⟨by simp; omega, by simp; omega⟩
  exact ⟨hhalfDay.1 ▸ hafternoon, hhalfDay.2 ▸ hhalf, hminute, hsecond, hnanos, hfraction⟩

theorem toTime?_eq_some_iff (h : f.InRange) : f.toTime? = some time ↔ f.SaysTime time :=
  ⟨saysTime_of_toTime? h, toTime?_of_saysTime⟩

theorem SaysTime.hasTime (h : f.SaysTime time) : f.HasTime where
  halfDay := by rw [has, h.halfDay, Option.isSome_some]
  hourOfHalf := by rw [has, h.hourOfHalf, Option.isSome_some]
  minute := by rw [has, h.minute, Option.isSome_some]
  second_of_fraction := h.second_of_fraction

/-- The fields of a time of day always say one. -/
theorem HasTime.exists_saysTime (h : f.HasTime) (hrange : f.InRange) :
    ∃ time, f.SaysTime time := by
  obtain ⟨afternoon, hafternoon⟩ := Option.isSome_iff_exists.mp h.halfDay
  obtain ⟨half, hhalf⟩ := Option.isSome_iff_exists.mp h.hourOfHalf
  obtain ⟨minute, hminute⟩ := Option.isSome_iff_exists.mp h.minute
  have hlt : half < 12 := hrange.hourOfHalf half hhalf
  have hhour : ∃ hour, hour < 24 ∧ decide (12 ≤ hour) = afternoon ∧ hour % 12 = half := by
    cases afternoon with
    | true => exact ⟨half + 12, by omega, by simp, by omega⟩
    | false => exact ⟨half, by omega, by simp; omega, by omega⟩
  obtain ⟨hour, hhour, hnoon, hmod⟩ := hhour
  have hsecond : f.second.getD 0 ≤ 60 := by
    cases hs : f.second with
    | none => decide
    | some s => exact hrange.second s hs
  have hnanos : f.nanos.getD 0 < nanosPerSecond := by
    cases hn : f.nanos with
    | none => decide
    | some n => exact hrange.nanos n hn
  have hminute60 := hrange.minute minute hminute
  by_cases hleap : f.second.getD 0 = 60
  · refine ⟨⟨hour, minute, 59, nanosPerSecond + f.nanos.getD 0, hhour, hminute60, by decide,
      .inr ⟨rfl, by omega⟩⟩, ?_, ?_, hminute, ?_, ?_, h.second_of_fraction⟩
    · rw [hafternoon, hnoon]
    · rw [hhalf, hmod]
    · rw [Pattern.displayedSecond, hleap, Nat.add_div_left _ (by decide), Nat.div_eq_of_lt hnanos]
    · rw [Nat.add_mod_left, Nat.mod_eq_of_lt hnanos]
  · refine ⟨⟨hour, minute, f.second.getD 0, f.nanos.getD 0, hhour, hminute60, by omega,
      .inl hnanos⟩, ?_, ?_, hminute, ?_, ?_, h.second_of_fraction⟩
    · rw [hafternoon, hnoon]
    · rw [hhalf, hmod]
    · rw [Pattern.displayedSecond, Nat.div_eq_of_lt hnanos, Nat.add_zero]
    · rw [Nat.mod_eq_of_lt hnanos]

/-! ## Date-times -/

/-- Whether the fields say a date and a time of day. -/
structure SaysLocal (f : Fields) (u : DateTime) : Prop where
  date : f.SaysDate u.date
  time : f.SaysTime u.time

/-- Whether the fields have an offset that can be applied to a local date-time, and it gives `t`. -/
def Shifts (f : Fields) (u t : DateTime) : Prop :=
  ∃ o ∈ f.offset, (-offsetLimit < o ∧ o < offsetLimit) ∧ t.IsEarlier o u

/-- The date-time that is made of fields. -/
inductive Resolves (f : Fields) : DateTime → Prop where
  | shifted {u t : DateTime} (agrees : f.SaysLocal u) (shifts : f.Shifts u t) : f.Resolves t
  /-- There is no offset, or none that can be applied. -/
  | unshifted {u : DateTime} (agrees : f.SaysLocal u) (stays : ∀ t, ¬f.Shifts u t) : f.Resolves u
  | midnight {d : Date} (date : f.SaysDate d) (timeless : ¬f.HasTime) :
    f.Resolves (.atMidnight d)

theorem toLocal?_eq_some_iff (h : f.InRange) :
    f.toLocal? = some u ↔ f.HasDate ∧ f.SaysLocal u := by
  have hlocal : f.toLocal? = some u ↔ f.toDate? = some u.date ∧ f.toTime? = some u.time := by
    obtain ⟨date, time⟩ := u
    simp [toLocal?, Option.bind_eq_some_iff]
  rw [hlocal, toDate?_eq_some_iff h, toTime?_eq_some_iff h]
  constructor
  · rintro ⟨⟨hhas, hdate⟩, htime⟩
    exact ⟨hhas, hdate, htime⟩
  · rintro ⟨hhas, hdate, htime⟩
    exact ⟨⟨hhas, hdate⟩, htime⟩

theorem toUtc?_eq_some_iff (h : f.InRange) :
    f.toUtc? = some t ↔ f.HasDate ∧ ∃ u, f.SaysLocal u ∧ f.Shifts u t := by
  have hutc : f.toUtc? = some t ↔ ∃ o, f.offset = some o ∧ ∃ u, f.toLocal? = some u ∧
      (-offsetLimit < o ∧ o < offsetLimit) ∧ u.minusSeconds? o = some t := by
    simp only [toUtc?, Option.bind_eq_bind, Option.bind_eq_some_iff, Option.ite_none_right_eq_some]
  rw [hutc]
  constructor
  · rintro ⟨o, ho, u, hu, hlimit, ht⟩
    obtain ⟨hhas, hlocal⟩ := (toLocal?_eq_some_iff h).mp hu
    exact ⟨hhas, u, hlocal, o, ho, hlimit, DateTime.minusSeconds?_eq_some_iff.mp ht⟩
  · rintro ⟨hhas, u, hlocal, o, ho, hlimit, ht⟩
    exact ⟨o, ho, u, (toLocal?_eq_some_iff h).mpr ⟨hhas, hlocal⟩, hlimit,
      DateTime.minusSeconds?_eq_some_iff.mpr ht⟩

theorem SaysLocal.unique {u' : DateTime} (h : f.InRange) (hhas : f.HasDate) (hu : f.SaysLocal u)
    (hu' : f.SaysLocal u') : u = u' :=
  Option.some.inj (((toLocal?_eq_some_iff h).mpr ⟨hhas, hu⟩).symm.trans
    ((toLocal?_eq_some_iff h).mpr ⟨hhas, hu'⟩))

theorem toUtc?_eq_none (h : f.InRange) (hstays : ∀ u t, f.SaysLocal u → ¬f.Shifts u t) :
    f.toUtc? = none := by
  refine Option.eq_none_iff_forall_ne_some.mpr fun t ht => ?_
  obtain ⟨-, u, hu, hshifts⟩ := (toUtc?_eq_some_iff h).mp ht
  exact hstays u t hu hshifts

theorem toLocal?_eq_none (h : f.InRange) (htimeless : ¬f.HasTime) : f.toLocal? = none := by
  refine Option.eq_none_iff_forall_ne_some.mpr fun u hu => ?_
  exact htimeless ((toLocal?_eq_some_iff h).mp hu).2.time.hasTime

theorem resolves_of_toDateTime? (h : f.InRange) (ht : f.toDateTime? = some t) :
    f.HasDate ∧ f.Resolves t := by
  rw [toDateTime?] at ht
  cases hshifted : f.toUtc? with
  | some t' =>
      rw [hshifted] at ht
      cases ht
      obtain ⟨hhas, u, hu, hshifts⟩ := (toUtc?_eq_some_iff h).mp hshifted
      exact ⟨hhas, .shifted hu hshifts⟩
  | none =>
      rw [hshifted, toLocalOrMidnight?] at ht
      cases hu : f.toLocal? with
      | some u =>
          rw [hu] at ht
          cases ht
          obtain ⟨hhas, hagrees⟩ := (toLocal?_eq_some_iff h).mp hu
          refine ⟨hhas, .unshifted hagrees fun t' hshifts => ?_⟩
          rw [(toUtc?_eq_some_iff h).mpr ⟨hhas, t, hagrees, hshifts⟩] at hshifted
          cases hshifted
      | none =>
          rw [hu] at ht
          obtain ⟨d, hd, rfl⟩ := Option.map_eq_some_iff.mp ht
          obtain ⟨hhas, hagrees⟩ := (toDate?_eq_some_iff h).mp hd
          refine ⟨hhas, .midnight hagrees fun htime => ?_⟩
          obtain ⟨time, htime⟩ := htime.exists_saysTime h
          have hlocal : f.SaysLocal ⟨d, time⟩ := ⟨hagrees, htime⟩
          rw [(toLocal?_eq_some_iff h).mpr ⟨hhas, hlocal⟩] at hu
          cases hu

theorem Resolves.toDateTime?_eq (hresolves : f.Resolves t) (h : f.InRange) (hhas : f.HasDate) :
    f.toDateTime? = some t := by
  rw [toDateTime?]
  cases hresolves with
  | shifted hu hshifts => rw [(toUtc?_eq_some_iff h).mpr ⟨hhas, _, hu, hshifts⟩]
  | unshifted hu hstays =>
      have hnone : f.toUtc? = none :=
        toUtc?_eq_none h fun u' t' hu' => hu.unique h hhas hu' ▸ hstays t'
      rw [hnone, toLocalOrMidnight?, (toLocal?_eq_some_iff h).mpr ⟨hhas, hu⟩]
  | midnight hd htimeless =>
      have hnone : f.toUtc? = none :=
        toUtc?_eq_none h fun u' t' hu' => absurd hu'.time.hasTime htimeless
      rw [hnone, toLocalOrMidnight?, toLocal?_eq_none h htimeless,
        (toDate?_eq_some_iff h).mpr ⟨hhas, hd⟩]
      rfl

/-- The date-time of fields is the one that a whole date resolves to. -/
theorem toDateTime?_eq_some_iff (h : f.InRange) :
    f.toDateTime? = some t ↔ f.HasDate ∧ f.Resolves t := by
  constructor
  · exact resolves_of_toDateTime? h
  · rintro ⟨hhas, hresolves⟩
    exact hresolves.toDateTime?_eq h hhas

/-- Fields of a time of day resolve to it, with or without their offset. -/
theorem Resolves.exists_local (h : f.Resolves t) (htime : f.HasTime) :
    ∃ u, f.SaysLocal u ∧ (f.Shifts u t ∨ t = u ∧ ∀ t', ¬f.Shifts u t') := by
  cases h with
  | shifted hu hshifts => exact ⟨_, hu, .inl hshifts⟩
  | unshifted hu hstays => exact ⟨_, hu, .inr ⟨rfl, hstays⟩⟩
  | midnight hd htimeless => exact absurd htime htimeless

/-- Fields without a time of day resolve to a midnight. -/
theorem Resolves.exists_midnight (h : f.Resolves t) (htimeless : ¬f.HasTime) :
    ∃ d, f.SaysDate d ∧ t = .atMidnight d := by
  cases h with
  | shifted hu hshifts => exact absurd hu.time.hasTime htimeless
  | unshifted hu hstays => exact absurd hu.time.hasTime htimeless
  | midnight hd => exact ⟨_, hd, rfl⟩

/-- An offset of no seconds leaves the date that the fields name. -/
theorem Resolves.saysDate (h : f.Resolves t) (hoffset : ∀ o ∈ f.offset, o = 0) :
    f.SaysDate t.date := by
  cases h with
  | shifted hu hshifts =>
      obtain ⟨o, ho, -, hearlier⟩ := hshifts
      obtain rfl := hoffset o ho
      have hself : t.IsEarlier 0 t := ⟨(Int.sub_zero _).symm, rfl⟩
      rw [hself.unique hearlier]
      exact hu.date
  | unshifted hu hstays => exact hu.date
  | midnight hd htimeless => exact hd

/-- Fields with a date resolve to some date-time. -/
theorem exists_toDateTime? (hd : f.toDate? = some d) : ∃ t, f.toDateTime? = some t := by
  rw [toDateTime?, toLocalOrMidnight?, hd]
  split
  · exact ⟨_, rfl⟩
  · split
    · exact ⟨_, rfl⟩
    · exact ⟨.atMidnight d, rfl⟩

end Fields

end Calendar

end ObjectDocument
