import ObjectDocument.Proofs.Calendar.DayNumber

/-!
# The range of the calendar

The dates have no gaps: every day number from that of the first date to that of the last belongs to a
date, and so does every number of nanoseconds since 1970 to a date-time.
-/

namespace ObjectDocument

open Calendar

/-! ## Days -/

theorem Calendar.daysBeforeYear_mono {y z : Int} (h : y ≤ z) :
    daysBeforeYear y ≤ daysBeforeYear z := by
  simp only [daysBeforeYear]
  omega

namespace Date

/-- The first date of the first year. -/
def first : Date where
  year := minYear
  month := 1
  day := 1
  year_range := by decide
  month_range := epoch.month_range
  day_range := by decide

theorem december_range : 1 ≤ 12 ∧ 12 ≤ 12 := by
  decide

/-- The last date of the last year. -/
def last : Date where
  year := maxYear
  month := 12
  day := 31
  year_range := by decide
  month_range := december_range
  day_range := by decide

/-- The year of a day ends after the day. -/
theorem lt_daysBeforeYear_yearOfDay (n : Int) : n < daysBeforeYear (yearOfDay n + 1) := by
  rw [yearOfDay]
  split
  next hbefore => simpa using hbefore
  next hbefore =>
    split
    next hafter =>
      -- A cycle of 400 years has 146097 days, so the year after the guess is late enough.
      simp only [daysBeforeYear] at hafter ⊢
      omega
    next hafter => exact Int.not_le.mp hafter

/-- A day of a year lies in one of its months. -/
theorem exists_place {ns : List Nat} {offset : Nat} (h : offset < totalDays ns) :
    ∃ k n j, ns[k]? = some n ∧ j < n ∧ offset = totalDays (ns.take k) + j := by
  induction ns generalizing offset with
  | nil => cases h
  | cons n ns ih =>
      rw [totalDays] at h
      by_cases hfirst : offset < n
      · exact ⟨0, n, offset, rfl, hfirst, (Nat.zero_add offset).symm⟩
      · obtain ⟨k, m, j, hk, hj, hoffset⟩ := @ih (offset - n) (by omega)
        refine ⟨k + 1, m, j, hk, hj, ?_⟩
        rw [List.take_succ_cons, totalDays]
        omega

theorem exists_ordinal (year : Int) (hyear : minYear ≤ year ∧ year ≤ maxYear) {n : Nat}
    (hn : n < daysInYear year) : ∃ d : Date, d.year = year ∧ d.ordinal = n + 1 := by
  rw [← totalDays_monthLengths] at hn
  obtain ⟨k, length, j, hk, hj, hn⟩ := exists_place hn
  have hmonth : k < 12 := (List.getElem?_eq_some_iff.mp hk).1
  have hday : j + 1 ≤ daysInMonth year (k + 1) := by
    rw [daysInMonth, if_neg (Nat.succ_ne_zero k), Nat.add_sub_cancel, hk, Option.getD_some]
    exact hj
  refine ⟨⟨year, k + 1, j + 1, hyear, ⟨by omega, by omega⟩, ⟨by omega, hday⟩⟩, rfl, ?_⟩
  simp only [ordinal, daysBeforeMonth, Nat.add_sub_cancel, hn, Nat.add_assoc]

/-- The days with a date are those from the first date to the last. -/
theorem exists_dayNumber_iff {n : Int} :
    (∃ d : Date, d.dayNumber = n) ↔ first.dayNumber ≤ n ∧ n ≤ last.dayNumber := by
  have hfirst : first.dayNumber = daysBeforeYear minYear - epochDay := by decide
  have hlast : last.dayNumber = daysBeforeYear (maxYear + 1) - 1 - epochDay := by decide
  rw [hfirst, hlast]
  constructor
  · rintro ⟨d, rfl⟩
    have hstart := daysBeforeYear_mono d.year_range.1
    have hend := daysBeforeYear_mono (Int.add_le_add_right d.year_range.2 1)
    have hsucc := daysBeforeYear_succ d.year
    have hordinal := d.ordinal_sub_one_lt
    rw [dayNumber]
    omega
  · rintro ⟨hlow, hhigh⟩
    have hle := daysBeforeYear_yearOfDay_le (n + epochDay)
    have hlt := lt_daysBeforeYear_yearOfDay (n + epochDay)
    have hsucc := daysBeforeYear_succ (yearOfDay (n + epochDay))
    have hmin : minYear < yearOfDay (n + epochDay) + 1 := lt_of_daysBeforeYear_lt (by omega)
    have hmax : yearOfDay (n + epochDay) < maxYear + 1 := lt_of_daysBeforeYear_lt (by omega)
    obtain ⟨d, hyear, hordinal⟩ := exists_ordinal (yearOfDay (n + epochDay))
      ⟨by omega, by omega⟩
      (n := (n + epochDay - daysBeforeYear (yearOfDay (n + epochDay))).toNat) (by omega)
    refine ⟨d, ?_⟩
    rw [dayNumber, hyear, hordinal]
    omega

end Date

/-! ## Seconds and nanoseconds -/

/-- The time of day of a second, and the nanoseconds in it. Only the last second of a minute has
room for a leap second. -/
theorem Time.exists_secondOfDay {second nanos : Nat} (hsecond : second < 86400)
    (hnanos : nanos < nanosPerSecond ∨ (second % 60 = 59 ∧ nanos < 2 * nanosPerSecond)) :
    ∃ t : Time, t.secondOfDay = second ∧ t.nanos = nanos := by
  refine ⟨⟨second / 3600, second / 60 % 60, second % 60, nanos, by omega, by omega, by omega,
    hnanos⟩, ?_, rfl⟩
  simp only [secondOfDay]
  omega

/-- The last nanosecond of a day. -/
def Time.last : Time :=
  ⟨23, 59, 59, 999999999, by decide, by decide, by decide, .inl (by decide)⟩

theorem Time.isLeapSecond_eq_false_iff {t : Time} :
    t.isLeapSecond = false ↔ t.nanos < nanosPerSecond := by
  rw [isLeapSecond, decide_eq_false_iff_not, Nat.not_le]

namespace DateTime

/-- The start of the first date. -/
def first : DateTime :=
  .atMidnight .first

/-- The last nanosecond of the last date. -/
def last : DateTime :=
  ⟨.last, .last⟩

/-- The nanoseconds since 1970-01-01, midnight. A leap second counts on into the second after it. -/
def epochNanos (t : DateTime) : Int :=
  t.epochSeconds * nanosPerSecond + t.time.nanos

/-- The seconds with a date-time are those from the first date to the last. -/
theorem exists_epochSeconds_iff {seconds : Int} {nanos : Nat} :
    (∃ t : DateTime, t.epochSeconds = seconds ∧ t.time.nanos = nanos) ↔
      (first.epochSeconds ≤ seconds ∧ seconds ≤ last.epochSeconds) ∧
        (nanos < nanosPerSecond ∨ (seconds % 60 = 59 ∧ nanos < 2 * nanosPerSecond)) := by
  have hfirst : first.epochSeconds = Date.first.dayNumber * secondsPerDay := by decide
  have hlast : last.epochSeconds = Date.last.dayNumber * secondsPerDay + 86399 := by decide
  rw [hfirst, hlast, secondsPerDay]
  constructor
  · rintro ⟨t, rfl, rfl⟩
    have hday := Date.exists_dayNumber_iff.mp ⟨t.date, rfl⟩
    have hsecond := t.time.secondOfDay_lt
    have hleap := t.time.nanos_range
    rw [epochSeconds, secondsPerDay]
    refine ⟨by omega, hleap.imp id fun h => ⟨?_, h.2⟩⟩
    rw [Time.secondOfDay, h.1]
    omega
  · rintro ⟨hrange, hnanos⟩
    obtain ⟨d, hd⟩ := Date.exists_dayNumber_iff.mpr
      (show _ ≤ seconds / 86400 ∧ seconds / 86400 ≤ _ from ⟨by omega, by omega⟩)
    have hlt : (seconds % 86400).toNat < 86400 := by omega
    obtain ⟨time, hsecond, rfl⟩ := Time.exists_secondOfDay hlt
      (hnanos.imp id fun h => ⟨by omega, h.2⟩)
    refine ⟨⟨d, time⟩, ?_, rfl⟩
    rw [epochSeconds, secondsPerDay, hd, hsecond]
    omega

variable {t u : DateTime}

/-- Date-times outside of leap seconds are told apart by their nanoseconds since 1970. -/
theorem eq_of_epochNanos (ht : t.time.isLeapSecond = false) (hu : u.time.isLeapSecond = false)
    (h : t.epochNanos = u.epochNanos) : t = u := by
  rw [Time.isLeapSecond_eq_false_iff] at ht hu
  simp only [epochNanos, nanosPerSecond] at h ht hu
  have hsame : ofEpoch? t.epochSeconds t.time.nanos = ofEpoch? u.epochSeconds u.time.nanos := by
    congr 1
    · omega
    · omega
  rw [ofEpoch?_epochSeconds, ofEpoch?_epochSeconds] at hsame
  exact Option.some.inj hsame

/-- The nanoseconds with a date-time are those from the first to the last. -/
theorem exists_epochNanos_iff {n : Int} :
    (∃ t : DateTime, t.time.isLeapSecond = false ∧ t.epochNanos = n) ↔
      first.epochNanos ≤ n ∧ n ≤ last.epochNanos := by
  have hfirst : first.epochNanos = first.epochSeconds * 1000000000 := by decide
  have hlast : last.epochNanos = last.epochSeconds * 1000000000 + 999999999 := by decide
  rw [hfirst, hlast]
  simp only [Time.isLeapSecond_eq_false_iff]
  constructor
  · rintro ⟨t, hnanos, rfl⟩
    have hrange := (exists_epochSeconds_iff.mp ⟨t, rfl, rfl⟩).1
    simp only [epochNanos, nanosPerSecond] at hnanos ⊢
    omega
  · rintro ⟨hlow, hhigh⟩
    have hnanos : (n % 1000000000).toNat < nanosPerSecond := by
      rw [nanosPerSecond]
      omega
    obtain ⟨t, hseconds, hrest⟩ := exists_epochSeconds_iff.mpr
      (show (_ ≤ n / 1000000000 ∧ n / 1000000000 ≤ _) ∧ _ from
        ⟨⟨by omega, by omega⟩, .inl hnanos⟩)
    refine ⟨t, by rwa [hrest], ?_⟩
    rw [epochNanos, hseconds, hrest, nanosPerSecond]
    omega

end DateTime

end ObjectDocument
