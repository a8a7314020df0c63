import ObjectDocument.Calendar.DateTime

/-!
# Dates and their day numbers

The day number of a date determines the date, and the seconds since 1970 together with the
nanoseconds determine the date-time, leap seconds included.
-/

namespace ObjectDocument

open Calendar

/-! ## Years -/

theorem Calendar.daysBeforeYear_succ (y : Int) :
    daysBeforeYear (y + 1) = daysBeforeYear y + daysInYear y := by
  by_cases hleap : isLeapYear y = true
  · simp only [daysInYear, hleap, if_true, daysBeforeYear]
    simp only [isLeapYear, decide_eq_true_eq] at hleap
    omega
  · simp only [daysInYear, hleap, daysBeforeYear]
    simp only [isLeapYear, decide_eq_true_eq] at hleap
    simp only [Bool.false_eq_true, if_false]
    omega

/-- Years are in the order of their first days. -/
theorem Calendar.lt_of_daysBeforeYear_lt {y z : Int} (h : daysBeforeYear y < daysBeforeYear z) :
    y < z := by
  simp only [daysBeforeYear] at h
  omega

theorem Calendar.totalDays_monthLengths (y : Int) :
    totalDays (monthLengths (isLeapYear y)) = daysInYear y := by
  rw [daysInYear]
  cases isLeapYear y with
  | false => rfl
  | true => rfl

namespace Date

/-- A day between the first of a year and the first of the next lies in that year. -/
theorem yearOfDay_eq {n y : Int} (hlow : daysBeforeYear y ≤ n)
    (hhigh : n < daysBeforeYear (y + 1)) : yearOfDay n = y := by
  -- A cycle of 400 years has 146097 days, so the guess is at most one year off.
  have hguess : y - 1 ≤ n * 400 / 146097 + 1 ∧ n * 400 / 146097 + 1 ≤ y + 1 := by
    simp only [daysBeforeYear] at hlow hhigh
    omega
  rw [yearOfDay]
  generalize n * 400 / 146097 + 1 = guess at hguess
  split
  next hbefore =>
    -- The guess is too late.
    have hlate := lt_of_daysBeforeYear_lt (Int.lt_of_le_of_lt hlow hbefore)
    omega
  next hbefore =>
    split
    next hafter =>
      -- The guess is too early.
      have hearly := lt_of_daysBeforeYear_lt (Int.lt_of_le_of_lt hafter hhigh)
      omega
    next hafter =>
      have hle := lt_of_daysBeforeYear_lt (Int.lt_of_le_of_lt (Int.not_lt.mp hbefore) hhigh)
      have hge := lt_of_daysBeforeYear_lt (Int.lt_of_le_of_lt hlow (Int.not_le.mp hafter))
      omega

/-! ## Days of a year -/

theorem locate_eq {ns : List Nat} {k n j : Nat} (hk : ns[k]? = some n) (hj : j < n)
    (month : Nat) : locate ns month (totalDays (ns.take k) + j) = (month + k, j + 1) := by
  induction ns generalizing k month with
  | nil => simp at hk
  | cons m ns ih =>
      cases k with
      | zero =>
          obtain rfl : m = n := by simpa using hk
          simp [locate, totalDays, hj]
      | succ k =>
          rw [List.take_succ_cons, totalDays, locate, if_neg (by omega),
            show m + totalDays (ns.take k) + j - m = totalDays (ns.take k) + j by omega,
            ih (by simpa using hk)]
          simp only [Prod.mk.injEq, and_true]
          omega

theorem totalDays_take_add_lt {ns : List Nat} {k n j : Nat} (hk : ns[k]? = some n) (hj : j < n) :
    totalDays (ns.take k) + j < totalDays ns := by
  induction ns generalizing k with
  | nil => simp at hk
  | cons m ns ih =>
      cases k with
      | zero =>
          obtain rfl : m = n := by simpa using hk
          simp only [List.take_zero, totalDays]
          omega
      | succ k =>
          have hlt := ih (k := k) (by simpa using hk)
          rw [List.take_succ_cons, totalDays, totalDays]
          omega

variable (d : Date)

/-- The month of a date has a length, and the day lies within it. -/
theorem exists_monthLength :
    ∃ n, (monthLengths (isLeapYear d.year))[d.month - 1]? = some n ∧ d.day ≤ n := by
  have hday := d.day_range
  rw [daysInMonth, if_neg (by have := d.month_range; omega)] at hday
  cases hlength : (monthLengths (isLeapYear d.year))[d.month - 1]? with
  | none => rw [hlength, Option.getD_none] at hday; omega
  | some n => exact ⟨n, rfl, by simpa [hlength] using hday.2⟩

theorem day_le : d.day ≤ 31 := by
  obtain ⟨n, hlength, hday⟩ := d.exists_monthLength
  have hbound : ∀ n ∈ monthLengths (isLeapYear d.year), n ≤ 31 := by
    cases isLeapYear d.year with
    | false => decide
    | true => decide
  exact Nat.le_trans hday (hbound n (List.mem_of_getElem? hlength))

theorem ordinal_sub_one : d.ordinal - 1 =
    totalDays ((monthLengths (isLeapYear d.year)).take (d.month - 1)) + (d.day - 1) := by
  have hday := d.day_range
  rw [ordinal, daysBeforeMonth]
  omega

theorem ordinal_pos : 1 ≤ d.ordinal := by
  have hday := d.day_range
  rw [ordinal]
  omega

theorem ordinal_sub_one_lt : d.ordinal - 1 < daysInYear d.year := by
  obtain ⟨n, hlength, hday⟩ := d.exists_monthLength
  have hpos := d.day_range
  rw [ordinal_sub_one, ← totalDays_monthLengths]
  exact totalDays_take_add_lt hlength (by omega)

theorem ofYmd?_eq : ofYmd? d.year d.month d.day = some d := by
  rw [ofYmd?, dif_pos ⟨d.year_range, d.month_range, d.day_range⟩]

/-- The year and the day of it determine the date. -/
theorem ofOrdinal?_ordinal : ofOrdinal? d.year d.ordinal = some d := by
  obtain ⟨n, hlength, hday⟩ := d.exists_monthLength
  have hpos := d.day_range
  have hmonth := d.month_range
  have hlocate := locate_eq hlength (show d.day - 1 < n by omega) 1
  rw [ofOrdinal?, if_pos d.ordinal_pos, ordinal_sub_one, hlocate]
  simp only [show 1 + (d.month - 1) = d.month by omega, show d.day - 1 + 1 = d.day by omega,
    ofYmd?_eq]

/-- The day number determines the date. -/
theorem ofDayNumber?_dayNumber : ofDayNumber? d.dayNumber = some d := by
  have hlt := d.ordinal_sub_one_lt
  have hpos := d.ordinal_pos
  have hday : d.dayNumber + epochDay = daysBeforeYear d.year + (d.ordinal - 1 : Nat) := by
    rw [dayNumber]
    omega
  have hyear : yearOfDay (daysBeforeYear d.year + (d.ordinal - 1 : Nat)) = d.year :=
    yearOfDay_eq (by omega) (by rw [daysBeforeYear_succ]; omega)
  simp only [ofDayNumber?, hday, hyear]
  rw [show daysBeforeYear d.year + ((d.ordinal - 1 : Nat) : Int) - daysBeforeYear d.year =
    (d.ordinal - 1 : Nat) by omega, Int.toNat_natCast, Nat.sub_add_cancel hpos,
    ofOrdinal?_ordinal]

/-! ## Day numbers of dates found -/

/-- The year of a day begins no later than the day. -/
theorem daysBeforeYear_yearOfDay_le (n : Int) : daysBeforeYear (yearOfDay n) ≤ n := by
  rw [yearOfDay]
  split
  next hbefore =>
    -- A cycle of 400 years has 146097 days, so the year before the guess is early enough.
    simp only [daysBeforeYear] at hbefore ⊢
    omega
  next hbefore =>
    split
    next hafter => exact hafter
    next hafter => exact Int.not_lt.mp hbefore

/-- A place found among months has as many days before it as were looked for. -/
theorem exists_of_locate {ns : List Nat} {month offset m day : Nat}
    (h : locate ns month offset = (m, day)) :
    ∃ k, m = month + k ∧ totalDays (ns.take k) + day = offset + 1 := by
  induction ns generalizing month offset with
  | nil =>
      cases h
      exact ⟨0, rfl, by simp [totalDays]⟩
  | cons n ns ih =>
      rw [locate] at h
      split at h
      next hlt =>
        cases h
        exact ⟨0, rfl, by simp [totalDays]⟩
      next hge =>
        obtain ⟨k, hm, hdays⟩ := ih h
        refine ⟨k + 1, by omega, ?_⟩
        rw [List.take_succ_cons, totalDays]
        omega

theorem eq_of_ofYmd? {year : Int} {month day : Nat} {d : Date}
    (h : ofYmd? year month day = some d) : d.year = year ∧ d.month = month ∧ d.day = day := by
  rw [ofYmd?] at h
  split at h
  next => cases h; exact ⟨rfl, rfl, rfl⟩
  next => cases h

theorem ordinal_of_ofOrdinal? {year : Int} {n : Nat} {d : Date}
    (h : ofOrdinal? year n = some d) : d.year = year ∧ d.ordinal = n := by
  rw [ofOrdinal?] at h
  split at h
  next hpos =>
    cases hlocate : locate (monthLengths (isLeapYear year)) 1 (n - 1) with
    | mk month day =>
        rw [hlocate] at h
        obtain ⟨hyear, hmonth, hday⟩ := eq_of_ofYmd? h
        obtain ⟨k, hk, hdays⟩ := exists_of_locate hlocate
        refine ⟨hyear, ?_⟩
        rw [ordinal, daysBeforeMonth, hyear, hmonth, hday, hk, Nat.add_sub_cancel_left]
        omega
  next => cases h

/-- A date is found by its day number and by no other. -/
theorem ofDayNumber?_eq_some_iff {n : Int} {d : Date} :
    ofDayNumber? n = some d ↔ d.dayNumber = n := by
  constructor
  · intro h
    obtain ⟨hyear, hordinal⟩ := ordinal_of_ofOrdinal? h
    have hle := daysBeforeYear_yearOfDay_le (n + epochDay)
    rw [dayNumber, hyear, hordinal]
    omega
  · rintro rfl
    exact d.ofDayNumber?_dayNumber

theorem dayNumber_range (d : Date) : -100000000 < d.dayNumber ∧ d.dayNumber < 100000000 := by
  have hyear := d.year_range
  have hordinal := d.ordinal_sub_one_lt
  have hdays : daysInYear d.year ≤ 366 := by
    rw [daysInYear]
    split
    · exact Nat.le_refl 366
    · decide
  simp only [minYear, maxYear] at hyear
  rw [dayNumber, daysBeforeYear, epochDay]
  omega

end Date

/-! ## Seconds -/

theorem Time.of?_eq (t : Time) : Time.of? t.hour t.minute t.second t.nanos = some t := by
  rw [Time.of?, dif_pos ⟨t.hour_range, t.minute_range, t.second_range, t.nanos_range⟩]

theorem Time.eq_of_of? {hour minute second nanos : Nat} {t : Time}
    (h : Time.of? hour minute second nanos = some t) :
    t.hour = hour ∧ t.minute = minute ∧ t.second = second ∧ t.nanos = nanos := by
  rw [Time.of?] at h
  split at h
  next => cases h; exact ⟨rfl, rfl, rfl, rfl⟩
  next => cases h

theorem Time.secondOfDay_lt (t : Time) : t.secondOfDay < 86400 := by
  have hhour := t.hour_range
  have hminute := t.minute_range
  have hsecond := t.second_range
  rw [secondOfDay]
  omega

namespace DateTime

variable (t : DateTime)

theorem epochSeconds_range :
    -10000000000000 < t.epochSeconds ∧ t.epochSeconds < 10000000000000 := by
  have hday := t.date.dayNumber_range
  have hsecond := t.time.secondOfDay_lt
  rw [epochSeconds, secondsPerDay]
  omega

/-- The seconds and nanoseconds since 1970 determine the date-time. -/
theorem ofEpoch?_epochSeconds : ofEpoch? t.epochSeconds t.time.nanos = some t := by
  have hlt := t.time.secondOfDay_lt
  have hday : t.epochSeconds / secondsPerDay = t.date.dayNumber := by
    rw [epochSeconds, secondsPerDay]
    omega
  have hrest : (t.epochSeconds % secondsPerDay).toNat = t.time.secondOfDay := by
    rw [epochSeconds, secondsPerDay]
    omega
  have hminute := t.time.minute_range
  have hsecond := t.time.second_range
  have hh : t.time.secondOfDay / 3600 = t.time.hour := by rw [Time.secondOfDay]; omega
  have hm : t.time.secondOfDay / 60 % 60 = t.time.minute := by rw [Time.secondOfDay]; omega
  have hs : t.time.secondOfDay % 60 = t.time.second := by rw [Time.secondOfDay]; omega
  simp only [ofEpoch?, hday, hrest, hh, hm, hs, Date.ofDayNumber?_dayNumber, Time.of?_eq]
  rfl

/-- A date-time is found by its seconds and nanoseconds and by no others. -/
theorem ofEpoch?_eq_some_iff {seconds : Int} {nanos : Nat} {t : DateTime} :
    ofEpoch? seconds nanos = some t ↔ t.epochSeconds = seconds ∧ t.time.nanos = nanos := by
  constructor
  · intro h
    obtain ⟨date, hdate, time, htime, heq⟩ := by
      simpa [ofEpoch?, Option.bind_eq_some_iff] using h
    obtain ⟨hhour, hminute, hsecond, hnanos⟩ := Time.eq_of_of? htime
    have hday := Date.ofDayNumber?_eq_some_iff.mp hdate
    subst heq
    refine ⟨?_, hnanos⟩
    rw [epochSeconds, Time.secondOfDay, hday, hhour, hminute, hsecond]
    simp only [secondsPerDay]
    omega
  · rintro ⟨rfl, rfl⟩
    exact t.ofEpoch?_epochSeconds

/-- A date-time a number of seconds earlier lies so many seconds earlier, in the same nanosecond. -/
theorem minusSeconds?_eq_some_iff {u t : DateTime} {seconds : Int} :
    u.minusSeconds? seconds = some t ↔
      t.epochSeconds = u.epochSeconds - seconds ∧ t.time.nanos = u.time.nanos :=
  ofEpoch?_eq_some_iff

theorem minusSeconds?_zero : t.minusSeconds? 0 = some t := by
  rw [minusSeconds?, Int.sub_zero, ofEpoch?_epochSeconds]

end DateTime

end ObjectDocument
