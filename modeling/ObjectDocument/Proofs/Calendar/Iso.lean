import ObjectDocument.Calendar.Iso
import ObjectDocument.Proofs.Calendar.Pattern

/-!
# Default forms read back

Dates, date-times and instants are read back from their default forms: dates and date-times of every
year, instants of the years that have four digits, leap seconds included.
-/

namespace ObjectDocument.Calendar

open Text

variable {t : DateTime} {ps : List Part} {rest : List Char}

/-! ## Items with a year in front -/

/-- A year of any number of digits is read back when a hyphen ends it. -/
theorem readItems_year {items : List Item} (h : ∀ i ∈ items, i.Restores t) :
    Pattern.readItems (.component .year :: .literal '-' :: items) {}
        ((.component .year :: .literal '-' :: items).flatMap (Pattern.printItem t) ++ rest) =
      some (Fields.giving t (.year :: items.filterMap Item.part?), rest) := by
  have hyear : readYear (Pattern.printYear t.date.year ++
      ('-' :: (items.flatMap (Pattern.printItem t) ++ rest))) =
        some (t.date.year, '-' :: (items.flatMap (Pattern.printItem t) ++ rest)) :=
    readYear_printYear t.date.year (.inr (by simp))
  have hset : Fields.setYear {} t.date.year = some (Fields.giving t [.year]) :=
    Fields.setYear_giving t []
  have hitems : Pattern.readItems items (Fields.giving t [.year])
      (items.flatMap (Pattern.printItem t) ++ rest) =
        some (Fields.giving t ([.year] ++ items.filterMap Item.part?), rest) :=
    Pattern.readItems_printItems h
  simp [Pattern.readItems, Pattern.readItem, Pattern.readComponent, Pattern.printItem,
    Pattern.printComponent, readChar, hyear, hset, hitems]

theorem readItems_dateItems :
    Pattern.readItems dateItems {} (dateItems.flatMap (Pattern.printItem t) ++ rest) =
      some (Fields.giving t [.year, .month, .day], rest) := by
  rw [dateItems, readItems_year (by simp [Item.Restores])]
  rfl

theorem readItems_dateTimeItems :
    Pattern.readItems dateTimeItems {} (dateTimeItems.flatMap (Pattern.printItem t) ++ rest) =
      some (Fields.giving t [.year, .month, .day, .hour, .minute, .second], rest) := by
  simp only [dateTimeItems, dateItems, timeItems, List.cons_append, List.nil_append]
  rw [readItems_year (by simp [Item.Restores])]
  rfl

/-! ## Fractions of any length -/

/-- Digits that show all of the nanoseconds are read back where no digit follows them. -/
theorem readAnyFraction_printFraction {count : Nat} {t : Time} (h : ShowsNanos t count)
    (hrest : ∀ c ∈ rest.head?, c.isDigit = false) :
    readAnyFraction (Pattern.printFraction count t ++ rest) =
      some (t.nanos % nanosPerSecond, rest) := by
  obtain ⟨hcount, hexact⟩ := h
  have hlength := length_padded hcount.1 (fraction_lt t hcount.2)
  have htake := takeDigits_append (fun _ => isDigit_of_mem_padded)
    (hlength ▸ hcount.2) (.inr hrest)
  have hdrop : rest.dropWhile Char.isDigit = rest := by
    cases rest with
    | nil => rfl
    | cons c cs => simp [hrest c rfl]
  rw [readAnyFraction, Pattern.printFraction, htake]
  split
  next hnil => exact absurd (Prod.mk.inj hnil).1 (padded_ne_nil _ _)
  next ds after hother =>
    obtain ⟨rfl, rfl⟩ := Prod.mk.inj hother
    rw [ofDigits_padded, hlength, hexact, hdrop]

/-- The parts that the short form of a fraction gives. -/
def fractionParts (t : Time) : List Part :=
  if t.nanos % nanosPerSecond = 0 then [] else [.fraction]

theorem fraction_notMem {t : Time} (h : .fraction ∉ fractionParts t) :
    t.nanos % nanosPerSecond = 0 := by
  rw [fractionParts] at h
  split at h
  next hzero => exact hzero
  next => simp at h

/-- The short form of a fraction shows all of the nanoseconds. -/
theorem printShortFraction_eq (t : Time) (h : t.nanos % nanosPerSecond ≠ 0) :
    ∃ count, ShowsNanos t count ∧ printShortFraction t = '.' :: Pattern.printFraction count t := by
  rw [printShortFraction, if_neg h]
  split
  next hmillis =>
    exact ⟨3, ⟨by decide, Nat.div_mul_cancel (Nat.dvd_of_mod_eq_zero hmillis)⟩, rfl⟩
  next hmillis =>
    split
    next hmicros =>
      exact ⟨6, ⟨by decide, Nat.div_mul_cancel (Nat.dvd_of_mod_eq_zero hmicros)⟩, rfl⟩
    next hmicros => exact ⟨9, ⟨by decide, Nat.div_mul_cancel (Nat.one_dvd _)⟩, rfl⟩

theorem readOptionalFraction_printShortFraction (hdot : rest.head? ≠ some '.')
    (hrest : ∀ c ∈ rest.head?, c.isDigit = false) :
    readOptionalFraction (Fields.giving t ps) (printShortFraction t.time ++ rest) =
      some (Fields.giving t (ps ++ fractionParts t.time), rest) := by
  by_cases hzero : t.time.nanos % nanosPerSecond = 0
  · -- No fraction is printed, and what follows is not mistaken for one.
    have hshort : printShortFraction t.time = [] := by rw [printShortFraction, if_pos hzero]
    have hparts : fractionParts t.time = [] := by rw [fractionParts, if_pos hzero]
    rw [hshort, hparts, List.nil_append, List.append_nil]
    cases rest with
    | nil => rfl
    | cons c cs =>
        rw [readOptionalFraction]
        rintro cs' heq
        exact hdot (congrArg List.head? heq)
  · obtain ⟨count, hshows, hshort⟩ := printShortFraction_eq t.time hzero
    have hparts : fractionParts t.time = [.fraction] := by rw [fractionParts, if_neg hzero]
    rw [hshort, hparts, List.cons_append, readOptionalFraction]
    simp [readAnyFraction_printFraction hshows hrest, Fields.setNanos_giving]

/-! ## Dates and times -/

theorem readDate?_printDate (d : Date) : readDate? (printDate d) = some d := by
  have hread : Pattern.readItems dateItems {}
      (dateItems.flatMap (Pattern.printItem (.atMidnight d)) ++ []) =
        some (Fields.giving (.atMidnight d) [.year, .month, .day], []) := readItems_dateItems
  rw [List.append_nil] at hread
  rw [readDate?, printDate, String.toList_ofList, hread]
  exact Fields.toDate?_giving (by simp) (by simp) (by simp)

/-- The parts of a default form say all of a date-time. -/
theorem complete_fractionParts (t : DateTime) (more : List Part) :
    Fields.Complete t
      ([.year, .month, .day, .hour, .minute, .second] ++ fractionParts t.time ++ more) where
  year := by simp
  month := by simp
  day := by simp
  hour_iff := by simp
  hour_of_second := by simp
  second_of_fraction := by simp
  time_eq := by simp
  second_eq := by simp
  nanos_eq := by
    intro h
    exact fraction_notMem fun hmem => h (by simp [hmem])

theorem readDateTime?_printDateTime (t : DateTime) :
    readDateTime? (printDateTime t) = some t := by
  have hfraction : readOptionalFraction
      (Fields.giving t [.year, .month, .day, .hour, .minute, .second])
      (printShortFraction t.time ++ []) = some (Fields.giving t
        ([.year, .month, .day, .hour, .minute, .second] ++ fractionParts t.time), []) :=
    readOptionalFraction_printShortFraction (by simp) (by simp)
  have hlocal := Fields.toLocal?_giving (complete_fractionParts t []) (by simp)
  rw [List.append_nil] at hfraction
  simpa [readDateTime?, printDateTime, readItems_dateTimeItems, hfraction] using hlocal

theorem readFixed_two {n : Nat} (hn : n < 100) (rest : List Char) :
    readFixed 2 (padded 2 n ++ rest) = some (n, rest) :=
  readFixed_padded (by decide) hn

/-- The text of an instant whose year has four digits. -/
theorem toList_printInstant {t : DateTime} (h : 0 ≤ t.date.year ∧ t.date.year ≤ 9999) :
    (printInstant t).toList =
      padded 4 t.date.year.toNat ++ '-' :: (padded 2 t.date.month ++ '-' ::
        (padded 2 t.date.day ++ 'T' :: (padded 2 t.time.hour ++ ':' ::
          (padded 2 t.time.minute ++ ':' :: (padded 2 (Pattern.displayedSecond t.time) ++
            (printShortFraction t.time ++ ['Z'])))))) := by
  simp [printInstant, dateTimeItems, dateItems, timeItems, Pattern.printItem,
    Pattern.printComponent, Pattern.printPart, Pattern.printYear, h]

theorem readInstant?_printInstant (t : DateTime) (h : 0 ≤ t.date.year ∧ t.date.year ≤ 9999) :
    readInstant? (printInstant t) = some t := by
  have hmonth := t.date.month_range
  have hday := t.date.day_le
  have hhour := t.time.hour_range
  have hminute := t.time.minute_range
  have hsecond := displayedSecond_le t.time
  have hyear (rest : List Char) :
      readFixed 4 (padded 4 t.date.year.toNat ++ rest) = some (t.date.year.toNat, rest) :=
    readFixed_padded (by decide) (show t.date.year.toNat < 10000 by omega)
  have hset : Fields.setYear {} ((t.date.year.toNat : Nat) : Int) =
      some (Fields.giving t [.year]) := by
    rw [Int.toNat_of_nonneg h.1]
    exact Fields.setYear_giving t []
  have hfraction : readOptionalFraction
      (Fields.giving t [.year, .month, .day, .hour, .minute, .second])
      (printShortFraction t.time ++ ['Z']) = some (Fields.giving t
        ([.year, .month, .day, .hour, .minute, .second] ++ fractionParts t.time), ['Z']) :=
    readOptionalFraction_printShortFraction (by decide) (by simp)
  have hoffset : readOffset (readChar ':') true ['Z'] = some (0, []) := rfl
  have hutc := Fields.toUtc?_giving (complete_fractionParts t [.offset]) (by simp) (by simp)
  have hchar (c : Char) (cs : List Char) : readChar c (c :: cs) = some cs := if_pos rfl
  have hdivider (cs : List Char) : readDivider ('T' :: cs) = some cs := rfl
  rw [readInstant?, toList_printInstant h]
  rw [hyear, Option.bind_eq_bind, Option.bind_some]
  dsimp only
  rw [hset]
  -- The text is read from the front, so every step uncovers the next one.
  dsimp only [Option.bind_eq_bind, Option.bind_some]
  rw [hchar, Option.bind_some, readFixed_two (show t.date.month < 100 by omega), Option.bind_some]
  dsimp only
  rw [Fields.setMonth_giving, Option.bind_some, hchar, Option.bind_some,
    readFixed_two (show t.date.day < 100 by omega), Option.bind_some]
  dsimp only
  rw [Fields.setDay_giving, Option.bind_some, hdivider, Option.bind_some,
    readFixed_two (show t.time.hour < 100 by omega), Option.bind_some]
  dsimp only
  rw [Fields.setHour_giving, Option.bind_some, hchar, Option.bind_some,
    readFixed_two (show t.time.minute < 100 by omega), Option.bind_some]
  dsimp only
  rw [Fields.setMinute_giving, Option.bind_some, hchar, Option.bind_some,
    readFixed_two (show Pattern.displayedSecond t.time < 100 by omega), Option.bind_some]
  dsimp only
  rw [Fields.setSecond_giving, Option.bind_some]
  simp only [List.cons_append, List.nil_append]
  rw [hfraction, Option.bind_some, hoffset, Option.bind_some]
  dsimp only
  rw [Fields.setOffset_giving, Option.bind_some, if_pos ⟨rfl, by decide, by decide⟩]
  exact hutc

/-- A year outside of 0 to 9999 has a sign in front, which the form of instants has no place for. -/
theorem readInstant?_printInstant_eq_none (t : DateTime)
    (h : ¬(0 ≤ t.date.year ∧ t.date.year ≤ 9999)) : readInstant? (printInstant t) = none := by
  have hsign : ∃ sign cs, sign.isDigit = false ∧ (printInstant t).toList = sign :: cs := by
    simp only [printInstant, dateTimeItems, dateItems, Pattern.printItem, Pattern.printComponent,
      Pattern.printYear, h, if_false, String.toList_ofList, List.cons_append, List.flatMap_cons]
    refine ⟨_, _, ?_, rfl⟩
    split
    · rfl
    · rfl
  obtain ⟨sign, cs, hdigit, htext⟩ := hsign
  have htake : takeDigits 4 (sign :: cs) = ([], sign :: cs) := by
    simp [takeDigits, hdigit]
  have hyear : readFixed 4 (sign :: cs) = none := by
    rw [readFixed, htake]
    rfl
  rw [readInstant?, htext, hyear]
  rfl

end ObjectDocument.Calendar
