import ObjectDocument.Proofs.Calendar.Pattern

/-!
# Truncation

A pattern shows a date-time down to its smallest part. It prints the same text for the date-time
and for the date-time truncated to that part, and the truncated one is shown in full.
-/

namespace ObjectDocument

open Calendar

/-- The smallest part of a time that is kept. -/
inductive Precision where
  | day
  | minute
  | second
  | fraction (digits : Nat)
deriving DecidableEq, Repr

/-- A time without its parts below a precision. -/
def Time.truncate (t : Time) : Precision → Time
  | .day => .midnight
  | .minute =>
    ⟨t.hour, t.minute, 0, 0, t.hour_range, t.minute_range, midnight.second_range,
      midnight.nanos_range⟩
  | .second =>
    ⟨t.hour, t.minute, t.second, 0, t.hour_range, t.minute_range, t.second_range,
      .inl (by decide)⟩
  | .fraction digits =>
    ⟨t.hour, t.minute, t.second, t.nanos / Text.powerOfTen (9 - digits) * Text.powerOfTen (9 - digits), t.hour_range,
      t.minute_range, t.second_range,
      t.nanos_range.imp (Nat.lt_of_le_of_lt (Nat.div_mul_le_self _ _))
        fun h => ⟨h.1, Nat.lt_of_le_of_lt (Nat.div_mul_le_self _ _) h.2⟩⟩

/-- A date-time without the parts of its time below a precision. -/
def DateTime.truncate (t : DateTime) (precision : Precision) : DateTime :=
  ⟨t.date, t.time.truncate precision⟩

/-- Whether an item of a pattern with a precision shows no smaller part than the precision keeps, in
full width. -/
def Calendar.Item.ShownAt (precision : Precision) : Item → Prop
  | .literal _ | .component .year | .component (.offset _) => True
  | .component (.month pad) | .component (.day pad) => pad = true
  | .component (.hour pad) | .component (.minute pad) => pad = true ∧ precision ≠ .day
  | .component (.second pad) =>
    pad = true ∧ (precision = .second ∨ ∃ digits, precision = .fraction digits)
  | .component (.fraction digits) | .dottedFraction digits =>
    precision = .fraction digits ∧ 0 < digits ∧ digits ≤ 9
  | .component _ => False

section Time

variable {t : Time}

theorem Time.truncate_clock {precision : Precision} (h : precision ≠ .day) :
    (t.truncate precision).hour = t.hour ∧ (t.truncate precision).minute = t.minute := by
  cases precision with
  | day => exact absurd rfl h
  | minute => exact ⟨rfl, rfl⟩
  | second => exact ⟨rfl, rfl⟩
  | fraction digits => exact ⟨rfl, rfl⟩

variable (hleap : t.isLeapSecond = false)

include hleap

theorem Time.nanos_lt : t.nanos < nanosPerSecond := by
  simpa [isLeapSecond] using hleap

/-- The nanoseconds that a truncated time is left with are still less than a second. -/
theorem Time.truncated_nanos_lt (digits : Nat) :
    t.nanos / Text.powerOfTen (9 - digits) * Text.powerOfTen (9 - digits) < nanosPerSecond :=
  Nat.lt_of_le_of_lt (Nat.div_mul_le_self _ _) (nanos_lt hleap)

theorem displayedSecond_truncate {precision : Precision}
    (h : precision = .second ∨ ∃ digits, precision = .fraction digits) :
    Pattern.displayedSecond (t.truncate precision) = Pattern.displayedSecond t := by
  rw [Pattern.displayedSecond, Pattern.displayedSecond, Nat.div_eq_of_lt (Time.nanos_lt hleap)]
  rcases h with rfl | ⟨digits, rfl⟩
  · simp [Time.truncate]
  · simp [Time.truncate, Nat.div_eq_of_lt (Time.truncated_nanos_lt hleap digits)]

theorem printFraction_truncate (digits : Nat) :
    Pattern.printFraction digits (t.truncate (.fraction digits)) =
      Pattern.printFraction digits t := by
  rw [Pattern.printFraction, Pattern.printFraction, Time.truncate,
    Nat.mod_eq_of_lt (Time.truncated_nanos_lt hleap digits),
    Nat.mod_eq_of_lt (Time.nanos_lt hleap), Nat.mul_div_cancel _ (Text.powerOfTen_pos _)]

/-- The digits that a truncated time is left with show all of its nanoseconds. -/
theorem showsNanos_truncate {digits : Nat} (hdigits : 0 < digits ∧ digits ≤ 9) :
    ShowsNanos (t.truncate (.fraction digits)) digits := by
  refine ⟨hdigits, ?_⟩
  rw [Time.truncate, Nat.mod_eq_of_lt (Time.truncated_nanos_lt hleap digits),
    Nat.mul_div_cancel _ (Text.powerOfTen_pos _)]

end Time

variable {t : DateTime} {precision : Precision} {i : Item}

/-- A component that gives a part in full is shown at a precision that keeps the part. -/
theorem shownAt_component {c : Component} {part : Part}
    (hpart : (Item.component c).part? = some part)
    (hclock : part = .hour ∨ part = .minute → precision ≠ .day)
    (hsecond : part = .second → precision = .second ∨ ∃ digits, precision = .fraction digits)
    (hfraction : ∀ digits, c = .fraction digits →
      precision = .fraction digits ∧ 0 < digits ∧ digits ≤ 9) :
    (Item.component c).ShownAt precision := by
  cases c with
  | year => trivial
  | month pad =>
      cases pad with
      | false => cases hpart
      | true => rfl
  | day pad =>
      cases pad with
      | false => cases hpart
      | true => rfl
  | hour pad =>
      cases pad with
      | false => cases hpart
      | true => exact ⟨rfl, hclock (.inl (Option.some.inj hpart).symm)⟩
  | minute pad =>
      cases pad with
      | false => cases hpart
      | true => exact ⟨rfl, hclock (.inr (Option.some.inj hpart).symm)⟩
  | second pad =>
      cases pad with
      | false => cases hpart
      | true => exact ⟨rfl, hsecond (Option.some.inj hpart).symm⟩
  | fraction digits => exact hfraction digits rfl
  | offset style => trivial
  | yearOfCentury => cases hpart
  | monthName long => cases hpart
  | ordinal => cases hpart
  | weekdayName long => cases hpart
  | hour12 pad => cases hpart
  | halfDay => cases hpart

/-- An item prints the same of a date-time and of the truncated one. -/
theorem printItem_truncate (h : i.ShownAt precision) (hleap : t.time.isLeapSecond = false) :
    Pattern.printItem (t.truncate precision) i = Pattern.printItem t i := by
  cases i with
  | literal c => rfl
  | dottedFraction digits =>
      obtain ⟨rfl, hdigits⟩ := h
      exact congrArg (List.cons '.') (printFraction_truncate hleap digits)
  | component c =>
      cases c with
      | year => rfl
      | month pad => rfl
      | day pad => rfl
      | hour pad => exact congrArg (Pattern.printPart pad) (Time.truncate_clock h.2).1
      | minute pad => exact congrArg (Pattern.printPart pad) (Time.truncate_clock h.2).2
      | second pad =>
          exact congrArg (Pattern.printPart pad) (displayedSecond_truncate hleap h.2)
      | fraction digits =>
          obtain ⟨rfl, hdigits⟩ := h
          exact printFraction_truncate hleap digits
      | offset style => rfl
      | yearOfCentury => cases h
      | monthName long => cases h
      | ordinal => cases h
      | weekdayName long => cases h
      | hour12 pad => cases h
      | halfDay => cases h

/-- An item shows all that truncation leaves of its part. -/
theorem restores_truncate (h : i.ShownAt precision) (hleap : t.time.isLeapSecond = false)
    (hyear : 0 ≤ t.date.year ∧ t.date.year ≤ 9999) : i.Restores (t.truncate precision) := by
  cases i with
  | literal c => trivial
  | dottedFraction digits =>
      obtain ⟨rfl, hdigits⟩ := h
      exact showsNanos_truncate hleap hdigits
  | component c =>
      cases c with
      | year => exact hyear
      | month pad => exact h
      | day pad => exact h
      | hour pad => exact h.1
      | minute pad => exact h.1
      | second pad => exact h.1
      | fraction digits =>
          obtain ⟨rfl, hdigits⟩ := h
          exact showsNanos_truncate hleap hdigits
      | offset style => trivial
      | yearOfCentury => cases h
      | monthName long => cases h
      | ordinal => cases h
      | weekdayName long => cases h
      | hour12 pad => cases h
      | halfDay => cases h

/-- A pattern whose items show no more than its precision keeps prints a date-time so that the
truncated one is read back. -/
theorem Pattern.read?_print_truncate {p : Pattern} (h : ∀ i ∈ p.items, i.ShownAt precision)
    (hleap : t.time.isLeapSecond = false) (hyear : 0 ≤ t.date.year ∧ t.date.year ≤ 9999) :
    p.read? (p.print t) =
      some (Fields.giving (t.truncate precision) (p.items.filterMap Item.part?)) := by
  have hprint : p.print (t.truncate precision) = p.print t := by
    have hitems : p.items.map (printItem (t.truncate precision)) = p.items.map (printItem t) :=
      List.map_congr_left fun i hi => printItem_truncate (h i hi) hleap
    rw [print, print, List.flatMap_def, List.flatMap_def, hitems]
  rw [← hprint]
  exact read?_print fun i hi => restores_truncate (h i hi) hleap hyear

end ObjectDocument
