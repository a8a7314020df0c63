import ObjectDocument.Calendar.Pattern
import ObjectDocument.Proofs.Calendar.DayNumber

/-!
# Fields that a date-time gives

The fields of a text that gives some parts of a date-time depend on the date-time and on the parts
only. A reader adds one part after another, and in the end the parts give the date-time back if what
they leave out is zero.
-/

namespace ObjectDocument.Calendar

/-- The parts of a date-time in UTC that a text can give. -/
inductive Part where
  | year
  | month
  | day
  | hour
  | minute
  | second
  | fraction
  | offset
deriving DecidableEq, Repr

/-- Parts that stand together: a whole date, and of a time no part without the larger ones. -/
structure Coherent (ps : List Part) : Prop where
  year : .year ∈ ps
  month : .month ∈ ps
  day : .day ∈ ps
  hour_iff : .hour ∈ ps ↔ .minute ∈ ps
  hour_of_second : .second ∈ ps → .hour ∈ ps
  second_of_fraction : .fraction ∈ ps → .second ∈ ps

theorem agree_ite {α : Type} [DecidableEq α] (p : Prop) [Decidable p] (value : α) :
    agree (if p then some value else none) value = some (some value) := by
  split
  · simp [agree]
  · rfl

theorem within?_eq {low high n : Nat} (hlow : low ≤ n) (hhigh : n ≤ high) :
    within? low high n = some n := by
  rw [within?, if_pos ⟨hlow, hhigh⟩]

theorem displayedSecond_le (t : Time) : Pattern.displayedSecond t ≤ 60 := by
  have hsecond := t.second_range
  have hnanos := t.nanos_range
  simp only [Pattern.displayedSecond, nanosPerSecond] at hnanos ⊢
  omega

namespace Fields

/-- The fields of a text that gives parts of a date-time in UTC. -/
def giving (t : DateTime) (ps : List Part) : Fields where
  year := if .year ∈ ps then some t.date.year else none
  month := if .month ∈ ps then some t.date.month else none
  day := if .day ∈ ps then some t.date.day else none
  afternoon := if .hour ∈ ps then some (12 ≤ t.time.hour) else none
  hourOfHalf := if .hour ∈ ps then some (t.time.hour % 12) else none
  minute := if .minute ∈ ps then some t.time.minute else none
  second := if .second ∈ ps then some (Pattern.displayedSecond t.time) else none
  nanos := if .fraction ∈ ps then some (t.time.nanos % nanosPerSecond) else none
  offset := if .offset ∈ ps then some 0 else none

variable (t : DateTime) (ps : List Part)

theorem giving_nil : giving t [] = {} :=
  rfl

/-! ## Adding a part -/

theorem setYear_giving : (giving t ps).setYear t.date.year = some (giving t (ps ++ [.year])) := by
  have hyear := t.date.year_range
  simp only [minYear, maxYear] at hyear
  rw [setYear, if_pos (by simp only [yearLimit]; omega)]
  simp [giving, agree_ite]

theorem setMonth_giving :
    (giving t ps).setMonth t.date.month = some (giving t (ps ++ [.month])) := by
  simp [setMonth, within?_eq t.date.month_range.1 t.date.month_range.2, giving, agree_ite]

theorem setDay_giving : (giving t ps).setDay t.date.day = some (giving t (ps ++ [.day])) := by
  simp [setDay, within?_eq t.date.day_range.1 t.date.day_le, giving, agree_ite]

theorem setHour_giving :
    (giving t ps).setHour t.time.hour = some (giving t (ps ++ [.hour])) := by
  have hhour := t.time.hour_range
  simp [setHour, setAfternoon, within?_eq (Nat.zero_le _) (show t.time.hour ≤ 23 by omega),
    giving, agree_ite]

theorem setMinute_giving :
    (giving t ps).setMinute t.time.minute = some (giving t (ps ++ [.minute])) := by
  have hminute := t.time.minute_range
  simp [setMinute, within?_eq (Nat.zero_le _) (show t.time.minute ≤ 59 by omega), giving,
    agree_ite]

theorem setSecond_giving : (giving t ps).setSecond (Pattern.displayedSecond t.time) =
    some (giving t (ps ++ [.second])) := by
  simp [setSecond, within?_eq (Nat.zero_le _) (displayedSecond_le t.time), giving, agree_ite]

theorem setNanos_giving : (giving t ps).setNanos (t.time.nanos % nanosPerSecond) =
    some (giving t (ps ++ [.fraction])) := by
  have hnanos : t.time.nanos % nanosPerSecond ≤ nanosPerSecond - 1 :=
    Nat.le_sub_one_of_lt (Nat.mod_lt _ (by decide))
  simp [setNanos, within?_eq (Nat.zero_le _) hnanos, giving, agree_ite]

theorem setOffset_giving : (giving t ps).setOffset 0 = some (giving t (ps ++ [.offset])) := by
  simp [setOffset, giving, agree_ite]

/-! ## Resolving the fields -/

variable {t ps}

/-- Parts that say all of a date-time: what they leave out is zero. -/
structure Complete (t : DateTime) (ps : List Part) : Prop extends Coherent ps where
  time_eq : .hour ∉ ps → t.time = .midnight
  second_eq : .second ∉ ps → t.time.second = 0 ∧ t.time.nanos = 0
  nanos_eq : .fraction ∉ ps → t.time.nanos % nanosPerSecond = 0

theorem toDate?_giving (hyear : .year ∈ ps) (hmonth : .month ∈ ps) (hday : .day ∈ ps) :
    (giving t ps).toDate? = some t.date := by
  simp [toDate?, resolveYear, giving, hyear, hmonth, hday, Date.ofYmd?_eq, permits]

/-- A leap second is read from the second 60. -/
theorem of?_displayedSecond (t : Time) :
    (if Pattern.displayedSecond t = 60 then
      Time.of? t.hour t.minute 59 (nanosPerSecond + t.nanos % nanosPerSecond)
    else Time.of? t.hour t.minute (Pattern.displayedSecond t) (t.nanos % nanosPerSecond)) =
      some t := by
  have hsecond := t.second_range
  have hnanos := t.nanos_range
  rw [Pattern.displayedSecond]
  rcases Nat.lt_or_ge t.nanos nanosPerSecond with hlt | hge
  · rw [Nat.div_eq_of_lt hlt, Nat.add_zero, if_neg (by omega), Nat.mod_eq_of_lt hlt, Time.of?_eq]
  · have hleap : t.second = 59 := by omega
    have hdiv : t.nanos / nanosPerSecond = 1 := by rw [nanosPerSecond] at *; omega
    have hmod : nanosPerSecond + t.nanos % nanosPerSecond = t.nanos := by
      rw [nanosPerSecond] at *; omega
    rw [hleap, hdiv, if_pos rfl, hmod, ← hleap, Time.of?_eq]

theorem toTime?_giving (h : Complete t ps) (hhour : .hour ∈ ps) :
    (giving t ps).toTime? = some t.time := by
  have hminute : .minute ∈ ps := h.hour_iff.mp hhour
  have hclock : (if 12 ≤ t.time.hour then t.time.hour % 12 + 12 else t.time.hour % 12) =
      t.time.hour := by
    have hrange := t.time.hour_range
    split <;> omega
  -- Without a second there is no fraction either, and both are zero.
  by_cases hsecond : .second ∈ ps
  · have hnanos : (if .fraction ∈ ps then some (t.time.nanos % nanosPerSecond) else none).getD 0 =
        t.time.nanos % nanosPerSecond := by
      split
      next hfraction => rfl
      next hfraction => exact (h.nanos_eq hfraction).symm
    simp [toTime?, giving, hhour, hminute, hsecond, hclock, hnanos, of?_displayedSecond]
  · have hfraction : .fraction ∉ ps := fun hmem => hsecond (h.second_of_fraction hmem)
    obtain ⟨hzero, hnanos⟩ := h.second_eq hsecond
    have htime := t.time.of?_eq
    rw [hzero, hnanos] at htime
    simp [toTime?, giving, hhour, hminute, hsecond, hfraction, hclock, htime]

theorem toTime?_giving_eq_none (hhour : .hour ∉ ps) : (giving t ps).toTime? = none := by
  simp [toTime?, giving, hhour]

/-- The parts give the date-time back, at the start of the day if they have no time. -/
theorem toLocalOrMidnight?_giving (h : Complete t ps) :
    (giving t ps).toLocalOrMidnight? = some t := by
  have hdate : (giving t ps).toDate? = some t.date := toDate?_giving h.year h.month h.day
  by_cases hhour : .hour ∈ ps
  · simp [toLocalOrMidnight?, toLocal?, hdate, toTime?_giving h hhour]
  · have hmidnight : DateTime.atMidnight t.date = t := by
      rw [DateTime.atMidnight, ← h.time_eq hhour]
    simp [toLocalOrMidnight?, toLocal?, hdate, toTime?_giving_eq_none hhour, hmidnight]

theorem toLocal?_giving (h : Complete t ps) (hhour : .hour ∈ ps) :
    (giving t ps).toLocal? = some t := by
  simp [toLocal?, toDate?_giving h.year h.month h.day, toTime?_giving h hhour]

/-- The offset of UTC shifts nothing. -/
theorem toUtc?_giving (h : Complete t ps) (hhour : .hour ∈ ps) (hoffset : .offset ∈ ps) :
    (giving t ps).toUtc? = some t := by
  have hzero : (giving t ps).offset = some 0 := by simp [giving, hoffset]
  simp [toUtc?, toLocal?_giving h hhour, hzero, offsetLimit, DateTime.minusSeconds?_zero]

theorem toDateTime?_giving (h : Complete t ps) : (giving t ps).toDateTime? = some t := by
  rw [toDateTime?]
  by_cases hboth : .hour ∈ ps ∧ .offset ∈ ps
  · rw [toUtc?_giving h hboth.1 hboth.2]
  · -- Reading in UTC needs a time as well as an offset.
    have hnone : (giving t ps).toUtc? = none := by
      by_cases hoffset : .offset ∈ ps
      · have hhour : .hour ∉ ps := fun hmem => hboth ⟨hmem, hoffset⟩
        simp [toUtc?, toLocal?, toTime?_giving_eq_none hhour]
      · simp [toUtc?, giving, hoffset]
    rw [hnone]
    exact toLocalOrMidnight?_giving h

end Fields

end ObjectDocument.Calendar
