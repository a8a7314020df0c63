import ObjectDocument.Proofs.Calendar.Range
import ObjectDocument.Proofs.Conversion.Leaf
import ObjectDocument.Proofs.Converter.FirstForm

/-!
# Epoch formats

The epoch formats write a date-time as a whole number of milliseconds or seconds after 1970. Main
statement: writing rounds towards the past, before 1970 too, and a number is read as the date-time
just so many units after 1970, or refused if there is none. A document may hold the number as a text
or as a number.
-/

namespace ObjectDocument

open Calendar

/-- The unit that an epoch format counts in. -/
inductive EpochUnit where
  | millis
  | seconds
deriving DecidableEq, Repr

namespace EpochUnit

def format : EpochUnit → DateFormat
  | millis => .epochMillis
  | seconds => .epochSecond

def form : EpochUnit → DateForm
  | millis => .epochMillis
  | seconds => .epochSecond

/-- The nanoseconds of a unit. -/
def nanos : EpochUnit → Int
  | millis => 1000000
  | seconds => 1000000000

/-- The whole units since 1970, counted towards the past. -/
def count (unit : EpochUnit) (t : DateTime) : Int :=
  t.epochNanos / unit.nanos

/-- The date-time a number of units after 1970, if it is in range. -/
def at? : EpochUnit → Int → Option DateTime
  | millis, n => DateTime.ofEpochMillis? n
  | seconds, n => DateTime.ofEpoch? n 0

variable {unit : EpochUnit} {t u w : DateTime} {kind : Kind} {n : Int} {s : String}

theorem nanos_pos (unit : EpochUnit) : 0 < unit.nanos := by
  cases unit with
  | millis => decide
  | seconds => decide

/-! ## Rounding -/

/-- A date-time a whole number of units after 1970 or before it, and not in a leap second. -/
structure OnGrid (unit : EpochUnit) (t : DateTime) : Prop where
  noLeap : t.time.isLeapSecond = false
  whole : unit.nanos ∣ t.epochNanos

/-- The last date-time on the grid of a unit that is not after a date-time. -/
structure IsFloor (unit : EpochUnit) (u t : DateTime) : Prop where
  onGrid : unit.OnGrid u
  le : u.epochNanos ≤ t.epochNanos
  greatest : ∀ w : DateTime, unit.OnGrid w → w.epochNanos ≤ t.epochNanos →
    w.epochNanos ≤ u.epochNanos

/-- A date-time on the grid stays as it is. -/
theorem IsFloor.eq_of_onGrid (h : unit.IsFloor u t) (ht : unit.OnGrid t) : u = t := by
  apply DateTime.eq_of_epochNanos h.onGrid.noLeap ht.noLeap
  exact Int.le_antisymm h.le (h.greatest t ht (Int.le_refl _))

/-- Midnight is on the grid of every unit. -/
theorem onGrid_atMidnight (unit : EpochUnit) (d : Date) : unit.OnGrid (.atMidnight d) where
  noLeap := rfl
  whole := by
    have hmidnight : (DateTime.atMidnight d).epochNanos = d.dayNumber * 86400 * 1000000000 := by
      simp [DateTime.epochNanos, DateTime.epochSeconds, DateTime.atMidnight, Time.secondOfDay,
        Time.midnight, DateTime.secondsPerDay, nanosPerSecond]
    rw [hmidnight]
    cases unit with
    | millis => exact ⟨d.dayNumber * 86400 * 1000, by rw [nanos]; omega⟩
    | seconds => exact ⟨d.dayNumber * 86400, by rw [nanos]; omega⟩

/-- A date-time that has the counted units of another one is its floor. -/
theorem isFloor_of_epochNanos (hu : u.time.isLeapSecond = false)
    (h : u.epochNanos = unit.count t * unit.nanos) : unit.IsFloor u t where
  onGrid := ⟨hu, unit.count t, by rw [h, Int.mul_comm]⟩
  le := by
    rw [h]
    exact Int.ediv_mul_le _ (Int.ne_of_gt unit.nanos_pos)
  greatest := by
    intro w hw hle
    obtain ⟨k, hk⟩ := hw.whole
    rw [Int.mul_comm] at hk
    rw [hk] at hle
    rw [hk, h]
    exact Int.mul_le_mul_of_nonneg_right ((Int.le_ediv_iff_mul_le unit.nanos_pos).mpr hle)
      (Int.le_of_lt unit.nanos_pos)

/-- Rounding towards the past does not leave the calendar, which begins on the grid. -/
theorem exists_isFloor (unit : EpochUnit) (ht : t.time.isLeapSecond = false) :
    ∃ u : DateTime, u.time.isLeapSecond = false ∧
      u.epochNanos = unit.count t * unit.nanos := by
  have hrange := DateTime.exists_epochNanos_iff.mp ⟨t, ht, rfl⟩
  apply DateTime.exists_epochNanos_iff.mpr
  constructor
  · obtain ⟨k, hk⟩ := (onGrid_atMidnight unit .first).whole
    change DateTime.first.epochNanos = _ at hk
    rw [hk, Int.mul_comm] at hrange ⊢
    exact Int.mul_le_mul_of_nonneg_right ((Int.le_ediv_iff_mul_le unit.nanos_pos).mpr hrange.1)
      (Int.le_of_lt unit.nanos_pos)
  · exact Int.le_trans (Int.ediv_mul_le _ (Int.ne_of_gt unit.nanos_pos)) hrange.2

/-! ## Writing and reading -/

theorem write?_form (ht : t.time.isLeapSecond = false) :
    unit.form.write? t = some (String.ofList (Text.signedDigits (unit.count t))) := by
  have hnanos := Time.nanos_lt ht
  rw [nanosPerSecond] at hnanos
  cases unit with
  | millis =>
      have hcount : count .millis t = t.epochMillis := by
        rw [count, DateTime.epochNanos, DateTime.epochMillis, nanos, nanosPerSecond]
        omega
      rw [hcount]
      rfl
  | seconds =>
      have hcount : count .seconds t = t.epochSeconds := by
        rw [count, DateTime.epochNanos, nanos, nanosPerSecond]
        omega
      rw [hcount]
      rfl

/-- A number is read as the date-time that is just so many units after 1970. -/
theorem at?_eq_some_iff :
    unit.at? n = some u ↔ u.time.isLeapSecond = false ∧ u.epochNanos = n * unit.nanos := by
  rw [Time.isLeapSecond_eq_false_iff]
  cases unit with
  | millis =>
      rw [at?, DateTime.ofEpochMillis?, DateTime.ofEpoch?_eq_some_iff, DateTime.epochNanos, nanos,
        nanosPerSecond]
      omega
  | seconds =>
      rw [at?, DateTime.ofEpoch?_eq_some_iff, DateTime.epochNanos, nanos, nanosPerSecond]
      omega

/-- A number with a date-time fits into 64 bits. -/
theorem exists_toInt_eq (hu : u.time.isLeapSecond = false)
    (h : u.epochNanos = n * unit.nanos) : ∃ m : Int64, m.toInt = n := by
  have hrange := u.epochSeconds_range
  have hn : -10000000000000000 < n ∧ n < 10000000000000000 := by
    rw [DateTime.epochNanos, nanosPerSecond] at h
    rw [Time.isLeapSecond_eq_false_iff, nanosPerSecond] at hu
    cases unit with
    | millis =>
        rw [nanos] at h
        omega
    | seconds =>
        rw [nanos] at h
        omega
  refine ⟨Int64.ofInt n, Int64.toInt_ofInt_of_le ?_ ?_⟩
  · omega
  · omega

theorem read?_form (unit : EpochUnit) (s : String) (kind : Kind) : unit.form.read? s kind =
    (Text.parseInt64? s).bind fun n =>
      (unit.at? n.toInt).bind fun t => DateForm.valueAt? t kind := by
  cases unit with
  | millis => rfl
  | seconds => rfl

/-- The texts that are read are the numerals of numbers with a date-time. -/
theorem read?_form_eq_some_iff {v : Value} : unit.form.read? s kind = some v ↔
    ∃ n u, Text.IsNumeral s.toList n ∧
      (u.time.isLeapSecond = false ∧ u.epochNanos = n * unit.nanos) ∧
      DateForm.valueAt? u kind = some v := by
  rw [read?_form]
  simp only [Option.bind_eq_some_iff, Text.parseInt64?_eq_some_iff, at?_eq_some_iff]
  constructor
  · rintro ⟨m, hm, u, hu, hv⟩
    exact ⟨m.toInt, u, hm, hu, hv⟩
  · rintro ⟨n, u, hn, hu, hv⟩
    obtain ⟨m, rfl⟩ := exists_toInt_eq hu.1 hu.2
    exact ⟨m, hn, u, hu, hv⟩

/-! ## The converter of an epoch format -/

theorem build_format (unit : EpochUnit) (kind : Kind) :
    DateConverter.build kind [unit.format] [] = .ok (some ⟨kind, [unit.form]⟩) := by
  cases unit with
  | millis => rfl
  | seconds => rfl

theorem read_form_eq_ok_iff {v : Value} : DateConverter.read ⟨kind, [unit.form]⟩ s = .ok v ↔
    ∃ n u, Text.IsNumeral s.toList n ∧
      (u.time.isLeapSecond = false ∧ u.epochNanos = n * unit.nanos) ∧
      DateForm.valueAt? u kind = some v := by
  rw [DateConverter.read_eq_ok_iff, ← read?_form_eq_some_iff]
  simp only [List.findSome?_cons, List.findSome?_nil]
  cases unit.form.read? s kind with
  | none => rfl
  | some w => rfl

/-- A text is refused if it is no numeral, or one of a number without a date-time. -/
theorem read_form_eq_error_iff (hkind : DateForm.IsTemporal kind) :
    (∃ e, DateConverter.read ⟨kind, [unit.form]⟩ s = .error e) ↔
      ∀ n, Text.IsNumeral s.toList n →
        n * unit.nanos < DateTime.first.epochNanos ∨
          DateTime.last.epochNanos < n * unit.nanos := by
  have herror : (∃ e, DateConverter.read ⟨kind, [unit.form]⟩ s = .error e) ↔
      ¬∃ v, DateConverter.read ⟨kind, [unit.form]⟩ s = .ok v := by
    cases DateConverter.read ⟨kind, [unit.form]⟩ s with
    | ok v => simp
    | error e => simp
  rw [herror]
  constructor
  · intro hnone n hn
    by_contra hrange
    obtain ⟨u, hu⟩ := DateTime.exists_epochNanos_iff.mpr
      (show _ ≤ n * unit.nanos ∧ n * unit.nanos ≤ _ by omega)
    obtain ⟨v, -, hv, -⟩ := DateForm.exists_valueAt? hkind u
    exact hnone ⟨v, read_form_eq_ok_iff.mpr ⟨n, u, hn, hu, hv⟩⟩
  · rintro houtside ⟨v, hv⟩
    obtain ⟨n, u, hn, hu, -⟩ := read_form_eq_ok_iff.mp hv
    have hrange := DateTime.exists_epochNanos_iff.mp ⟨u, hu⟩
    have hn := houtside n hn
    omega

/-- What is written of a value is the number of its units, and is read as the value at its floor. -/
theorem exists_write_read (unit : EpochUnit) {v : Value} (hkind : DateForm.IsTemporal kind)
    (hv : v.IsAt kind t) (ht : t.time.isLeapSecond = false) :
    ∃ n w u, DateConverter.write ⟨kind, [unit.form]⟩ v =
        .ok (String.ofList (Json.printNumber (.int n))) ∧
      DateConverter.read ⟨kind, [unit.form]⟩ (String.ofList (Json.printNumber (.int n))) = .ok w ∧
      w.IsAt kind u ∧ unit.IsFloor u t := by
  obtain ⟨u, hnoLeap, hu⟩ := exists_isFloor unit ht
  have hfloor : unit.IsFloor u t := isFloor_of_epochNanos hnoLeap hu
  have hdate : kind = .localDate → u = .atMidnight u.date := by
    rintro rfl
    rw [hv.eq_atMidnight] at hfloor
    rw [hfloor.eq_of_onGrid (onGrid_atMidnight unit t.date)]
    rfl
  obtain ⟨w, hw⟩ := Value.IsAt.exists_of_isTemporal hkind hdate
  refine ⟨unit.count t, w, u, ?_, ?_, hw, hfloor⟩
  · rw [DateConverter.write, hv.utc]
    simp only [List.head?_cons, Option.bind_some, write?_form ht]
    rfl
  · have hnumeral : Text.IsNumeral (Text.signedDigits (unit.count t)) (unit.count t) :=
      Text.signed?_eq_some_iff.mp (Text.signed?_signedDigits _)
    refine read_form_eq_ok_iff.mpr ⟨unit.count t, u, ?_, ⟨hnoLeap, hu⟩, hw.value⟩
    rw [String.toList_ofList]
    exact hnumeral

/-- A text of a document, and a number by the text that it is printed as, are read by the converter
of their property. -/
theorem reader_converted {j : Json} (hj : j = .string s ∨
      ∃ m, j = .number m ∧ s = String.ofList (Json.printNumber m))
    {c : DateConverter} {p : Property} (hp : p.converter = some (.dates c)) (family : Family)
    (entity : String) (hkind : DateForm.IsTemporal kind) :
    Conversion.reader family j entity p kind =
      .done ((c.read s).mapError (Conversion.fault entity p j.print)) := by
  have hleaf : Conversion.readLeaf entity p kind j =
      (c.read s).mapError (Conversion.fault entity p j.print) := by
    have hread : c.read s = (PropertyConverter.dates c).toConverter.read s := rfl
    rcases hj with rfl | ⟨m, rfl, rfl⟩
    · simp only [Conversion.readLeaf, hp, hread]
      cases (PropertyConverter.dates c).toConverter.read s with
      | ok v => rfl
      | error e => rfl
    · simp only [Conversion.readLeaf, hp, hread]
      cases (PropertyConverter.dates c).toConverter.read (String.ofList (Json.printNumber m)) with
      | ok v => rfl
      | error e => rfl
  -- No kind of points in time is a list, so the value is read as a whole.
  rw [← hleaf]
  rcases hj with rfl | ⟨m, rfl, -⟩
  · rcases hkind with rfl | rfl | rfl
    · rfl
    · rfl
    · rfl
  · rcases hkind with rfl | rfl | rfl
    · rfl
    · rfl
    · rfl

/-- The converter of an epoch format writes the number of units of a value, rounded towards the
past, and reads it as the last value on the grid that is not after the written one: the value itself
if it is a date or on the grid. The texts that it reads are the numerals of numbers with a date-time,
each as the value at the date-time so many units after 1970; it refuses all others. A document may
hold the text as it is or as the number. -/
theorem exists_converter (unit : EpochUnit) (hkind : DateForm.IsTemporal kind) :
    ∃ c, DateConverter.build kind [unit.format] [] = .ok (some c) ∧
      (∀ v t, v.IsAt kind t → t.time.isLeapSecond = false →
        ∃ n w u, c.write v = .ok (String.ofList (Json.printNumber (.int n))) ∧
          c.read (String.ofList (Json.printNumber (.int n))) = .ok w ∧ w.IsAt kind u ∧
          unit.IsFloor u t ∧ (kind = .localDate ∨ unit.OnGrid t → w = v)) ∧
      (∀ s v, c.read s = .ok v ↔ ∃ n u, Text.IsNumeral s.toList n ∧
        (u.time.isLeapSecond = false ∧ u.epochNanos = n * unit.nanos) ∧
        DateForm.valueAt? u kind = some v) ∧
      (∀ s, (∃ e, c.read s = .error e) ↔ ∀ n, Text.IsNumeral s.toList n →
        n * unit.nanos < DateTime.first.epochNanos ∨ DateTime.last.epochNanos < n * unit.nanos) ∧
      ∀ s j, (j = .string s ∨ ∃ m, j = .number m ∧ s = String.ofList (Json.printNumber m)) →
        ∀ family entity p, p.converter = some (.dates c) →
          Conversion.reader family j entity p kind =
            .done ((c.read s).mapError (Conversion.fault entity p j.print)) := by
  refine ⟨_, build_format unit kind, ?_, ?_, fun s => read_form_eq_error_iff hkind, ?_⟩
  · intro v t hv ht
    obtain ⟨n, w, u, hwrite, hread, hw, hfloor⟩ := exists_write_read unit hkind hv ht
    refine ⟨n, w, u, hwrite, hread, hw, hfloor, fun hexact => ?_⟩
    have hgrid : unit.OnGrid t := by
      rcases hexact with rfl | hgrid
      · rw [hv.eq_atMidnight]
        exact onGrid_atMidnight unit t.date
      · exact hgrid
    rw [hfloor.eq_of_onGrid hgrid] at hw
    exact hw.unique hv
  · intro s v
    exact read_form_eq_ok_iff
  · intro s j hj family entity p hp
    exact reader_converted hj hp family entity hkind

/-- One and a half milliseconds before 1970. -/
def beforeEpoch : DateTime where
  date := ⟨1969, 12, 31, by decide, Date.last.month_range, by decide⟩
  time := ⟨23, 59, 59, 998500000, Time.last.hour_range, Time.last.minute_range,
    Time.last.second_range, .inl (by decide)⟩

theorem exists_converter_beforeEpoch :
    ∃ c, DateConverter.build .instant [.epochMillis] [] = .ok (some c) ∧
      c.write (.instant beforeEpoch) = .ok "-2" ∧
      ∃ w u, c.read "-2" = .ok w ∧ w.IsAt .instant u ∧ millis.IsFloor u beforeEpoch := by
  obtain ⟨c, hbuild, hwritten, -⟩ := exists_converter .millis (.inr (.inr rfl))
  obtain ⟨n, w, u, hwrite, hread, hw, hfloor, -⟩ :=
    hwritten _ _ (.instant beforeEpoch) (by decide)
  have htext : c.write (.instant beforeEpoch) = .ok "-2" := by
    cases hbuild
    decide
  rw [← Except.ok.inj (htext.symm.trans hwrite)] at hread
  exact ⟨c, hbuild, htext, w, u, hread, hw, hfloor⟩

example : DateForm.epochSecond.read? "8210266876800" .localDate = none := by
  decide

end EpochUnit

end ObjectDocument
