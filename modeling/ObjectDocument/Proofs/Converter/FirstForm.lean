import ObjectDocument.Proofs.Converter.Dates
import ObjectDocument.Proofs.Converter.Printing
import ObjectDocument.Proofs.Converter.Reading

/-!
# The first form of a date converter

A date converter writes with its first form and reads with all of them in turn. Main statement: a
later form has a say in what a text is read as only if the first form cannot read it. The epoch
forms and the patterns that show a whole date in full width read all that they write, as a value of
the same date; a pattern without a whole date reads nothing.
-/

namespace ObjectDocument

open Calendar

namespace Calendar

/-! ## Dates in full width -/

/-- Pieces of a pattern that shows the date in full: each run of letters gives a part in full, no part
is given twice, and year, month and day are among them. -/
structure ShowsDate (ts : List Token) : Prop where
  isFull : ∀ tk ∈ ts, tk.isFull = true
  nodup : (parts ts).Nodup
  year : .year ∈ parts ts
  month : .month ∈ parts ts
  day : .day ∈ parts ts

instance (ts : List Token) : Decidable (ShowsDate ts) :=
  decidable_of_iff ((∀ tk ∈ ts, tk.isFull = true) ∧ (parts ts).Nodup ∧ .year ∈ parts ts ∧
      .month ∈ parts ts ∧ .day ∈ parts ts)
    ⟨fun ⟨hfull, hnodup, hyear, hmonth, hday⟩ => ⟨hfull, hnodup, hyear, hmonth, hday⟩,
      fun h => ⟨h.isFull, h.nodup, h.year, h.month, h.day⟩⟩

/-- The number of digits of the fraction of a pattern, if it has one. -/
def fractionDigits (ts : List Token) : Nat :=
  (ts.findSome? Token.digits?).getD 9

variable {ts : List Token}

theorem fractionDigits_eq {tk : Token} {digits : Nat} (hnodup : (parts ts).Nodup) (htk : tk ∈ ts)
    (hdigits : tk.digits? = some digits) : fractionDigits ts = digits := by
  have hprecision : precision ts = .fraction digits := precision_eq_fraction hnodup htk hdigits
  rw [precision] at hprecision
  cases hfind : ts.findSome? Token.digits? with
  | none =>
      rw [List.findSome?_eq_none_iff.mp hfind tk htk] at hdigits
      cases hdigits
  | some count =>
      rw [hfind] at hprecision
      cases hprecision
      rw [fractionDigits, hfind, Option.getD_some]

/-- All items are shown at the precision of the fraction, also where larger parts of the time are
missing. -/
theorem shownAt_fractionDigits (h : ShowsDate ts) {tk : Token} (htk : tk ∈ ts) {i : Item}
    (hi : Pattern.item tk = .ok i) : i.ShownAt (.fraction (fractionDigits ts)) := by
  cases tk with
  | char c =>
      cases hi
      trivial
  | run letter count =>
      obtain ⟨part, hpart⟩ := Option.isSome_iff_exists.mp (h.isFull _ htk)
      obtain ⟨c, rfl, hc⟩ := exists_component hi
      have hitem : (Item.component c).part? = some part := (part?_eq_ofRun? hc).trans hpart
      refine shownAt_component hitem (fun _ => by simp) (fun _ => .inr ⟨_, rfl⟩) ?_
      rintro digits rfl
      obtain ⟨rfl, hdigits⟩ := digits_of_ofRun? hc
      have hfraction : Part.ofRun? letter count = some .fraction := (part?_eq_ofRun? hc).symm
      have hcount : Token.digits? (.run letter count) = some count := by
        rw [Token.digits?, if_pos hfraction]
      exact ⟨congrArg Precision.fraction (fractionDigits_eq h.nodup htk hcount), hdigits⟩

end Calendar

variable {t : DateTime} {kind : Kind}

/-- A pattern that shows the date in full gives the date back. -/
theorem Pattern.exists_read?_print {source : String} {p : Pattern}
    (hp : Pattern.compile source = .ok p) (h : ShowsDate (tokens .plain source.toList).1)
    (hyear : 0 ≤ t.date.year ∧ t.date.year ≤ 9999) (hleap : t.time.isLeapSecond = false) :
    ∃ f, p.read? (p.print t) = some f ∧ f.toDate? = some t.date ∧ ∀ o ∈ f.offset, o = 0 := by
  have hshown : ∀ i ∈ p.items,
      i.ShownAt (.fraction (fractionDigits (tokens .plain source.toList).1)) := by
    obtain ⟨items, hitems, hp⟩ := Pattern.compile_eq_ok hp
    rw [hp]
    refine shownAt_joinDots fun i hi => ?_
    obtain ⟨tk, htk, hitem⟩ := exists_mem_of_mapM_eq_ok hitems hi
    exact shownAt_fractionDigits h htk hitem
  refine ⟨_, read?_print_truncate hshown hleap hyear, ?_, ?_⟩
  · rw [parts_of_compile hp, Fields.toDate?_giving h.year h.month h.day]
    rfl
  · intro o ho
    simp only [Fields.giving, Option.mem_def, Option.ite_none_right_eq_some] at ho
    exact (Option.some.inj ho.2).symm

/-! ## Forms that read what they write -/

namespace DateForm

/-- Whether a form reads what it writes of a date-time, as a value of the same date. -/
def KeepsDate (kind : Kind) (t : DateTime) (form : DateForm) : Prop :=
  ∃ s v u, form.write? t = some s ∧ form.read? s kind = some v ∧
    DateConverter.utc? v = some u ∧ u.date = t.date

/-- Forms that show the date of a date-time: the epoch forms, and patterns that show it in full. The
year has to fit into the four digits of a pattern, and only whole seconds may lie in a leap
second. -/
inductive ShowsDate (t : DateTime) : DateForm → Prop where
  | epochSecond : ShowsDate t .epochSecond
  | epochMillis (hleap : t.time.isLeapSecond = false) : ShowsDate t .epochMillis
  | pattern {source : String} {p : Pattern} (hp : Pattern.compile source = .ok p)
    (htokens : Calendar.ShowsDate (tokens .plain source.toList).1)
    (hyear : 0 ≤ t.date.year ∧ t.date.year ≤ 9999) (hleap : t.time.isLeapSecond = false) :
    ShowsDate t (.pattern p)
  | lenient {p : Pattern} {ps : List Pattern} (hp : ShowsDate t (.pattern p)) :
    ShowsDate t (.lenient (p :: ps))

/-- The kinds of points in time. -/
def IsTemporal (kind : Kind) : Prop :=
  kind = .localDate ∨ kind = .localDateTime ∨ kind = .instant

theorem exists_valueAt? (hkind : IsTemporal kind) (t : DateTime) :
    ∃ v u, valueAt? t kind = some v ∧ DateConverter.utc? v = some u ∧ u.date = t.date := by
  rcases hkind with rfl | rfl | rfl
  · exact ⟨_, _, rfl, rfl, rfl⟩
  · exact ⟨_, _, rfl, rfl, rfl⟩
  · exact ⟨_, _, rfl, rfl, rfl⟩

theorem keepsDate_epochSecond (hkind : IsTemporal kind) : KeepsDate kind t .epochSecond := by
  have hrange := t.epochSeconds_range
  obtain ⟨n, hn, htoInt⟩ := Text.exists_parseInt64? (n := t.epochSeconds) (by omega) (by omega)
  have hepoch : DateTime.ofEpoch? n.toInt 0 = some (t.truncate .second) := by
    rw [htoInt]
    exact DateTime.ofEpoch?_eq_some_iff.mpr ⟨rfl, rfl⟩
  obtain ⟨v, u, hv, hu, hdate⟩ := exists_valueAt? hkind (t.truncate .second)
  refine ⟨_, v, u, rfl, ?_, hu, hdate⟩
  simp only [read?, hn, Option.bind_some, hepoch, hv]

theorem keepsDate_epochMillis (hkind : IsTemporal kind) (hleap : t.time.isLeapSecond = false) :
    KeepsDate kind t .epochMillis := by
  have hrange := t.epochSeconds_range
  have hnanos : t.time.nanos < nanosPerSecond := Time.nanos_lt hleap
  have hmillis : t.epochMillis = t.epochSeconds * 1000 + (t.time.nanos / 1000000 : Nat) := rfl
  -- The milliseconds of a leap second would count to the second after it.
  have hlt : t.time.nanos / 1000000 < 1000 := by
    rw [nanosPerSecond] at hnanos
    omega
  obtain ⟨n, hn, htoInt⟩ := Text.exists_parseInt64? (n := t.epochMillis) (by omega) (by omega)
  have hepoch : DateTime.ofEpochMillis? n.toInt = some (t.truncate (.fraction 3)) := by
    have hseconds : t.epochMillis / 1000 = t.epochSeconds := by omega
    have hrest : (t.epochMillis % 1000).toNat = t.time.nanos / 1000000 := by omega
    rw [htoInt, DateTime.ofEpochMillis?, hseconds, hrest]
    exact DateTime.ofEpoch?_eq_some_iff.mpr ⟨rfl, rfl⟩
  obtain ⟨v, u, hv, hu, hdate⟩ := exists_valueAt? hkind (t.truncate (.fraction 3))
  refine ⟨_, v, u, rfl, ?_, hu, hdate⟩
  simp only [read?, hn, Option.bind_some, hepoch, hv]

theorem keepsDate_pattern (hkind : IsTemporal kind) {source : String} {p : Pattern}
    (hp : Pattern.compile source = .ok p)
    (htokens : Calendar.ShowsDate (tokens .plain source.toList).1)
    (hyear : 0 ≤ t.date.year ∧ t.date.year ≤ 9999) (hleap : t.time.isLeapSecond = false) :
    KeepsDate kind t (.pattern p) := by
  obtain ⟨f, hf, hdate, hoffset⟩ := Pattern.exists_read?_print hp htokens hyear hleap
  have hrange : f.InRange := Pattern.inRange_read? hf
  obtain ⟨u, hu⟩ := Fields.exists_toDateTime? hdate
  have hsame : u.date = t.date := by
    obtain ⟨hhas, hresolves⟩ := (Fields.toDateTime?_eq_some_iff hrange).mp hu
    have heq := (Fields.toDate?_eq_some_iff hrange).mpr ⟨hhas, hresolves.saysDate hoffset⟩
    exact Option.some.inj (heq.symm.trans hdate)
  have hread : ∃ v u, valueOf? f kind = some v ∧ DateConverter.utc? v = some u ∧
      u.date = t.date := by
    rcases hkind with rfl | rfl | rfl
    · exact ⟨.date t.date, .atMidnight t.date, by simp [valueOf?, hdate], rfl, rfl⟩
    · exact ⟨.dateTime u, u, by simp [valueOf?, hu, valueAt?], rfl, hsame⟩
    · exact ⟨.instant u, u, by simp [valueOf?, hu, valueAt?], rfl, hsame⟩
  obtain ⟨v, u, hv, hu, hsame⟩ := hread
  refine ⟨_, v, u, rfl, ?_, hu, hsame⟩
  rw [read?, readPattern?, hf, Option.bind_some, hv]

theorem keepsDate_lenient {p : Pattern} {ps : List Pattern}
    (h : KeepsDate kind t (.pattern p)) : KeepsDate kind t (.lenient (p :: ps)) := by
  obtain ⟨s, v, u, hs, hv, hu, hdate⟩ := h
  refine ⟨s, v, u, hs, ?_, hu, hdate⟩
  rw [read?, List.findSome?_cons, show readPattern? s kind p = some v from hv]

/-- A form that shows the date of a date-time reads what it writes of it. -/
theorem ShowsDate.keepsDate {form : DateForm} (h : form.ShowsDate t) (hkind : IsTemporal kind) :
    KeepsDate kind t form := by
  induction h with
  | epochSecond => exact keepsDate_epochSecond hkind
  | epochMillis hleap => exact keepsDate_epochMillis hkind hleap
  | pattern hp htokens hyear hleap => exact keepsDate_pattern hkind hp htokens hyear hleap
  | lenient hp ih => exact keepsDate_lenient ih

/-- A pattern without a whole date reads no text. -/
theorem read?_eq_none {p : Pattern} (hp : ¬p.HasDate) (s : String) :
    (DateForm.pattern p).read? s kind = none := by
  rw [read?, readPattern?]
  cases hf : p.read? s with
  | none => rfl
  | some f =>
      have hrange : f.InRange := Pattern.inRange_read? hf
      have hhas : ¬f.HasDate := fun h => hp ((Pattern.hasDate_iff hf).mp h)
      have hdate : f.toDate? = none := Option.eq_none_iff_forall_ne_some.mpr fun d hd =>
        hhas ((Fields.toDate?_eq_some_iff hrange).mp hd).1
      have hdateTime : f.toDateTime? = none := Option.eq_none_iff_forall_ne_some.mpr fun t ht =>
        hhas ((Fields.toDateTime?_eq_some_iff hrange).mp ht).1
      rw [Option.bind_some]
      unfold valueOf?
      split
      · rw [hdate]
        rfl
      · rw [hdateTime]
        rfl

/-- The pattern of a named format shows the date in full, or else it has no whole date. -/
theorem showsDate_or_of_pattern? {format : DateFormat} {source : String} {p : Pattern}
    (hsource : format.pattern? = some source) (hp : Pattern.compile source = .ok p) :
    Calendar.ShowsDate (tokens .plain source.toList).1 ∨ ¬p.HasDate := by
  cases format
  all_goals cases hsource
  all_goals obtain rfl := Except.ok.inj hp
  all_goals decide

theorem compile_eq_ok {source : String} {p : Pattern} (h : compile source = .ok p) :
    Pattern.compile source = .ok p := by
  rw [compile] at h
  split at h
  next hp =>
    cases h
    exact hp
  next => cases h

/-- The form of a named format shows the date, or else it is a pattern without a whole date. -/
theorem showsDate_or_of_ofFormat {format : DateFormat} {form : DateForm}
    (h : ofFormat format = .ok (some form)) (hyear : 0 ≤ t.date.year ∧ t.date.year ≤ 9999)
    (hleap : t.time.isLeapSecond = false) :
    form.ShowsDate t ∨ ∃ p, form = .pattern p ∧ ¬p.HasDate := by
  unfold ofFormat at h
  split at h
  · cases h
    exact .inl (.epochMillis hleap)
  · cases h
    exact .inl .epochSecond
  · obtain ⟨ps, hps, hform⟩ := map_eq_ok_iff.mp h
    cases hform
    -- The first pattern of the lenient form writes, and it is also the first to read.
    rw [optionalTimePatterns, mapM_cons_eq_ok_iff] at hps
    obtain ⟨p, rest, hp, -, rfl⟩ := hps
    exact .inl (.lenient (.pattern (compile_eq_ok hp) (by decide) hyear hleap))
  · split at h
    next source hsource =>
      obtain ⟨p, hp, hform⟩ := map_eq_ok_iff.mp h
      cases hform
      rcases showsDate_or_of_pattern? hsource (compile_eq_ok hp) with htokens | hdateless
      · exact .inl (.pattern (compile_eq_ok hp) htokens hyear hleap)
      · exact .inr ⟨p, rfl, hdateless⟩
    next => cases h

end DateForm

/-! ## Values of a kind -/

/-- A value of a kind of points in time that stands for a date-time in UTC: a date for its
midnight, and the others for themselves. -/
structure Value.IsAt (v : Value) (kind : Kind) (t : DateTime) : Prop where
  utc : DateConverter.utc? v = some t
  value : DateForm.valueAt? t kind = some v

namespace Value.IsAt

variable {v w : Value}

theorem unique (hv : v.IsAt kind t) (hw : w.IsAt kind t) : v = w :=
  Option.some.inj (hv.value.symm.trans hw.value)

/-- A date stands for its midnight. -/
theorem eq_atMidnight (hv : v.IsAt .localDate t) : t = .atMidnight t.date := by
  obtain ⟨hutc, hvalue⟩ := hv
  cases hvalue
  exact (Option.some.inj hutc).symm

theorem date (d : Date) : Value.IsAt (.date d) .localDate (.atMidnight d) :=
  ⟨rfl, rfl⟩

theorem dateTime (t : DateTime) : Value.IsAt (.dateTime t) .localDateTime t :=
  ⟨rfl, rfl⟩

theorem instant (t : DateTime) : Value.IsAt (.instant t) .instant t :=
  ⟨rfl, rfl⟩

/-- Every date-time has its value of a kind, a date only midnight. -/
theorem exists_of_isTemporal (hkind : DateForm.IsTemporal kind)
    (hdate : kind = .localDate → t = .atMidnight t.date) : ∃ v : Value, v.IsAt kind t := by
  rcases hkind with rfl | rfl | rfl
  · rw [hdate rfl]
    exact ⟨_, date t.date⟩
  · exact ⟨_, dateTime t⟩
  · exact ⟨_, instant t⟩

end Value.IsAt

/-! ## The first form and the others -/

namespace DateConverter

variable {c : DateConverter} {s : String} {v w : Value}

/-- The converter with the first form alone. -/
def first (c : DateConverter) : DateConverter :=
  { c with forms := c.forms.take 1 }

/-- The converter without the first form. -/
def later (c : DateConverter) : DateConverter :=
  { c with forms := c.forms.drop 1 }

/-- Whether no form of a converter can read a text. -/
def Refuses (c : DateConverter) (s : String) : Prop :=
  ∀ w, c.read s ≠ .ok w

theorem read_eq_ok_iff :
    c.read s = .ok w ↔ c.forms.findSome? (DateForm.read? s c.kind) = some w := by
  rw [read]
  cases c.forms.findSome? (DateForm.read? s c.kind) with
  | none => simp
  | some v => simp

/-- A text is read with the first form, or with the later ones if the first cannot read it. -/
theorem read_eq_ok_iff_first :
    c.read s = .ok w ↔ c.first.read s = .ok w ∨ (c.first.Refuses s ∧ c.later.read s = .ok w) := by
  unfold Refuses
  simp only [ne_eq, read_eq_ok_iff]
  obtain ⟨kind, forms⟩ := c
  cases forms with
  | nil => simp [first, later]
  | cons form forms =>
      simp only [first, later, List.take_succ_cons, List.take_zero, List.drop_succ_cons,
        List.drop_zero, List.findSome?_cons]
      cases hform : form.read? s kind with
      | none => simp
      | some v => simp

/-- The later forms change nothing just if the first form reads the text or none of them does. -/
theorem agrees_first_iff : (∀ w, c.read s = .ok w ↔ c.first.read s = .ok w) ↔
    ¬c.first.Refuses s ∨ c.later.Refuses s := by
  constructor
  · intro hagrees
    by_cases hrefuses : c.first.Refuses s
    · right
      intro w hw
      exact hrefuses w ((hagrees w).mp (read_eq_ok_iff_first.mpr (.inr ⟨hrefuses, hw⟩)))
    · exact .inl hrefuses
  · intro hcases w
    rw [read_eq_ok_iff_first]
    constructor
    · rintro (hfirst | ⟨hrefuses, hlater⟩)
      · exact hfirst
      · rcases hcases with hreads | hnone
        · exact absurd hrefuses hreads
        · exact absurd hlater (hnone w)
    · exact .inl

theorem kind_of_build {kind : Kind} {formats : List DateFormat} {patterns : List String}
    (h : build kind formats patterns = .ok (some c)) : c.kind = kind := by
  obtain ⟨named, -, h⟩ := bind_eq_ok.mp h
  obtain ⟨custom, -, h⟩ := bind_eq_ok.mp h
  split at h
  · cases h
  · cases h
    rfl

/-- A text that a converter writes is read with the first form, or with the later ones if the first
cannot read it. If the first form shows the date of the value, it gives a value of that date back; if
it is a pattern without a whole date, it reads nothing. A named format is of one sort or the other. -/
theorem read_written {kind : Kind} {formats : List DateFormat} {patterns : List String}
    (hbuild : build kind formats patterns = .ok (some c)) (hkind : DateForm.IsTemporal kind)
    {t : DateTime} (hv : utc? v = some t) (hs : c.write v = .ok s) :
    (∀ w, c.read s = .ok w ↔ c.first.read s = .ok w ∨
      (c.first.Refuses s ∧ c.later.read s = .ok w)) ∧
    ((∀ w, c.read s = .ok w ↔ c.first.read s = .ok w) ↔
      ¬c.first.Refuses s ∨ c.later.Refuses s) ∧
    ∃ form, c.forms.head? = some form ∧
      (form.ShowsDate t → ∃ w u, c.first.read s = .ok w ∧ utc? w = some u ∧ u.date = t.date) ∧
      (∀ p, form = .pattern p → ¬p.HasDate → c.first.Refuses s) ∧
      ∀ format, DateForm.ofFormat format = .ok (some form) →
        0 ≤ t.date.year ∧ t.date.year ≤ 9999 → t.time.isLeapSecond = false →
        form.ShowsDate t ∨ ∃ p, form = .pattern p ∧ ¬p.HasDate := by
  refine ⟨fun w => read_eq_ok_iff_first, agrees_first_iff, ?_⟩
  obtain ⟨ckind, forms⟩ := c
  obtain rfl : ckind = kind := kind_of_build hbuild
  cases forms with
  | nil => exact absurd rfl (forms_of_build hbuild).1
  | cons form forms =>
      have hwrite : form.write? t = some s := by
        rw [write, hv] at hs
        simp only [List.head?_cons, Option.bind_some] at hs
        split at hs
        next text htext =>
          cases hs
          exact htext
        next => cases hs
      refine ⟨form, rfl, ?_, ?_, fun format => DateForm.showsDate_or_of_ofFormat⟩
      · intro hshows
        obtain ⟨text, w, u, htext, hw, hu, hdate⟩ := hshows.keepsDate hkind
        obtain rfl := Option.some.inj (hwrite.symm.trans htext)
        refine ⟨w, u, read_eq_ok_iff.mpr ?_, hu, hdate⟩
        simp [first, hw]
      · rintro p rfl hp w hw
        rw [read_eq_ok_iff] at hw
        simp [first, DateForm.read?_eq_none hp] at hw

/-- The converter of dates with year, month and day, followed by milliseconds. -/
def dateThenMillis : DateConverter where
  kind := .localDate
  forms := [.pattern ⟨"uuuu-MM-dd", [.component .year, .literal '-', .component (.month true),
    .literal '-', .component (.day true)]⟩, .epochMillis]

theorem read_written_date : dateThenMillis.write (.date DateForm.sampleDate) = .ok "2020-02-29" ∧
    ∃ w u, dateThenMillis.read "2020-02-29" = .ok w ∧ utc? w = some u ∧
      u.date = DateForm.sampleDate := by
  have hbuild : build .localDate [.date, .epochMillis] [] = .ok (some dateThenMillis) := rfl
  have hutc : utc? (.date DateForm.sampleDate) = some (.atMidnight DateForm.sampleDate) := rfl
  have hwrite : dateThenMillis.write (.date DateForm.sampleDate) = .ok "2020-02-29" := rfl
  obtain ⟨hread, -, form, hform, hshows, -⟩ := read_written hbuild (.inl rfl) hutc hwrite
  cases hform
  have htokens : Calendar.ShowsDate (tokens .plain "uuuu-MM-dd".toList).1 := by decide
  obtain ⟨w, u, hw, hu, hdate⟩ := hshows (.pattern rfl htokens (by decide) rfl)
  exact ⟨hwrite, w, u, (hread w).mpr (.inl hw), hu, hdate⟩

/-- The converter of years, followed by milliseconds. -/
def yearThenMillis : DateConverter where
  kind := .localDate
  forms := [.pattern ⟨"uuuu", [.component .year]⟩, .epochMillis]

/-- A date of which the first form writes the year alone is read as milliseconds. -/
theorem not_agrees_first_year :
    build .localDate [.year, .epochMillis] [] = .ok (some yearThenMillis) ∧
    yearThenMillis.write (.date DateForm.sampleDate) = .ok "2020" ∧
    yearThenMillis.read "2020" = .ok (.date .epoch) ∧
    ¬∀ w, yearThenMillis.read "2020" = .ok w ↔ yearThenMillis.first.read "2020" = .ok w := by
  refine ⟨rfl, rfl, rfl, ?_⟩
  intro hagrees
  cases (hagrees (.date .epoch)).mp rfl

end DateConverter

end ObjectDocument
