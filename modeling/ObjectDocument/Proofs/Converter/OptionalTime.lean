import ObjectDocument.Proofs.Calendar.Layout
import ObjectDocument.Proofs.Calendar.Range
import ObjectDocument.Proofs.Converter.FirstForm

/-!
# Dates with an optional time

The format of dates with an optional time is read with several patterns, one after another. Main
statement: a text is read as the date-time that it shows, less its offset, if it has no fraction or
one of three digits, or of six or nine digits in front of an offset. A fraction of another number of
digits is refused. The patterns overlap, but those that read a text agree on it.
-/

namespace ObjectDocument

open Calendar

variable {kind : Kind} {t u : DateTime} {d : Date} {v : Value} {fraction : Option Nat} {zone : Zone}

/-! ## The patterns -/

/-- The layouts down to the second, in the order in which they are tried. -/
def optionalLayouts : List Layout :=
  [⟨some 3, true⟩, ⟨some 6, true⟩, ⟨some 9, true⟩, ⟨none, true⟩, ⟨some 3, false⟩, ⟨none, false⟩]

/-- The numbers of digits that a fraction may have in front of an offset, or without one. -/
def Calendar.Zone.fractions : Zone → List (Option Nat)
  | absent => [none, some 3]
  | _ => [none, some 3, some 6, some 9]

theorem exists_reads_iff :
    (∃ l ∈ optionalLayouts, l.Reads fraction zone) ↔ fraction ∈ zone.fractions := by
  have hreads : (∃ l ∈ optionalLayouts, l.Reads fraction zone) ↔
      (fraction = none ∨ fraction = some 3) ∨
        ((fraction = some 6 ∨ fraction = some 9) ∧ zone.isGiven = true) := by
    simp only [optionalLayouts, Layout.Reads, List.exists_mem_cons_iff, List.not_mem_nil]
    cases zone.isGiven with
    | false => simp; tauto
    | true => simp; tauto
  rw [hreads]
  cases zone with
  | absent => simp [Zone.isGiven, Zone.fractions]
  | _ => simp [Zone.isGiven, Zone.fractions, or_assoc]

/-- The patterns of the format are the layouts, then the minute and the date alone. -/
theorem exists_lenient (kind : Kind) :
    ∃ ps, DateConverter.build kind [.dateOptionalTime] [] = .ok (some ⟨kind, [.lenient ps]⟩) ∧
      ps.map Pattern.items = optionalLayouts.map Layout.items ++ [minuteItems, dateItems] :=
  ⟨_, rfl, rfl⟩

/-! ## Values of texts -/

/-- The value of a text that shows a date and stands for a date-time in UTC, by its kind. -/
def textValue? (d : Date) (t : DateTime) : Kind → Option Value
  | .localDate => some (.date d)
  | kind => DateForm.valueAt? t kind

theorem exists_textValue? (hkind : DateForm.IsTemporal kind) (d : Date) (t : DateTime) :
    ∃ v, textValue? d t kind = some v := by
  rcases hkind with rfl | rfl | rfl
  · exact ⟨_, rfl⟩
  · exact ⟨_, rfl⟩
  · exact ⟨_, rfl⟩

theorem valueOf?_eq_textValue? {f : Fields} (hd : f.toDate? = some d)
    (ht : f.toDateTime? = some t) : DateForm.valueOf? f kind = textValue? d t kind := by
  cases kind with
  | localDate => rw [DateForm.valueOf?, hd]; rfl
  | _ => simp [DateForm.valueOf?, textValue?, ht]

theorem Value.IsAt.textValue? (hv : v.IsAt kind t) : textValue? t.date t kind = some v := by
  cases kind with
  | localDate => exact hv.value
  | _ => exact hv.value

/-! ## Trying the patterns in turn -/

/-- The value of a whole text that is read with items. -/
def readAs (kind : Kind) (cs : List Char) (items : List Item) : Option Value :=
  (readWhole items {} cs).bind fun f => DateForm.valueOf? f kind

theorem read?_lenient (ps : List Pattern) (cs : List Char) (kind : Kind) :
    (DateForm.lenient ps).read? (String.ofList cs) kind =
      (ps.map Pattern.items).findSome? (readAs kind cs) := by
  rw [List.findSome?_map, DateForm.read?]
  congr 1
  funext p
  rw [DateForm.readPattern?, Pattern.read?, String.toList_ofList]
  rfl

/-- Tries that agree where they succeed succeed together if one of them does. -/
theorem findSome?_ite {α β : Type} (l : List α) (P : α → Prop) [DecidablePred P] (b : β) :
    (l.findSome? fun a => if P a then some b else none) =
      if ∃ a ∈ l, P a then some b else none := by
  induction l with
  | nil => simp
  | cons a l ih =>
      by_cases ha : P a
      · simp [ha]
      · simp [ha, ih]

/-- The value of a text down to the second is the same in all layouts that read it. -/
theorem findSome?_layoutText (h : ShowsFraction t.time fraction) (hu : u.IsEarlier zone.seconds t)
    (hv : textValue? t.date u kind = some v) :
    (optionalLayouts.map Layout.items ++ [minuteItems, dateItems]).findSome?
        (readAs kind (layoutText t fraction zone)) =
      if fraction ∈ zone.fractions then some v else none := by
  have hvalue : DateForm.valueOf? (layoutFields t fraction zone) kind = some v := by
    rw [valueOf?_eq_textValue? toDate?_layoutFields (toDateTime?_layoutFields h hu), hv]
  have hlayout : readAs kind (layoutText t fraction zone) ∘ Layout.items =
      fun l : Layout => if l.Reads fraction zone then some v else none := by
    funext l
    rw [Function.comp_apply, readAs, readWhole_layout l h]
    split
    · exact hvalue
    · rfl
  have hminute : readAs kind (layoutText t fraction zone) minuteItems = none := by
    rw [readAs, readWhole_minuteItems_layoutText, Option.bind_none]
  have hdate : readAs kind (layoutText t fraction zone) dateItems = none := by
    rw [readAs, readWhole_dateItems_layoutText, Option.bind_none]
  rw [List.findSome?_append, List.findSome?_map, hlayout, findSome?_ite, List.findSome?_cons,
    hminute, List.findSome?_cons, hdate, List.findSome?_nil, Option.or_none]
  simp only [exists_reads_iff]

theorem findSome?_layouts_eq_none {cs : List Char}
    (h : ∀ l : Layout, readWhole l.items {} cs = none) :
    (optionalLayouts.map Layout.items).findSome? (readAs kind cs) = none := by
  rw [List.findSome?_map, List.findSome?_eq_none_iff]
  intro l hl
  rw [Function.comp_apply, readAs, h l, Option.bind_none]

theorem findSome?_minuteText (hv : textValue? t.date (t.truncate .minute) kind = some v) :
    (optionalLayouts.map Layout.items ++ [minuteItems, dateItems]).findSome?
      (readAs kind (minuteText t)) = some v := by
  have hfields : Fields.giving t [.year, .month, .day, .hour, .minute] =
      Fields.giving (t.truncate .minute) [.year, .month, .day, .hour, .minute] := rfl
  have hminute : readAs kind (minuteText t) minuteItems = some v := by
    rw [readAs, readWhole_minuteItems, Option.bind_some, ← hv]
    refine valueOf?_eq_textValue? (Fields.toDate?_giving (by simp) (by simp) (by simp)) ?_
    rw [hfields]
    exact Fields.toDateTime?_giving (complete_minute t)
  rw [List.findSome?_append, findSome?_layouts_eq_none readWhole_layout_minuteText,
    List.findSome?_cons, hminute]
  rfl

theorem findSome?_dateText (hv : textValue? d (.atMidnight d) kind = some v) :
    (optionalLayouts.map Layout.items ++ [minuteItems, dateItems]).findSome?
      (readAs kind (dateText d)) = some v := by
  have hminute : readAs kind (dateText d) minuteItems = none := by
    rw [readAs, minuteItems, readWhole_date_append, Option.bind_none]
  have hdate : readAs kind (dateText d) dateItems = some v := by
    rw [readAs, readWhole_dateItems, Option.bind_some, ← hv]
    exact valueOf?_eq_textValue? (Fields.toDate?_giving (by simp) (by simp) (by simp))
      (Fields.toDateTime?_giving (complete_date d))
  have hlayout : ∀ l : Layout, readWhole l.items {} (dateText d) = none := fun l =>
    readWhole_date_append 'T' (timeItems ++ l.tail)
  rw [List.findSome?_append, findSome?_layouts_eq_none hlayout, List.findSome?_cons, hminute,
    List.findSome?_cons, hdate]
  rfl

/-! ## The converter -/

namespace DateConverter

variable {ps : List Pattern}

/-- A converter reads a text that shows a date and stands for a date-time in UTC as the value of its
kind: dates as shown, and the others in UTC. -/
def ReadsAs (c : DateConverter) (cs : List Char) (d : Date) (t : DateTime) : Prop :=
  ∃ v, textValue? d t c.kind = some v ∧ c.read (String.ofList cs) = .ok v

theorem read_lenient_eq_ok_iff (cs : List Char)
    (hps : ps.map Pattern.items = optionalLayouts.map Layout.items ++ [minuteItems, dateItems]) :
    read ⟨kind, [.lenient ps]⟩ (String.ofList cs) = .ok v ↔
      (optionalLayouts.map Layout.items ++ [minuteItems, dateItems]).findSome? (readAs kind cs) =
        some v := by
  rw [read_eq_ok_iff, ← hps, ← read?_lenient]
  simp only [List.findSome?_cons, List.findSome?_nil]
  cases (DateForm.lenient ps).read? (String.ofList cs) kind with
  | none => rfl
  | some w => rfl

/-- A value is written with three digits of the fraction and the letter Z. -/
theorem write_lenient (hv : v.IsAt kind t)
    (hps : ps.map Pattern.items = optionalLayouts.map Layout.items ++ [minuteItems, dateItems]) :
    write ⟨kind, [.lenient ps]⟩ v = .ok (String.ofList (layoutText t (some 3) .zulu)) := by
  have hprint : (DateForm.lenient ps).write? t =
      (ps.map Pattern.items).head?.map fun items =>
        String.ofList (items.flatMap (Pattern.printItem t)) := by
    rw [List.head?_map, Option.map_map]
    rfl
  have htext : (Layout.items ⟨some 3, true⟩).flatMap (Pattern.printItem t) =
      layoutText t (some 3) .zulu := by
    simp [Layout.items, Layout.tail, zoneItems, layoutText, fractionText, Pattern.printItem,
      Pattern.printComponent, Pattern.printOffset, Zone.text]
  rw [write, hv.utc]
  simp only [List.head?_cons, Option.bind_some, hprint, hps]
  simp [optionalLayouts, htext]

end DateConverter

/-- A date-time of a year from 0 to 9999 can be shifted by every offset. -/
theorem exists_isEarlier (hyear : 0 ≤ t.date.year ∧ t.date.year ≤ 9999) (zone : Zone) :
    ∃ u : DateTime, u.IsEarlier zone.seconds t := by
  have hstart := daysBeforeYear_mono hyear.1
  have hend := daysBeforeYear_mono hyear.2
  have hordinal := t.date.ordinal_sub_one_lt
  have hlength : daysInYear t.date.year ≤ 366 := by
    rw [daysInYear]
    split
    · exact Nat.le_refl _
    · decide
  have hsecond := t.time.secondOfDay_lt
  have hleap := (DateTime.exists_epochSeconds_iff.mp ⟨t, rfl, rfl⟩).2
  have hseconds : t.epochSeconds =
      (daysBeforeYear t.date.year + (t.date.ordinal - 1 : Nat) - 719162) * 86400 +
        t.time.secondOfDay := rfl
  have hfirst : DateTime.first.epochSeconds < -100000000000 := by decide
  have hlast : 1000000000000 < DateTime.last.epochSeconds := by decide
  have hearliest : -1000 < daysBeforeYear 0 := by decide
  have hlatest : daysBeforeYear 9999 < 4000000 := by decide
  have hzone := zone.seconds_range
  obtain ⟨u, hu, hnanos⟩ := DateTime.exists_epochSeconds_iff.mpr
    (show (_ ≤ t.epochSeconds - zone.seconds ∧ t.epochSeconds - zone.seconds ≤ _) ∧
        (t.time.nanos < nanosPerSecond ∨ _) from
      ⟨⟨by omega, by omega⟩, hleap.imp id fun h => ⟨by omega, h.2⟩⟩)
  exact ⟨u, hu, hnanos⟩

namespace DateConverter

/-- Dates with an optional time are read from every text with an offset or without one, and with no
fraction or one of three digits, or of six or nine in front of an offset: a date as the text shows
it, a date-time or an instant less the offset. Other numbers of digits are refused. A date and a
minute alone are read as the start of what they show. Values are read back to the millisecond. -/
theorem reads_optional_time (hkind : DateForm.IsTemporal kind) :
    ∃ c, build kind [.dateOptionalTime] [] = .ok (some c) ∧
      (∀ (t : DateTime) (fraction : Option Nat) (zone : Zone),
        0 ≤ t.date.year ∧ t.date.year ≤ 9999 → ShowsFraction t.time fraction →
        (fraction ∈ zone.fractions → ∃ u : DateTime, u.IsEarlier zone.seconds t ∧
          c.ReadsAs (layoutText t fraction zone) t.date u) ∧
        (fraction ∉ [none, some 3, some 6, some 9] →
          c.Refuses (String.ofList (layoutText t fraction zone)))) ∧
      (∀ t : DateTime, c.ReadsAs (minuteText t) t.date (t.truncate .minute) ∧
        c.ReadsAs (dateText t.date) t.date (.atMidnight t.date)) ∧
      ∀ v t, v.IsAt kind t → t.time.nanos % 1000000 = 0 →
        ∃ s, c.write v = .ok s ∧ c.read s = .ok v := by
  obtain ⟨ps, hbuild, hps⟩ := exists_lenient kind
  refine ⟨_, hbuild, ?_, ?_, ?_⟩
  · intro t fraction zone hyear hshows
    obtain ⟨u, hu⟩ := exists_isEarlier hyear zone
    obtain ⟨v, hv⟩ := exists_textValue? hkind t.date u
    have hfind := findSome?_layoutText hshows hu hv
    constructor
    · intro hfraction
      rw [if_pos hfraction] at hfind
      exact ⟨u, hu, v, hv, (read_lenient_eq_ok_iff _ hps).mpr hfind⟩
    · intro hother w hw
      have hfraction : fraction ∉ zone.fractions := by
        intro hmem
        apply hother
        cases zone with
        | absent => simp only [Zone.fractions, List.mem_cons] at hmem ⊢; tauto
        | _ => exact hmem
      rw [(read_lenient_eq_ok_iff _ hps).mp hw, if_neg hfraction] at hfind
      cases hfind
  · intro t
    obtain ⟨v, hv⟩ := exists_textValue? hkind t.date (t.truncate .minute)
    obtain ⟨w, hw⟩ := exists_textValue? hkind t.date (.atMidnight t.date)
    exact ⟨⟨v, hv, (read_lenient_eq_ok_iff _ hps).mpr (findSome?_minuteText hv)⟩,
      w, hw, (read_lenient_eq_ok_iff _ hps).mpr (findSome?_dateText hw)⟩
  · intro v t hv hmillis
    have hshows : ShowsFraction t.time (some 3) := by
      refine ⟨by decide, Nat.div_mul_cancel (Nat.dvd_of_mod_eq_zero ?_)⟩
      rw [nanosPerSecond, show Text.powerOfTen (9 - 3) = 1000000 from rfl]
      omega
    have hsame : t.IsEarlier Zone.zulu.seconds t := ⟨(Int.sub_zero _).symm, rfl⟩
    have hfind := findSome?_layoutText hshows hsame hv.textValue?
    rw [if_pos (by decide)] at hfind
    exact ⟨_, write_lenient hv hps, (read_lenient_eq_ok_iff _ hps).mpr hfind⟩

/-- Half past midnight on 2021-03-14, with some microseconds. -/
def halfPastMidnight : DateTime where
  date := ⟨2021, 3, 14, by decide, by decide, by decide⟩
  time := ⟨0, 30, 0, 123456000, Time.midnight.hour_range, by decide, Time.midnight.second_range,
    .inl (by decide)⟩

theorem reads_optional_time_halfPastMidnight :
    ∃ c, build .instant [.dateOptionalTime] [] = .ok (some c) ∧
      ∃ u : DateTime, u.IsEarlier 3600 halfPastMidnight ∧
        c.read "2021-03-14T00:30:00.123456+01:00" = .ok (.instant u) := by
  obtain ⟨c, hbuild, hread, -⟩ := reads_optional_time (.inr (.inr rfl))
  obtain ⟨u, hu, v, hv, hvalue⟩ := (hread halfPastMidnight (some 6)
    (.offset false 1 0 (by decide) (by decide)) (by decide)
    ⟨by decide, by decide⟩).1 (by decide)
  rw [kind_of_build hbuild] at hv
  cases hv
  exact ⟨c, hbuild, u, hu, hvalue⟩

/-- A quarter of a second after 11:00 on that date. -/
def quarterSecond : DateTime where
  date := halfPastMidnight.date
  time := ⟨11, 0, 0, 250000000, by decide, Time.midnight.minute_range, Time.midnight.second_range,
    .inl (by decide)⟩

/-- Whether a converter reads texts with every number of digits that shows the fraction. -/
def ReadsEveryFraction (c : DateConverter) : Prop :=
  ∀ (t : DateTime) (fraction : Option Nat) (zone : Zone),
    0 ≤ t.date.year ∧ t.date.year ≤ 9999 → ShowsFraction t.time fraction →
    ∃ u : DateTime, u.IsEarlier zone.seconds t ∧
      c.ReadsAs (layoutText t fraction zone) t.date u

/-- A fraction of two digits is refused. -/
theorem not_readsEveryFraction_quarterSecond :
    ∃ c, build .instant [.dateOptionalTime] [] = .ok (some c) ∧
      c.Refuses "2021-03-14T11:00:00.25Z" ∧ ¬c.ReadsEveryFraction := by
  obtain ⟨ps, hbuild, hps⟩ := exists_lenient .instant
  have hshows : ShowsFraction quarterSecond.time (some 2) := ⟨by decide, by decide⟩
  have hsame : quarterSecond.IsEarlier Zone.zulu.seconds quarterSecond :=
    ⟨(Int.sub_zero _).symm, rfl⟩
  have hvalue : textValue? quarterSecond.date quarterSecond .instant =
      some (.instant quarterSecond) := rfl
  have hfind := findSome?_layoutText hshows hsame hvalue
  have hrefused : Refuses ⟨.instant, [.lenient ps]⟩ "2021-03-14T11:00:00.25Z" := by
    intro w hw
    have hsome := (read_lenient_eq_ok_iff (layoutText quarterSecond (some 2) .zulu) hps).mp hw
    rw [hfind, if_neg (by decide)] at hsome
    cases hsome
  refine ⟨_, hbuild, hrefused, ?_⟩
  intro hreads
  obtain ⟨u, -, w, -, hw⟩ := hreads quarterSecond (some 2) .zulu (by decide) hshows
  exact hrefused w hw

end DateConverter

end ObjectDocument
