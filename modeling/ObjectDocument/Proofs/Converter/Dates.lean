import ObjectDocument.Converter.Dates
import ObjectDocument.Proofs.Calendar.Truncation
import ObjectDocument.Proofs.Outcome

/-!
# Date patterns both ways

A pattern made of literals and of fields of full width reads back what it prints. Main statement: a
date converter made of such a pattern gives a date back as it was, and a date-time or an instant
truncated to the smallest part that the pattern shows.
-/

namespace ObjectDocument

open Calendar

namespace Calendar

/-! ## Parts of a pattern -/

/-- The part of a date-time that a run of letters gives in full. -/
def Part.ofRun? : Char → Nat → Option Part
  | 'y', count | 'u', count => if count = 2 then none else some .year
  | 'M', 2 => some .month
  | 'd', 2 => some .day
  | 'H', 2 => some .hour
  | 'm', 2 => some .minute
  | 's', 2 => some .second
  | 'S', 3 | 'S', 6 | 'S', 9 => some .fraction
  | 'X', 1 | 'X', 2 | 'X', 3 => some .offset
  | 'x', 1 | 'x', 2 | 'x', 3 => some .offset
  | 'Z', 1 | 'Z', 2 | 'Z', 3 | 'Z', 5 => some .offset
  | _, _ => none

/-- The part of a date-time that a piece of a pattern gives in full. -/
def Token.part? : Token → Option Part
  | .char _ => none
  | .run letter count => Part.ofRun? letter count

/-- Whether a piece of a pattern stands for itself or gives a part in full. -/
def Token.isFull : Token → Bool
  | .char _ => true
  | .run letter count => (Part.ofRun? letter count).isSome

/-- The number of digits of a fraction. -/
def Token.digits? : Token → Option Nat
  | .char _ => none
  | .run letter count => if Part.ofRun? letter count = some .fraction then some count else none

/-- The parts that the pieces of a pattern give. -/
def parts (ts : List Token) : List Part :=
  ts.filterMap Token.part?

/-- The smallest part of a time that the pieces of a pattern give. -/
def precision (ts : List Token) : Precision :=
  match ts.findSome? Token.digits? with
  | some digits => .fraction digits
  | none =>
    if .second ∈ parts ts then .second
    else if .minute ∈ parts ts then .minute
    else .day

/-- Pieces of a pattern that reads back what it prints: each run of letters gives a part in full, no
part is given twice, and the parts stand together. -/
structure Reversible (ts : List Token) : Prop where
  isFull : ∀ tk ∈ ts, tk.isFull = true
  nodup : (parts ts).Nodup
  coherent : Coherent (parts ts)

theorem part?_eq_ofRun? {letter : Char} {count : Nat} {c : Component}
    (h : Component.ofRun? letter count = some c) :
    (Item.component c).part? = Part.ofRun? letter count := by
  unfold Component.ofRun? at h
  split at h
  all_goals cases h
  all_goals first | rfl | simp_all [Item.part?, Part.ofRun?]

theorem digits_of_ofRun? {letter : Char} {count digits : Nat}
    (h : Component.ofRun? letter count = some (.fraction digits)) :
    count = digits ∧ 0 < digits ∧ digits ≤ 9 := by
  unfold Component.ofRun? at h
  split at h
  all_goals cases h
  all_goals decide

/-! ## The precision of a pattern -/

variable {ts : List Token}

theorem mem_parts {tk : Token} {part : Part} (htk : tk ∈ ts) (hpart : tk.part? = some part) :
    part ∈ parts ts :=
  List.mem_filterMap.mpr ⟨tk, htk, hpart⟩

theorem part?_of_digits? {tk : Token} {digits : Nat} (h : tk.digits? = some digits) :
    tk.part? = some .fraction := by
  cases tk with
  | char c => cases h
  | run letter count =>
      rw [Token.digits?] at h
      split at h
      next hpart => exact hpart
      next hpart => cases h

theorem isSome_digits? {tk : Token} (h : tk.part? = some .fraction) : tk.digits?.isSome := by
  cases tk with
  | char c => cases h
  | run letter count =>
      rw [Token.part?] at h
      rw [Token.digits?, if_pos h, Option.isSome_some]

/-- The only fraction of a pattern gives its precision. -/
theorem precision_eq_fraction {tk : Token} {digits : Nat} (hnodup : (parts ts).Nodup)
    (htk : tk ∈ ts) (hdigits : tk.digits? = some digits) : precision ts = .fraction digits := by
  have hfind : ts.findSome? Token.digits? = some digits := by
    induction ts with
    | nil => cases htk
    | cons head ts ih =>
        rw [List.findSome?_cons]
        rcases List.mem_cons.mp htk with rfl | htail
        · rw [hdigits]
        · cases hhead : head.digits? with
          | none =>
              have hsub : (parts ts).Sublist (parts (head :: ts)) :=
                (List.sublist_cons_self head ts).filterMap Token.part?
              exact ih (hnodup.sublist hsub) htail
          | some other =>
              -- Two fractions would give the same part twice.
              have hmem : .fraction ∈ parts ts := mem_parts htail (part?_of_digits? hdigits)
              rw [parts, List.filterMap_cons, part?_of_digits? hhead] at hnodup
              exact absurd hmem (List.nodup_cons.mp hnodup).1
  rw [precision, hfind]

theorem precision_of_fraction_notMem (h : .fraction ∉ parts ts) :
    precision ts =
      if .second ∈ parts ts then .second
      else if .minute ∈ parts ts then .minute
      else .day := by
  have hnone : ts.findSome? Token.digits? = none := by
    refine List.findSome?_eq_none_iff.mpr fun tk htk => ?_
    cases hdigits : tk.digits? with
    | none => rfl
    | some digits => exact absurd (mem_parts htk (part?_of_digits? hdigits)) h
  rw [precision, hnone]

/-- A pattern with a fraction is as precise as the fraction. -/
theorem exists_precision_eq (hnodup : (parts ts).Nodup) (h : .fraction ∈ parts ts) :
    ∃ digits, precision ts = .fraction digits := by
  obtain ⟨tk, htk, hpart⟩ := List.mem_filterMap.mp h
  obtain ⟨digits, hdigits⟩ := Option.isSome_iff_exists.mp (isSome_digits? hpart)
  exact ⟨digits, precision_eq_fraction hnodup htk hdigits⟩

theorem precision_of_second_mem (hnodup : (parts ts).Nodup) (h : .second ∈ parts ts) :
    precision ts = .second ∨ ∃ digits, precision ts = .fraction digits := by
  by_cases hfraction : .fraction ∈ parts ts
  · exact .inr (exists_precision_eq hnodup hfraction)
  · exact .inl (by rw [precision_of_fraction_notMem hfraction, if_pos h])

theorem precision_ne_day (hnodup : (parts ts).Nodup) (h : .minute ∈ parts ts) :
    precision ts ≠ .day := by
  by_cases hfraction : .fraction ∈ parts ts
  · obtain ⟨digits, hprecision⟩ := exists_precision_eq hnodup hfraction
    simp [hprecision]
  · rw [precision_of_fraction_notMem hfraction, if_pos h]
    split
    · simp
    · simp

/-- The parts of a pattern say all of a date-time that is truncated to its precision. -/
theorem complete_truncate (h : Reversible ts) (t : DateTime) :
    Fields.Complete (t.truncate (precision ts)) (parts ts) where
  toCoherent := h.coherent
  time_eq := by
    intro hhour
    have hsecond : .second ∉ parts ts := fun hmem => hhour (h.coherent.hour_of_second hmem)
    have hfraction : .fraction ∉ parts ts := fun hmem =>
      hsecond (h.coherent.second_of_fraction hmem)
    have hminute : .minute ∉ parts ts := fun hmem => hhour (h.coherent.hour_iff.mpr hmem)
    rw [precision_of_fraction_notMem hfraction, if_neg hsecond, if_neg hminute]
    rfl
  second_eq := by
    intro hsecond
    have hfraction : .fraction ∉ parts ts := fun hmem =>
      hsecond (h.coherent.second_of_fraction hmem)
    rw [precision_of_fraction_notMem hfraction, if_neg hsecond]
    split
    · exact ⟨rfl, rfl⟩
    · exact ⟨rfl, rfl⟩
  nanos_eq := by
    intro hfraction
    rw [precision_of_fraction_notMem hfraction]
    split
    · rfl
    · split
      · rfl
      · rfl

/-! ## Items of a pattern -/

/-- A run of letters becomes a component, which gives the part of the run. -/
theorem exists_component {letter : Char} {count : Nat} {i : Item}
    (hi : Pattern.item (.run letter count) = .ok i) :
    ∃ c, i = .component c ∧ Component.ofRun? letter count = some c := by
  rw [Pattern.item] at hi
  cases hc : Component.ofRun? letter count with
  | none => simp [hc] at hi
  | some c =>
      rw [hc] at hi
      cases hi
      exact ⟨c, rfl, rfl⟩

theorem part?_item {tk : Token} {i : Item} (hi : Pattern.item tk = .ok i) :
    i.part? = tk.part? := by
  cases tk with
  | char c =>
      cases hi
      rfl
  | run letter count =>
      obtain ⟨c, rfl, hc⟩ := exists_component hi
      exact part?_eq_ofRun? hc

theorem filterMap_part?_eq_parts {items : List Item}
    (h : List.Forall₂ (fun tk i => Pattern.item tk = .ok i) ts items) :
    items.filterMap Item.part? = parts ts := by
  rw [parts]
  induction h with
  | nil => rfl
  | cons hi hrest ih => rw [List.filterMap_cons, List.filterMap_cons, part?_item hi, ih]

/-- No item shows a smaller part than the precision of the pattern keeps. -/
theorem shownAt_item (h : Reversible ts) {tk : Token} (htk : tk ∈ ts) {i : Item}
    (hi : Pattern.item tk = .ok i) : i.ShownAt (precision ts) := by
  cases tk with
  | char c =>
      cases hi
      trivial
  | run letter count =>
      obtain ⟨part, hpart⟩ := Option.isSome_iff_exists.mp (h.isFull _ htk)
      have hmem : part ∈ parts ts := mem_parts htk hpart
      obtain ⟨c, rfl, hc⟩ := exists_component hi
      have hitem : (Item.component c).part? = some part := (part?_eq_ofRun? hc).trans hpart
      refine shownAt_component hitem ?_ ?_ ?_
      · rintro (rfl | rfl)
        · exact precision_ne_day h.nodup (h.coherent.hour_iff.mp hmem)
        · exact precision_ne_day h.nodup hmem
      · rintro rfl
        exact precision_of_second_mem h.nodup hmem
      · rintro digits rfl
        obtain ⟨rfl, hdigits⟩ := digits_of_ofRun? hc
        have hfraction : Part.ofRun? letter count = some .fraction := (part?_eq_ofRun? hc).symm
        have hcount : Token.digits? (.run letter count) = some count := by
          rw [Token.digits?, if_pos hfraction]
        exact ⟨precision_eq_fraction h.nodup htk hcount, hdigits⟩

/-- A dot joined to a fraction changes neither what is shown nor the parts. -/
theorem filterMap_part?_joinDots (items : List Item) :
    (Pattern.joinDots items).filterMap Item.part? = items.filterMap Item.part? := by
  fun_induction Pattern.joinDots items with
  | case1 => rfl
  | case2 digits items ih => exact congrArg (List.cons Part.fraction) ih
  | case3 i items hdot ih => simp [List.filterMap_cons, ih]

theorem shownAt_joinDots {precision : Precision} {items : List Item}
    (h : ∀ i ∈ items, i.ShownAt precision) :
    ∀ i ∈ Pattern.joinDots items, i.ShownAt precision := by
  fun_induction Pattern.joinDots items with
  | case1 => exact h
  | case2 digits items ih =>
      have hfraction : (Item.component (.fraction digits)).ShownAt precision := h _ (by simp)
      intro i hi
      rcases List.mem_cons.mp hi with rfl | htail
      · exact hfraction
      · exact ih (fun j hj => h j (by simp [hj])) i htail
  | case3 i items hdot ih =>
      intro j hj
      rcases List.mem_cons.mp hj with rfl | htail
      · exact h j List.mem_cons_self
      · exact ih (fun k hk => h k (List.mem_cons_of_mem i hk)) j htail

end Calendar

/-! ## Compiling a pattern -/

theorem Pattern.compile_eq_ok {source : String} {p : Pattern} (h : compile source = .ok p) :
    ∃ items, (tokens .plain source.toList).1.mapM item = .ok items ∧ p.items = joinDots items := by
  obtain ⟨items, hitems, h⟩ := bind_eq_ok.mp h
  refine ⟨items, hitems, ?_⟩
  cases hopen : (tokens .plain source.toList).2 with
  | true => simp [hopen, throw, throwThe, MonadExceptOf.throw, bind, Except.bind] at h
  | false =>
      cases hempty : items.isEmpty with
      | true => simp [hopen, hempty, throw, throwThe, MonadExceptOf.throw, bind, Except.bind] at h
      | false =>
          simp [hopen, hempty, pure, Except.pure] at h
          rw [← h]

variable {source : String} {p : Pattern}

theorem parts_of_compile (hp : Pattern.compile source = .ok p) :
    p.items.filterMap Item.part? = parts (tokens .plain source.toList).1 := by
  obtain ⟨items, hitems, hp⟩ := Pattern.compile_eq_ok hp
  rw [hp, filterMap_part?_joinDots, filterMap_part?_eq_parts (mapM_eq_ok.mp hitems)]

theorem shownAt_of_compile (hp : Pattern.compile source = .ok p)
    (h : Reversible (tokens .plain source.toList).1) :
    ∀ i ∈ p.items, i.ShownAt (precision (tokens .plain source.toList).1) := by
  obtain ⟨items, hitems, hp⟩ := Pattern.compile_eq_ok hp
  rw [hp]
  refine shownAt_joinDots fun i hi => ?_
  obtain ⟨tk, htk, hitem⟩ := exists_mem_of_mapM_eq_ok hitems hi
  exact shownAt_item h htk hitem

/-! ## Reading back what was written -/

/-- A converter made of a pattern, for values of a kind, writes the value and reads the text as
the other value. -/
def ReadsBack (kind : Kind) (source : String) (v read : Value) : Prop :=
  ∃ c, DateConverter.build kind [] [source] = .ok (some c) ∧
    ∃ text, c.write v = .ok text ∧ c.read text = .ok read

theorem build_pattern (hp : Pattern.compile source = .ok p) (kind : Kind) :
    DateConverter.build kind [] [source] = .ok (some ⟨kind, [.pattern p]⟩) := by
  simp [DateConverter.build, DateForm.compile, hp, bind, Except.bind, pure, Except.pure]

theorem readsBack_of_valueOf? (hp : Pattern.compile source = .ok p) {kind : Kind} {v read : Value}
    {t : DateTime} {f : Fields} (hutc : DateConverter.utc? v = some t)
    (hread : p.read? (p.print t) = some f) (hvalue : DateForm.valueOf? f kind = some read) :
    ReadsBack kind source v read := by
  refine ⟨⟨kind, [.pattern p]⟩, build_pattern hp kind, p.print t, ?_, ?_⟩
  · simp [DateConverter.write, hutc, DateForm.write?]
  · simp [DateConverter.read, DateForm.read?, DateForm.readPattern?, hread, hvalue]

/-- A converter made of a reversible pattern gives a date back, and a date-time or an instant that
is not in a leap second truncated to the smallest part of the pattern. -/
theorem readsBack_of_reversible (hp : Pattern.compile source = .ok p)
    (h : Reversible (tokens .plain source.toList).1) :
    (∀ d : Date, 0 ≤ d.year ∧ d.year ≤ 9999 →
      ReadsBack .localDate source (.date d) (.date d)) ∧
    ∀ t : DateTime, 0 ≤ t.date.year ∧ t.date.year ≤ 9999 → t.time.isLeapSecond = false →
      ReadsBack .localDateTime source (.dateTime t)
        (.dateTime (t.truncate (precision (tokens .plain source.toList).1))) ∧
      ReadsBack .instant source (.instant t)
        (.instant (t.truncate (precision (tokens .plain source.toList).1))) := by
  have hread : ∀ t : DateTime, 0 ≤ t.date.year ∧ t.date.year ≤ 9999 →
      t.time.isLeapSecond = false →
      p.read? (p.print t) = some (Fields.giving
        (t.truncate (precision (tokens .plain source.toList).1))
        (parts (tokens .plain source.toList).1)) := by
    intro t hyear hleap
    rw [Pattern.read?_print_truncate (shownAt_of_compile hp h) hleap hyear, parts_of_compile hp]
  constructor
  · -- A date is printed as its midnight, and only its date is read.
    intro d hyear
    refine readsBack_of_valueOf? hp rfl (hread (.atMidnight d) hyear rfl) ?_
    rw [DateForm.valueOf?, Fields.toDate?_giving h.coherent.year h.coherent.month h.coherent.day]
    rfl
  · intro t hyear hleap
    have hdateTime := Fields.toDateTime?_giving (complete_truncate h t)
    constructor
    · refine readsBack_of_valueOf? hp rfl (hread t hyear hleap) ?_
      simp [DateForm.valueOf?, hdateTime, DateForm.valueAt?]
    · refine readsBack_of_valueOf? hp rfl (hread t hyear hleap) ?_
      simp [DateForm.valueOf?, hdateTime, DateForm.valueAt?]

/-- The instant 2019-12-27 10:05:07 with nanoseconds. -/
def sampleInstant (nanos : Nat) (h : nanos < nanosPerSecond) : DateTime :=
  ⟨⟨2019, 12, 27, by decide, by decide, by decide⟩,
    ⟨10, 5, 7, nanos, by decide, by decide, by decide, .inl h⟩⟩

/-- Adjacent fields without separators, a quoted letter and a fraction with its dot. -/
theorem readsBack_basic_millis :
    ReadsBack .instant "uuuuMMdd'T'HHmmss.SSSX"
      (.instant (sampleInstant 123456789 (by decide)))
      (.instant (sampleInstant 123000000 (by decide))) := by
  have hp : Pattern.compile "uuuuMMdd'T'HHmmss.SSSX" = .ok ⟨"uuuuMMdd'T'HHmmss.SSSX",
      [.component .year, .component (.month true), .component (.day true), .literal 'T',
        .component (.hour true), .component (.minute true), .component (.second true),
        .dottedFraction 3, .component (.offset ⟨false, true⟩)]⟩ := by decide
  have h : Reversible (tokens .plain "uuuuMMdd'T'HHmmss.SSSX".toList).1 := by
    refine ⟨by decide, by decide, ⟨?_, ?_, ?_, ?_, ?_, ?_⟩⟩
    all_goals decide
  have hyear : (0 : Int) ≤ 2019 ∧ (2019 : Int) ≤ 9999 := by decide
  exact ((readsBack_of_reversible hp h).2 (sampleInstant 123456789 (by decide)) hyear rfl).2

end ObjectDocument
