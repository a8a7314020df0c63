import ObjectDocument.Proofs.Calendar.Fields
import ObjectDocument.Proofs.Text.Numeral

/-!
# Items read back

What an item of a pattern prints is read back by the same item, whatever follows it: every number
has its full width, so the reader of one item never takes a digit of the next. Reading the items of
a pattern in turn then gives the parts of the date-time that they stand for.
-/

namespace ObjectDocument

open Calendar Text

namespace Calendar

variable {rest : List Char}

/-! ## Numbers -/

theorem readNumber_padded {n : Nat} (hn : n < 100) :
    readNumber 2 (padded 2 n ++ rest) = some (n, rest) := by
  rw [readNumber, trimLeft_padded_append, readNat_padded (by decide) hn]

/-- A numeral begins with a digit, which is no sign. -/
theorem exists_padded_eq_cons (width n : Nat) :
    ∃ c cs, padded width n = c :: cs ∧ c ≠ '-' ∧ c ≠ '+' := by
  cases hpadded : padded width n with
  | nil => exact absurd hpadded (padded_ne_nil width n)
  | cons c cs =>
      have hc : c.isDigit = true :=
        isDigit_of_mem_padded (by rw [hpadded]; exact List.mem_cons_self)
      refine ⟨c, cs, rfl, ?_, ?_⟩
      · rintro rfl
        simp at hc
      · rintro rfl
        simp at hc

/-- A year has four digits, or else a sign and no digit behind its last. -/
theorem readYear_printYear (y : Int)
    (h : (0 ≤ y ∧ y ≤ 9999) ∨ ∀ c ∈ rest.head?, c.isDigit = false) :
    readYear (Pattern.printYear y ++ rest) = some (y, rest) := by
  rw [Pattern.printYear]
  split
  next hrange =>
    obtain ⟨c, cs, hpadded, hminus, hplus⟩ := exists_padded_eq_cons 4 y.toNat
    have hread : readNat 4 (padded 4 y.toNat ++ rest) = some (y.toNat, rest) :=
      readNat_padded (by decide) (show y.toNat < 10000 by omega)
    rw [readYear, trimLeft_padded_append]
    rw [hpadded, List.cons_append] at hread ⊢
    split
    next heq => exact absurd (List.cons.inj heq).1 hminus
    next heq => exact absurd (List.cons.inj heq).1 hplus
    next hother => simp only [hread, Option.map_some, Int.toNat_of_nonneg hrange.1]
  next hrange =>
    have hrest := h.resolve_left hrange
    have hread : readNat (padded 4 y.natAbs ++ rest).length (padded 4 y.natAbs ++ rest) =
        some (y.natAbs, rest) := by
      rw [readNat_append (fun _ => isDigit_of_mem_padded) (padded_ne_nil _ _) (by simp)
        (.inr hrest), ofDigits_padded]
    split
    next hneg =>
      have htrim : trimLeft ('-' :: padded 4 y.natAbs ++ rest) =
          '-' :: (padded 4 y.natAbs ++ rest) := rfl
      rw [readYear, htrim]
      simp only [hread, Option.map_some, Option.some.injEq, Prod.mk.injEq, and_true]
      omega
    next hpos =>
      have htrim : trimLeft ('+' :: padded 4 y.natAbs ++ rest) =
          '+' :: (padded 4 y.natAbs ++ rest) := rfl
      rw [readYear, htrim]
      simp only [hread, Option.map_some, Option.some.injEq, Prod.mk.injEq, and_true]
      omega

/-- Whether digits of a fraction show all the nanoseconds of a time. -/
def ShowsNanos (t : Time) (count : Nat) : Prop :=
  (0 < count ∧ count ≤ 9) ∧
    t.nanos % nanosPerSecond / powerOfTen (9 - count) * powerOfTen (9 - count) =
      t.nanos % nanosPerSecond

/-- The digits of a fraction are as many as they are meant to be. -/
theorem fraction_lt {count : Nat} (t : Time) (hcount : count ≤ 9) :
    t.nanos % nanosPerSecond / powerOfTen (9 - count) < powerOfTen count := by
  apply Nat.div_lt_of_lt_mul
  rw [← powerOfTen_add, Nat.sub_add_cancel hcount]
  exact Nat.mod_lt _ (by decide)

/-- The digits of a fraction that stand for all of it. -/
theorem readFraction_printFraction {count : Nat} (t : Time) (h : ShowsNanos t count) :
    readFraction count (Pattern.printFraction count t ++ rest) =
      some (t.nanos % nanosPerSecond, rest) := by
  obtain ⟨hcount, hexact⟩ := h
  rw [readFraction, Pattern.printFraction, readFixed_padded hcount.1 (fraction_lt t hcount.2),
    Option.map_some]
  simp only [hexact]

theorem readOffset_printOffset (style : OffsetStyle) :
    readOffset skipSeparators style.zulu (trimLeft (Pattern.printOffset style ++ rest)) =
      some (0, rest) := by
  obtain ⟨colon, zulu⟩ := style
  cases zulu with
  | true => rfl
  | false =>
      cases colon with
      | true => rfl
      | false => rfl

/-! ## Items -/

/-- The part of a date-time that an item gives in full: names and numbers without zeros in front do
not count. -/
def Item.part? : Item → Option Part
  | .component .year => some .year
  | .component (.month true) => some .month
  | .component (.day true) => some .day
  | .component (.hour true) => some .hour
  | .component (.minute true) => some .minute
  | .component (.second true) => some .second
  | .component (.fraction _) | .dottedFraction _ => some .fraction
  | .component (.offset _) => some .offset
  | _ => none

/-- Whether what an item prints of a date-time is enough to read its part back: a number has its full
width and a fraction all its digits that are not zero. -/
def Item.Restores (t : DateTime) : Item → Prop
  | .literal _ | .component (.offset _) => True
  | .component .year => 0 ≤ t.date.year ∧ t.date.year ≤ 9999
  | .component (.month pad) | .component (.day pad) | .component (.hour pad)
  | .component (.minute pad) | .component (.second pad) => pad = true
  | .component (.fraction count) | .dottedFraction count => ShowsNanos t.time count
  | .component _ => False

end Calendar

namespace Pattern

variable {t : DateTime} {ps : List Part} {rest : List Char}

/-- Reading one item adds its part to the fields. -/
theorem readItem_printItem {i : Item} (h : i.Restores t) :
    readItem (Fields.giving t ps) (printItem t i ++ rest) i =
      some (Fields.giving t (ps ++ i.part?.toList), rest) := by
  have hmonth := t.date.month_range
  have hday := t.date.day_range
  have hdayLe := t.date.day_le
  have hhour := t.time.hour_range
  have hminute := t.time.minute_range
  have hsecond := displayedSecond_le t.time
  cases i with
  | literal c => simp [readItem, printItem, readChar, Item.part?]
  | dottedFraction count =>
      have hread : readFraction count (printFraction count t.time ++ rest) =
          some (t.time.nanos % nanosPerSecond, rest) := readFraction_printFraction t.time h
      simp [readItem, printItem, hread, Fields.setNanos_giving, Item.part?]
  | component c =>
      rw [readItem, printItem]
      cases c with
      | year =>
          have hread : readYear (printYear t.date.year ++ rest) = some (t.date.year, rest) :=
            readYear_printYear t.date.year (.inl h)
          simp [readComponent, printComponent, hread, Fields.setYear_giving, Item.part?]
      | month pad =>
          obtain rfl : pad = true := h
          have hread : readNumber 2 (padded 2 t.date.month ++ rest) = some (t.date.month, rest) :=
            readNumber_padded (by omega)
          simp [readComponent, printComponent, printPart, hread, Fields.setMonth_giving, Item.part?]
      | day pad =>
          obtain rfl : pad = true := h
          have hread : readNumber 2 (padded 2 t.date.day ++ rest) = some (t.date.day, rest) :=
            readNumber_padded (by omega)
          simp [readComponent, printComponent, printPart, hread, Fields.setDay_giving, Item.part?]
      | hour pad =>
          obtain rfl : pad = true := h
          have hread : readNumber 2 (padded 2 t.time.hour ++ rest) = some (t.time.hour, rest) :=
            readNumber_padded (by omega)
          simp [readComponent, printComponent, printPart, hread, Fields.setHour_giving, Item.part?]
      | minute pad =>
          obtain rfl : pad = true := h
          have hread : readNumber 2 (padded 2 t.time.minute ++ rest) = some (t.time.minute, rest) :=
            readNumber_padded (by omega)
          simp [readComponent, printComponent, printPart, hread, Fields.setMinute_giving, Item.part?]
      | second pad =>
          obtain rfl : pad = true := h
          have hread : readNumber 2 (padded 2 (displayedSecond t.time) ++ rest) =
              some (displayedSecond t.time, rest) :=
            readNumber_padded (by omega)
          simp [readComponent, printComponent, printPart, hread, Fields.setSecond_giving, Item.part?]
      | fraction count =>
          have hread : readFraction count (printFraction count t.time ++ rest) =
              some (t.time.nanos % nanosPerSecond, rest) := readFraction_printFraction t.time h
          simp [readComponent, printComponent, hread, Fields.setNanos_giving, Item.part?]
      | offset style =>
          simp [readComponent, printComponent, readOffset_printOffset, Fields.setOffset_giving,
            Item.part?]
      | yearOfCentury => cases h
      | monthName long => cases h
      | ordinal => cases h
      | weekdayName long => cases h
      | hour12 pad => cases h
      | halfDay => cases h

/-- Reading items in turn gives the parts they stand for. -/
theorem readItems_printItems {items : List Item} (h : ∀ i ∈ items, i.Restores t) :
    readItems items (Fields.giving t ps) (items.flatMap (printItem t) ++ rest) =
      some (Fields.giving t (ps ++ items.filterMap Item.part?), rest) := by
  induction items generalizing ps with
  | nil => simp [readItems]
  | cons i items ih =>
      have hi := h i List.mem_cons_self
      have hitems := fun j hj => h j (List.mem_cons_of_mem i hj)
      rw [List.flatMap_cons, List.append_assoc, readItems, readItem_printItem hi]
      simp only [Option.bind_eq_bind, Option.bind_some, ih hitems, List.append_assoc]
      cases hpart : i.part? with
      | none => simp [hpart]
      | some part => simp [hpart]

/-- A text printed with a pattern gives the parts of the pattern. -/
theorem read?_print {p : Pattern} (h : ∀ i ∈ p.items, i.Restores t) :
    p.read? (p.print t) = some (Fields.giving t (p.items.filterMap Item.part?)) := by
  have hread : readItems p.items (Fields.giving t []) (p.items.flatMap (printItem t) ++ []) =
      some (Fields.giving t (p.items.filterMap Item.part?), []) := readItems_printItems h
  rw [List.append_nil, Fields.giving_nil] at hread
  simp [read?, print, hread]

end Pattern

end ObjectDocument
