import ObjectDocument.Proofs.Calendar.Iso
import ObjectDocument.Proofs.Calendar.Resolution
import ObjectDocument.Proofs.Calendar.Truncation

/-!
# Layouts of date-times

A layout is a date-time down to the second, with or without an offset, and perhaps with a fraction of
a fixed number of digits. It reads a text if the text has an offset just if the layout has, and if
the text has no fraction or one of as many digits. Whatever layout reads a text, it finds the same
fields.
-/

namespace ObjectDocument

open Calendar Text

namespace Calendar

/-! ## Offsets of texts -/

/-- The offset at the end of a text, if there is one: the letter Z, or hours and minutes behind a
sign. -/
inductive Zone where
  | absent
  | zulu
  | offset (west : Bool) (hours minutes : Nat) (hours_lt : hours < 24) (minutes_lt : minutes < 60)

namespace Zone

def isGiven : Zone → Bool
  | absent => false
  | _ => true

theorem eq_absent {zone : Zone} (h : zone.isGiven = false) : zone = absent := by
  cases zone with
  | absent => rfl
  | _ => cases h

/-- The seconds east of UTC. -/
def seconds : Zone → Int
  | absent | zulu => 0
  | offset west hours minutes _ _ =>
    let seconds : Int := (hours * 60 + minutes) * 60
    if west then -seconds else seconds

/-- The offset that a text gives. -/
def seconds? (zone : Zone) : Option Int :=
  if zone.isGiven then some zone.seconds else none

def text : Zone → List Char
  | absent => []
  | zulu => ['Z']
  | offset west hours minutes _ _ =>
    (if west then '-' else '+') :: (padded 2 hours ++ ':' :: padded 2 minutes)

/-- An offset is a whole number of minutes, less than a day. -/
theorem seconds_range (zone : Zone) :
    (-86400 < zone.seconds ∧ zone.seconds < 86400) ∧ zone.seconds % 60 = 0 := by
  cases zone with
  | absent => decide
  | zulu => decide
  | offset west hours minutes hours_lt minutes_lt =>
      rw [seconds]
      split
      · omega
      · omega

/-- No offset begins like a fraction or goes on with its digits. -/
theorem head_text (zone : Zone) : ∀ c ∈ zone.text.head?, c.isDigit = false ∧ c ≠ '.' := by
  cases zone with
  | absent => simp [text]
  | zulu => simp [text]
  | offset west hours minutes hours_lt minutes_lt =>
      cases west with
      | true => simp [text]
      | false => simp [text]

theorem skipSeparators_padded (width n : Nat) :
    skipSeparators (':' :: padded width n) = some (padded width n) := by
  cases hpadded : padded width n with
  | nil => exact absurd hpadded (padded_ne_nil width n)
  | cons c cs =>
      have hc : c.isDigit = true :=
        isDigit_of_mem_padded (by rw [hpadded]; exact List.mem_cons_self)
      have hcolon : c ≠ ':' := by
        rintro rfl
        simp at hc
      simp [skipSeparators, isBlank_of_isDigit hc, hcolon]

theorem readHoursMinutes_padded {hours minutes : Nat} (hhours : hours < 24)
    (hminutes : minutes < 60) (west : Bool) :
    readHoursMinutes skipSeparators west (padded 2 hours ++ ':' :: padded 2 minutes) =
      some (if west then -((hours * 60 + minutes) * 60 : Int) else (hours * 60 + minutes) * 60,
        []) := by
  have hread := readFixed_two (show minutes < 100 by omega) []
  rw [List.append_nil] at hread
  simp [readHoursMinutes, readFixed_two (show hours < 100 by omega), skipSeparators_padded, hread,
    hminutes]

/-- The offset of a text is read to its end. -/
theorem readOffset_text {zone : Zone} (h : zone.isGiven = true) :
    readOffset skipSeparators true (trimLeft zone.text) = some (zone.seconds, []) := by
  cases zone with
  | absent => cases h
  | zulu => rfl
  | offset west hours minutes hours_lt minutes_lt =>
      cases west with
      | true => exact readHoursMinutes_padded hours_lt minutes_lt true
      | false => exact readHoursMinutes_padded hours_lt minutes_lt false

end Zone

/-! ## Fractions of texts -/

/-- The fraction of a time with its dot, if a text has one, in a number of digits. -/
def fractionText (t : Time) : Option Nat → List Char
  | none => []
  | some count => '.' :: Pattern.printFraction count t

/-- Whether a fraction of a number of digits, or no fraction, says all nanoseconds of a time. -/
def ShowsFraction (t : Time) : Option Nat → Prop
  | none => t.nanos % nanosPerSecond = 0
  | some count => ShowsNanos t count

variable {t u : DateTime} {time : Time} {count k : Nat} {rest : List Char}

theorem length_printFraction (h : ShowsNanos time count) :
    (Pattern.printFraction count time).length = count :=
  length_padded h.1.1 (fraction_lt time h.1.2)

theorem isDigit_of_mem_printFraction {c : Char} (hc : c ∈ Pattern.printFraction count time) :
    c.isDigit = true :=
  isDigit_of_mem_padded hc

/-- A fraction with too few digits is not read. -/
theorem readFraction_eq_none (h : ShowsNanos time count) (hcount : count < k)
    (hrest : ∀ c ∈ rest.head?, c.isDigit = false) :
    readFraction k (Pattern.printFraction count time ++ rest) = none := by
  have hlength := length_printFraction h
  have htake := takeDigits_append (fun _ => isDigit_of_mem_printFraction)
    (show (Pattern.printFraction count time).length ≤ k by omega) (.inr hrest)
  rw [readFraction, readFixed, htake]
  simp only [hlength, Nat.ne_of_lt hcount, if_false, Option.map_none]

/-- Of a fraction with too many digits some are left. -/
theorem exists_readFraction (h : ShowsNanos time count) (hcount : k < count) (rest : List Char) :
    ∃ n c cs, readFraction k (Pattern.printFraction count time ++ rest) = some (n, c :: cs) ∧
      c.isDigit = true := by
  have hlength := length_printFraction h
  obtain ⟨c, cs, hdrop⟩ := List.exists_cons_of_length_pos
    (l := (Pattern.printFraction count time).drop k) (by rw [List.length_drop]; omega)
  have hfirst : ((Pattern.printFraction count time).take k).length = k := by
    rw [List.length_take]
    omega
  have hdigit : c.isDigit = true :=
    isDigit_of_mem_printFraction (List.mem_of_mem_drop (hdrop ▸ List.mem_cons_self))
  have hsplit : Pattern.printFraction count time ++ rest =
      (Pattern.printFraction count time).take k ++ c :: (cs ++ rest) := by
    rw [← List.cons_append, ← hdrop, ← List.append_assoc, List.take_append_drop]
  have hread : readFraction k (Pattern.printFraction count time ++ rest) =
      some (ofDigits ((Pattern.printFraction count time).take k) * powerOfTen (9 - k),
        c :: (cs ++ rest)) := by
    rw [readFraction, readFixed, hsplit,
      takeDigits_append (fun _ hmem => isDigit_of_mem_printFraction (List.mem_of_mem_take hmem))
        (Nat.le_of_eq hfirst) (.inl hfirst)]
    simp only [hfirst, if_true, Option.map_some]
  exact ⟨_, c, cs ++ rest, hread, hdigit⟩

/-! ## Fields with an offset -/

/-- Fields with another offset, or without one. -/
def Fields.withOffset (f : Fields) (offset : Option Int) : Fields :=
  { f with offset := offset }

variable {f : Fields} {zone : Zone}

theorem Fields.toDate?_withOffset (offset : Option Int) :
    (f.withOffset offset).toDate? = f.toDate? :=
  rfl

theorem Fields.toLocal?_withOffset (offset : Option Int) :
    (f.withOffset offset).toLocal? = f.toLocal? :=
  rfl

/-- A date-time is shifted by the offset that a text gives. -/
theorem Fields.toDateTime?_withOffset (hlocal : f.toLocal? = some t)
    (hu : u.IsEarlier zone.seconds t) : (f.withOffset zone.seconds?).toDateTime? = some u := by
  have hminus : t.minusSeconds? zone.seconds = some u := DateTime.minusSeconds?_eq_some_iff.mpr hu
  cases hgiven : zone.isGiven with
  | true =>
      have hoffset : (f.withOffset zone.seconds?).offset = some zone.seconds := if_pos hgiven
      have hutc : (f.withOffset zone.seconds?).toUtc? = some u := by
        rw [toUtc?, hoffset, toLocal?_withOffset, hlocal]
        exact (if_pos zone.seconds_range.1).trans hminus
      rw [toDateTime?, hutc]
  | false =>
      -- The date-time stays as it is where the text has no offset.
      obtain rfl := Zone.eq_absent hgiven
      rw [show Zone.seconds .absent = 0 from rfl, t.minusSeconds?_zero] at hminus
      rw [toDateTime?, show (f.withOffset _).toUtc? = none from rfl]
      dsimp only
      rw [toLocalOrMidnight?, toLocal?_withOffset, hlocal]
      exact hminus

/-! ## Reading whole texts -/

/-- Read a whole text with items, given the fields of what was read before. -/
def readWhole (items : List Item) (f : Fields) (cs : List Char) : Option Fields :=
  match Pattern.readItems items f cs with
  | some (f, []) => some f
  | _ => none

theorem readItems_append (items more : List Item) (f : Fields) (cs : List Char) :
    Pattern.readItems (items ++ more) f cs =
      (Pattern.readItems items f cs).bind fun (f, rest) => Pattern.readItems more f rest := by
  induction items generalizing f cs with
  | nil => rfl
  | cons i items ih =>
      rw [List.cons_append, Pattern.readItems, Pattern.readItems]
      cases Pattern.readItem f cs i with
      | none => rfl
      | some read => exact ih read.1 read.2

/-- What the first items leave of a text is read with the others. -/
theorem readWhole_append {items : List Item} {f g : Fields} {cs rest : List Char}
    (h : Pattern.readItems items f cs = some (g, rest)) (more : List Item) :
    readWhole (items ++ more) f cs = readWhole more g rest := by
  rw [readWhole, readItems_append, h]
  rfl

theorem readWhole_cons (i : Item) (items : List Item) (f : Fields) (cs : List Char) :
    readWhole (i :: items) f cs =
      (Pattern.readItem f cs i).bind fun (g, rest) => readWhole items g rest := by
  rw [readWhole, Pattern.readItems]
  cases Pattern.readItem f cs i with
  | none => rfl
  | some read => rfl

/-! ## Layouts -/

/-- The layout of a text behind the second. -/
structure Layout where
  /-- The number of digits of the fraction. -/
  fraction : Option Nat
  /-- Whether there is an offset. -/
  zoned : Bool
deriving DecidableEq, Repr

/-- The items of an offset, if there is one. -/
def zoneItems (zoned : Bool) : List Item :=
  if zoned then [.component (.offset ⟨true, true⟩)] else []

namespace Layout

/-- The items behind the second. -/
def tail (l : Layout) : List Item :=
  match l.fraction with
  | none => zoneItems l.zoned
  | some count => .dottedFraction count :: zoneItems l.zoned

def items (l : Layout) : List Item :=
  dateTimeItems ++ l.tail

/-- Whether a layout reads the texts with a fraction of a number of digits, or none, and with an
offset or none. -/
def Reads (l : Layout) (count : Option Nat) (zone : Zone) : Prop :=
  (count = none ∨ count = l.fraction) ∧ zone.isGiven = l.zoned

instance (l : Layout) (count : Option Nat) (zone : Zone) : Decidable (l.Reads count zone) :=
  inferInstanceAs (Decidable (_ ∧ _))

end Layout

variable {zoned : Bool} {fraction : Option Nat}

/-- An offset is read just where one is looked for. -/
theorem readWhole_zoneItems (zoned : Bool) (zone : Zone) (hf : f.offset = none) :
    readWhole (zoneItems zoned) f zone.text =
      if zone.isGiven = zoned then some (f.withOffset zone.seconds?) else none := by
  cases hgiven : zone.isGiven with
  | false =>
      obtain rfl := Zone.eq_absent hgiven
      cases zoned with
      | false =>
          rw [if_pos rfl, Zone.seconds?, if_neg (by decide), ← hf]
          rfl
      | true => rfl
  | true =>
      cases zoned with
      | false =>
          cases zone with
          | absent => cases hgiven
          | _ => rfl
      | true =>
          simp [readWhole, zoneItems, Pattern.readItems, Pattern.readItem, Pattern.readComponent,
            Zone.readOffset_text hgiven, Fields.setOffset, hf, agree, Zone.seconds?, hgiven,
            Fields.withOffset]

/-- What is left of a fraction is no offset. -/
theorem readWhole_zoneItems_eq_none {c : Char} (hc : c.isDigit = true ∨ c = '.') (cs : List Char) :
    readWhole (zoneItems zoned) f (c :: cs) = none := by
  cases zoned with
  | false => rfl
  | true =>
      have hoffset : readOffset skipSeparators true (trimLeft (c :: cs)) = none := by
        rcases hc with hdigit | rfl
        · have hne : ∀ d : Char, d.isDigit = false → c ≠ d := by
            rintro d hd rfl
            simp [hd] at hdigit
          have htrim : trimLeft (c :: cs) = c :: cs := by
            simp [trimLeft, isBlank_of_isDigit hdigit]
          simp [htrim, readOffset, readSign, hne 'Z' rfl, hne 'z' rfl, hne '+' rfl, hne '-' rfl,
            hne minusSign rfl]
        · rfl
      simp [readWhole, zoneItems, Pattern.readItems, Pattern.readItem, Pattern.readComponent,
        hoffset]

/-- The part that a fraction gives, if there is one. -/
def fractionPart (fraction : Option Nat) : List Part :=
  if fraction.isSome then [.fraction] else []

/-- Without a dot no fraction is read. -/
theorem readItem_dottedFraction_zone (zone : Zone) :
    Pattern.readItem f zone.text (.dottedFraction k) = some (f, zone.text) := by
  cases hzone : zone.text with
  | nil => rfl
  | cons c cs =>
      have hdot : c ≠ '.' := (zone.head_text c (by rw [hzone]; rfl)).2
      simp [Pattern.readItem, hdot]

theorem readWhole_dottedFraction {ps : List Part} (hps : .offset ∉ ps)
    (h : ShowsFraction t.time fraction) :
    readWhole (.dottedFraction k :: zoneItems zoned) (Fields.giving t ps)
        (fractionText t.time fraction ++ zone.text) =
      if (fraction = none ∨ fraction = some k) ∧ zone.isGiven = zoned then
        some ((Fields.giving t (ps ++ fractionPart fraction)).withOffset zone.seconds?)
      else none := by
  have hnone {ps : List Part} (hps : .offset ∉ ps) : (Fields.giving t ps).offset = none := by
    simp [Fields.giving, hps]
  rw [readWhole_cons]
  cases fraction with
  | none =>
      have hzone := readWhole_zoneItems zoned zone (hnone hps)
      rw [fractionText, List.nil_append, readItem_dottedFraction_zone]
      simpa [fractionPart] using hzone
  | some count =>
      rw [fractionText, List.cons_append, Pattern.readItem]
      rcases Nat.lt_trichotomy count k with hlt | rfl | hgt
      · rw [readFraction_eq_none h hlt fun c hc => (zone.head_text c hc).1,
          if_neg (by simp [Nat.ne_of_lt hlt])]
        rfl
      · have hmore : .offset ∉ ps ++ [.fraction] := by simp [hps]
        rw [readFraction_printFraction t.time h]
        simp only [Option.bind_eq_bind, Option.bind_some, Fields.setNanos_giving, pure,
          readWhole_zoneItems zoned zone (hnone hmore)]
        simp [fractionPart]
      · obtain ⟨n, c, cs, hread, hc⟩ := exists_readFraction h hgt zone.text
        rw [hread, if_neg (by simp [Nat.ne_of_gt hgt])]
        cases hset : (Fields.giving t ps).setNanos n with
        | none => simp [hset]
        | some g => simp [hset, readWhole_zoneItems_eq_none (.inl hc)]

/-! ## Reading a text in a layout -/

/-- A date-time down to the second, with a fraction and an offset or without. -/
def layoutText (t : DateTime) (fraction : Option Nat) (zone : Zone) : List Char :=
  dateTimeItems.flatMap (Pattern.printItem t) ++ (fractionText t.time fraction ++ zone.text)

/-- The fields of the text of a date-time. -/
def layoutFields (t : DateTime) (fraction : Option Nat) (zone : Zone) : Fields :=
  (Fields.giving t ([.year, .month, .day, .hour, .minute, .second] ++
    fractionPart fraction)).withOffset zone.seconds?

/-- A layout reads the fields of a text, if it reads the text at all. -/
theorem readWhole_layout (l : Layout) (h : ShowsFraction t.time fraction) :
    readWhole l.items {} (layoutText t fraction zone) =
      if l.Reads fraction zone then some (layoutFields t fraction zone) else none := by
  obtain ⟨count, zoned⟩ := l
  rw [Layout.items, layoutText, readWhole_append readItems_dateTimeItems]
  cases count with
  | some k => exact readWhole_dottedFraction (by decide) h
  | none =>
      cases fraction with
      | none =>
          refine (readWhole_zoneItems zoned zone (by simp [Fields.giving])).trans ?_
          simp [Layout.Reads, layoutFields, fractionPart]
      | some count =>
          rw [if_neg (by simp [Layout.Reads])]
          exact readWhole_zoneItems_eq_none (.inr rfl) _

theorem toDate?_layoutFields : (layoutFields t fraction zone).toDate? = some t.date := by
  rw [layoutFields, Fields.toDate?_withOffset]
  exact Fields.toDate?_giving (by simp) (by simp) (by simp)

/-- A fraction, or no fraction, that shows all nanoseconds makes the parts of a text complete. -/
theorem complete_fractionPart (h : ShowsFraction t.time fraction) :
    Fields.Complete t
      ([.year, .month, .day, .hour, .minute, .second] ++ fractionPart fraction) where
  year := by simp
  month := by simp
  day := by simp
  hour_iff := by simp
  hour_of_second := by simp
  second_of_fraction := by simp
  time_eq := by simp
  second_eq := by simp
  nanos_eq := by
    intro hpart
    cases fraction with
    | none => exact h
    | some count => simp [fractionPart] at hpart

/-- The fields of a text give its date-time, shifted by its offset. -/
theorem toDateTime?_layoutFields (h : ShowsFraction t.time fraction)
    (hu : u.IsEarlier zone.seconds t) : (layoutFields t fraction zone).toDateTime? = some u := by
  have hlocal := Fields.toLocal?_giving (complete_fractionPart h) (by simp)
  exact Fields.toDateTime?_withOffset hlocal hu

/-! ## Shorter texts -/

/-- The items of a date-time, down to the minute. -/
def minuteItems : List Item :=
  dateItems ++ [.literal 'T', .component (.hour true), .literal ':', .component (.minute true)]

/-- A date-time down to the minute. -/
def minuteText (t : DateTime) : List Char :=
  minuteItems.flatMap (Pattern.printItem t)

/-- A date. -/
def dateText (d : Date) : List Char :=
  dateItems.flatMap (Pattern.printItem (.atMidnight d))

theorem readItems_minuteItems : Pattern.readItems minuteItems {} (minuteText t ++ rest) =
    some (Fields.giving t [.year, .month, .day, .hour, .minute], rest) := by
  simp only [minuteText, minuteItems, dateItems, List.cons_append, List.nil_append]
  rw [readItems_year (by simp [Item.Restores])]
  rfl

/-- The items of a date-time read its text to the end. -/
theorem readItems_minuteText : Pattern.readItems minuteItems {} (minuteText t) =
    some (Fields.giving t [.year, .month, .day, .hour, .minute], []) := by
  rw [← List.append_nil (minuteText t), readItems_minuteItems]

theorem readItems_dateText (d : Date) : Pattern.readItems dateItems {} (dateText d) =
    some (Fields.giving (.atMidnight d) [.year, .month, .day], []) := by
  rw [← List.append_nil (dateText d), dateText, readItems_dateItems]

theorem readWhole_minuteItems :
    readWhole minuteItems {} (minuteText t) =
      some (Fields.giving t [.year, .month, .day, .hour, .minute]) := by
  rw [readWhole, readItems_minuteText]

theorem readWhole_dateItems (d : Date) :
    readWhole dateItems {} (dateText d) =
      some (Fields.giving (.atMidnight d) [.year, .month, .day]) := by
  rw [readWhole, readItems_dateText]

/-- A text that ends with the minute or with the date is in no layout. -/
theorem readWhole_layout_minuteText (l : Layout) : readWhole l.items {} (minuteText t) = none :=
  readWhole_append readItems_minuteText (.literal ':' :: .component (.second true) :: l.tail)

theorem readWhole_date_append {d : Date} (c : Char) (more : List Item) :
    readWhole (dateItems ++ .literal c :: more) {} (dateText d) = none :=
  readWhole_append (readItems_dateText d) (.literal c :: more)

/-- A text down to the second is not read to its end by fewer items. -/
theorem readWhole_minuteItems_layoutText :
    readWhole minuteItems {} (layoutText t fraction zone) = none := by
  have htext : layoutText t fraction zone = minuteText t ++ (':' ::
      (Pattern.printPart true (Pattern.displayedSecond t.time) ++
        (fractionText t.time fraction ++ zone.text))) := by
    simp [layoutText, minuteText, dateTimeItems, minuteItems, timeItems, Pattern.printItem,
      Pattern.printComponent]
  rw [htext, readWhole, readItems_minuteItems]

theorem readWhole_dateItems_layoutText :
    readWhole dateItems {} (layoutText t fraction zone) = none := by
  have htext : layoutText t fraction zone = dateItems.flatMap (Pattern.printItem t) ++ ('T' ::
      (timeItems.flatMap (Pattern.printItem t) ++ (fractionText t.time fraction ++ zone.text))) := by
    simp [layoutText, dateTimeItems, Pattern.printItem]
  rw [htext, readWhole, readItems_dateItems]

theorem complete_minute (t : DateTime) : Fields.Complete (t.truncate .minute)
    [.year, .month, .day, .hour, .minute] where
  year := by simp
  month := by simp
  day := by simp
  hour_iff := by simp
  hour_of_second := by simp
  second_of_fraction := by simp
  time_eq := by simp
  second_eq := fun _ => ⟨rfl, rfl⟩
  nanos_eq := fun _ => rfl

theorem complete_date (d : Date) : Fields.Complete (.atMidnight d) [.year, .month, .day] where
  year := by simp
  month := by simp
  day := by simp
  hour_iff := by simp
  hour_of_second := by simp
  second_of_fraction := by simp
  time_eq := fun _ => rfl
  second_eq := fun _ => ⟨rfl, rfl⟩
  nanos_eq := fun _ => rfl

end Calendar

end ObjectDocument
