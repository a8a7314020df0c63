import ObjectDocument.Calendar.Pattern
import ObjectDocument.Proofs.Text.Numeral

/-!
# Fields that a pattern gives

A pattern fixes which fields a text gives that is read with it: all fields of its items, apart from
a fraction behind a dot, which a text may leave out. The numbers of the fields lie in their ranges.
-/

namespace ObjectDocument

namespace Calendar

/-- A place of the record of fields. -/
inductive Slot where
  | year
  | yearOfCentury
  | month
  | day
  | ordinal
  | weekday
  | halfDay
  | hourOfHalf
  | minute
  | second
  | fraction
  | offset
deriving DecidableEq, Repr

/-- The fields that a component gives. An hour of the whole day also gives the half of the day. -/
def Component.slots : Component → List Slot
  | .year => [.year]
  | .yearOfCentury => [.yearOfCentury]
  | .month _ | .monthName _ => [.month]
  | .day _ => [.day]
  | .ordinal => [.ordinal]
  | .weekdayName _ => [.weekday]
  | .hour _ => [.halfDay, .hourOfHalf]
  | .hour12 _ => [.hourOfHalf]
  | .minute _ => [.minute]
  | .second _ => [.second]
  | .fraction _ => [.fraction]
  | .halfDay => [.halfDay]
  | .offset _ => [.offset]

def Item.slots : Item → List Slot
  | .literal _ => []
  | .component c => c.slots
  | .dottedFraction _ => [.fraction]

end Calendar

open Calendar

/-- The fields of the items of a pattern. -/
def Pattern.slots (p : Pattern) : List Slot :=
  p.items.flatMap Item.slots

namespace Calendar

open Text

/-- Whether seconds are those of a number of hours of two digits and of minutes. -/
def IsOffset (seconds : Int) : Prop :=
  ∃ hours minutes : Nat, hours < 100 ∧ minutes < 60 ∧
    seconds.natAbs = (hours * 60 + minutes) * 60

namespace Fields

/-- Whether a field is given. -/
def has (f : Fields) : Slot → Bool
  | .year => f.year.isSome
  | .yearOfCentury => f.yearOfCentury.isSome
  | .month => f.month.isSome
  | .day => f.day.isSome
  | .ordinal => f.ordinal.isSome
  | .weekday => f.weekday.isSome
  | .halfDay => f.afternoon.isSome
  | .hourOfHalf => f.hourOfHalf.isSome
  | .minute => f.minute.isSome
  | .second => f.second.isSome
  | .fraction => f.nanos.isSome
  | .offset => f.offset.isSome

/-- The ranges of the last digits of a year, of the numbers of a time and of an offset. -/
structure InRange (f : Fields) : Prop where
  yearOfCentury : ∀ n ∈ f.yearOfCentury, n < 100
  hourOfHalf : ∀ n ∈ f.hourOfHalf, n < 12
  minute : ∀ n ∈ f.minute, n < 60
  second : ∀ n ∈ f.second, n ≤ 60
  nanos : ∀ n ∈ f.nanos, n < nanosPerSecond
  offset : ∀ n ∈ f.offset, IsOffset n

/-- What reading adds to the fields: nothing is lost, nothing comes that is not among the slots, and
of the slots a fraction alone may be missing. -/
structure Gains (f f' : Fields) (slots : List Slot) : Prop where
  inRange : f.InRange → f'.InRange
  retains : ∀ slot, f.has slot = true → f'.has slot = true
  introduced : ∀ slot, f'.has slot = true → f.has slot = true ∨ slot ∈ slots
  given : ∀ slot ∈ slots, slot ≠ .fraction → f'.has slot = true

theorem Gains.refl (f : Fields) : f.Gains f [] where
  inRange := id
  retains := fun _ h => h
  introduced := fun _ h => .inl h
  given := fun _ h => absurd h List.not_mem_nil

theorem Gains.trans {f g h : Fields} {first second : List Slot} (hfirst : f.Gains g first)
    (hsecond : g.Gains h second) : f.Gains h (first ++ second) where
  inRange hrange := hsecond.inRange (hfirst.inRange hrange)
  retains slot hslot := hsecond.retains slot (hfirst.retains slot hslot)
  introduced := by
    intro slot hslot
    rcases hsecond.introduced slot hslot with hg | hmem
    · rcases hfirst.introduced slot hg with hf | hmem
      · exact .inl hf
      · exact .inr (List.mem_append_left second hmem)
    · exact .inr (List.mem_append_right first hmem)
  given := by
    intro slot hslot hne
    rcases List.mem_append.mp hslot with hmem | hmem
    · exact hsecond.retains slot (hfirst.given slot hmem hne)
    · exact hsecond.given slot hmem hne

/-- A fraction may be left out. -/
theorem Gains.without_fraction (f : Fields) : f.Gains f [.fraction] where
  inRange := id
  retains := fun _ h => h
  introduced := fun _ h => .inl h
  given := by
    intro slot hslot hne
    exact absurd (List.mem_singleton.mp hslot) hne

/-! ## Giving one field -/

theorem bind_within?_eq_some_iff {β : Type} {low high n : Nat} {next : Nat → Option β} {b : β} :
    (within? low high n >>= next) = some b ↔ (low ≤ n ∧ n ≤ high) ∧ next n = some b := by
  unfold within?
  split
  next h => simp [h]
  next h => simp [h]

variable {f f' : Fields} {n : Nat}

/-- Giving one field a value that agrees with the value it has. -/
theorem gains_of_agree {α : Type} [DecidableEq α] {old : Option α} {value : α}
    {update : Option α → Fields} {slot : Slot}
    (h : (do return update (← agree old value)) = some f')
    (hhas : ∀ s, (update (some value)).has s = (f.has s || decide (s = slot)))
    (hrange : f.InRange → (update (some value)).InRange) : f.Gains f' [slot] := by
  have hupdate : update (some value) = f' := by
    unfold agree at h
    split at h
    next => exact Option.some.inj h
    next =>
      split at h
      next => exact Option.some.inj h
      next => cases h
  subst hupdate
  refine ⟨hrange, ?_, ?_, ?_⟩
  · intro s hs
    rw [hhas, hs, Bool.true_or]
  · intro s hs
    rw [hhas, Bool.or_eq_true, decide_eq_true_eq] at hs
    exact hs.imp_right List.mem_singleton.mpr
  · intro s hs _
    rw [hhas, decide_eq_true (List.mem_singleton.mp hs), Bool.or_true]

theorem gains_setYear {y : Int} (h : f.setYear y = some f') : f.Gains f' [.year] := by
  unfold setYear at h
  split at h
  next =>
    exact gains_of_agree h (fun s => by cases s <;> simp [has])
      fun h => ⟨h.yearOfCentury, h.hourOfHalf, h.minute, h.second, h.nanos, h.offset⟩
  next => cases h

theorem gains_setYearOfCentury (h : f.setYearOfCentury n = some f') :
    f.Gains f' [.yearOfCentury] := by
  obtain ⟨hn, h⟩ := bind_within?_eq_some_iff.mp h
  have hlt : n < 100 := by omega
  exact gains_of_agree h (fun s => by cases s <;> simp [has])
    fun h => ⟨by simp [hlt], h.hourOfHalf, h.minute, h.second, h.nanos, h.offset⟩

theorem gains_setMonth (h : f.setMonth n = some f') : f.Gains f' [.month] := by
  obtain ⟨-, h⟩ := bind_within?_eq_some_iff.mp h
  exact gains_of_agree h (fun s => by cases s <;> simp [has])
    fun h => ⟨h.yearOfCentury, h.hourOfHalf, h.minute, h.second, h.nanos, h.offset⟩

theorem gains_setDay (h : f.setDay n = some f') : f.Gains f' [.day] := by
  obtain ⟨-, h⟩ := bind_within?_eq_some_iff.mp h
  exact gains_of_agree h (fun s => by cases s <;> simp [has])
    fun h => ⟨h.yearOfCentury, h.hourOfHalf, h.minute, h.second, h.nanos, h.offset⟩

theorem gains_setOrdinal (h : f.setOrdinal n = some f') : f.Gains f' [.ordinal] := by
  obtain ⟨-, h⟩ := bind_within?_eq_some_iff.mp h
  exact gains_of_agree h (fun s => by cases s <;> simp [has])
    fun h => ⟨h.yearOfCentury, h.hourOfHalf, h.minute, h.second, h.nanos, h.offset⟩

theorem gains_setWeekday {w : Weekday} (h : f.setWeekday w = some f') :
    f.Gains f' [.weekday] :=
  gains_of_agree h (fun s => by cases s <;> simp [has])
    fun h => ⟨h.yearOfCentury, h.hourOfHalf, h.minute, h.second, h.nanos, h.offset⟩

theorem gains_setAfternoon {b : Bool} (h : f.setAfternoon b = some f') :
    f.Gains f' [.halfDay] :=
  gains_of_agree h (fun s => by cases s <;> simp [has])
    fun h => ⟨h.yearOfCentury, h.hourOfHalf, h.minute, h.second, h.nanos, h.offset⟩

theorem gains_hourOfHalf {m : Nat} (hm : m < 12)
    (h : (do return { f with hourOfHalf := ← agree f.hourOfHalf m }) = some f') :
    f.Gains f' [.hourOfHalf] :=
  gains_of_agree h (fun s => by cases s <;> simp [has])
    fun h => ⟨h.yearOfCentury, by simp [hm], h.minute, h.second, h.nanos, h.offset⟩

theorem gains_setHour12 (h : f.setHour12 n = some f') : f.Gains f' [.hourOfHalf] := by
  obtain ⟨-, h⟩ := bind_within?_eq_some_iff.mp h
  exact gains_hourOfHalf (Nat.mod_lt n (by decide)) h

theorem gains_setHour (h : f.setHour n = some f') : f.Gains f' [.halfDay, .hourOfHalf] := by
  obtain ⟨-, h⟩ := bind_within?_eq_some_iff.mp h
  obtain ⟨g, hg, h⟩ := Option.bind_eq_some_iff.mp h
  exact (gains_setAfternoon hg).trans (gains_hourOfHalf (Nat.mod_lt n (by decide)) h)

theorem gains_setMinute (h : f.setMinute n = some f') : f.Gains f' [.minute] := by
  obtain ⟨hn, h⟩ := bind_within?_eq_some_iff.mp h
  have hlt : n < 60 := by omega
  exact gains_of_agree h (fun s => by cases s <;> simp [has])
    fun h => ⟨h.yearOfCentury, h.hourOfHalf, by simp [hlt], h.second, h.nanos, h.offset⟩

theorem gains_setSecond (h : f.setSecond n = some f') : f.Gains f' [.second] := by
  obtain ⟨hn, h⟩ := bind_within?_eq_some_iff.mp h
  exact gains_of_agree h (fun s => by cases s <;> simp [has])
    fun h => ⟨h.yearOfCentury, h.hourOfHalf, h.minute, by simp [hn.2], h.nanos, h.offset⟩

theorem gains_setNanos (h : f.setNanos n = some f') : f.Gains f' [.fraction] := by
  obtain ⟨hn, h⟩ := bind_within?_eq_some_iff.mp h
  have hlt : n < nanosPerSecond := by
    rw [nanosPerSecond] at *
    omega
  exact gains_of_agree h (fun s => by cases s <;> simp [has])
    fun h => ⟨h.yearOfCentury, h.hourOfHalf, h.minute, h.second, by simp [hlt], h.offset⟩

theorem gains_setOffset {o : Int} (ho : IsOffset o) (h : f.setOffset o = some f') :
    f.Gains f' [.offset] :=
  gains_of_agree h (fun s => by cases s <;> simp [has])
    fun h => ⟨h.yearOfCentury, h.hourOfHalf, h.minute, h.second, h.nanos, by simp [ho]⟩

end Fields

/-! ## Reading -/

/-- An offset is a number of hours of two digits and of minutes. -/
theorem isOffset_of_readOffset {separator : List Char → Option (List Char)} {zulu : Bool}
    {cs rest : List Char} {o : Int} (h : readOffset separator zulu cs = some (o, rest)) :
    IsOffset o := by
  unfold readOffset at h
  split at h
  next c cs =>
    split at h
    next =>
      -- The letter Z stands for no hours and no minutes.
      cases h
      exact ⟨0, 0, by decide, by decide, rfl⟩
    next =>
      obtain ⟨⟨west, cs⟩, -, h⟩ := Option.bind_eq_some_iff.mp h
      obtain ⟨⟨hours, cs⟩, hhours, h⟩ := Option.bind_eq_some_iff.mp h
      obtain ⟨cs, -, h⟩ := Option.bind_eq_some_iff.mp h
      obtain ⟨⟨minutes, cs⟩, -, h⟩ := Option.bind_eq_some_iff.mp h
      dsimp only at h
      split at h
      next hminutes =>
        cases h
        refine ⟨hours, minutes, lt_of_readFixed hhours, hminutes, ?_⟩
        split
        · omega
        · omega
      next => cases h
  next => cases h

variable {f f' : Fields} {cs rest : List Char}

/-- What a reader of a part and a field for it do in turn. -/
theorem exists_of_read {α : Type} {part : Option (α × List Char)} (set : α → Option Fields)
    (h : (do
      let (a, rest) ← part
      return (← set a, rest)) = some (f', rest)) :
    ∃ a, part = some (a, rest) ∧ set a = some f' := by
  obtain ⟨⟨a, rest'⟩, hpart, h⟩ := Option.bind_eq_some_iff.mp h
  obtain ⟨g, hset, h⟩ := Option.bind_eq_some_iff.mp h
  cases h
  exact ⟨a, hpart, hset⟩

theorem gains_readComponent {c : Component}
    (h : Pattern.readComponent f cs c = some (f', rest)) : f.Gains f' c.slots := by
  cases c with
  | year =>
      obtain ⟨y, -, hset⟩ := exists_of_read f.setYear h
      exact Fields.gains_setYear hset
  | yearOfCentury =>
      obtain ⟨n, -, hset⟩ := exists_of_read f.setYearOfCentury h
      exact Fields.gains_setYearOfCentury hset
  | month pad =>
      obtain ⟨n, -, hset⟩ := exists_of_read f.setMonth h
      exact Fields.gains_setMonth hset
  | monthName long =>
      obtain ⟨n, -, hset⟩ := exists_of_read (fun n => f.setMonth (n + 1)) h
      exact Fields.gains_setMonth hset
  | day pad =>
      obtain ⟨n, -, hset⟩ := exists_of_read f.setDay h
      exact Fields.gains_setDay hset
  | ordinal =>
      obtain ⟨n, -, hset⟩ := exists_of_read f.setOrdinal h
      exact Fields.gains_setOrdinal hset
  | weekdayName long =>
      obtain ⟨n, -, hset⟩ := exists_of_read (fun n => f.setWeekday ((weekdays[n]?).getD .monday)) h
      exact Fields.gains_setWeekday hset
  | hour pad =>
      obtain ⟨n, -, hset⟩ := exists_of_read f.setHour h
      exact Fields.gains_setHour hset
  | hour12 pad =>
      obtain ⟨n, -, hset⟩ := exists_of_read f.setHour12 h
      exact Fields.gains_setHour12 hset
  | minute pad =>
      obtain ⟨n, -, hset⟩ := exists_of_read f.setMinute h
      exact Fields.gains_setMinute hset
  | second pad =>
      obtain ⟨n, -, hset⟩ := exists_of_read f.setSecond h
      exact Fields.gains_setSecond hset
  | fraction count =>
      obtain ⟨n, -, hset⟩ := exists_of_read f.setNanos h
      exact Fields.gains_setNanos hset
  | halfDay =>
      obtain ⟨b, -, hset⟩ := exists_of_read f.setAfternoon h
      exact Fields.gains_setAfternoon hset
  | offset style =>
      obtain ⟨o, hread, hset⟩ := exists_of_read f.setOffset h
      exact Fields.gains_setOffset (isOffset_of_readOffset hread) hset

theorem gains_readItem {i : Item} (h : Pattern.readItem f cs i = some (f', rest)) :
    f.Gains f' i.slots := by
  cases i with
  | literal c =>
      obtain ⟨rest', -, h⟩ := Option.map_eq_some_iff.mp h
      cases h
      exact .refl f
  | component c => exact gains_readComponent h
  | dottedFraction count =>
      simp only [Pattern.readItem] at h
      split at h
      next =>
        obtain ⟨n, -, hset⟩ := exists_of_read f.setNanos h
        exact Fields.gains_setNanos hset
      next =>
        cases h
        exact .without_fraction f

theorem gains_readItems {items : List Item}
    (h : Pattern.readItems items f cs = some (f', rest)) :
    f.Gains f' (items.flatMap Item.slots) := by
  induction items generalizing f cs with
  | nil =>
      cases h
      exact .refl _
  | cons i items ih =>
      obtain ⟨⟨g, cs'⟩, hitem, h⟩ := Option.bind_eq_some_iff.mp h
      rw [List.flatMap_cons]
      exact (gains_readItem hitem).trans (ih h)

end Calendar

namespace Pattern

variable {p : Pattern} {s : String} {f : Fields}

/-- A text gives the fields of its pattern. -/
theorem gains_read? (h : p.read? s = some f) : Fields.Gains {} f p.slots := by
  unfold read? at h
  split at h
  next hread =>
    cases h
    exact gains_readItems hread
  next => cases h

theorem inRange_read? (h : p.read? s = some f) : f.InRange :=
  (gains_read? h).inRange ⟨by simp, by simp, by simp, by simp, by simp, by simp⟩

/-- A text gives no field that its pattern does not have, and apart from a fraction all that it
has. -/
theorem has_read?_iff (h : p.read? s = some f) {slot : Slot} (hslot : slot ≠ .fraction) :
    f.has slot = true ↔ slot ∈ p.slots := by
  constructor
  · intro hhas
    rcases (gains_read? h).introduced slot hhas with hempty | hmem
    · cases slot <;> cases hempty
    · exact hmem
  · intro hmem
    exact (gains_read? h).given slot hmem hslot

end Pattern

end ObjectDocument
