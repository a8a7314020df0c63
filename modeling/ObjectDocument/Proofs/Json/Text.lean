import ObjectDocument.Json.Parser
import ObjectDocument.Json.Printer
import ObjectDocument.Proofs.Text.Numeral

/-!
# JSON text read back

A value without doubles is read back from its text, whatever delimiter follows it, unless it is
nested more deeply than the reader allows; then nothing is read.
-/

namespace ObjectDocument.Json

open Text

/-! ## Strings -/

theorem hexUnit?_control : ∀ n < 32,
    hexUnit? '0' '0' (Nat.digitChar (n / 16)) (Nat.digitChar (n % 16)) = some n := by
  decide

theorem eq_ofNat {c : Char} {n : Nat} (h : c.toNat = n) : c = Char.ofNat n := by
  rw [← h, Char.ofNat_toNat]

/-- The escape of a control character is read as the character. -/
theorem readString_controlEscape {c : Char} (hc : c.toNat < 32) (cs : List Char) :
    readString (controlEscape c ++ cs) =
      (readString cs).map fun (s, rest) => (c :: s, rest) := by
  unfold controlEscape
  split
  next h => rw [eq_ofNat h]; rfl
  split
  next h => rw [eq_ofNat h]; rfl
  split
  next h => rw [eq_ofNat h]; rfl
  split
  next h => rw [eq_ofNat h]; rfl
  split
  next h => rw [eq_ofNat h]; rfl
  next =>
    -- Four digits stand for the code point, which is no surrogate.
    have hlow : ¬(0xdc00 ≤ c.toNat ∧ c.toNat < 0xe000) := by omega
    have hhigh : ¬(0xd800 ≤ c.toNat ∧ c.toNat < 0xdc00) := by omega
    simp only [List.cons_append, List.nil_append, readString, hexUnit?_control c.toNat hc,
      if_neg hlow, if_neg hhigh, Char.ofNat_toNat]

/-- A character is read back from its form inside a string. -/
theorem readString_stringChar (c : Char) (cs : List Char) :
    readString (stringChar c ++ cs) =
      (readString cs).map fun (s, rest) => (c :: s, rest) := by
  unfold stringChar
  split
  next h => rw [h]; rfl
  split
  next h => rw [h]; rfl
  split
  next h => exact readString_controlEscape h cs
  next hquote hbackslash hcontrol =>
    have hplain : ¬(c.toNat < 32 ∨ c = '\\') := by simp [hbackslash, hcontrol]
    rw [List.cons_append, List.nil_append, readString, if_neg hplain]
    · exact hquote
    · rintro a b c' d cs' rfl
      exact absurd rfl hbackslash
    · rintro c' cs' rfl
      exact absurd rfl hbackslash

theorem readString_flatMap (s rest : List Char) :
    readString (s.flatMap stringChar ++ '"' :: rest) = some (s, rest) := by
  induction s with
  | nil => simp [readString]
  | cons c s ih =>
      rw [List.flatMap_cons, List.append_assoc, readString_stringChar, ih]
      rfl

/-! ## Numbers -/

theorem readDigits_digits {rest : List Char} (n : Nat)
    (hrest : ∀ c ∈ rest.head?, c.isDigit = false) :
    readDigits (digits n ++ rest) = ((digits n).map digitValue, rest) := by
  have hall : ∀ c ∈ digits n, c.isDigit = true := fun c hc => isDigit_of_mem_digits hc
  have hnone : rest.takeWhile Char.isDigit = [] ∧ rest.dropWhile Char.isDigit = rest := by
    cases rest with
    | nil => exact ⟨rfl, rfl⟩
    | cons c cs => simp [hrest c rfl]
  rw [readDigits, List.takeWhile_append_of_pos hall, List.dropWhile_append_of_pos hall, hnone.1,
    hnone.2, List.append_nil]
  rfl

theorem ofDigits_map_digits (n : Nat) : ofDigits ((digits n).map digitValue) = n := by
  rw [ofDigits, List.foldl_map]
  exact Text.ofDigits_digits n

/-- Numerals have no leading zero. -/
theorem digits_ne_zero_cons (n d : Nat) (ds : List Nat) :
    (digits n).map digitValue ≠ 0 :: d :: ds := by
  intro h
  rcases Nat.eq_zero_or_pos n with rfl | hn
  · cases h
  · obtain ⟨c, cs, hdigits, hc⟩ := exists_digits_eq_cons hn
    rw [hdigits, List.map_cons] at h
    exact hc (List.cons.inj h).1

/-- What may follow a value: the end of the text, or a comma or closing bracket. -/
def Ends (rest : List Char) : Prop :=
  ∀ c ∈ rest.head?, c = ',' ∨ c = ']' ∨ c = '\x7d'

theorem Ends.isDigit {rest : List Char} (h : Ends rest) :
    ∀ c ∈ rest.head?, c.isDigit = false := by
  intro c hc
  rcases h c hc with rfl | rfl | rfl
  · rfl
  · rfl
  · rfl

/-- The integers that stay integers in a text. -/
def InRange (n : Int) : Prop :=
  Int64.minValue.toInt ≤ n ∧ n < UInt64.size

theorem integerNumber?_digits {n : Int} (hn : InRange n) :
    integerNumber? (decide (n < 0)) ((digits n.natAbs).map digitValue) = some (.int n) := by
  obtain ⟨hlow, hhigh⟩ := hn
  simp only [integerNumber?, ofDigits_map_digits]
  by_cases hneg : n < 0
  · have hpos : 0 < n.natAbs := by omega
    have hmin : n.natAbs ≤ Int64.minValue.toInt.natAbs := by
      have hbound : Int64.minValue.toInt = -9223372036854775808 := rfl
      omega
    have hvalue : -(n.natAbs : Int) = n := by omega
    rw [if_neg (by simp [hneg]),
      if_pos (by simp only [hneg, hpos, hmin, decide_true, Bool.and_true]), hvalue]
  · have hmax : n.natAbs < UInt64.size := by omega
    have hvalue : (n.natAbs : Int) = n := by omega
    rw [if_pos (by simp only [hneg, hmax, decide_true, decide_false, Bool.not_false, Bool.and_true]),
      hvalue]

theorem readUnsigned_digits {n : Int} {rest : List Char} (hn : InRange n) (hrest : Ends rest) :
    readUnsigned (decide (n < 0)) (digits n.natAbs ++ rest) = some (.int n, rest) := by
  have hread := readDigits_digits n.natAbs hrest.isDigit
  have hint := integerNumber?_digits hn
  unfold readUnsigned
  rw [hread]
  split
  next h => exact absurd (List.map_eq_nil_iff.mp (Prod.mk.inj h).1) Nat.toDigits_ne_nil
  next h => exact absurd (Prod.mk.inj h).1 (digits_ne_zero_cons _ _ _)
  next h =>
    have hdot := hrest '.' (by rw [(Prod.mk.inj h).2]; rfl)
    simp at hdot
  next h =>
    obtain ⟨rfl, rfl⟩ := Prod.mk.inj h
    split
    next =>
      have he := hrest 'e' rfl
      simp at he
    next =>
      have he := hrest 'E' rfl
      simp at he
    next => simp [hint]

/-- An integer in range is read back from its digits and sign. -/
theorem readNumber_signedDigits {n : Int} {rest : List Char} (hn : InRange n) (hrest : Ends rest) :
    readNumber (signedDigits n ++ rest) = some (.int n, rest) := by
  have hread := readUnsigned_digits hn hrest
  unfold signedDigits
  split
  next hneg =>
    rw [decide_eq_true hneg] at hread
    rw [List.cons_append, readNumber, hread]
  next hneg =>
    rw [decide_eq_false hneg] at hread
    rw [readNumber, hread]
    exact fun _ => digits_append_ne_cons rfl

/-! ## Values -/

mutual

/-- The nesting levels of arrays and objects in a value. -/
def levels : Json → Nat
  | array items => itemLevels items + 1
  | object entries => entryLevels entries + 1
  | _ => 0

def itemLevels : List Json → Nat
  | [] => 0
  | j :: js => max (levels j) (itemLevels js)

def entryLevels : List (String × Json) → Nat
  | [] => 0
  | (_, j) :: es => max (levels j) (entryLevels es)

end

mutual

/-- Whether a text can give a value back as it is: no key of an object is repeated, and all numbers
are integers that stay integers. -/
def Exact : Json → Prop
  | number (.int n) => InRange n
  | number (.float _) => False
  | array items => ExactItems items
  | object entries => (Entries.keys entries).Nodup ∧ ExactEntries entries
  | _ => True

def ExactItems : List Json → Prop
  | [] => True
  | j :: js => Exact j ∧ ExactItems js

def ExactEntries : List (String × Json) → Prop
  | [] => True
  | (_, j) :: es => Exact j ∧ ExactEntries es

end

/-- A result for a value that is nested no more deeply than a bound. -/
def within {α : Type} (count bound : Nat) (a : α) : Option α :=
  if count ≤ bound then some a else none

section Within

variable {α β : Type} {m n bound : Nat} {a : α}

theorem within_of_le (h : n ≤ bound) : within n bound a = some a :=
  if_pos h

theorem within_of_lt (h : bound < n) : within n bound a = none :=
  if_neg (Nat.not_le.mpr h)

theorem within_succ : within (n + 1) (bound + 1) a = within n bound a := by
  simp [within]

theorem map_within (f : α → β) : (within n bound a).map f = within n bound (f a) := by
  unfold within
  split
  · rfl
  · rfl

/-- Of two bounds, the one that is known to hold can be left out. -/
theorem within_max (h : m ≤ bound) : within (max m n) bound a = within n bound a := by
  simp only [within, Nat.max_le, h, true_and]

end Within

theorem ends_comma (cs : List Char) : Ends (',' :: cs) := by
  simp [Ends]

theorem ends_bracket (cs : List Char) : Ends (']' :: cs) := by
  simp [Ends]

theorem ends_brace (cs : List Char) : Ends ('\x7d' :: cs) := by
  simp [Ends]

theorem ends_printMoreItems (js : List Json) (rest : List Char) :
    Ends (printMoreItems js ++ rest) := by
  cases js with
  | nil => exact ends_bracket rest
  | cons j js => exact ends_comma _

theorem ends_printMoreEntries (es : List (String × Json)) (rest : List Char) :
    Ends (printMoreEntries es ++ rest) := by
  cases es with
  | nil => exact ends_brace rest
  | cons e es => exact ends_comma _

/-! ### Beginnings -/

theorem isSpace_of_isDigit {c : Char} (hc : c.isDigit = true) : isSpace c = false := by
  simp only [isSpace, Bool.or_eq_false_iff, beq_eq_false_iff_ne]
  refine ⟨⟨⟨?_, ?_⟩, ?_⟩, ?_⟩
  all_goals
    rintro rfl
    cases hc

theorem skipSpace_cons {c : Char} (hc : isSpace c = false) (cs : List Char) :
    skipSpace (c :: cs) = c :: cs := by
  simp [skipSpace, hc]

/-- A value that begins with a digit or a minus sign is a number. -/
theorem readValue_of_sign {c : Char} (hc : c = '-' ∨ c.isDigit = true) (fuel depth : Nat)
    (cs : List Char) :
    readValue (fuel + 1) depth (c :: cs) =
      (readNumber (c :: cs)).map fun (n, rest) => (.number n, rest) := by
  have hspace : isSpace c = false := by
    rcases hc with rfl | hc
    · rfl
    · exact isSpace_of_isDigit hc
  have hother : ∀ d, d ≠ '-' → d.isDigit = false → c ≠ d := by
    rintro d hminus hdigit rfl
    rcases hc with rfl | hc
    · exact hminus rfl
    · rw [hdigit] at hc
      cases hc
  rw [readValue, skipSpace_cons hspace]
  split
  next h => exact absurd (List.cons.inj h).1 (hother _ (by decide) rfl)
  next h => exact absurd (List.cons.inj h).1 (hother _ (by decide) rfl)
  next h => exact absurd (List.cons.inj h).1 (hother _ (by decide) rfl)
  next h => exact absurd (List.cons.inj h).1 (hother _ (by decide) rfl)
  next h => exact absurd (List.cons.inj h).1 (hother _ (by decide) rfl)
  next h => exact absurd (List.cons.inj h).1 (hother _ (by decide) rfl)
  next => rfl

theorem exists_signedDigits_eq_cons (n : Int) :
    ∃ c cs, signedDigits n = c :: cs ∧ (c = '-' ∨ c.isDigit = true) := by
  unfold signedDigits
  split
  · exact ⟨'-', _, rfl, .inl rfl⟩
  · obtain ⟨c, cs, hdigits, hc⟩ := exists_digits_isDigit n.natAbs
    exact ⟨c, cs, hdigits, .inr hc⟩

theorem readValue_signedDigits {n : Int} {rest : List Char} (hn : InRange n) (hrest : Ends rest)
    (fuel depth : Nat) :
    readValue (fuel + 1) depth (signedDigits n ++ rest) = some (.number (.int n), rest) := by
  have hread := readNumber_signedDigits hn hrest
  obtain ⟨c, cs, hprint, hc⟩ := exists_signedDigits_eq_cons n
  rw [hprint, List.cons_append] at hread ⊢
  rw [readValue_of_sign hc, hread]
  rfl

/-- No value begins like the end of an array or of an object. -/
theorem exists_printChars_eq_cons {j : Json} (hj : Exact j) :
    ∃ c cs, printChars j = c :: cs ∧ isSpace c = false ∧ c ≠ ']' := by
  cases j with
  | null => exact ⟨'n', _, rfl, rfl, by decide⟩
  | bool b =>
      cases b with
      | true => exact ⟨'t', _, rfl, rfl, by decide⟩
      | false => exact ⟨'f', _, rfl, rfl, by decide⟩
  | number n =>
      cases n with
      | float x => cases hj
      | int n =>
          obtain ⟨c, cs, hprint, hc⟩ := exists_signedDigits_eq_cons n
          refine ⟨c, cs, hprint, ?_⟩
          rcases hc with rfl | hc
          · exact ⟨rfl, by decide⟩
          · refine ⟨isSpace_of_isDigit hc, ?_⟩
            rintro rfl
            cases hc
  | string s => exact ⟨'"', _, rfl, rfl, by decide⟩
  | array items => exact ⟨'[', _, rfl, rfl, by decide⟩
  | object entries => exact ⟨'\x7b', _, rfl, rfl, by decide⟩

/-! ### Lengths

A step of a reader takes at least one character, so the length of a text bounds the steps. -/

theorem length_printItems_cons (j : Json) (js : List Json) :
    (printItems (j :: js)).length = (printChars j).length + (printMoreItems js).length := by
  rw [printItems, List.length_append]

theorem length_printMoreItems (js : List Json) :
    (printMoreItems js).length = (printItems js).length + if js = [] then 0 else 1 := by
  cases js with
  | nil => rfl
  | cons j js => simp [printMoreItems, printItems]

theorem length_printMoreItems_pos (js : List Json) : 0 < (printMoreItems js).length := by
  cases js with
  | nil => simp [printMoreItems]
  | cons j js => simp [printMoreItems]

theorem length_printEntries_cons (k : String) (j : Json) (es : List (String × Json)) :
    (printChars j).length + (printMoreEntries es).length <
      (printEntries ((k, j) :: es)).length := by
  rw [printEntries]
  simp only [List.length_append, List.length_cons]
  omega

theorem length_printMoreEntries (es : List (String × Json)) :
    (printMoreEntries es).length = (printEntries es).length + if es = [] then 0 else 1 := by
  cases es with
  | nil => rfl
  | cons e es => simp [printMoreEntries, printEntries]

/-! ### Reading -/

section Reading

variable {fuel depth : Nat} {rest : List Char}

theorem readValue_bracket (fuel depth : Nat) (cs : List Char) :
    readValue (fuel + 1) (depth + 1) ('[' :: cs) =
      match skipSpace cs with
      | ']' :: rest => some (.array [], rest)
      | _ => (readItems fuel depth cs).map fun (js, rest) => (.array js, rest) :=
  rfl

theorem readValue_brace (fuel depth : Nat) (cs : List Char) :
    readValue (fuel + 1) (depth + 1) ('\x7b' :: cs) =
      match skipSpace cs with
      | '\x7d' :: rest => some (.object [], rest)
      | _ => (readEntries fuel depth cs).map fun (es, rest) => (.object es, rest) :=
  rfl

/-- An array is read back if its items are. -/
theorem readValue_array {items : List Json} (hitems : ExactItems items)
    (hread : ∀ depth, items ≠ [] → readItems fuel depth (printItems items ++ rest) =
      within (itemLevels items) depth (items, rest)) :
    readValue (fuel + 1) depth (printChars (.array items) ++ rest) =
      within (levels (.array items)) depth (.array items, rest) := by
  rw [printChars, List.cons_append]
  cases depth with
  | zero => rfl
  | succ depth =>
      rw [readValue_bracket, levels, within_succ]
      cases items with
      | nil => rfl
      | cons j js =>
          obtain ⟨c, cs, hprint, hspace, hclose⟩ := exists_printChars_eq_cons hitems.1
          have hitems : printItems (j :: js) ++ rest = c :: (cs ++ (printMoreItems js ++ rest)) := by
            rw [printItems, hprint, List.append_assoc, List.cons_append]
          rw [hread depth (by simp), map_within, hitems, skipSpace_cons hspace]
          split
          next h => exact absurd (List.cons.inj h).1 hclose
          next => rfl

theorem readItems_cons {j : Json} {js : List Json}
    (hvalue : readValue fuel depth (printChars j ++ (printMoreItems js ++ rest)) =
      within (levels j) depth (j, printMoreItems js ++ rest))
    (hread : js ≠ [] → readItems fuel depth (printItems js ++ rest) =
      within (itemLevels js) depth (js, rest)) :
    readItems (fuel + 1) depth (printItems (j :: js) ++ rest) =
      within (itemLevels (j :: js)) depth (j :: js, rest) := by
  rw [printItems, List.append_assoc, readItems, hvalue, itemLevels]
  rcases Nat.lt_or_ge depth (levels j) with hj | hj
  · rw [within_of_lt hj, within_of_lt (Nat.lt_of_lt_of_le hj (Nat.le_max_left _ _))]
  · rw [within_of_le hj, within_max hj]
    cases js with
    | nil => rfl
    | cons j' js =>
        have hmore : printMoreItems (j' :: js) ++ rest = ',' :: (printItems (j' :: js) ++ rest) := by
          rw [printMoreItems, printItems, List.cons_append, List.cons_append]
        rw [hmore]
        change (readItems fuel depth (printItems (j' :: js) ++ rest)).map _ = _
        rw [hread (by simp), map_within]

/-- The text of entries: a key in quotation marks, a colon and a value come first. -/
theorem printEntries_cons_append (k : String) (j : Json) (es : List (String × Json))
    (rest : List Char) :
    printEntries ((k, j) :: es) ++ rest =
      '"' :: (k.toList.flatMap stringChar ++ '"' ::
        (':' :: (printChars j ++ (printMoreEntries es ++ rest)))) := by
  simp [printEntries, printString]

/-- An object is read back if its entries are. -/
theorem readValue_object {entries : List (String × Json)}
    (hread : ∀ depth, entries ≠ [] → readEntries fuel depth (printEntries entries ++ rest) =
      within (entryLevels entries) depth (entries, rest)) :
    readValue (fuel + 1) depth (printChars (.object entries) ++ rest) =
      within (levels (.object entries)) depth (.object entries, rest) := by
  rw [printChars, List.cons_append]
  cases depth with
  | zero => rfl
  | succ depth =>
      rw [readValue_brace, levels, within_succ]
      cases entries with
      | nil => rfl
      | cons e es =>
          rw [hread depth (by simp), map_within, printEntries_cons_append, skipSpace_cons rfl]
          rfl

/-- The step of a reader of entries after a key and its colon. -/
theorem readEntries_quote {k cs cs' : List Char} (hk : readString cs = some (k, ':' :: cs')) :
    readEntries (fuel + 1) depth ('"' :: cs) =
      match readValue fuel depth cs' with
      | none => none
      | some (j, rest) =>
        match skipSpace rest with
        | '\x7d' :: rest => some ([(String.ofList k, j)], rest)
        | ',' :: rest =>
          (readEntries fuel depth rest).map fun (es, rest) => ((String.ofList k, j) :: es, rest)
        | _ => none := by
  rw [readEntries, skipSpace_cons rfl]
  simp only [hk]
  rfl

theorem readEntries_cons {k : String} {j : Json} {es : List (String × Json)}
    (hvalue : readValue fuel depth (printChars j ++ (printMoreEntries es ++ rest)) =
      within (levels j) depth (j, printMoreEntries es ++ rest))
    (hread : es ≠ [] → readEntries fuel depth (printEntries es ++ rest) =
      within (entryLevels es) depth (es, rest)) :
    readEntries (fuel + 1) depth (printEntries ((k, j) :: es) ++ rest) =
      within (entryLevels ((k, j) :: es)) depth ((k, j) :: es, rest) := by
  rw [printEntries_cons_append, readEntries_quote (readString_flatMap _ _), hvalue, entryLevels,
    String.ofList_toList]
  rcases Nat.lt_or_ge depth (levels j) with hj | hj
  · rw [within_of_lt hj, within_of_lt (Nat.lt_of_lt_of_le hj (Nat.le_max_left _ _))]
  · rw [within_of_le hj, within_max hj]
    cases es with
    | nil => rfl
    | cons e es =>
        have hmore : printMoreEntries (e :: es) ++ rest =
            ',' :: (printEntries (e :: es) ++ rest) := by
          rw [printMoreEntries, printEntries, List.cons_append, List.cons_append,
            List.cons_append]
        rw [hmore]
        change (readEntries fuel depth (printEntries (e :: es) ++ rest)).map _ = _
        rw [hread (by simp), map_within]

end Reading

mutual

/-- A value is read back from its text, unless it is nested too deeply. -/
theorem readValue_printChars : ∀ (j : Json), Exact j → ∀ {fuel depth : Nat} {rest : List Char},
    (printChars j).length ≤ fuel → Ends rest →
      readValue fuel depth (printChars j ++ rest) = within (levels j) depth (j, rest)
  | j, hj, 0, _, _, hfuel, _ => by
    obtain ⟨c, cs, hprint, -⟩ := exists_printChars_eq_cons hj
    rw [hprint] at hfuel
    simp at hfuel
  | .null, _, fuel + 1, depth, rest, _, _ => rfl
  | .bool true, _, fuel + 1, depth, rest, _, _ => rfl
  | .bool false, _, fuel + 1, depth, rest, _, _ => rfl
  | .number (.int n), hj, fuel + 1, depth, rest, _, hrest => by
    rw [levels, within_of_le (Nat.zero_le depth), printChars, printNumber]
    · exact readValue_signedDigits hj hrest fuel depth
    · simp
    · simp
  | .string s, _, fuel + 1, depth, rest, _, _ => by
    have hread : readString (s.toList.flatMap stringChar ++ ['"'] ++ rest) =
        some (s.toList, rest) := by
      simpa using readString_flatMap s.toList rest
    have hvalue (cs : List Char) : readValue (fuel + 1) depth ('"' :: cs) =
        (readString cs).map fun (s, rest) => (.string (String.ofList s), rest) := rfl
    rw [printChars, printString, List.cons_append, List.cons_append, hvalue, hread]
    simp [levels, within_of_le]
  | .array items, hj, fuel + 1, depth, rest, hfuel, _ => by
    have hlength : (printItems items).length ≤ fuel := by
      simpa [printChars] using hfuel
    exact readValue_array hj fun depth hne => readItems_printItems items hj hne hlength
  | .object entries, hj, fuel + 1, depth, rest, hfuel, _ => by
    have hlength : (printEntries entries).length ≤ fuel := by
      simpa [printChars] using hfuel
    exact readValue_object fun depth hne => readEntries_printEntries entries hj.2 hne hlength

theorem readItems_printItems : ∀ (items : List Json), ExactItems items → items ≠ [] →
    ∀ {fuel depth : Nat} {rest : List Char}, (printItems items).length ≤ fuel →
      readItems fuel depth (printItems items ++ rest) =
        within (itemLevels items) depth (items, rest)
  | j :: js, _, _, 0, _, _, hfuel => by
    have hpos := length_printMoreItems_pos js
    rw [length_printItems_cons] at hfuel
    omega
  | j :: js, hitems, _, fuel + 1, depth, rest, hfuel => by
    have hpos := length_printMoreItems_pos js
    have hmore := length_printMoreItems js
    rw [length_printItems_cons] at hfuel
    have hvalue : (printChars j).length ≤ fuel := by omega
    refine readItems_cons (readValue_printChars j hitems.1 hvalue (ends_printMoreItems js rest)) ?_
    intro hne
    rw [if_neg hne] at hmore
    exact readItems_printItems js hitems.2 hne (by omega)

theorem readEntries_printEntries : ∀ (entries : List (String × Json)), ExactEntries entries →
    entries ≠ [] → ∀ {fuel depth : Nat} {rest : List Char}, (printEntries entries).length ≤ fuel →
      readEntries fuel depth (printEntries entries ++ rest) =
        within (entryLevels entries) depth (entries, rest)
  | (k, j) :: es, _, _, 0, _, _, hfuel => by
    have hlength := length_printEntries_cons k j es
    omega
  | (k, j) :: es, hentries, _, fuel + 1, depth, rest, hfuel => by
    have hlength := length_printEntries_cons k j es
    have hmore := length_printMoreEntries es
    have hvalue : (printChars j).length ≤ fuel := by omega
    refine readEntries_cons
      (readValue_printChars j hentries.1 hvalue (ends_printMoreEntries es rest)) ?_
    intro hne
    rw [if_neg hne] at hmore
    exact readEntries_printEntries es hentries.2 hne (by omega)

end

/-! ## Whole texts -/

mutual

/-- A value without repeated keys has nothing to merge. -/
theorem normalize_eq_self : ∀ {j : Json}, Exact j → normalize j = j
  | .null, _ => rfl
  | .bool _, _ => rfl
  | .number _, _ => rfl
  | .string _, _ => rfl
  | .array items, hj => by
    rw [normalize, normalizeItems_eq_self hj]
  | .object entries, hj => by
    rw [normalize, normalizeEntries_eq_self hj.2, Entries.merge_eq_self hj.1]

theorem normalizeItems_eq_self : ∀ {items : List Json}, ExactItems items →
    normalizeItems items = items
  | [], _ => rfl
  | j :: js, h => by
    rw [normalizeItems, normalize_eq_self h.1, normalizeItems_eq_self h.2]

theorem normalizeEntries_eq_self : ∀ {entries : List (String × Json)}, ExactEntries entries →
    normalizeEntries entries = entries
  | [], _ => rfl
  | (k, j) :: es, h => by
    rw [normalizeEntries, normalize_eq_self h.1, normalizeEntries_eq_self h.2]

end

/-- The text of a value is read as the value, unless it is nested too deeply. -/
theorem parse?_print_of_exact {j : Json} (hj : Exact j) :
    parse? j.print = within (levels j) maxDepth j := by
  have hread : readValue ((printChars j).length + 1) maxDepth (printChars j ++ []) =
      within (levels j) maxDepth (j, []) :=
    readValue_printChars j hj (Nat.le_succ _) (by simp [Ends])
  rw [List.append_nil] at hread
  rw [parse?, print, String.toList_ofList, hread]
  rcases Nat.lt_or_ge maxDepth (levels j) with hdeep | hlevels
  · rw [within_of_lt hdeep, within_of_lt hdeep]
  · rw [within_of_le hlevels, within_of_le hlevels]
    simp [skipSpace, normalize_eq_self hj]

end ObjectDocument.Json
