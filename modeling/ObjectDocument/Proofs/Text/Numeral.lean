import ObjectDocument.Text.Blank
import ObjectDocument.Text.Numeral

/-!
# Numerals read back

A number written with zeros up to a width is read back from the front of a text, whatever follows
it, as long as the reader takes no more digits than were written. An integer is read back from its
digits and sign.
-/

namespace ObjectDocument.Text

variable {ds rest : List Char} {width limit n : Nat}

/-! ## Characters -/

theorem isDigit_of_mem_digits {c : Char} (hc : c ∈ digits n) : c.isDigit = true :=
  Nat.isDigit_of_mem_toDigits (by decide) (by decide) hc

theorem isDigit_of_mem_padded {c : Char} (hc : c ∈ padded width n) : c.isDigit = true := by
  rcases List.mem_append.mp hc with hzero | hdigit
  · rw [List.eq_of_mem_replicate hzero]
    rfl
  · exact isDigit_of_mem_digits hdigit

/-- The digits of a number begin with a digit. -/
theorem exists_digits_isDigit (n : Nat) : ∃ c cs, digits n = c :: cs ∧ c.isDigit = true := by
  cases hdigits : digits n with
  | nil => exact absurd hdigits Nat.toDigits_ne_nil
  | cons c cs => exact ⟨c, cs, rfl, isDigit_of_mem_digits (hdigits ▸ List.mem_cons_self)⟩

/-- What begins with the digits of a number has no sign in front. -/
theorem digits_append_ne_cons {c : Char} {cs : List Char} (hc : c.isDigit = false) :
    digits n ++ rest ≠ c :: cs := by
  intro h
  obtain ⟨d, ds, hdigits, hd⟩ := exists_digits_isDigit n
  rw [hdigits, List.cons_append] at h
  rw [(List.cons.inj h).1, hc] at hd
  cases hd

theorem isBlank_of_isDigit {c : Char} (hc : c.isDigit = true) : isBlank c = false := by
  obtain ⟨hlow, hhigh⟩ := Char.isDigit_iff_toNat.mp hc
  change 48 ≤ c.toNat at hlow
  change c.toNat ≤ 57 at hhigh
  -- The digits lie between the blank and the next run of white space.
  have hbefore : 0x21 ≤ c.toNat := by omega
  have hafter : ¬0x85 ≤ c.toNat := by omega
  simp only [isBlank, Spans.contains, blankSpans, Spans.memberAfter, hbefore, hafter, if_true,
    if_false, show 0x9 ≤ c.toNat by omega, show 0xe ≤ c.toNat by omega,
    show 0x20 ≤ c.toNat by omega, Bool.not_false, Bool.not_true]

theorem powerOfTen_pos (n : Nat) : 0 < powerOfTen n :=
  Nat.pow_pos (by decide)

theorem powerOfTen_add (m n : Nat) : powerOfTen (m + n) = powerOfTen m * powerOfTen n :=
  Nat.pow_add 10 m n

theorem padded_ne_nil (width n : Nat) : padded width n ≠ [] :=
  List.append_ne_nil_of_right_ne_nil _ Nat.toDigits_ne_nil

theorem length_padded (hwidth : 0 < width) (hn : n < powerOfTen width) :
    (padded width n).length = width := by
  have hlength : (digits n).length ≤ width :=
    (Nat.length_toDigits_le_iff (by decide) hwidth).mpr hn
  rw [padded, List.length_append, List.length_replicate]
  omega

/-- A numeral has no white space in front to be skipped. -/
theorem trimLeft_padded_append : trimLeft (padded width n ++ rest) = padded width n ++ rest := by
  cases hpadded : padded width n with
  | nil => exact absurd hpadded (padded_ne_nil width n)
  | cons c cs =>
      have hc : c ∈ padded width n := by rw [hpadded]; exact List.mem_cons_self
      have hblank := isBlank_of_isDigit (isDigit_of_mem_padded hc)
      simp [trimLeft, hblank]

/-! ## Values -/

theorem ofDigits_append_singleton (cs : List Char) (c : Char) :
    ofDigits (cs ++ [c]) = ofDigits cs * 10 + digitValue c := by
  rw [ofDigits, ofDigits, List.foldl_append]
  rfl

theorem digitValue_digitChar (hn : n < 10) : digitValue n.digitChar = n :=
  Nat.toNat_digitChar_sub_48_of_lt_ten hn

/-- The digits of a number other than zero begin with a digit other than zero. -/
theorem exists_digits_eq_cons {n : Nat} (hn : 0 < n) :
    ∃ c cs, digits n = c :: cs ∧ digitValue c ≠ 0 := by
  induction n using Nat.strongRecOn with
  | ind n ih =>
      rcases Nat.lt_or_ge n 10 with hsmall | hlarge
      · refine ⟨n.digitChar, [], Nat.toDigits_of_lt_base hsmall, ?_⟩
        rw [digitValue_digitChar hsmall]
        omega
      · -- The first digit is the first one of the quotient.
        obtain ⟨c, cs, hdigits, hc⟩ := ih (n / 10) (by omega) (by omega)
        refine ⟨c, cs ++ [(n % 10).digitChar], ?_, hc⟩
        rw [digits, Nat.toDigits_of_base_le (by decide) hlarge, ← digits, hdigits,
          List.cons_append]

theorem ofDigits_digits (n : Nat) : ofDigits (digits n) = n := by
  induction n using Nat.strongRecOn with
  | ind n ih =>
      rcases Nat.lt_or_ge n 10 with hsmall | hlarge
      · rw [digits, Nat.toDigits_of_lt_base hsmall]
        simp [ofDigits, digitValue_digitChar hsmall]
      · -- The last digit is the remainder, and those before it are the digits of the quotient.
        rw [digits, Nat.toDigits_of_base_le (by decide) hlarge, ← digits,
          ofDigits_append_singleton, ih (n / 10) (by omega),
          digitValue_digitChar (Nat.mod_lt n (by decide))]
        omega

theorem ofDigits_padded (width n : Nat) : ofDigits (padded width n) = n := by
  rw [padded]
  -- Zeros in front leave the value as it is, however many they are.
  induction width - (digits n).length with
  | zero => exact ofDigits_digits n
  | succ k ih => exact ih

/-! ## Reading -/

/-- Digits that are not followed by more of them, as far as a reader looks. -/
theorem takeDigits_append (hds : ∀ c ∈ ds, c.isDigit = true) (hlength : ds.length ≤ limit)
    (hrest : ds.length = limit ∨ ∀ c ∈ rest.head?, c.isDigit = false) :
    takeDigits limit (ds ++ rest) = (ds, rest) := by
  induction ds generalizing limit with
  | nil =>
      cases limit with
      | zero => rfl
      | succ limit =>
          cases rest with
          | nil => rfl
          | cons c cs =>
              have hc : c.isDigit = false := by simpa using hrest
              simp [takeDigits, hc]
  | cons d ds ih =>
      cases limit with
      | zero => simp at hlength
      | succ limit =>
          have hd : d.isDigit = true := hds d List.mem_cons_self
          have htake : takeDigits limit (ds ++ rest) = (ds, rest) :=
            ih (fun c hc => hds c (List.mem_cons_of_mem d hc)) (by simpa using hlength)
              (by simpa using hrest)
          rw [List.cons_append, takeDigits, if_pos hd, htake]

theorem readNat_append (hds : ∀ c ∈ ds, c.isDigit = true) (hne : ds ≠ [])
    (hlength : ds.length ≤ limit)
    (hrest : ds.length = limit ∨ ∀ c ∈ rest.head?, c.isDigit = false) :
    readNat limit (ds ++ rest) = some (ofDigits ds, rest) := by
  rw [readNat, takeDigits_append hds hlength hrest]
  cases ds with
  | nil => exact absurd rfl hne
  | cons d ds => rfl

/-- A number of a fixed width is read back, also if more digits follow. -/
theorem readNat_padded (hwidth : 0 < width) (hn : n < powerOfTen width) :
    readNat width (padded width n ++ rest) = some (n, rest) := by
  have hlength := length_padded hwidth hn
  rw [readNat_append (fun _ => isDigit_of_mem_padded) (padded_ne_nil width n)
    (Nat.le_of_eq hlength) (.inl hlength), ofDigits_padded]

theorem readFixed_padded (hwidth : 0 < width) (hn : n < powerOfTen width) :
    readFixed width (padded width n ++ rest) = some (n, rest) := by
  have hlength := length_padded hwidth hn
  rw [readFixed, takeDigits_append (fun _ => isDigit_of_mem_padded) (Nat.le_of_eq hlength)
    (.inl hlength)]
  simp only [hlength, if_true, ofDigits_padded]

/-! ## Bounds of what is read -/

theorem isDigit_of_mem_takeDigits {cs : List Char} {c : Char}
    (hc : c ∈ (takeDigits limit cs).1) : c.isDigit = true := by
  induction limit generalizing cs with
  | zero => simp [takeDigits] at hc
  | succ limit ih =>
      cases cs with
      | nil => simp [takeDigits] at hc
      | cons d cs =>
          rw [takeDigits] at hc
          split at hc
          next hd =>
            rcases List.mem_cons.mp hc with rfl | hc
            · exact hd
            · exact ih hc
          next => cases hc

theorem digitValue_lt {c : Char} (hc : c.isDigit = true) : digitValue c < 10 := by
  obtain ⟨hlow, hhigh⟩ := Char.isDigit_iff_toNat.mp hc
  change c.toNat ≤ 57 at hhigh
  change c.toNat - 48 < 10
  omega

/-- Digits behind a number multiply it by no more than the power of ten of their count. -/
theorem foldl_digits_lt (hds : ∀ c ∈ ds, c.isDigit = true) :
    ds.foldl (fun n c => n * 10 + digitValue c) n < (n + 1) * powerOfTen ds.length := by
  induction ds generalizing n with
  | nil => simp [powerOfTen]
  | cons d ds ih =>
      have hd := digitValue_lt (hds d List.mem_cons_self)
      have hlt := ih (n := n * 10 + digitValue d) fun c hc => hds c (List.mem_cons_of_mem d hc)
      have hle : n * 10 + digitValue d + 1 ≤ (n + 1) * 10 := by omega
      have hpower : powerOfTen (ds.length + 1) = 10 * powerOfTen ds.length := Nat.pow_succ'
      rw [List.foldl_cons, List.length_cons, hpower, ← Nat.mul_assoc]
      exact Nat.lt_of_lt_of_le hlt (Nat.mul_le_mul_right _ hle)

/-- Digits stand for a number of no more digits. -/
theorem ofDigits_lt (hds : ∀ c ∈ ds, c.isDigit = true) : ofDigits ds < powerOfTen ds.length := by
  have hlt := foldl_digits_lt (n := 0) hds
  rwa [Nat.zero_add, Nat.one_mul] at hlt

theorem lt_of_readFixed {count : Nat} {cs : List Char}
    (h : readFixed count cs = some (n, rest)) : n < powerOfTen count := by
  unfold readFixed at h
  dsimp only at h
  split at h
  next hlength =>
    cases h
    have hlt := ofDigits_lt fun c (hc : c ∈ (takeDigits count cs).1) => isDigit_of_mem_takeDigits hc
    rwa [hlength] at hlt
  next => cases h

/-! ## Signs -/

theorem unsigned?_digits (n : Nat) : unsigned? (digits n) = some n := by
  have hdigits : (digits n).all Char.isDigit = true :=
    List.all_eq_true.mpr fun _ => isDigit_of_mem_digits
  rw [unsigned?, if_pos ⟨Nat.toDigits_ne_nil, hdigits⟩, ofDigits_digits]

/-- A numeral without a sign is read as such. -/
theorem signed?_digits (n : Nat) : signed? (digits n) = some (n : Int) := by
  have hsign {c : Char} (hc : c.isDigit = false) (cs : List Char) : digits n ≠ c :: cs := by
    rw [← List.append_nil (digits n)]
    exact digits_append_ne_cons hc
  rw [signed?]
  · rw [unsigned?_digits]
    rfl
  · exact hsign rfl
  · exact hsign rfl

/-- An integer is read back from its digits and sign. -/
theorem signed?_signedDigits (n : Int) : signed? (signedDigits n) = some n := by
  rw [signedDigits]
  split
  next hneg =>
    have habs : -(n.natAbs : Int) = n := by omega
    rw [signed?, unsigned?_digits]
    exact congrArg some habs
  next hneg =>
    have habs : (n.natAbs : Int) = n := by omega
    rw [signed?_digits, habs]

/-- The texts of integers: one or more decimal digits, with an optional sign in front. -/
inductive IsNumeral : List Char → Int → Prop where
  | plain {ds : List Char} (hne : ds ≠ []) (hds : ∀ c ∈ ds, c.isDigit = true) :
    IsNumeral ds (ofDigits ds)
  | plus {ds : List Char} (hne : ds ≠ []) (hds : ∀ c ∈ ds, c.isDigit = true) :
    IsNumeral ('+' :: ds) (ofDigits ds)
  | minus {ds : List Char} (hne : ds ≠ []) (hds : ∀ c ∈ ds, c.isDigit = true) :
    IsNumeral ('-' :: ds) (-(ofDigits ds : Int))

theorem map_unsigned?_eq_some_iff {f : Int → Int} {m : Int} :
    (Option.map f do return (← unsigned? ds)) = some m ↔
      (ds ≠ [] ∧ ∀ c ∈ ds, c.isDigit = true) ∧ f (ofDigits ds) = m := by
  rw [unsigned?]
  split
  next hdigits =>
    simpa using fun _ => ⟨hdigits.1, by simpa using hdigits.2⟩
  next hdigits =>
    rw [List.all_eq_true] at hdigits
    simp [hdigits]

/-- Exactly the numerals are read as integers. -/
theorem signed?_eq_some_iff {cs : List Char} {n : Int} : signed? cs = some n ↔ IsNumeral cs n := by
  constructor
  · intro h
    unfold signed? at h
    split at h
    all_goals obtain ⟨⟨hne, hds⟩, rfl⟩ := map_unsigned?_eq_some_iff.mp h
    · exact .minus hne hds
    · exact .plus hne hds
    · exact .plain hne hds
  · intro h
    cases h with
    | minus hne hds => exact map_unsigned?_eq_some_iff.mpr ⟨⟨hne, hds⟩, rfl⟩
    | plus hne hds => exact map_unsigned?_eq_some_iff.mpr ⟨⟨hne, hds⟩, rfl⟩
    | plain hne hds =>
        have hsign : ∀ c, c.isDigit = false → ∀ ds, cs ≠ c :: ds := by
          intro c hc ds heq
          rw [hds c (heq ▸ List.mem_cons_self)] at hc
          cases hc
        rw [signed?]
        · exact map_unsigned?_eq_some_iff.mpr ⟨⟨hne, hds⟩, rfl⟩
        · exact hsign '-' rfl
        · exact hsign '+' rfl

theorem int64?_eq_some_iff {n : Int} {m : Int64} : int64? n = some m ↔ m.toInt = n := by
  rw [int64?]
  constructor
  · intro h
    obtain ⟨⟨hlow, hhigh⟩, heq⟩ := Option.ite_none_right_eq_some.mp h
    rw [← Option.some.inj heq]
    exact Int64.toInt_ofInt_of_le hlow (Int.lt_add_one_of_le hhigh)
  · rintro rfl
    rw [if_pos ⟨m.minValue_le_toInt, m.toInt_le⟩, Int64.ofInt_toInt]

/-- A text is read as an integer of 64 bits if it is a numeral of that integer. -/
theorem parseInt64?_eq_some_iff {s : String} {m : Int64} :
    parseInt64? s = some m ↔ IsNumeral s.toList m.toInt := by
  rw [parseInt64?, Option.bind_eq_some_iff]
  simp only [signed?_eq_some_iff, int64?_eq_some_iff]
  constructor
  · rintro ⟨n, hn, rfl⟩
    exact hn
  · intro h
    exact ⟨m.toInt, h, rfl⟩

/-- An integer that fits into 64 bits is read back from its digits and sign. -/
theorem exists_parseInt64? {n : Int} (hlow : -9223372036854775808 ≤ n)
    (hhigh : n ≤ 9223372036854775807) :
    ∃ m, parseInt64? (String.ofList (signedDigits n)) = some m ∧ m.toInt = n := by
  have htoInt : (Int64.ofInt n).toInt = n := by
    apply Int64.toInt_ofInt_of_le
    · omega
    · omega
  refine ⟨Int64.ofInt n, ?_, htoInt⟩
  rw [parseInt64?, String.toList_ofList, signed?_signedDigits, Option.bind_some, int64?,
    if_pos ⟨hlow, hhigh⟩]

end ObjectDocument.Text
