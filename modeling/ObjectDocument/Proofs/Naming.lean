import ObjectDocument.Naming
import ObjectDocument.Proofs.Text.Split
import ObjectDocument.Text.Blank

/-!
# Snake case

A name in snake case consists of words of lower-case letters and digits, with an underscore between
neighbours. Main statements: the strategy gives every ASCII name one in snake case, which has all
letters and digits of the name and is empty only if there are none; and it leaves names in snake case
as they are.
-/

namespace ObjectDocument

namespace Naming

open Text

variable {c : Char} {cs w : List Char}

/-! ## Words -/

/-- The words of a name, as they stand in it. -/
def wordsOf (cs : List Char) : List (List Char) :=
  (splitWhere (fun c => !isAlphanumeric c) cs).flatMap (words .none)

theorem snakeCase_eq (cs : List Char) :
    snakeCase cs = ['_'].intercalate ((wordsOf cs).map lowerWord) :=
  rfl

/-- Cutting a run of letters and digits into words loses nothing. -/
theorem flatten_words (last : LastCase) (cs : List Char) : (words last cs).flatten = cs := by
  fun_induction words last cs with
  | case1 => rfl
  | case2 => rfl
  | case3 last c d rest h ih => simp [ih]
  | case4 last c d rest h h' ih => simp [flatten_consHead, ih]
  | case5 last c d rest h h' ih => simp [flatten_consHead, ih]

/-- The words are the letters and digits of a name. -/
theorem flatten_wordsOf (cs : List Char) : (wordsOf cs).flatten = cs.filter isAlphanumeric := by
  have hsplit := flatten_splitWhere (fun c => !isAlphanumeric c) cs
  simp only [Bool.not_not] at hsplit
  rw [← hsplit, wordsOf]
  induction splitWhere (fun c => !isAlphanumeric c) cs with
  | nil => rfl
  | cons piece pieces ih => simp [flatten_words, ih]

/-- The scan ends a word that it has begun, and begins none that it does not go on with. -/
theorem words_ne_nil (last : LastCase) (cs : List Char) :
    (∀ a, ∀ w ∈ consHead a (words last cs), w ≠ []) ∧
      (last ≠ .upper → ∀ w ∈ words last cs, w ≠ []) := by
  -- Only after a capital a word may end in front of the scan; a character before it is then its own.
  fun_induction words last cs with
  | case1 last => simp [consHead]
  | case2 last c => simp [consHead]
  | case3 last c d rest h ih =>
      have hrest := ih.2 (by simp)
      simp only [consHead, List.forall_mem_cons]
      exact ⟨fun a => ⟨by simp, hrest⟩, fun _ => ⟨by simp, hrest⟩⟩
  | case4 last c d rest h h' ih =>
      simp only [consHead, List.forall_mem_cons]
      exact ⟨fun a => ⟨by simp, ih.1 c⟩, fun hlast => absurd h'.1 hlast⟩
  | case5 last c d rest h h' ih =>
      refine ⟨fun a => ?_, fun _ => ih.1 c⟩
      have hc := ih.1 c
      cases hwords : consHead c (words (last.after c) (d :: rest)) with
      | nil => simp [consHead]
      | cons w ws =>
          rw [hwords, List.forall_mem_cons] at hc
          simp only [consHead, List.forall_mem_cons]
          exact ⟨by simp, hc.2⟩

theorem ne_nil_of_mem_wordsOf (h : w ∈ wordsOf cs) : w ≠ [] := by
  obtain ⟨piece, -, hw⟩ := List.mem_flatMap.mp h
  exact (words_ne_nil .none piece).2 (by simp) w hw

theorem wordsOf_eq_nil_iff : wordsOf cs = [] ↔ ∀ c ∈ cs, isAlphanumeric c = false := by
  have hwords : wordsOf cs = [] ↔ (wordsOf cs).flatten = [] := by
    rw [List.flatten_eq_nil_iff, List.eq_nil_iff_forall_not_mem]
    constructor
    · intro hnone w hw
      exact absurd hw (hnone w)
    · intro hnil w hw
      exact ne_nil_of_mem_wordsOf hw (hnil w hw)
  rw [hwords, flatten_wordsOf, List.filter_eq_nil_iff]
  simp only [Bool.not_eq_true]

/-! ## Letters and digits of ASCII -/

/-- What holds of the 128 characters of ASCII holds of each. -/
theorem forall_ascii {P : Char → Prop} (h : ∀ n : Fin 128, P (Char.ofNat n)) (hc : c.toNat < 128) :
    P c := by
  have hP := h ⟨c.toNat, hc⟩
  rwa [Char.ofNat_toNat] at hP

theorem isAlphanumeric_of_ascii (hc : c.toNat < 128) : isAlphanumeric c = c.isAlphanum :=
  if_pos hc

theorem lowercaseChar_of_ascii (hc : c.toNat < 128) : lowercaseChar c = [c.toLower] :=
  if_pos hc

/-- The characters of words in snake case. -/
def IsWordChar (c : Char) : Prop :=
  c.isLower = true ∨ c.isDigit = true

instance : DecidablePred IsWordChar :=
  fun c => inferInstanceAs (Decidable (c.isLower = true ∨ c.isDigit = true))

theorem isWordChar_toLower (hc : c.toNat < 128) (halnum : c.isAlphanum = true) :
    IsWordChar c.toLower := by
  revert halnum
  exact forall_ascii (P := fun c => c.isAlphanum = true → IsWordChar c.toLower) (by decide) hc

namespace IsWordChar

theorem toNat_lt (h : IsWordChar c) : c.toNat < 128 := by
  rcases h with hlower | hdigit
  · have hle : c.val ≤ 122 := of_decide_eq_true (Bool.and_eq_true_iff.mp hlower).2
    exact Nat.lt_of_le_of_lt (UInt32.le_iff_toNat_le.mp hle) (by decide)
  · have hle : c.val ≤ 57 := of_decide_eq_true (Bool.and_eq_true_iff.mp hdigit).2
    exact Nat.lt_of_le_of_lt (UInt32.le_iff_toNat_le.mp hle) (by decide)

/-- What holds of the word characters of ASCII holds of all. -/
theorem of_forall {P : Char → Prop}
    (hP : ∀ n : Fin 128, IsWordChar (Char.ofNat n) → P (Char.ofNat n)) (h : IsWordChar c) : P c :=
  forall_ascii (P := fun c => IsWordChar c → P c) hP h.toNat_lt h

theorem isAlphanumeric_eq (h : IsWordChar c) : isAlphanumeric c = true :=
  of_forall (P := fun c => isAlphanumeric c = true) (by decide) h

theorem isUppercase_eq (h : IsWordChar c) : isUppercase c = false :=
  of_forall (P := fun c => isUppercase c = false) (by decide) h

theorem toLower_eq (h : IsWordChar c) : c.toLower = c :=
  of_forall (P := fun c => c.toLower = c) (by decide) h

theorem isBlank_eq (h : IsWordChar c) : isBlank c = false :=
  of_forall (P := fun c => isBlank c = false) (by decide) h

end IsWordChar

/-! ## Names in snake case -/

/-- A word in snake case. -/
def IsWord (w : List Char) : Prop :=
  w ≠ [] ∧ ∀ c ∈ w, IsWordChar c

/-- Words with an underscore between neighbours. -/
def IsSnakeCase (cs : List Char) : Prop :=
  ∃ ws : List (List Char), (∀ w ∈ ws, IsWord w) ∧ cs = ['_'].intercalate ws

theorem lowerWord_of_ascii (h : ∀ c ∈ w, c.toNat < 128) : lowerWord w = w.map Char.toLower := by
  have hsigma {c : Char} (hc : c.toNat < 128) : c ≠ capitalSigma := by
    rintro rfl
    exact absurd hc (by decide)
  fun_induction lowerWord w with
  | case1 => rfl
  | case2 => exact absurd rfl (hsigma (h capitalSigma List.mem_cons_self))
  | case3 c hc => exact lowercaseChar_of_ascii (h c List.mem_cons_self)
  | case4 c d cs ih =>
      obtain ⟨hc, hcs⟩ := List.forall_mem_cons.mp h
      rw [lowercaseChar_of_ascii hc, ih hcs]
      rfl

theorem forall_mem_wordsOf {P : Char → Prop} (h : ∀ c ∈ cs, P c) (hw : w ∈ wordsOf cs) :
    ∀ c ∈ w, P c ∧ isAlphanumeric c = true := by
  intro c hc
  have hmem : c ∈ (wordsOf cs).flatten := List.mem_flatten.mpr ⟨w, hw, hc⟩
  rw [flatten_wordsOf, List.mem_filter] at hmem
  exact ⟨h c hmem.1, hmem.2⟩

theorem isWord_of_mem (h : ∀ c ∈ cs, c.toNat < 128) : ∀ w ∈ (wordsOf cs).map lowerWord, IsWord w := by
  rw [List.forall_mem_map]
  intro w hw
  have hchars := forall_mem_wordsOf h hw
  rw [lowerWord_of_ascii fun c hc => (hchars c hc).1]
  refine ⟨by simpa using ne_nil_of_mem_wordsOf hw, ?_⟩
  rw [List.forall_mem_map]
  intro c hc
  obtain ⟨hascii, halnum⟩ := hchars c hc
  exact isWordChar_toLower hascii (isAlphanumeric_of_ascii hascii ▸ halnum)

/-- The strategy gives an ASCII name one in snake case. -/
theorem isSnakeCase_snakeCase (h : ∀ c ∈ cs, c.toNat < 128) : IsSnakeCase (snakeCase cs) :=
  ⟨(wordsOf cs).map lowerWord, isWord_of_mem h, snakeCase_eq cs⟩

/-- A word without capitals is not cut. -/
theorem words_of_isWord (h : IsWord w) (last : LastCase) : words last w = [w] := by
  obtain ⟨hne, hchars⟩ := h
  have hupper {c : Char} (hc : c ∈ w) := (hchars c hc).isUppercase_eq
  clear hchars
  fun_induction words last w with
  | case1 => exact absurd rfl hne
  | case2 => rfl
  | case3 last c d rest hcut ih =>
      have hd : isUppercase d = false := hupper (by simp)
      simp [hd] at hcut
  | case4 last c d rest h h' ih =>
      have hc : isUppercase c = false := hupper (by simp)
      simp [hc] at h'
  | case5 last c d rest h h' ih =>
      rw [ih (by simp) fun hmem => hupper (List.mem_cons_of_mem c hmem)]
      rfl

theorem flatMap_words {ws : List (List Char)} (h : ∀ w ∈ ws, IsWord w) :
    ws.flatMap (words .none) = ws := by
  induction ws with
  | nil => rfl
  | cons w ws ih =>
      obtain ⟨hw, hws⟩ := List.forall_mem_cons.mp h
      rw [List.flatMap_cons, words_of_isWord hw, ih hws]
      rfl

/-- A name in snake case has the words that it is put together of. -/
theorem wordsOf_intercalate {ws : List (List Char)} (h : ∀ w ∈ ws, IsWord w) :
    wordsOf (['_'].intercalate ws) = ws := by
  cases hws : ws with
  | nil => rfl
  | cons first rest =>
      rw [← hws]
      have hne : ws ≠ [] := by simp [hws]
      have hsep : ∀ c ∈ ['_'].intercalate ws, (!isAlphanumeric c) = (c == '_') := by
        intro c hc
        rcases mem_intercalate hc with rfl | ⟨w, hw, hc⟩
        · rfl
        · have hchar := (h w hw).2 c hc
          have hne : c ≠ '_' := by
            rintro rfl
            exact absurd hchar (by decide)
          simp [hchar.isAlphanumeric_eq, hne]
      have hpieces : ∀ w ∈ ws, '_' ∉ w := by
        intro w hw hmem
        exact absurd ((h w hw).2 '_' hmem) (by decide)
      rw [wordsOf, splitWhere_congr hsep, splitWhere_eq_iff.mpr ⟨hne, hpieces, rfl⟩]
      exact flatMap_words h

/-- A name in snake case stays as it is. -/
theorem snakeCase_eq_self (h : IsSnakeCase cs) : snakeCase cs = cs := by
  obtain ⟨ws, hws, rfl⟩ := h
  have hlower : ∀ w ∈ ws, lowerWord w = w := by
    intro w hw
    have hchars := (hws w hw).2
    rw [lowerWord_of_ascii fun c hc => (hchars c hc).toNat_lt,
      List.map_congr_left fun c hc => (hchars c hc).toLower_eq, List.map_id']
  rw [snakeCase_eq, wordsOf_intercalate hws, List.map_congr_left hlower, List.map_id']

theorem IsSnakeCase.isWordChar_head (h : IsSnakeCase (c :: cs)) : IsWordChar c := by
  obtain ⟨ws, hws, hcs⟩ := h
  cases ws with
  | nil => cases hcs
  | cons w ws =>
      obtain ⟨⟨hne, hchars⟩, -⟩ := List.forall_mem_cons.mp hws
      obtain ⟨rest, hrest⟩ := exists_intercalate_cons ['_'] w ws
      rw [hrest] at hcs
      cases w with
      | nil => exact absurd rfl hne
      | cons d w =>
          obtain ⟨rfl, -⟩ := List.cons.inj hcs
          exact hchars c List.mem_cons_self

theorem IsSnakeCase.eq_underscore_or (h : IsSnakeCase cs) {c : Char} (hc : c ∈ cs) :
    c = '_' ∨ IsWordChar c := by
  obtain ⟨ws, hws, rfl⟩ := h
  exact (mem_intercalate hc).imp_right fun ⟨w, hw, hmem⟩ => (hws w hw).2 c hmem

/-- A name without letters and digits has an empty form in snake case, and only such a name has. -/
theorem snakeCase_eq_nil_iff (h : ∀ c ∈ cs, c.toNat < 128) :
    snakeCase cs = [] ↔ ∀ c ∈ cs, c.isAlphanum = false := by
  have hne : ∀ w ∈ (wordsOf cs).map lowerWord, w ≠ [] := fun w hw => (isWord_of_mem h w hw).1
  rw [snakeCase_eq, intercalate_eq_nil_iff hne, List.map_eq_nil_iff, wordsOf_eq_nil_iff]
  refine forall₂_congr fun c hc => ?_
  rw [isAlphanumeric_of_ascii (h c hc)]

end Naming

end ObjectDocument
