import ObjectDocument.Proofs.Calendar.Language
import ObjectDocument.Proofs.Converter.Dates

/-!
# Compiling date patterns

A pattern is refused for what is wrong with its reading, and otherwise prints the pieces of the reading
in their order. Main statement: a pattern compiles exactly if it is not empty, no section of it is left
open and all of its fields are supported; the error is the leftmost thing that is wrong.
-/

namespace ObjectDocument

open Calendar

namespace Calendar

/-- How often a letter may stand in a field. -/
def isSupported (letter : Char) (count : Nat) : Bool :=
  match letter with
  | 'y' | 'u' => 1 ≤ count
  | 'M' | 'E' => 1 ≤ count ∧ count ≤ 4
  | 'D' | 'X' | 'x' => 1 ≤ count ∧ count ≤ 3
  | 'd' | 'H' | 'h' | 'm' | 's' => 1 ≤ count ∧ count ≤ 2
  | 'S' => count = 3 ∨ count = 6 ∨ count = 9
  | 'Z' => 1 ≤ count ∧ count ≤ 5 ∧ count ≠ 4
  | 'a' => count = 1
  | _ => false

/-- Whether the fields among the pieces of a pattern are supported. -/
def AllSupported (ts : List Token) : Prop :=
  ∀ letter count, .run letter count ∈ ts → isSupported letter count = true

/-- What is wrong with a piece of a pattern. -/
def Token.fault? : Token → Option PatternFault
  | .char _ => none
  | .run letter count =>
    if isSupported letter count then none else some (.unsupportedLetters letter count)

/-- What is wrong with a pattern, from left to right. Behind the quote of a section that is left open
nothing else can be wrong. -/
def faults (source : String) (ts : List Token) (isOpen : Bool) : List PatternFault :=
  ts.filterMap Token.fault? ++ (if isOpen then [.unterminatedQuote] else []) ++
    (if source = "" then [.empty] else [])

/-- The text of a piece of a pattern for a date-time. -/
def printToken (t : DateTime) : Token → List Char
  | .char c => [c]
  | .run letter count =>
    match Component.ofRun? letter count with
    | some c => Pattern.printComponent t c
    | none => []

variable {letter : Char} {count : Nat} {ts : List Token} {isOpen : Bool}

theorem isSome_ofRun? (h : 0 < count) :
    (Component.ofRun? letter count).isSome = isSupported letter count := by
  unfold Component.ofRun?
  split
  all_goals try rfl
  · simp [isSupported]
    omega
  · simp [isSupported]
    omega
  · -- What the components leave out is no count of its letter.
    unfold isSupported
    split
    all_goals try rfl
    all_goals simp at *
    all_goals omega

theorem item_eq_error_iff {tk : Token} (hpos : ∀ letter count, tk = .run letter count → 0 < count)
    (fault : PatternFault) : Pattern.item tk = .error fault ↔ tk.fault? = some fault := by
  cases tk with
  | char c => simp [Pattern.item, Token.fault?]
  | run letter count =>
      rw [Pattern.item, Token.fault?, ← isSome_ofRun? (hpos letter count rfl)]
      cases Component.ofRun? letter count with
      | none => simp
      | some c => simp

/-! ## Printing the pieces -/

/-- A fraction is printed with the dot in front of it as it is printed behind the dot. -/
theorem flatMap_printItem_joinDots (t : DateTime) (items : List Item) :
    (Pattern.joinDots items).flatMap (Pattern.printItem t) = items.flatMap (Pattern.printItem t) := by
  fun_induction Pattern.joinDots items with
  | case1 => rfl
  | case2 digits items ih => simp [ih, Pattern.printItem, Pattern.printComponent]
  | case3 i items hdot ih => simp [ih]

theorem printItem_of_item {t : DateTime} {tk : Token} {i : Item} (h : Pattern.item tk = .ok i) :
    Pattern.printItem t i = printToken t tk := by
  cases tk with
  | char c =>
      cases h
      rfl
  | run letter count =>
      obtain ⟨c, rfl, hc⟩ := exists_component h
      rw [printToken, hc, Pattern.printItem]

theorem flatMap_printItem_of_mapM {t : DateTime} {items : List Item}
    (h : ts.mapM Pattern.item = .ok items) :
    items.flatMap (Pattern.printItem t) = ts.flatMap (printToken t) := by
  induction mapM_eq_ok.mp h with
  | nil => rfl
  | cons hi hrest ih =>
      rw [List.flatMap_cons, List.flatMap_cons, printItem_of_item hi, ih (mapM_eq_ok.mpr hrest)]

/-! ## What is wrong with a pattern -/

theorem allSupported_append {ts' : List Token} :
    AllSupported (ts ++ ts') ↔ AllSupported ts ∧ AllSupported ts' := by
  simp [AllSupported, or_imp, forall_and]

theorem allSupported_char (cs : List Char) : AllSupported (cs.map .char) := by
  simp [AllSupported]

theorem faults_eq_nil_iff {source : String} :
    faults source ts isOpen = [] ↔ source ≠ "" ∧ isOpen = false ∧ AllSupported ts := by
  have hruns : ts.filterMap Token.fault? = [] ↔ AllSupported ts := by
    rw [List.filterMap_eq_nil_iff]
    constructor
    · intro h letter count hrun
      by_contra hunsupported
      have hfault := h _ hrun
      rw [Token.fault?, if_neg hunsupported] at hfault
      cases hfault
    · intro h tk htk
      cases tk with
      | char c => rfl
      | run letter count => rw [Token.fault?, if_pos (h letter count htk)]
  have hopen : (if isOpen then [PatternFault.unterminatedQuote] else []) = [] ↔ isOpen = false := by
    simp
  have hsource : (if source = "" then [PatternFault.empty] else []) = [] ↔ source ≠ "" := by simp
  rw [faults, List.append_eq_nil_iff, List.append_eq_nil_iff, hruns, hopen, hsource]
  tauto

end Calendar

/-! ## Compiling -/

namespace Pattern

variable {source : String} {ts : List Token} {isOpen : Bool}

/-- A pattern is compiled into the items of its reading, or else refused for the leftmost thing that is
wrong with it. -/
theorem compile_of_reading (h : Reading source.toList ts isOpen) :
    (∃ fault, (faults source ts isOpen).head? = some fault ∧ compile source = .error fault) ∨
      faults source ts isOpen = [] ∧ ∃ items, ts.mapM item = .ok items ∧
        compile source = .ok ⟨source, joinDots items⟩ := by
  have hscan : tokens .plain source.toList = (ts, isOpen) := tokens_of_reading h
  have hfaults (fault : PatternFault) :
      ts.mapM item = .error fault ↔ (ts.filterMap Token.fault?).head? = some fault :=
    mapM_eq_error_iff fun tk htk => item_eq_error_iff fun letter count htoken =>
      h.pos_of_run_mem (htoken ▸ htk)
  cases hitems : ts.mapM item with
  | error fault =>
      refine .inl ⟨fault, ?_, ?_⟩
      · simp [faults, List.head?_append, (hfaults fault).mp hitems]
      · simp [compile, hscan, hitems, bind, Except.bind]
  | ok items =>
      have hnone : ts.filterMap Token.fault? = [] := by
        rw [← List.head?_eq_none_iff, Option.eq_none_iff_forall_ne_some]
        intro fault hfault
        cases hitems.symm.trans ((hfaults fault).mpr hfault)
      have hempty : items = [] ↔ ts = [] := by
        rw [← List.length_eq_zero_iff, ← (mapM_eq_ok.mp hitems).length_eq, List.length_eq_zero_iff]
      cases isOpen with
      | true =>
          refine .inl ⟨.unterminatedQuote, by simp [faults, hnone], ?_⟩
          simp [compile, hscan, hitems, bind, Except.bind, throw, throwThe, MonadExceptOf.throw]
      | false =>
          have hsource : ts = [] ↔ source = "" := by simpa using h.nil_iff
          by_cases hts : ts = []
          · refine .inl ⟨.empty, by simp [faults, hnone, hsource.mp hts], ?_⟩
            simp [compile, hscan, hitems, hempty.mpr hts, bind, Except.bind, throw, throwThe,
              MonadExceptOf.throw]
          · refine .inr ⟨by simp [faults, hnone, mt hsource.mpr hts], items, rfl, ?_⟩
            simp [compile, hscan, hitems, mt hempty.mp hts, bind, Except.bind, pure, Except.pure]

end Pattern

namespace DateForm

variable {source : String} {ts : List Token} {isOpen : Bool}

/-- What becomes of a pattern that reads as given pieces. -/
structure Compiles (source : String) (ts : List Token) (isOpen : Bool) : Prop where
  accepts_iff : (∃ p, compile source = .ok p) ↔
    source ≠ "" ∧ isOpen = false ∧ AllSupported ts
  /-- The error names the leftmost thing that is wrong. -/
  error_iff : ∀ e, compile source = .error e ↔
    ∃ fault, (faults source ts isOpen).head? = some fault ∧ e = .invalidPattern source fault
  /-- Nothing is dropped, merged or put in another order. -/
  print_eq : ∀ p, compile source = .ok p →
    ∀ t, p.print t = String.ofList (ts.flatMap (printToken t))

theorem compiles_of_reading (h : Reading source.toList ts isOpen) : Compiles source ts isOpen := by
  rcases Pattern.compile_of_reading h with ⟨fault, hfault, hcompile⟩ | ⟨hnone, items, hitems, hcompile⟩
  · have herror : compile source = .error (.invalidPattern source fault) := by
      rw [compile, hcompile]
    constructor
    case accepts_iff =>
      rw [← faults_eq_nil_iff, ← List.head?_eq_none_iff, hfault, herror]
      simp
    case error_iff =>
      intro e
      rw [hfault, herror]
      simp [eq_comm]
    case print_eq =>
      intro p hp
      cases herror.symm.trans hp
  · have hok : compile source = .ok ⟨source, Pattern.joinDots items⟩ := by
      rw [compile, hcompile]
    constructor
    case accepts_iff => exact iff_of_true ⟨_, hok⟩ (faults_eq_nil_iff.mp hnone)
    case error_iff =>
      intro e
      rw [hnone, hok]
      simp
    case print_eq =>
      intro p hp t
      obtain rfl := Except.ok.inj (hok.symm.trans hp)
      rw [Pattern.print, flatMap_printItem_joinDots, flatMap_printItem_of_mapM hitems]

/-- Every text has one reading, and what becomes of it as a pattern follows from the reading. -/
theorem compiles_exactly (source : String) : ∃ ts isOpen, Reading source.toList ts isOpen ∧
    (∀ ts' isOpen', Reading source.toList ts' isOpen' → ts' = ts ∧ isOpen' = isOpen) ∧
    Compiles source ts isOpen := by
  obtain ⟨ts, isOpen, h⟩ := exists_reading source.toList
  refine ⟨ts, isOpen, h, fun ts' isOpen' h' => ?_, compiles_of_reading h⟩
  exact Prod.mk.inj ((tokens_of_reading h').symm.trans (tokens_of_reading h))

/-- Quotes next to a field and in a section, and a fraction behind a dot that is quoted: all of them
are printed. Of two unsupported fields and a section left open, the first field is the error. -/
theorem compiles_exactly_quoted :
    (∃ p, compile "''uuuu'T''s.'SSS" = .ok p ∧ ∀ t, p.print t = String.ofList
      ('\'' :: Pattern.printYear t.date.year ++ "T's.".toList ++ Pattern.printFraction 3 t.time)) ∧
    compile "ss.SSQ'T" = .error (.invalidPattern "ss.SSQ'T" (.unsupportedLetters 'S' 2)) := by
  constructor
  · have hreading : Reading "''uuuu'T''s.'SSS".toList [.char '\'', .run 'u' 4, .char 'T', .char '\'',
        .char 's', .char '.', .run 'S' 3] false := reading_iff.mpr (by decide)
    obtain ⟨ts, isOpen, h, hunique, hcompiles⟩ := compiles_exactly "''uuuu'T''s.'SSS"
    obtain ⟨rfl, rfl⟩ := hunique _ _ hreading
    obtain ⟨p, hp⟩ := hcompiles.accepts_iff.mpr (faults_eq_nil_iff.mp (by decide))
    refine ⟨p, hp, fun t => ?_⟩
    rw [hcompiles.print_eq p hp]
    simp [printToken, Component.ofRun?, Pattern.printComponent]
  · have hreading : Reading "ss.SSQ'T".toList
        [.run 's' 2, .char '.', .run 'S' 2, .run 'Q' 1, .char 'T'] true := reading_iff.mpr (by decide)
    obtain ⟨ts, isOpen, h, hunique, hcompiles⟩ := compiles_exactly "ss.SSQ'T"
    obtain ⟨rfl, rfl⟩ := hunique _ _ hreading
    exact (hcompiles.error_iff _).mpr ⟨_, by decide, rfl⟩

end DateForm

end ObjectDocument
