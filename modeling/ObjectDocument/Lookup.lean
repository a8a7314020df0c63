import ObjectDocument.Descriptor.Build
import ObjectDocument.EntityType

/-!
# Looking up descriptors

Reading and writing need the descriptors of entity types, but only of those that they meet. A
`Lookup` is a computation that asks for descriptors one at a time and fails with the first that
cannot be built. A context answers it and keeps every answer, so each type is built at most once.
-/

namespace ObjectDocument

/-- A computation that asks for descriptors. -/
inductive Lookup (α : Type) where
  | done (result : Except Error α)
  /-- Ask for the descriptor of a type and go on with it. -/
  | ask (ref : EntityRef) (next : Descriptor → Lookup α)

namespace Lookup

variable {α β : Type}

/-- Go on with the result of a computation. -/
def bind : Lookup α → (α → Lookup β) → Lookup β
  | done (.ok a), f => f a
  | done (.error e), _ => done (.error e)
  | ask ref next, f => ask ref fun d => bind (next d) f

instance : Monad Lookup where
  pure a := done (.ok a)
  bind := bind

def fail (e : Error) : Lookup α :=
  done (.error e)

def descriptor (ref : EntityRef) : Lookup Descriptor :=
  ask ref fun d => done (.ok d)

/-- The result of a computation, given the answer for each type. -/
def eval (answer : EntityRef → Except Error Descriptor) : Lookup α → Except Error α
  | done result => result
  | ask ref next =>
    match answer ref with
    | .ok d => eval answer (next d)
    | .error e => .error e

/-! ## Laws -/

theorem bind_pure (l : Lookup α) : bind l (fun a => done (.ok a)) = l := by
  induction l with
  | done result =>
    cases result with
    | ok a => rfl
    | error e => rfl
  | ask ref next ih => exact congrArg (ask ref) (funext ih)

theorem bind_assoc {γ : Type} (l : Lookup α) (f : α → Lookup β) (g : β → Lookup γ) :
    bind (bind l f) g = bind l fun a => bind (f a) g := by
  induction l with
  | done result =>
    cases result with
    | ok a => rfl
    | error e => rfl
  | ask ref next ih => exact congrArg (ask ref) (funext ih)

instance : LawfulMonad Lookup :=
  LawfulMonad.mk' Lookup bind_pure (fun _ _ => rfl) bind_assoc

@[simp]
theorem eval_pure (answer : EntityRef → Except Error Descriptor) (a : α) :
    (pure a : Lookup α).eval answer = .ok a :=
  rfl

@[simp]
theorem eval_done (answer : EntityRef → Except Error Descriptor) (result : Except Error α) :
    (done result).eval answer = result :=
  rfl

@[simp]
theorem eval_fail (answer : EntityRef → Except Error Descriptor) (e : Error) :
    (fail e : Lookup α).eval answer = .error e :=
  rfl

/-- A computation goes on with the descriptor that it asked for. -/
theorem eval_ask_ok {answer : EntityRef → Except Error Descriptor} {ref : EntityRef}
    {d : Descriptor} (h : answer ref = .ok d) (next : Descriptor → Lookup α) :
    (ask ref next).eval answer = (next d).eval answer := by
  rw [eval, h]

/-- A computation ends with the first descriptor that cannot be built. -/
theorem eval_ask_error {answer : EntityRef → Except Error Descriptor} {ref : EntityRef} {e : Error}
    (h : answer ref = .error e) (next : Descriptor → Lookup α) :
    (ask ref next).eval answer = .error e := by
  rw [eval, h]

/-- Answers are given alike before and after a step. -/
@[simp]
theorem eval_bind (answer : EntityRef → Except Error Descriptor) (l : Lookup α)
    (f : α → Lookup β) :
    (l >>= f).eval answer = l.eval answer >>= fun a => (f a).eval answer := by
  change (bind l f).eval answer = _
  induction l with
  | done result =>
    cases result with
    | ok a => rfl
    | error e => rfl
  | ask ref next ih =>
    simp only [bind, eval]
    cases answer ref with
    | ok d => exact ih d
    | error e => rfl

@[simp]
theorem eval_map (answer : EntityRef → Except Error Descriptor) (l : Lookup α) (f : α → β) :
    (f <$> l).eval answer = (l.eval answer).map f := by
  rw [map_eq_pure_bind, eval_bind]
  cases l.eval answer with
  | ok a => rfl
  | error e => rfl

end Lookup

/-- The descriptor of a type of the family. -/
def Family.describe (family : Family) (config : Config) (ref : EntityRef) :
    Except Error Descriptor :=
  Descriptor.build config (family.type ref).definition

/-- A descriptor that is kept for a type. What its type is shows only when it is asked for. -/
structure Entry where
  type : EntityRef
  descriptor : Descriptor

/-- The descriptor of an entry that is asked for as that of a type, which it has to be. -/
def Entry.downcast (e : Entry) (expected : EntityRef) : Except Error Descriptor :=
  if e.type = expected then .ok e.descriptor
  else .error (.unexpectedType ("docmap::context::TypedEntity<" ++ expected.typeName ++ ">")
    "another cached entry")

/-- What is kept for a type once it was asked for. -/
def Family.entry (family : Family) (config : Config) (ref : EntityRef) : Except Error Entry :=
  (family.describe config ref).map fun d => ⟨ref, d⟩

/-- The descriptors that were asked for so far. -/
structure Context where
  config : Config
  family : Family
  /-- The entry of each type that was asked for, in the order of the first questions. -/
  slots : List (EntityRef × Except Error Entry) := []
  /-- The types whose descriptors were built, in order. -/
  built : List EntityRef := []
  /-- Every entry is what building the descriptor of its type gives. -/
  sound : ∀ slot ∈ slots, slot.2 = family.entry config slot.1 := by simp

namespace Context

/-- The entry that is kept for a type. -/
def slot? (c : Context) (ref : EntityRef) : Option (Except Error Entry) :=
  (c.slots.find? fun s => s.1 = ref).map (·.2)

/-- The entry of a type, built if it was not asked for before. -/
def entry (c : Context) (ref : EntityRef) : Except Error Entry × Context :=
  match c.slot? ref with
  | some entry => (entry, c)
  | none =>
    let entry := c.family.entry c.config ref
    (entry, { c with
      slots := c.slots ++ [(ref, entry)]
      built := c.built ++ [ref]
      sound := by
        intro slot hslot
        rcases List.mem_append.mp hslot with hold | hnew
        · exact c.sound slot hold
        · rw [List.mem_singleton.mp hnew] })

/-- The descriptor of a type, which its entry has to be one of. -/
def lookup (c : Context) (ref : EntityRef) : Except Error Descriptor × Context :=
  match c.entry ref with
  | (.ok entry, c) => (entry.downcast ref, c)
  | (.error e, c) => (.error e, c)

/-- The number of types that were asked for. -/
def size (c : Context) : Nat :=
  c.slots.length

/-- How often the descriptor of a type was built. -/
def builds (c : Context) (ref : EntityRef) : Nat :=
  c.built.count ref

/-! ## Answers -/

/-- The answer for a type, whether an entry is kept for it or not. -/
def describe (c : Context) (ref : EntityRef) : Except Error Descriptor :=
  c.family.describe c.config ref

theorem slot?_eq_some {c : Context} {ref : EntityRef} {entry : Except Error Entry}
    (h : c.slot? ref = some entry) : entry = c.family.entry c.config ref := by
  obtain ⟨slot, hslot, rfl⟩ := Option.map_eq_some_iff.mp h
  have href : slot.1 = ref := by simpa using List.find?_some hslot
  rw [c.sound slot (List.mem_of_find?_eq_some hslot), href]

/-- A kept entry is the one that building the descriptor anew would give. -/
theorem entry_fst (c : Context) (ref : EntityRef) :
    (c.entry ref).1 = c.family.entry c.config ref := by
  rw [entry]
  split
  next entry hslot => exact slot?_eq_some hslot
  next => rfl

theorem lookup_snd (c : Context) (ref : EntityRef) : (c.lookup ref).2 = (c.entry ref).2 := by
  rw [lookup]
  split
  next h => rw [h]
  next h => rw [h]

/-- A look-up gives what building the descriptor anew would give: an entry passes the check of its
type. -/
@[simp]
theorem lookup_fst (c : Context) (ref : EntityRef) : (c.lookup ref).1 = c.describe ref := by
  have hentry := c.entry_fst ref
  rw [lookup]
  generalize c.entry ref = found at hentry
  obtain ⟨entry, c'⟩ := found
  obtain rfl : entry = c.family.entry c.config ref := hentry
  rw [Family.entry, describe]
  cases c.family.describe c.config ref with
  | ok d => exact if_pos rfl
  | error e => rfl

@[simp]
theorem describe_lookup (c : Context) (ref : EntityRef) :
    (c.lookup ref).2.describe = c.describe := by
  rw [lookup_snd, entry]
  split
  next => rfl
  next => rfl

@[simp]
theorem family_lookup (c : Context) (ref : EntityRef) : (c.lookup ref).2.family = c.family := by
  rw [lookup_snd, entry]
  split
  next => rfl
  next => rfl

end Context

/-- Run a computation in a context. The context keeps what was looked up even if it fails. -/
def Lookup.run {α : Type} : Lookup α → Context → Except Error α × Context
  | done result, c => (result, c)
  | ask ref next, c =>
    match c.lookup ref with
    | (.ok d, c) => run (next d) c
    | (.error e, c) => (.error e, c)

/-- The look-ups of a run, in order, each with its answer. -/
def Lookup.lookups {α : Type} : Lookup α → Context → List (EntityRef × Except Error Descriptor)
  | done _, _ => []
  | ask ref next, c =>
    match c.lookup ref with
    | (.ok d, c) => (ref, .ok d) :: lookups (next d) c
    | (.error e, _) => [(ref, .error e)]

namespace Lookup

variable {α : Type}

/-- What a computation gives does not depend on what a context was asked before. -/
theorem run_fst (l : Lookup α) (c : Context) : (l.run c).1 = l.eval c.describe := by
  induction l generalizing c with
  | done result => rfl
  | ask ref next ih =>
      have hfst := c.lookup_fst ref
      have hdescribe := c.describe_lookup ref
      rw [run, eval]
      generalize c.lookup ref = answer at hfst hdescribe
      obtain ⟨result, c'⟩ := answer
      dsimp only at hfst hdescribe
      rw [← hfst]
      cases result with
      | ok d => rw [← hdescribe]; exact ih d c'
      | error e => rfl

/-- A computation leaves the family and the answers of its context as they are. -/
theorem run_snd (l : Lookup α) (c : Context) :
    (l.run c).2.family = c.family ∧ (l.run c).2.describe = c.describe := by
  induction l generalizing c with
  | done result => exact ⟨rfl, rfl⟩
  | ask ref next ih =>
      have hfamily := c.family_lookup ref
      have hdescribe := c.describe_lookup ref
      rw [run]
      generalize c.lookup ref = answer at hfamily hdescribe
      obtain ⟨result, c'⟩ := answer
      dsimp only at hfamily hdescribe
      rw [← hfamily, ← hdescribe]
      cases result with
      | ok d => exact ih d c'
      | error e => exact ⟨rfl, rfl⟩

end Lookup

end ObjectDocument
