import Mathlib.Data.Finset.Card
import ObjectDocument.Conversion.Request
import ObjectDocument.Index.Mapping
import ObjectDocument.Proofs.Descriptor.Structure

/-!
# Contexts over their histories

A context sees look-ups of all kinds of operations, many of them from deep inside an object, a
document or a graph of types. Whatever the history, it builds each type that was asked for once, and
answers every look-up with what building the descriptor of the type gives. One look-up keeps this; so
does a run of a computation, and a history of operations.
-/

namespace ObjectDocument

/-- What can be done with a context. -/
inductive Operation where
  | lookUp (type : EntityRef)
  | write (type : EntityRef) (x : Instance)
  | read (type : EntityRef) (doc : SearchDocument)
  | readHit (type : EntityRef) (doc : SearchDocument)
  | idOf (type : EntityRef) (x : Instance)
  | indexRequest (type : EntityRef) (x : Instance) (resolver : String → Option String)
  | populateId (type : EntityRef) (x : Instance) (id : String)
  | populateVersion (type : EntityRef) (x : Instance) (version : Int64)
  | populateToken (type : EntityRef) (x : Instance) (seqNo primaryTerm : Int64)
  | embeddedValues (expected found : EntityRef) (x : Instance)
  | instantiateEmbedded (type : EntityRef) (values : Entries Value)
  /-- Make the mapping of a descriptor, which may come from elsewhere. -/
  | mapping (d : Descriptor)

/-- The look-ups that an operation makes, without its result. -/
def Operation.computation (family : Family) : Operation → Lookup Unit
  | lookUp type => discard (Lookup.descriptor type)
  | write type x => discard (Conversion.write family type x)
  | read type doc => discard (Conversion.read family type doc)
  | readHit type doc => discard (Conversion.readHit family type doc)
  | idOf type x => discard (Conversion.idOf type x)
  | indexRequest type x resolver => discard (Conversion.indexRequest family type x resolver)
  | populateId type x id => discard (Conversion.populateId family type x id)
  | populateVersion type x version => discard (Conversion.populateVersion family type x version)
  | populateToken type x seqNo term => discard (Conversion.populateToken family type x seqNo term)
  | embeddedValues expected found x =>
    discard (Conversion.embeddedValues family expected found x)
  | instantiateEmbedded type values => discard (Conversion.instantiateEmbedded family type values)
  | mapping d => discard (Mapping.build family d)

namespace Context

/-- Whether a context has built exactly the types that were asked for, each of them once. -/
structure Remembers (c : Context) (asked : List EntityRef) : Prop where
  slots_eq : c.slots.map Prod.fst = c.built
  nodup : c.built.Nodup
  mem_iff : ∀ ref, ref ∈ c.built ↔ ref ∈ asked

variable {c : Context} {asked : List EntityRef} {ref : EntityRef}

/-! ## One look-up -/

theorem slot?_eq_none_iff : c.slot? ref = none ↔ ref ∉ c.slots.map Prod.fst := by
  rw [slot?, Option.map_eq_none_iff, List.find?_eq_none, List.mem_map]
  constructor
  · rintro h ⟨slot, hslot, rfl⟩
    exact h slot hslot (decide_eq_true rfl)
  · intro h slot hslot heq
    exact h ⟨slot, hslot, of_decide_eq_true heq⟩

theorem Remembers.slot?_eq_none_iff (h : c.Remembers asked) : c.slot? ref = none ↔ ref ∉ asked := by
  rw [Context.slot?_eq_none_iff, h.slots_eq, h.mem_iff]

/-- A look-up of a known type changes nothing, and that of another builds it. -/
theorem Remembers.lookup (h : c.Remembers asked) (ref : EntityRef) :
    (c.lookup ref).2.Remembers (asked ++ [ref]) := by
  rw [lookup_snd, entry]
  split
  next answer hslot =>
    have hknown : ref ∈ asked := by
      by_contra hnew
      rw [h.slot?_eq_none_iff.mpr hnew] at hslot
      cases hslot
    refine ⟨h.slots_eq, h.nodup, fun other => ?_⟩
    rw [h.mem_iff, List.mem_append, List.mem_singleton]
    constructor
    · exact .inl
    · rintro (hother | rfl)
      · exact hother
      · exact hknown
  next hslot =>
    have hnew : ref ∉ c.built := by
      rw [h.mem_iff]
      exact h.slot?_eq_none_iff.mp hslot
    refine ⟨?_, ?_, fun other => ?_⟩
    · simp [h.slots_eq]
    · refine List.nodup_append.mpr ⟨h.nodup, List.nodup_singleton ref, ?_⟩
      intro other hother last hlast heq
      obtain rfl := List.mem_singleton.mp hlast
      exact hnew (heq ▸ hother)
    · rw [List.mem_append, List.mem_append, h.mem_iff]

/-- A look-up of a type concerns no other type, though it may be embedded in it. -/
theorem slot?_lookup_of_ne {other : EntityRef} (hne : other ≠ ref) :
    (c.lookup ref).2.slot? other = c.slot? other := by
  rw [lookup_snd, entry]
  split
  · rfl
  · have hsingle : [(ref, c.family.entry c.config ref)].find? (fun s => s.1 = other) = none := by
      simp [hne.symm]
    simp only [slot?, List.find?_append, hsingle, Option.or_none]

theorem builds_lookup_of_ne {other : EntityRef} (hne : other ≠ ref) :
    (c.lookup ref).2.builds other = c.builds other := by
  rw [lookup_snd, entry]
  split
  · rfl
  · simp [builds, hne.symm]

/-! ## Runs of computations -/

/-- A run of a computation builds the types that it asks for, as far as they are not built yet. -/
theorem Remembers.run {α : Type} (h : c.Remembers asked) (l : Lookup α) :
    (l.run c).2.Remembers (asked ++ (l.lookups c).map Prod.fst) := by
  induction l generalizing c asked with
  | done result => simpa [Lookup.run, Lookup.lookups] using h
  | ask ref next ih =>
      have hstep := h.lookup ref
      rw [Lookup.run, Lookup.lookups]
      generalize c.lookup ref = answer at hstep
      obtain ⟨result, c'⟩ := answer
      cases result with
      | ok d =>
          dsimp only
          rw [List.map_cons, ← List.singleton_append, ← List.append_assoc]
          exact ih d hstep
      | error e => exact hstep

/-- Every look-up of a run is answered with what building the descriptor gives. -/
theorem answer_of_mem_lookups {α : Type} {l : Lookup α} {answer : Except Error Descriptor}
    (h : (ref, answer) ∈ l.lookups c) : answer = c.describe ref := by
  induction l generalizing c with
  | done result => cases h
  | ask asked next ih =>
      have hfst := c.lookup_fst asked
      have hdescribe := c.describe_lookup asked
      rw [Lookup.lookups] at h
      generalize c.lookup asked = found at h hfst hdescribe
      obtain ⟨result, c'⟩ := found
      dsimp only at hfst hdescribe
      cases result with
      | ok d =>
          rcases List.mem_cons.mp h with heq | h
          · cases heq
            exact hfst
          · rw [← hdescribe]
            exact ih d h
      | error e =>
          cases List.mem_singleton.mp h
          exact hfst

/-! ## Histories -/

/-- A context that nothing was asked of. -/
def fresh (config : Config) (family : Family) : Context where
  config := config
  family := family

/-- The context after a history of operations. -/
def after : Context → List Operation → Context
  | c, [] => c
  | c, op :: ops => after ((op.computation c.family).run c).2 ops

/-- The look-ups of a history of operations, in order, each with its answer. -/
def lookups : Context → List Operation → List (EntityRef × Except Error Descriptor)
  | _, [] => []
  | c, op :: ops =>
    (op.computation c.family).lookups c ++ lookups ((op.computation c.family).run c).2 ops

theorem remembers_fresh (config : Config) (family : Family) :
    (fresh config family).Remembers [] :=
  ⟨rfl, List.nodup_nil, fun _ => Iff.rfl⟩

theorem Remembers.after (h : c.Remembers asked) (ops : List Operation) :
    (c.after ops).Remembers (asked ++ (c.lookups ops).map Prod.fst) := by
  induction ops generalizing c asked with
  | nil => simpa [Context.after, Context.lookups] using h
  | cons op ops ih =>
      rw [Context.after, Context.lookups, List.map_append, ← List.append_assoc]
      exact ih (h.run _)

theorem describe_after (ops : List Operation) : (c.after ops).describe = c.describe := by
  induction ops generalizing c with
  | nil => rfl
  | cons op ops ih =>
      rw [after, ih]
      exact ((op.computation c.family).run_snd c).2

theorem answer_of_mem_history {ops : List Operation} {answer : Except Error Descriptor}
    (h : (ref, answer) ∈ c.lookups ops) : answer = c.describe ref := by
  induction ops generalizing c with
  | nil => cases h
  | cons op ops ih =>
      rcases List.mem_append.mp h with h | h
      · exact answer_of_mem_lookups h
      · rw [← ((op.computation c.family).run_snd c).2]
        exact ih h

/-! ## What a context remembers -/

theorem Remembers.builds_eq (h : c.Remembers asked) (ref : EntityRef) :
    c.builds ref = if ref ∈ asked then 1 else 0 := by
  rw [builds, h.nodup.count]
  simp only [h.mem_iff]

theorem Remembers.size_eq (h : c.Remembers asked) : c.size = asked.toFinset.card := by
  have hbuilt : c.built.toFinset = asked.toFinset := by
    ext ref
    simp only [List.mem_toFinset, h.mem_iff]
  calc c.size = c.built.length := by rw [← h.slots_eq, List.length_map, size]
    _ = c.built.toFinset.card := (List.toFinset_card_of_nodup h.nodup).symm
    _ = asked.toFinset.card := by rw [hbuilt]

/-- What a context is like that was asked for types one after another and gave answers. -/
structure AnswersOnce (config : Config) (family : Family)
    (history : List (EntityRef × Except Error Descriptor)) (c : Context) : Prop where
  /-- Every answer, a failure too, is what building the descriptor of the type alone gives. -/
  answers : ∀ slot ∈ history,
    slot.2 = Descriptor.build config (family.type slot.1).definition
  /-- The types that were asked for are built once, and no others are. -/
  builds : ∀ ref, c.builds ref = if ref ∈ history.map Prod.fst then 1 else 0
  size : c.size = (history.map Prod.fst).toFinset.card
  /-- The next look-up is answered likewise. -/
  lookup : ∀ ref, (c.lookup ref).1 = Descriptor.build config (family.type ref).definition
  /-- A look-up leaves every other type as it is, also those that are embedded in the type. -/
  others : ∀ ref other, other ≠ ref → (c.lookup ref).2.slot? other = c.slot? other ∧
    (c.lookup ref).2.builds other = c.builds other
  /-- Whatever is done next gives what it would give at first. -/
  results : ∀ {α : Type} (l : Lookup α), (l.run c).1 = (l.run (fresh config family)).1

/-- After any history of operations a context has built each type that was asked for once, and neither
its answers nor the results of what is done with it depend on the history. -/
theorem answers_once (config : Config) (family : Family) (ops : List Operation) :
    AnswersOnce config family ((fresh config family).lookups ops)
      ((fresh config family).after ops) := by
  have hremembers := (remembers_fresh config family).after ops
  have hdescribe : ((fresh config family).after ops).describe = family.describe config :=
    describe_after ops
  exact {
    answers := fun slot hslot => answer_of_mem_history hslot
    builds := hremembers.builds_eq
    size := hremembers.size_eq
    lookup := fun ref => by
      rw [lookup_fst, hdescribe]
      rfl
    others := fun ref other hne => ⟨slot?_lookup_of_ne hne, builds_lookup_of_ne hne⟩
    results := fun l => by
      rw [Lookup.run_fst, Lookup.run_fst, hdescribe]
      rfl }

/-- Writing a book builds books and authors. Looking authors up does not build them again. -/
example : ((fresh {} Library.context.family).after
    [.write Library.bookRef Library.sampleBook, .lookUp Library.authorRef]).built =
      [Library.bookRef, Library.authorRef] :=
  rfl

end Context

end ObjectDocument
