import ObjectDocument.Proofs.Update

/-!
# Objects made of their own values

A property is read out of an object as a value, and a value is put into an object as the datum of a
property. The value of a datum is converted to that datum again, at every shape that has a single way
to be absent: absence and empty lists, integers of 32 bits, options and lists in one another, embedded
objects. So an object whose members can all be given is made again of its values.
-/

namespace ObjectDocument

/-- Whether the data of a shape are told apart by their values. No option stands directly in an
option, and there is no `Float32`, whose conversions are opaque to the logic. -/
structure Shape.Faithful (s : Shape) : Prop where
  unambiguous : s.Unambiguous
  element_ne_float : s.kind.element ≠ .float

namespace Datum

variable {family : Family}

mutual

/-- A shape without a `Float32` has no data that widening could change. -/
theorem keepsFloats_of_fits : ∀ (d : Datum) (s : Shape), d.Fits family s →
    s.kind.element ≠ .float → d.KeepsFloats
  | .present d, s, hfits, hs => by
    obtain ⟨inner, rfl, hinner⟩ := hfits
    exact keepsFloats_of_fits d inner hinner hs
  | .vec items, s, hfits, hs => by
    obtain ⟨element, rfl, hitems⟩ := hfits
    exact keepsFloatsAll_of_fitsAll items element hitems hs
  | .float x, s, hfits, hs => by
    obtain ⟨b, hb, rfl⟩ := hfits
    cases hb
    exact absurd rfl hs
  | .absent, _, _, _ | .entity _ _, _, _, _ | .bool _, _, _, _ | .long _, _, _, _
  | .integer _, _, _, _ | .double _, _, _, _ | .string _, _, _, _ | .date _, _, _, _
  | .dateTime _, _, _, _ | .instant _, _, _, _ | .join _, _, _, _ | .token _, _, _, _
  | .json _, _, _, _ => trivial

theorem keepsFloatsAll_of_fitsAll : ∀ (ds : List Datum) (s : Shape), FitsAll family ds s →
    s.kind.element ≠ .float → KeepsFloatsAll ds
  | [], _, _, _ => trivial
  | d :: ds, s, hfits, hs =>
    ⟨keepsFloats_of_fits d s hfits.1 hs, keepsFloatsAll_of_fitsAll ds s hfits.2 hs⟩

end

/-- The value of a datum is converted to the datum again. -/
theorem ofValue_toValue_of_faithful {d : Datum} {s : Shape} (hs : s.Faithful)
    (hd : d.Fits family s) : s.ofValue d.toValue = .ok d :=
  ofValue_toValue d s hd hs.unambiguous (keepsFloats_of_fits d s hd hs.element_ne_float)

end Datum

namespace EntityType

variable {family : Family} {type : EntityType} {x : Instance}

/-- Whether an object of the type can be given all of its members, each under its own name: the
constructor takes them, or they can be set. -/
structure AcceptsAll (type : EntityType) : Prop where
  nodup_names : (type.members.map (·.name)).Nodup
  accepts : ∀ m ∈ type.members, type.accepts m = true

theorem fieldFor_eq_ok_iff_of_accepts {m : Member} (hm : type.accepts m = true) {v : Value}
    {d : Datum} : type.fieldFor m (some v) = .ok d ↔ m.shape.ofValue v = .ok d := by
  rw [EntityType.accepts] at hm
  apply fieldFor_some_eq_ok_iff
  · intro hmutable
    rwa [hmutable] at hm
  · intro himmutable
    rwa [himmutable] at hm

/-- An object is made again of its values. -/
theorem instantiate_values (htype : type.AcceptsAll)
    (hshapes : ∀ m ∈ type.members, m.shape.Faithful)
    (hx : Datum.FitsMembers family x type.members) : type.instantiate (type.values x) = .ok x := by
  have hlength := Datum.length_eq_of_fitsMembers hx
  have hkeys : (Entries.keys (type.values x)).Nodup := by
    rw [keys_values hlength]
    exact htype.nodup_names
  rw [instantiate_eq_ok_iff htype.nodup_names hkeys, mapM_eq_ok, forall₂_iff_getElem?]
  refine ⟨hlength.symm, ?_⟩
  intro i m d hm hd
  have hmem : m ∈ type.members := List.mem_of_getElem? hm
  rw [get?_values htype.nodup_names hlength hm hd,
    fieldFor_eq_ok_iff_of_accepts (htype.accepts m hmem)]
  exact Datum.ofValue_toValue_of_faithful (hshapes m hmem) (Datum.fits_of_getElem? hx hd hm)

/-- Data survive the representation as values, one by one and as the members of an object. -/
theorem survives_representation (family : Family) :
    (∀ (s : Shape) (d : Datum), s.Faithful → d.Fits family s → s.ofValue d.toValue = .ok d) ∧
    ∀ (type : EntityType) (x : Instance), type.AcceptsAll →
      (∀ m ∈ type.members, m.shape.Faithful) → Datum.FitsMembers family x type.members →
        type.instantiate (type.values x) = .ok x := by
  constructor
  · intro s d hs hd
    exact Datum.ofValue_toValue_of_faithful hs hd
  · intro type x htype hshapes hx
    exact instantiate_values htype hshapes hx

end EntityType

/-! ## Journals -/

namespace Library

/-- Journals are immutable. They may have an author as their editor, and lack an issue's score. -/
def journal : EntityType where
  ref := ⟨14, "Journal"⟩
  name := "Journal"
  immutable := true
  members := [
    { name := "title", shape := .base .string, initial := .string "" },
    { name := "issues", shape := .base .integer, initial := .integer 0 },
    { name := "editor", shape := .option (.base (.entity authorRef)), initial := .absent },
    { name := "scores", shape := .vec (.option (.base .double)), initial := .vec [] },
    { name := "topics", shape := .option (.vec (.base .string)), initial := .absent },
    { name := "extra", shape := .option (.base .json), initial := .absent }]

/-- A journal without an editor, one of whose issues has no score. -/
def sampleJournal : Instance :=
  [.string "Annals", .integer 2, .absent, .vec [.present (.double 4), .absent], .present (.vec []),
    .present (.json .null)]

end Library

namespace EntityType

open Library

/-- A journal is made again of its values, and its editor of its own value. -/
theorem survives_representation_journal :
    journal.instantiate (journal.values sampleJournal) = .ok sampleJournal ∧
    (Shape.option (.base (.entity authorRef))).ofValue
        (Datum.present (.entity authorRef [.string "Ann", .absent])).toValue =
      .ok (.present (.entity authorRef [.string "Ann", .absent])) := by
  obtain ⟨hdata, hobjects⟩ := survives_representation context.family
  have hauthor : ∃ type ∈ context.family.types, type.ref = authorRef :=
    ⟨author, List.mem_cons_of_mem _ List.mem_cons_self, rfl⟩
  have hfaithful : ∀ m ∈ journal.members, m.shape.Faithful := by
    intro m hm
    simp only [journal, List.mem_cons, List.not_mem_nil, or_false] at hm
    rcases hm with rfl | rfl | rfl | rfl | rfl | rfl
    all_goals constructor
    all_goals simp [Shape.Unambiguous, Shape.kind, Base.kind, Kind.element]
  have heditor : (Shape.option (.base (.entity authorRef))).Faithful := by
    constructor <;> simp [Shape.Unambiguous, Shape.kind, Base.kind, Kind.element]
  constructor
  · apply hobjects
    · constructor
      · decide
      · decide
    · exact hfaithful
    · simp [sampleJournal, journal, Datum.FitsMembers, Datum.Fits, Datum.FitsAll, Datum.leaf?]
  · apply hdata
    · exact heditor
    · simp [type_author, author, Datum.FitsMembers, Datum.Fits, Datum.leaf?, hauthor]

end EntityType

end ObjectDocument
