import ObjectDocument.Conversion.Request
import ObjectDocument.Proofs.Descriptor.Structure

/-!
# Embedded objects are documents

An object is written alike whether it is embedded or a document of its own, and a JSON object is read
alike too, except for the metadata that only a document has. The two ways differ inside: the values
of a document are taken by position, those of an embedded object by name, out of a store that loses
each value taken. Main statement: both ways agree on every embedding in lists and options.
-/

namespace ObjectDocument

/-- Elements in lists of any depth, where elements and lists may be missing. -/
inductive Nest (α : Type) where
  | none
  | one (a : α)
  | many (items : List (Nest α))

namespace Nest

variable {α β : Type}

mutual

/-- Go through the elements in order. -/
def traverse (f : α → Lookup β) : Nest α → Lookup (Nest β)
  | none => pure none
  | one a => one <$> f a
  | many items => many <$> traverseItems f items

/-- Go through the elements of a list in order. -/
def traverseItems (f : α → Lookup β) : List (Nest α) → Lookup (List (Nest β))
  | [] => pure []
  | n :: ns => do
    let m ← traverse f n
    let ms ← traverseItems f ns
    pure (m :: ms)

end

mutual

/-- Whether every element satisfies a condition. -/
def All (P : α → Prop) : Nest α → Prop
  | none => True
  | one a => P a
  | many items => AllItems P items

/-- Whether every element of a list satisfies a condition. -/
def AllItems (P : α → Prop) : List (Nest α) → Prop
  | [] => True
  | n :: ns => All P n ∧ AllItems P ns

end

mutual

/-- Whether lists stand only where a kind has them. -/
def Within : Nest α → Kind → Prop
  | many items, .list element => WithinItems items element
  | many _, _ => False
  | _, _ => True

/-- Whether the lists among items stand only where their kind has them. -/
def WithinItems : List (Nest α) → Kind → Prop
  | [], _ => True
  | n :: ns, kind => Within n kind ∧ WithinItems ns kind

end

mutual

/-- The value of nested instances of a type. -/
def value (ref : EntityRef) : Nest Instance → Value
  | none => .null
  | one x => .embedded ref x
  | many items => .list (values ref items)

/-- The values of items. -/
def values (ref : EntityRef) : List (Nest Instance) → List Value
  | [] => []
  | n :: ns => value ref n :: values ref ns

end

mutual

/-- The JSON of nested documents. -/
def json : Nest Document → Json
  | none => .null
  | one m => m.toJson
  | many items => .array (jsons items)

/-- The JSON of items. -/
def jsons : List (Nest Document) → List Json
  | [] => []
  | n :: ns => json n :: jsons ns

end

end Nest

/-- The value of a kind that a single element stands for: where a list is looked for, a list of
one. -/
def Value.wrap : Kind → Value → Value
  | .list element, v => .list [wrap element v]
  | _, v => v

namespace Nest

mutual

/-- The value that nested instances of a type are read as, at a kind. -/
def valueAt (ref : EntityRef) : Nest Instance → Kind → Value
  | none, _ => .null
  | one x, kind => Value.wrap kind (.embedded ref x)
  | many items, .list element => .list (valuesAt ref items element)
  | many items, _ => .list (values ref items)

/-- The values that items are read as, at the kind of each. -/
def valuesAt (ref : EntityRef) : List (Nest Instance) → Kind → List Value
  | [], _ => []
  | n :: ns, kind => valueAt ref n kind :: valuesAt ref ns kind

end

end Nest

namespace Conversion

variable {family : Family} {answer : EntityRef → Except Error Descriptor}

/-! ## Writers by position and by name -/

theorem writers_eq_map (family : Family) (ds : List Datum) :
    writers family ds = ds.map (writer family) := by
  induction ds with
  | nil => rfl
  | cons d ds ih => rw [writers, ih, List.map_cons]

/-- Taking writers out of a store by name gives what positions give, as long as the store has for
each property that is still to be written what its position has. Names are distinct, so what is taken
for one property is never needed for another. -/
theorem writeProperties_underName {entity : String} {ws : List Writer} {store : Entries Writer}
    {ps : List Property} (hnames : (ps.map (·.name)).Nodup)
    (hstore : ∀ p ∈ ps, (Entries.get? p.name store).getD .null = (ws[p.position]?).getD .null) :
    writeProperties Writer.underName entity store ps =
      writeProperties Writer.atPosition entity ws ps := by
  induction ps generalizing store with
  | nil => rfl
  | cons p ps ih =>
      rw [List.map_cons, List.nodup_cons] at hnames
      have hrest : ∀ q ∈ ps, (Entries.get? q.name store).getD .null =
          (ws[q.position]?).getD .null := fun q hq => hstore q (List.mem_cons_of_mem _ hq)
      have herased : ∀ q ∈ ps, (Entries.get? q.name (Entries.erase p.name store)).getD .null =
          (ws[q.position]?).getD .null := by
        intro q hq
        have hne : p.name ≠ q.name := fun heq => hnames.1 (heq ▸ List.mem_map_of_mem hq)
        rw [Entries.get?_erase_of_ne hne]
        exact hrest q hq
      rw [writeProperties, writeProperties, Writer.underName, Writer.atPosition]
      dsimp only
      rw [hstore p List.mem_cons_self, ih hnames.2 herased, ih hnames.2 hrest]

/-- By its name a property has the writer that its position has. -/
theorem get?_named {type : EntityType} {d : Descriptor} {ws : List Writer}
    (hd : d.Describes type.definition) (hlength : ws.length = type.members.length) {p : Property}
    (hp : p ∈ d.properties) : Entries.get? p.name (type.named ws) = ws[p.position]? := by
  obtain ⟨m, hm, hname⟩ := hd.getElem?_position hp
  obtain ⟨hlt, -⟩ := List.getElem?_eq_some_iff.mp hm
  have hws : ws[p.position]? = some ws[p.position] := List.getElem?_eq_getElem (hlength ▸ hlt)
  rw [hws, ← hname]
  exact EntityType.get?_named hd.nodup_members hlength hm hws

/-- Under the descriptor of its type, an object is written by name as it is by position. -/
theorem writeProperties_named {type : EntityType} {d : Descriptor} {ws : List Writer}
    (hd : d.Describes type.definition) (hlength : ws.length = type.members.length) :
    writeProperties Writer.underName d.name (type.named ws) d.properties =
      writeProperties Writer.atPosition d.name ws d.properties :=
  writeProperties_underName hd.nodup_names fun p hp => by rw [get?_named hd hlength hp]

/-! ## Writing -/

/-- An embedded object is written by the descriptor of its type, and its members come by their names:
it is of the type that its reference names. -/
theorem eval_writer_entity (ref : EntityRef) (fields : List Datum) (outer : String) (p : Property) :
    ((writer family (.entity ref fields)).write outer p).eval answer =
      (Lookup.ask ref fun d =>
        (fun es => (Document.ofEntries es).toJson) <$> writeProperties Writer.underName d.name
          ((family.type ref).named (writers family fields)) d.properties).eval answer := by
  rw [writer]
  dsimp only
  change (Lookup.ask ref fun d => _).eval answer = _
  cases hd : answer ref with
  | error e => rw [Lookup.eval_ask_error hd, Lookup.eval_ask_error hd]
  | ok d =>
      rw [Lookup.eval_ask_ok hd, Lookup.eval_ask_ok hd]
      change (embeddedMembers family ref (.of ref (writers family fields)) >>= _).eval answer = _
      rw [embeddedMembers_of, Lookup.eval_bind, Lookup.eval_ask_ok hd, map_eq_pure_bind]
      rfl

/-- An embedded object is written as a document of its own. -/
theorem eval_write_entity {config : Config} {ref : EntityRef} {x : Instance}
    (hlength : x.length = (family.type ref).members.length) (outer : String) (p : Property) :
    ((writer family (.entity ref x)).write outer p).eval (family.describe config) =
      (Document.toJson <$> write family ref x).eval (family.describe config) := by
  rw [eval_writer_entity, write, Lookup.eval_map]
  cases hd : family.describe config ref with
  | error e => rw [Lookup.eval_ask_error hd, Lookup.eval_ask_error hd]; rfl
  | ok d =>
      have hws : (writers family x).length = (family.type ref).members.length := by
        rw [writers_eq_map, List.length_map, hlength]
      rw [Lookup.eval_ask_ok hd, Lookup.eval_ask_ok hd, writeObject,
        writeProperties_named (Descriptor.describes_of_build hd) hws, ← Lookup.eval_map]
      simp only [map_eq_pure_bind, bind_assoc, pure_bind]

mutual

/-- Nested instances are written as documents, one after another. -/
theorem eval_write_nest (config : Config) {ref : EntityRef} (outer : String) (p : Property) :
    ∀ (d : Datum) (n : Nest Instance), d.toValue = n.value ref →
      n.All (fun x => x.length = (family.type ref).members.length) →
      ((writer family d).write outer p).eval (family.describe config) =
        (Nest.json <$> n.traverse (write family ref)).eval (family.describe config)
  | .absent, n, hvalue, _ => by
    cases n with
    | none => rfl
    | one x => simp [Datum.toValue, Nest.value] at hvalue
    | many items => simp [Datum.toValue, Nest.value] at hvalue
  | .present d, n, hvalue, hall => eval_write_nest config outer p d n hvalue hall
  | .entity ref' x, n, hvalue, hall => by
    cases n with
    | one y =>
        -- Only an object of the type itself has the value of one of its instances.
        simp only [Datum.toValue, Nest.value, Value.embedded.injEq] at hvalue
        obtain ⟨rfl, rfl⟩ := hvalue
        rw [eval_write_entity hall, Nest.traverse, Functor.map_map]
        rfl
    | none => simp [Datum.toValue, Nest.value] at hvalue
    | many items => simp [Datum.toValue, Nest.value] at hvalue
  | .vec items, n, hvalue, hall => by
    cases n with
    | many ns =>
        simp only [Datum.toValue, Nest.value, Value.list.injEq] at hvalue
        have hitems := eval_writeAll_nest config outer p items ns hvalue hall
        rw [Nest.traverse, Functor.map_map]
        change (Json.array <$> writeAll outer p (writers family items)).eval _ = _
        rw [Lookup.eval_map, hitems, ← Lookup.eval_map, Functor.map_map]
        rfl
    | none => simp [Datum.toValue, Nest.value] at hvalue
    | one x => simp [Datum.toValue, Nest.value] at hvalue
  | .bool _, n, hvalue, _ | .long _, n, hvalue, _ | .integer _, n, hvalue, _
  | .double _, n, hvalue, _ | .float _, n, hvalue, _ | .string _, n, hvalue, _
  | .date _, n, hvalue, _ | .dateTime _, n, hvalue, _ | .instant _, n, hvalue, _
  | .join _, n, hvalue, _ | .token _, n, hvalue, _ | .json _, n, hvalue, _ => by
    cases n <;> simp [Datum.toValue, Nest.value] at hvalue

/-- The items of a list of nested instances are written in order. -/
theorem eval_writeAll_nest (config : Config) {ref : EntityRef} (outer : String) (p : Property) :
    ∀ (ds : List Datum) (ns : List (Nest Instance)), Datum.toValues ds = Nest.values ref ns →
      Nest.AllItems (fun x => x.length = (family.type ref).members.length) ns →
      (writeAll outer p (writers family ds)).eval (family.describe config) =
        (Nest.jsons <$> Nest.traverseItems (write family ref) ns).eval (family.describe config)
  | [], ns, hvalues, _ => by
    cases ns with
    | nil => rfl
    | cons n ns => simp [Datum.toValues, Nest.values] at hvalues
  | d :: ds, ns, hvalues, hall => by
    cases ns with
    | nil => simp [Datum.toValues, Nest.values] at hvalues
    | cons n ns =>
        simp only [Datum.toValues, Nest.values, List.cons.injEq] at hvalues
        have hhead := eval_write_nest config outer p d n hvalues.1 hall.1
        have htail := eval_writeAll_nest config outer p ds ns hvalues.2 hall.2
        -- Both sides stop at the first error, that of the head if it has one.
        rw [writers, writeAll, Nest.traverseItems]
        simp only [map_bind, map_pure, Lookup.eval_bind, hhead, htail, Lookup.eval_map,
          Lookup.eval_pure]
        cases (n.traverse (write family ref)).eval (family.describe config) with
        | error e => rfl
        | ok m =>
            cases (Nest.traverseItems (write family ref) ns).eval (family.describe config) with
            | error e => rfl
            | ok ms => rfl

end

/-! ## Reading -/

/-- Where a list is looked for, a single value is read as the only element. -/
theorem eval_readSingle (answer : EntityRef → Except Error Descriptor) (read : Kind → Lookup Value)
    (kind : Kind) : (readSingle read kind).eval answer =
      ((read kind.element).eval answer).map (Value.wrap kind) := by
  induction kind with
  | list element ih =>
      rw [readSingle, Kind.element, Lookup.eval_bind, ih]
      cases (read element.element).eval answer with
      | ok v => rfl
      | error e => rfl
  | _ =>
      simp only [readSingle, Kind.element]
      cases (read _).eval answer with
      | ok v => rfl
      | error e => rfl

theorem withId_source (d : Descriptor) (m : Document) (vs : Entries Value) :
    withId d { source := m } vs = .ok vs := by
  cases hid : d.id? <;> simp [withId, hid]

theorem withVersion_source (d : Descriptor) (m : Document) (vs : Entries Value) :
    withVersion d { source := m } vs = vs := by
  cases hversion : d.version? <;> simp [withVersion, hversion]

theorem withToken_source (d : Descriptor) (m : Document) (vs : Entries Value) :
    withToken d { source := m } vs = vs := by
  cases htoken : d.token? <;> simp [withToken, htoken, SearchDocument.token?]

/-- An embedded object is read as a document of its own without metadata. -/
theorem eval_readEmbedded {config : Config} {ref : EntityRef} (m : Document) :
    (readEmbedded family ref (entryReaders family m.entries)).eval (family.describe config) =
      (Value.embedded ref <$> read family ref { source := m }).eval (family.describe config) := by
  rw [readEmbedded, read, Lookup.eval_map]
  cases hd : family.describe config ref with
  | error e => rw [Lookup.eval_ask_error hd, Lookup.eval_ask_error hd]; rfl
  | ok d =>
      rw [Lookup.eval_ask_ok hd, Lookup.eval_ask_ok hd, Lookup.eval_bind, Lookup.eval_bind]
      cases (readProperties d.name (entryReaders family m.entries) d.properties).eval
          (family.describe config) with
      | error e => rfl
      | ok vs =>
          -- Without metadata no value is replaced before the object is made.
          change (instantiateEmbedded family ref (Entries.merge vs)).eval _ = _
          rw [instantiateEmbedded, Lookup.eval_ask_ok hd]
          simp only [bind, Except.bind, withId_source, withVersion_source, withToken_source,
            Lookup.eval_done]

mutual

/-- Nested documents are read as documents, one after another. -/
theorem eval_read_nest (config : Config) {ref : EntityRef} (outer : String) (p : Property) :
    ∀ (n : Nest Document) (kind : Kind), kind.element = .entity ref → n.Within kind →
      (reader family n.json outer p kind).eval (family.describe config) =
        ((fun xs => xs.valueAt ref kind) <$>
          n.traverse fun m => read family ref { source := m }).eval (family.describe config)
  | .none, kind, _, _ => rfl
  | .one m, kind, helement, _ => by
    rw [Nest.json, Document.toJson, reader, eval_readSingle, helement, Nest.traverse,
      Functor.map_map]
    dsimp only
    rw [eval_readEmbedded, ← Lookup.eval_map, Functor.map_map]
    rfl
  | .many ns, .list element, helement, hwithin => by
    have hitems := eval_readAll_nest config outer p ns element helement hwithin
    rw [Nest.traverse, Functor.map_map]
    change (Value.list <$> readAll outer p element (readers family (Nest.jsons ns))).eval _ = _
    rw [Lookup.eval_map, hitems, ← Lookup.eval_map, Functor.map_map]
    rfl

/-- The items of a list of nested documents are read in order. -/
theorem eval_readAll_nest (config : Config) {ref : EntityRef} (outer : String) (p : Property) :
    ∀ (ns : List (Nest Document)) (kind : Kind), kind.element = .entity ref →
      Nest.WithinItems ns kind →
      (readAll outer p kind (readers family (Nest.jsons ns))).eval (family.describe config) =
        ((fun xs => Nest.valuesAt ref xs kind) <$>
          Nest.traverseItems (fun m => read family ref { source := m }) ns).eval
            (family.describe config)
  | [], _, _, _ => rfl
  | n :: ns, kind, helement, hwithin => by
    have hhead := eval_read_nest config outer p n kind helement hwithin.1
    have htail := eval_readAll_nest config outer p ns kind helement hwithin.2
    rw [Nest.jsons, readers, readAll, Nest.traverseItems]
    simp only [map_bind, map_pure, Lookup.eval_bind, hhead, htail, Lookup.eval_map,
      Lookup.eval_pure]
    cases (n.traverse fun m => read family ref { source := m }).eval (family.describe config) with
    | error e => rfl
    | ok x =>
        cases (Nest.traverseItems (fun m => read family ref { source := m }) ns).eval
            (family.describe config) with
        | error e => rfl
        | ok xs => rfl

end

/-- Embedding changes nothing about an object. Whatever property holds them and whatever converter it
has, instances of a type are written as their own documents are, and JSON objects are read as the
documents they make up, with the same errors, also where they stand in lists and options. -/
theorem embedded_as_document (c : Context) (ref : EntityRef) (outer : String) (p : Property) :
    (∀ x : Instance, x.length = (c.family.type ref).members.length →
      (((writer c.family (.entity ref x)).write outer p).run c).1 =
        ((write c.family ref x).run c).1.map Document.toJson) ∧
    (∀ m : Document,
      ((reader c.family m.toJson outer p (.entity ref)).run c).1 =
        ((read c.family ref { source := m }).run c).1.map (.embedded ref)) ∧
    (∀ (d : Datum) (n : Nest Instance), d.toValue = n.value ref →
      n.All (fun x => x.length = (c.family.type ref).members.length) →
      (((writer c.family d).write outer p).run c).1 =
        ((n.traverse (write c.family ref)).run c).1.map Nest.json) ∧
    (∀ (n : Nest Document) (kind : Kind), kind.element = .entity ref → n.Within kind →
      ((reader c.family n.json outer p kind).run c).1 =
        ((n.traverse fun m => read c.family ref { source := m }).run c).1.map
          (·.valueAt ref kind)) := by
  have hdescribe : c.describe = c.family.describe c.config := rfl
  simp only [Lookup.run_fst, hdescribe, ← Lookup.eval_map]
  refine ⟨fun x hlength => eval_write_entity hlength outer p, fun m => ?_,
    fun d n hvalue hall => eval_write_nest c.config outer p d n hvalue hall,
    fun n kind helement hwithin => eval_read_nest c.config outer p n kind helement hwithin⟩
  have hone := @eval_read_nest c.family c.config ref outer p (.one m) (.entity ref) rfl trivial
  rw [Nest.traverse, Functor.map_map] at hone
  exact hone

section Sample

open Library

theorem embedded_as_document_books :
    (((writer context.family (.entity bookRef sampleBook)).write "Shelf" isbn).run context).1 =
      ((write context.family bookRef sampleBook).run context).1.map Document.toJson ∧
    (((writer context.family (.vec [.present (.entity bookRef sampleBook), .absent])).write "Shelf"
        isbn).run context).1 =
      (((Nest.many [.one sampleBook, .none]).traverse (write context.family bookRef)).run
        context).1.map Nest.json ∧
    ((reader context.family (Nest.many [.one .empty, .none]).json "Shelf" isbn
        (.list (.entity bookRef))).run context).1 =
      .ok (.list [.embedded bookRef [.string "", .vec [], .absent, .absent], .null]) := by
  obtain ⟨hwrite, -, hwrites, hreads⟩ := embedded_as_document context bookRef "Shelf" isbn
  refine ⟨hwrite sampleBook rfl, ?_, ?_⟩
  · exact hwrites (.vec [.present (.entity bookRef sampleBook), .absent])
      (.many [.one sampleBook, .none]) rfl ⟨rfl, trivial, trivial⟩
  · rw [hreads (.many [.one .empty, .none]) (.list (.entity bookRef)) rfl
      ⟨trivial, trivial, trivial⟩]
    rfl

end Sample

end Conversion

end ObjectDocument
