import ObjectDocument.Entries
import ObjectDocument.Json.Skip

/-!
# Reading parts of JSON text

A record is read for its known fields only. A selection tells which fields these are, and which
fields their values are read for in turn; the values of all other keys are skipped. Repeated keys
are kept.
-/

namespace ObjectDocument

namespace Json

/-- What is read of a value. -/
inductive Selection where
  | whole
  /-- Known fields of an object, or of an array that gives them in this order. -/
  | record (fields : List (String × Selection))
  /-- An object whose key tells what its value is; no key is skipped. -/
  | choice (cases : List (String × Selection))
  /-- An array of values of one form. -/
  | items (item : Selection)

namespace Selection

/-- A record whose fields are read whole. -/
def ofNames (names : List String) : Selection :=
  record (names.map fun name => (name, whole))

def names : Selection → List String
  | record fields => Entries.keys fields
  | _ => []

/-- What is read of the value of a key; nothing if it is skipped. -/
def ofKey? (key : String) : Selection → Option Selection
  | record fields => Entries.get? key fields
  | choice cases => some ((Entries.get? key cases).getD whole)
  | _ => some whole

/-- What is read of the first item of an array, and of the array of the others. -/
def firstItem : Selection → Selection × Selection
  | items item => (item, items item)
  | record ((_, first) :: fields) => (first, record fields)
  | _ => (whole, whole)

end Selection

def readKey : List Char → Option (String × List Char)
  | '"' :: rest =>
    match readString rest with
    | none => none
    | some (key, rest) =>
      match skipSpace rest with
      | ':' :: rest => some (String.ofList key, rest)
      | _ => none
  | _ => none

mutual

/-- Read what is selected of a value. The numbers bound the steps and the nesting levels. -/
def readSelected : Selection → Nat → Nat → List Char → Option (Json × List Char)
  | _, 0, _, _ => none
  | selection, fuel + 1, depth, cs =>
    match skipSpace cs with
    | '[' :: rest =>
      match depth with
      | 0 => none
      | depth + 1 =>
        match skipSpace rest with
        | ']' :: rest => some (.array [], rest)
        | _ => (readSelectedItems selection fuel depth rest).map fun (js, rest) => (.array js, rest)
    | '\x7b' :: rest =>
      match depth with
      | 0 => none
      | depth + 1 =>
        match skipSpace rest with
        | '\x7d' :: rest => some (.object [], rest)
        | _ =>
          (readSelectedEntries selection fuel depth rest).map fun (es, rest) => (.object es, rest)
    | rest => readValue (fuel + 1) depth rest

/-- Read what is selected of the items of an array, of which there is one at least. -/
def readSelectedItems : Selection → Nat → Nat → List Char → Option (List Json × List Char)
  | _, 0, _, _ => none
  | selection, fuel + 1, depth, cs =>
    match readSelected selection.firstItem.1 fuel depth cs with
    | none => none
    | some (j, rest) =>
      match skipSpace rest with
      | ']' :: rest => some ([j], rest)
      | ',' :: rest =>
        (readSelectedItems selection.firstItem.2 fuel depth rest).map fun (js, rest) =>
          (j :: js, rest)
      | _ => none

/-- Read the selected entries of an object that has one entry at least. -/
def readSelectedEntries :
    Selection → Nat → Nat → List Char → Option (List (String × Json) × List Char)
  | _, 0, _, _ => none
  | selection, fuel + 1, depth, cs =>
    match readKey (skipSpace cs) with
    | none => none
    | some (key, rest) =>
      match readSelectedEntry selection fuel depth key rest with
      | none => none
      | some (entry, rest) =>
        match skipSpace rest with
        | '\x7d' :: rest => some (entry, rest)
        | ',' :: rest =>
          (readSelectedEntries selection fuel depth rest).map fun (es, rest) => (entry ++ es, rest)
        | _ => none

/-- Read the value of a key, or skip it. -/
def readSelectedEntry :
    Selection → Nat → Nat → String → List Char → Option (List (String × Json) × List Char)
  | _, 0, _, _, _ => none
  | selection, fuel + 1, depth, key, cs =>
    match selection.ofKey? key with
    | some part => (readSelected part fuel depth cs).map fun (j, rest) => ([(key, j)], rest)
    | none => (skipValue cs).map fun rest => ([], rest)

end

/-- Read what is selected of a text that holds one value. -/
def parseSelected? (selection : Selection) (s : String) : Option Json :=
  match readSelected selection (3 * s.toList.length + 1) maxDepth s.toList with
  | some (j, rest) => if (skipSpace rest).isEmpty then some j else none
  | none => none

end Json

end ObjectDocument
