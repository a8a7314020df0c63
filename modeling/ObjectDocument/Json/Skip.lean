import ObjectDocument.Json.Parser

/-!
# Skipping JSON text

A reader that has no use for a value still has to find its end. A skipped value is well formed, but
nothing is made of it: its numbers may be of any size, the escapes of its strings need not make
characters, and it may be nested to any depth.
-/

namespace ObjectDocument

namespace Json

/-- What a skipped value is enclosed by. -/
inductive Enclosure where
  | array
  | object
deriving DecidableEq, Repr

/-- What a text has to go on with. -/
inductive Expected where
  | value
  | key
  /-- A separator or a closing bracket. -/
  | delimiter
deriving DecidableEq, Repr

/-- The text after a string whose opening quotation mark is gone. -/
def skipString : List Char → Option (List Char)
  | [] => none
  | '"' :: cs => some cs
  | '\\' :: 'u' :: a :: b :: c :: d :: cs =>
    if (hexUnit? a b c d).isSome then skipString cs else none
  | '\\' :: c :: cs => if (escapeLetter? c).isSome then skipString cs else none
  | c :: cs => if c.toNat < 32 ∨ c = '\\' then none else skipString cs

/-- The text after a number whose sign is gone. -/
def skipUnsigned (cs : List Char) : Option (List Char) :=
  match readDigits cs with
  | ([], _) => none
  | (0 :: _ :: _, _) => none
  | (_, '.' :: rest) =>
    match readDigits rest with
    | ([], _) => none
    | (_, rest) => (readExponentPart rest).map (·.2)
  | (_, rest) => (readExponentPart rest).map (·.2)

/-- The text after a value without parts. -/
def skipScalar : List Char → Option (List Char)
  | '"' :: rest => skipString rest
  | 'n' :: 'u' :: 'l' :: 'l' :: rest => some rest
  | 't' :: 'r' :: 'u' :: 'e' :: rest => some rest
  | 'f' :: 'a' :: 'l' :: 's' :: 'e' :: rest => some rest
  | '-' :: rest => skipUnsigned rest
  | cs => skipUnsigned cs

/-- The text after a key and its colon. -/
def skipKey : List Char → Option (List Char)
  | '"' :: rest =>
    match (skipString rest).map skipSpace with
    | some (':' :: rest) => some rest
    | _ => none
  | _ => none

/-- Skip what is expected and then all that encloses it. Each step but the last takes a character,
so the first argument, which bounds the steps, need only exceed the length of the text. -/
def skip : Nat → Expected → List Enclosure → List Char → Option (List Char)
  | 0, _, _, _ => none
  | fuel + 1, .value, enclosing, cs =>
    match skipSpace cs with
    | '[' :: rest =>
      match skipSpace rest with
      | ']' :: rest => skip fuel .delimiter enclosing rest
      | rest => skip fuel .value (.array :: enclosing) rest
    | '\x7b' :: rest =>
      match skipSpace rest with
      | '\x7d' :: rest => skip fuel .delimiter enclosing rest
      | rest => skip fuel .key (.object :: enclosing) rest
    | rest =>
      match skipScalar rest with
      | some rest => skip fuel .delimiter enclosing rest
      | none => none
  | fuel + 1, .key, enclosing, cs =>
    match skipKey (skipSpace cs) with
    | some rest => skip fuel .value enclosing rest
    | none => none
  | _ + 1, .delimiter, [], cs => some cs
  | fuel + 1, .delimiter, .array :: enclosing, cs =>
    match skipSpace cs with
    | ']' :: rest => skip fuel .delimiter enclosing rest
    | ',' :: rest => skip fuel .value (.array :: enclosing) rest
    | _ => none
  | fuel + 1, .delimiter, .object :: enclosing, cs =>
    match skipSpace cs with
    | '\x7d' :: rest => skip fuel .delimiter enclosing rest
    | ',' :: rest => skip fuel .key (.object :: enclosing) rest
    | _ => none

def skipValue (cs : List Char) : Option (List Char) :=
  skip (cs.length + 1) .value [] cs

end Json

end ObjectDocument
