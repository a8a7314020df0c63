import ObjectDocument.Text.Blank

/-!
# Index names

The name of an index is a text with expressions between `#{` and the next closing brace, which are
replaced by their values whenever a request is made. Neither the values nor any other brace have a
meaning of their own.
-/

namespace ObjectDocument

/-- A piece of an index name. -/
inductive Segment where
  | literal (text : String)
  | expression (name : String)
deriving DecidableEq, Repr

/-- Why a text is not an index name. -/
inductive IndexNameFault where
  | unterminated (source : String)
  | emptyExpression (source : String)
  | empty
deriving DecidableEq, Repr

def IndexNameFault.message : IndexNameFault → String
  | unterminated source => "unterminated expression in index name: " ++ source
  | emptyExpression source => "empty expression in index name: " ++ source
  | empty => "empty index name"

/-- A text split at its expressions. -/
structure IndexName where
  source : String
  segments : List Segment
deriving DecidableEq, Repr

namespace IndexName

open Text

/-- The text before the first closing brace and the text after it. -/
def splitClose : List Char → Option (List Char × List Char)
  | [] => none
  | c :: cs => if c = '\x7d' then some ([], cs) else
    (splitClose cs).map fun (before, after) => (c :: before, after)

/-- The text before the first opening of an expression, and the text after it if there is one. -/
def splitOpen : List Char → List Char × Option (List Char)
  | '#' :: '\x7b' :: cs => ([], some cs)
  | [] => ([], none)
  | c :: cs =>
    let (before, after) := splitOpen cs
    (c :: before, after)

/-- A literal piece; an empty text gives none. -/
def literals (cs : List Char) : List Segment :=
  if cs.isEmpty then [] else [.literal (String.ofList cs)]

theorem length_splitClose {cs before after : List Char}
    (h : splitClose cs = some (before, after)) : after.length < cs.length := by
  induction cs generalizing before after with
  | nil => simp [splitClose] at h
  | cons c cs ih =>
    rw [splitClose] at h
    split at h
    · obtain ⟨-, rfl⟩ := Prod.mk.inj (Option.some.inj h)
      simp
    · obtain ⟨⟨b, a⟩, hs, hp⟩ := Option.map_eq_some_iff.1 h
      obtain ⟨-, rfl⟩ := Prod.mk.inj hp
      exact Nat.lt_succ_of_lt (ih hs)

theorem length_splitOpen {cs before after : List Char}
    (h : splitOpen cs = (before, some after)) : after.length < cs.length := by
  fun_induction splitOpen cs generalizing before after with
  | case1 cs =>
    obtain ⟨-, h⟩ := Prod.mk.inj h
    cases h
    exact Nat.lt_succ_of_lt (Nat.lt_succ_self cs.length)
  | case2 => simp at h
  | case3 c cs _ b a hs ih =>
    obtain ⟨-, rfl⟩ := Prod.mk.inj h
    exact Nat.lt_succ_of_lt (ih hs)

/-- The pieces of a text. -/
def split (source : String) (cs : List Char) : Except IndexNameFault (List Segment) :=
  match _hOpen : splitOpen cs with
  | (before, none) => .ok (literals before)
  | (before, some after) =>
    match _hClose : splitClose after with
    | none => .error (.unterminated source)
    | some (inside, rest) =>
      if (trim inside).isEmpty then .error (.emptyExpression source)
      else do
        let segments ← split source rest
        return literals before ++ .expression (String.ofList (trim inside)) :: segments
termination_by cs.length
decreasing_by
  have := length_splitOpen _hOpen
  have := length_splitClose _hClose
  omega

def parse (source : String) : Except IndexNameFault IndexName := do
  let segments ← split source source.toList
  if segments.isEmpty then throw .empty
  return ⟨source, segments⟩

/-- Whether the name has no expressions. -/
def isStatic (name : IndexName) : Bool :=
  name.segments.all fun s =>
    match s with
    | .literal _ => true
    | .expression _ => false

/-- The text of a piece, or the expression that has no value. -/
def resolveSegment (resolver : String → Option String) : Segment → Except String String
  | .literal text => .ok text
  | .expression name =>
    match resolver name with
    | some value => .ok value
    | none => .error name

/-- The text of pieces in order, or the first expression that has no value. -/
def resolveSegments (resolver : String → Option String) : List Segment → Except String String
  | [] => .ok ""
  | s :: ss => do
    let text ← resolveSegment resolver s
    let rest ← resolveSegments resolver ss
    return text ++ rest

/-- The index that the name stands for, or the first expression that has no value. -/
def resolve (resolver : String → Option String) (name : IndexName) : Except String String :=
  resolveSegments resolver name.segments

end IndexName

end ObjectDocument
