/-!
# Splitting text

A text is cut at every character of a class of separators. The pieces between the separators are
kept, the empty ones included, so a text with `n` separators has `n + 1` pieces.
-/

namespace ObjectDocument.Text

/-- Put an element in front of the first list. -/
def consHead {α : Type} (a : α) : List (List α) → List (List α)
  | [] => [[a]]
  | l :: ls => (a :: l) :: ls

/-- The pieces of a text between the characters that satisfy `sep`. -/
def splitWhere (sep : Char → Bool) : List Char → List (List Char)
  | [] => [[]]
  | c :: cs => if sep c then [] :: splitWhere sep cs else consHead c (splitWhere sep cs)

/-- The texts, with a separator between neighbours. -/
def join (sep : String) : List String → String
  | [] => ""
  | [s] => s
  | s :: t :: ss => s ++ sep ++ join sep (t :: ss)

end ObjectDocument.Text
