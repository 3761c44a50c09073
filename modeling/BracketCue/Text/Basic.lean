/-!
# Text

A text is a list of characters, so an offset counts characters and a cut at an offset is `take`
and `drop`. The few operations that every reader of text shares are here: splitting at
separators, the words between them, the lines, trimming, comparing without regard to the case of
ASCII letters, and measuring in bytes.
-/
namespace BracketCue

/-- A sequence of Unicode characters. -/
abbrev Text := List Char

namespace Text

/-- The maximal runs of characters that are not separators, in order. -/
def words (separates : Char → Bool) (text : Text) : List Text :=
  (text.splitOnP separates).filter (· ≠ [])

/-- The pieces between newlines; a text that ends in a newline has an empty last line. -/
def lines (text : Text) : List Text :=
  text.splitOnP (· == '\n')

/-- The text without the leading and trailing characters that satisfy `drops`. -/
def trim (drops : Char → Bool) (text : Text) : Text :=
  ((text.dropWhile drops).reverse.dropWhile drops).reverse

/-- The text with each ASCII capital replaced by its small letter, all else as it is. -/
def lowerAscii (text : Text) : Text :=
  text.map Char.toLower

/-- The texts one after the other with `mark` between neighbours. -/
def join (mark : Text) : List Text → Text
  | [] => []
  | [t] => t
  | t :: rest => t ++ mark ++ join mark rest

def byteSize (text : Text) : Nat :=
  text.foldl (fun bytes c => bytes + c.utf8Size) 0

theorem words_nil (separates : Char → Bool) : words separates [] = [] := by
  simp [words]

end Text
end BracketCue
