import BracketCue.Text.Basic

/-!
# Patterns

A pattern is matched against a whole text, part by part from the left. A run takes as many
characters as it can get and gives them back one by one, for as long as the parts behind it do not
match what is left to them. The first way to match is the one that counts, and the characters of
its groups are the result.
-/
namespace BracketCue.Text

/-- A part of a pattern. -/
inductive Part
  | exactly (text : Text)
  /-- At least so many characters of a class; those of a group are kept. -/
  | run (holds : Char → Bool) (least : Nat) (group : Bool)

/-- Parts to be matched one after the other. -/
abbrev Pattern := List Part

namespace Pattern

/-- The groups of the first way to match a text. -/
def match? : Pattern → Text → Option (List Text)
  | [], text => if text = [] then some [] else none
  | .exactly word :: rest, text =>
    if word.isPrefixOf text then match? rest (text.drop word.length) else none
  | .run holds least group :: rest, text =>
    let longest := (text.takeWhile holds).length
    (List.range (longest + 1 - least)).findSome? fun givenBack =>
      let count := longest - givenBack
      (match? rest (text.drop count)).map fun groups =>
        if group then text.take count :: groups else groups

end Pattern
end BracketCue.Text
