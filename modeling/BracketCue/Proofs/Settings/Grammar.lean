import BracketCue.Proofs.Text.Pattern
import BracketCue.Proofs.Text.Words
import BracketCue.Settings.Directive

/-!
# What a directive is

A line is a directive if its words are `set`, the name of a setting and a value of that setting.
The pattern of directives finds these words. In it a name ends where white space begins, and so does
a value, so there is one way to match it at most.

That comments and empty lines are looked for first, and that the name of a setting is checked letter
by letter before it is looked up, makes no difference to which lines are directives.

* `matches_form_iff`: the pattern matches exactly the lines of three words, `set` and a name first.
* `match?_form_eq_some_iff`: what is found in such a line are its name and its value.
* `ofNameValue_eq_ok_iff`: a name and a value make a directive exactly if they spell it.
* `read_eq_directive_iff`: a line is read as a directive exactly if it is one.
-/
namespace BracketCue

open Text (Gap Runs isBlank words)
open Text.Pattern (Matches matches_nil_iff matches_exactly_iff matches_run_iff)

/-! ## The form of a directive -/

namespace Directive

/-- The words of a line in the form of a directive. -/
structure InForm (line name value : Text) : Prop where
  words_eq : words isBlank line = ["set".toList, name, value]
  isName : name.all isNameChar = true

theorem isBlank_eq_false_of_isNameChar {c : Char} (h : isNameChar c = true) :
    isBlank c = false := by
  have code : 97 ≤ c.toNat ∧ c.toNat ≤ 122 ∨ c.toNat = 45 := by
    simp only [isNameChar, Bool.or_eq_true, beq_iff_eq] at h
    rcases h with lower | rfl
    · obtain ⟨first, last⟩ := Bool.and_eq_true_iff.1 lower
      exact .inl ⟨UInt32.le_iff_toNat_le.1 (of_decide_eq_true first),
        UInt32.le_iff_toNat_le.1 (of_decide_eq_true last)⟩
    · exact .inr rfl
  rw [← Bool.not_eq_true]
  intro blank
  obtain ⟨range, mem, first, last⟩ := Text.Ranges.exists_of_holds blank
  simp only [Text.blankRanges, List.mem_cons, List.not_mem_nil, or_false] at mem
  rcases mem with rfl | rfl | rfl | rfl | rfl | rfl | rfl | rfl | rfl | rfl <;> omega

/-- Three words with white space around them, and a gap between neighbours. -/
theorem words_of_parts {front gap gap' back verb name value : Text} (hfront : Gap isBlank front)
    (hgap : Gap isBlank gap) (ne : gap ≠ []) (hgap' : Gap isBlank gap') (ne' : gap' ≠ [])
    (hback : Gap isBlank back) (hverb : words isBlank verb = [verb])
    (hname : words isBlank name = [name]) (hvalue : words isBlank value = [value]) :
    words isBlank (front ++ (verb ++ (gap ++ (name ++ (gap' ++ (value ++ back)))))) =
      [verb, name, value] := by
  rw [hfront.words_append, ← List.append_assoc verb, hgap.words_append_append ne, hverb,
    ← List.append_assoc name, hgap'.words_append_append ne', hname, hback.append_words, hvalue]
  rfl

/-- The pattern matches exactly the lines of three words of which the first is `set` and the second
has the form of a name. -/
theorem matches_form_iff {line : Text} {groups : List Text} :
    Matches form line groups ↔ ∃ name value, groups = [name, value] ∧ InForm line name value := by
  constructor
  · intro h
    have ne_nil : ∀ {t : Text}, 1 ≤ t.length → t ≠ [] := List.length_pos_iff.1
    obtain ⟨front, _, _, rfl, hfront, -, fromVerb, rfl⟩ := matches_run_iff.1 h
    obtain ⟨_, rfl, behindVerb⟩ := matches_exactly_iff.1 fromVerb
    obtain ⟨gap, _, _, rfl, hgap, ne, fromName, rfl⟩ := matches_run_iff.1 behindVerb
    obtain ⟨name, _, _, rfl, hname, neName, behindName, rfl⟩ := matches_run_iff.1 fromName
    obtain ⟨gap', _, _, rfl, hgap', ne', fromValue, rfl⟩ := matches_run_iff.1 behindName
    obtain ⟨value, _, _, rfl, hvalue, neValue, behindValue, rfl⟩ := matches_run_iff.1 fromValue
    obtain ⟨back, _, _, rfl, hback, -, atEnd, rfl⟩ := matches_run_iff.1 behindValue
    obtain ⟨rfl, rfl⟩ := matches_nil_iff.1 atEnd
    refine ⟨name, value, rfl, ?_, List.all_eq_true.2 hname⟩
    rw [List.append_nil]
    refine words_of_parts hfront hgap (ne_nil ne) hgap' (ne_nil ne') hback (by decide) ?_ ?_
    · exact Text.words_eq_singleton (ne_nil neName) fun c mem =>
        isBlank_eq_false_of_isNameChar (hname c mem)
    · exact Text.words_eq_singleton (ne_nil neValue) fun c mem => by simpa using hvalue c mem
  · rintro ⟨name, value, rfl, hwords, isName⟩
    obtain ⟨front, _, rfl, hfront, -, -, ends, runs⟩ := (Text.words_eq_iff.1 hwords).cut
    obtain ⟨gap, _, rfl, hgap, ne, neName, -, ends, runs⟩ := runs.cut_behind ends
    obtain ⟨gap', back, rfl, hgap', ne', neValue, visible, -, runs⟩ := runs.cut_behind ends
    have isValue : ∀ c ∈ value, (!isBlank c) = true := fun c mem => by rw [visible c mem]; rfl
    have behindValue : Matches [.run isBlank 0 false] back [] := by
      have := Matches.run false runs.gap (Nat.zero_le _) .nil
      rwa [List.append_nil] at this
    have fromValue := behindValue.run true isValue (List.length_pos_iff.2 neValue)
    have behindName := fromValue.run false hgap' (List.length_pos_iff.2 ne')
    have fromName := behindName.run true (List.all_eq_true.1 isName) (List.length_pos_iff.2 neName)
    have behindVerb := fromName.run false hgap (List.length_pos_iff.2 ne)
    exact (behindVerb.exactly _).run false hfront (Nat.zero_le _)

theorem InForm.unique {line name value name' value' : Text} (h : InForm line name value)
    (h' : InForm line name' value') : name' = name ∧ value' = value := by
  have := h.words_eq.symm.trans h'.words_eq
  simp only [List.cons.injEq, and_true, true_and] at this
  exact ⟨this.1.symm, this.2.symm⟩

/-- What is found in a line are its name and its value. -/
theorem match?_form_eq_some_iff {line : Text} {groups : List Text} :
    form.match? line = some groups ↔
      ∃ name value, groups = [name, value] ∧ InForm line name value := by
  rw [Text.Pattern.match?_eq_some_iff, matches_form_iff]
  rintro groups' h h'
  obtain ⟨name, value, rfl, inForm⟩ := matches_form_iff.1 h
  obtain ⟨name', value', rfl, inForm'⟩ := matches_form_iff.1 h'
  obtain ⟨rfl, rfl⟩ := inForm.unique inForm'
  rfl

end Directive

/-! ## Directives -/

namespace Directive

/-- The name and the value that spell a directive. -/
def Spelled (name value : Text) : Directive → Prop
  | .enabled on => name = "highlight".toList ∧ readSwitch value = .ok on
  | .activeBracket choice =>
    name = "active-bracket".toList ∧ ActiveBracket.ofName value = .ok choice
  | .paint p => name = "paint".toList ∧ Paint.ofName value = .ok p
  | .moveStyle style => name = "move-style".toList ∧ MoveStyle.ofName value = .ok style
  | .bold on => name = "highlight-bold".toList ∧ readSwitch value = .ok on
  | .background code => name = "highlight-background".toList ∧ readColor value = .ok code

theorem ofValue_eq_ok_iff {α : Type} {make : α → Directive} {value : Except ValueError α}
    {d : Directive} : ofValue make value = .ok d ↔ ∃ v, value = .ok v ∧ make v = d := by
  cases value <;> simp [ofValue]

theorem ofNameValue_eq_ok_iff {name value : Text} {d : Directive} :
    ofNameValue name value = .ok d ↔ d.Spelled name value := by
  constructor
  · intro h
    unfold ofNameValue at h
    -- one case for each name, and the last for a name that no setting has
    repeat' split at h
    case isTrue | isTrue | isTrue | isTrue | isTrue | isTrue =>
      obtain ⟨v, read, rfl⟩ := ofValue_eq_ok_iff.1 h
      exact ⟨‹_›, read⟩
    case isFalse => cases h
  · intro h
    cases d <;> obtain ⟨rfl, read⟩ := h <;> simp [ofNameValue, ofValue, read]

/-- The name of a setting has the form that names have. -/
theorem Spelled.isNameChar {name value : Text} {d : Directive} (h : d.Spelled name value) :
    name.all Directive.isNameChar = true := by
  cases d with
  | enabled on | bold on => rw [h.1]; decide
  | activeBracket choice | paint p | moveStyle style | background code => rw [h.1]; decide

end Directive

def IsDirective (line : Text) (d : Directive) : Prop :=
  ∃ name value, Text.words Text.isBlank line = ["set".toList, name, value] ∧ d.Spelled name value

/-- A line whose first word does not begin with the mark of a comment is none. -/
theorem head?_ne_hash_of_words {line name : Text} {rest : List Text}
    (h : Text.words Text.isBlank line = name :: rest) (hn : name.head? ≠ some '#') :
    line.head? ≠ some '#' := by
  intro hash
  obtain ⟨tail, rfl⟩ := List.head?_eq_some_iff.1 hash
  have visible : ¬Text.isBlank '#' = true := by decide
  obtain ⟨word, later, words⟩ := Text.words_cons visible tail
  rw [words] at h
  obtain ⟨rfl, -⟩ := List.cons.inj h
  exact hn rfl

/-- A line is read as a directive exactly if it is one. -/
theorem SettingsLine.read_eq_directive_iff {line : Text} {d : Directive} :
    SettingsLine.read line = .directive d ↔ IsDirective line d := by
  have trimmed := Text.words_trim Text.isBlank line
  refine ⟨fun h => ?_, fun h => ?_⟩
  · unfold SettingsLine.read at h
    dsimp only at h
    split at h
    · cases h
    · split at h
      · next name value found =>
        split at h
        · next spelled =>
          cases h
          obtain ⟨_, _, same, inForm⟩ := Directive.match?_form_eq_some_iff.1 found
          cases same
          exact ⟨name, value, trimmed ▸ inForm.words_eq, Directive.ofNameValue_eq_ok_iff.1 spelled⟩
        · cases h
      · cases h
  · obtain ⟨name, value, words, spelled⟩ := h
    rw [words] at trimmed
    have nonempty : line.trim Text.isBlank ≠ [] := by
      intro empty
      rw [empty, Text.words_nil] at trimmed
      cases trimmed
    have comment := head?_ne_hash_of_words trimmed (by decide)
    have found : Directive.form.match? (line.trim isBlank) = some [name, value] :=
      Directive.match?_form_eq_some_iff.2 ⟨name, value, rfl, trimmed, spelled.isNameChar⟩
    unfold SettingsLine.read
    dsimp only
    rw [if_neg (not_or.2 ⟨nonempty, comment⟩), found]
    dsimp only
    rw [Directive.ofNameValue_eq_ok_iff.2 spelled]

end BracketCue
