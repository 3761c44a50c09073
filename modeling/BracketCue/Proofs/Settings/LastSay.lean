import BracketCue.Proofs.Settings.Grammar

/-!
# The last directive wins

A settings file is a list of lines, and each field of the settings is what the last line says that
is a directive for it. Other lines, directives for other fields among them, do not touch it.

* `Field`: a field of the settings, with the value that a directive gives it.
* `Settings.afterLines_concat`: one more line.
* `Field.settles_afterLines`: a file.
-/
namespace BracketCue

/-- A field of the settings: where it is kept and which value a directive gives it. -/
structure Field (α : Type) where
  get : Settings → α
  given? : Directive → Option α
  get_set : ∀ s d, get (s.set d) = (given? d).getD (get s)

namespace Field

def enabled : Field Bool where
  get s := s.enabled
  given? | .enabled on => some on | _ => none
  get_set _ d := by cases d <;> rfl

def activeBracket : Field ActiveBracket where
  get s := s.activeBracket
  given? | .activeBracket choice => some choice | _ => none
  get_set _ d := by cases d <;> rfl

def paint : Field Paint where
  get s := s.paint
  given? | .paint paint => some paint | _ => none
  get_set _ d := by cases d <;> rfl

def moveStyle : Field MoveStyle where
  get s := s.moveStyle
  given? | .moveStyle style => some style | _ => none
  get_set _ d := by cases d <;> rfl

def bold : Field Bool where
  get s := s.style.bold
  given? | .bold on => some on | _ => none
  get_set _ d := by cases d <;> rfl

def background : Field Nat where
  get s := s.style.background
  given? | .background code => some code | _ => none
  get_set _ d := by cases d <;> rfl

variable {α : Type} (f : Field α)

/-- The line is a directive that gives the field a value. -/
def GivenBy (line : Text) (v : α) : Prop :=
  ∃ d, IsDirective line d ∧ f.given? d = some v

/-- What lines make of a field: it has the value that the last directive for it gives, or if there
is none the value that it had before. -/
def Settles (before : Settings) (lines : List Text) (v : α) : Prop :=
  (∃ first line later, lines = first ++ line :: later ∧ f.GivenBy line v ∧
    ∀ line' ∈ later, ∀ v', ¬f.GivenBy line' v') ∨
  ((∀ line ∈ lines, ∀ v', ¬f.GivenBy line v') ∧ v = f.get before)

variable {f}

theorem Settles.nil (s : Settings) : f.Settles s [] (f.get s) :=
  .inr ⟨nofun, rfl⟩

/-- A line that gives the field a value settles it. -/
theorem Settles.concat_given {line : Text} {v : α} (h : f.GivenBy line v) (s : Settings)
    (lines : List Text) : f.Settles s (lines ++ [line]) v :=
  .inl ⟨lines, line, [], rfl, h, nofun⟩

/-- A line that gives the field no value leaves it as it was. -/
theorem Settles.concat_silent {s : Settings} {lines : List Text} {v : α} (h : f.Settles s lines v)
    {line : Text} (silent : ∀ v', ¬f.GivenBy line v') : f.Settles s (lines ++ [line]) v := by
  rcases h with ⟨first, last, later, rfl, given, quiet⟩ | ⟨quiet, rfl⟩
  · refine .inl ⟨first, last, later ++ [line], by simp, given, ?_⟩
    exact List.forall_mem_append.2 ⟨quiet, List.forall_mem_singleton.2 silent⟩
  · exact .inr ⟨List.forall_mem_append.2 ⟨quiet, List.forall_mem_singleton.2 silent⟩, rfl⟩

end Field

namespace Settings

def afterLines (s : Settings) (lines : List Text) : Settings :=
  ((lines.map SettingsLine.read).filterMap SettingsLine.directive?).foldl set s

theorem withFile_eq (s : Settings) (file : Text) : s.withFile file = s.afterLines file.lines := rfl

theorem afterLines_concat (s : Settings) (lines : List Text) (line : Text) :
    s.afterLines (lines ++ [line]) =
      (SettingsLine.read line).directive?.elim (s.afterLines lines) (s.afterLines lines).set := by
  simp only [afterLines, List.map_append, List.filterMap_append, List.foldl_append, List.map_cons,
    List.map_nil, List.filterMap_cons, List.filterMap_nil]
  cases (SettingsLine.read line).directive? <;> rfl

theorem withFile_nil (s : Settings) : s.withFile [] = s := rfl

end Settings

theorem SettingsLine.directive?_eq_some_iff {line : Text} {d : Directive} :
    (SettingsLine.read line).directive? = some d ↔ IsDirective line d := by
  rw [← SettingsLine.read_eq_directive_iff]
  cases SettingsLine.read line <;> simp [SettingsLine.directive?]

namespace Field

variable {α : Type} (f : Field α)

/-- After lines a field is what they make of it. -/
theorem settles_afterLines (s : Settings) (lines : List Text) :
    f.Settles s lines (f.get (s.afterLines lines)) := by
  induction lines using List.reverseRecOn with
  | nil => exact .nil s
  | append_singleton lines line ih =>
    rw [Settings.afterLines_concat]
    have silent : (∀ d, IsDirective line d → f.given? d = none) → ∀ v', ¬f.GivenBy line v' := by
      rintro none' v' ⟨d, isDirective, given⟩
      rw [none' d isDirective] at given
      cases given
    cases h : (SettingsLine.read line).directive? with
    | none =>
      refine ih.concat_silent (silent fun d isDirective => ?_)
      rw [SettingsLine.directive?_eq_some_iff.2 isDirective] at h
      cases h
    | some d =>
      rw [Option.elim_some, f.get_set]
      cases given : f.given? d with
      | some v => exact .concat_given ⟨d, SettingsLine.directive?_eq_some_iff.1 h, given⟩ s lines
      | none =>
        refine ih.concat_silent (silent fun d' isDirective => ?_)
        rw [SettingsLine.directive?_eq_some_iff.2 isDirective] at h
        cases h
        exact given

end Field
end BracketCue
