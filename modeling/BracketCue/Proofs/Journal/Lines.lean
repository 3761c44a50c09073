import BracketCue.Calendar
import BracketCue.Journal.Entry
import BracketCue.Proofs.Settings.Grammar
import BracketCue.Proofs.Terminal.OneLine

/-!
# One line for each entry

What a user writes cannot break a line of the journal. The line to edit, the script and a line of
the settings file that is no directive are quoted. The name and the value of a directive that is
rejected are words, and no white space is in a word, least of all a newline.

* `newline_not_mem_of_mem_rejections`: what is said of a rejected line.
* `newline_not_mem_message`: what is said in an entry.
* `lines_journalText`: a journal has one line for each entry, which begins with its stamp.
-/
namespace BracketCue

/-! ## Numerals, words and records -/

namespace Text

theorem newline_not_mem_decimal (n : Nat) : '\n' ∉ decimal n :=
  newline_not_mem_toDigits (by decide) n

theorem newline_not_mem_quoted (text : Text) : '\n' ∉ quoted text :=
  newline_not_mem_quotedBy (by decide) text

theorem newline_not_mem_zeroPadded (width : Nat) {numeral : Text} (h : '\n' ∉ numeral) :
    '\n' ∉ zeroPadded width numeral := by
  have zeros : '\n' ∉ List.replicate (width - numeral.length) '0' := fun mem =>
    absurd (List.eq_of_mem_replicate mem) (by decide)
  exact List.not_mem_append zeros h

theorem newline_not_mem_signedDecimal (width : Nat) (n : Int) :
    '\n' ∉ signedDecimal width n := by
  have padded : ∀ width n, '\n' ∉ zeroPadded width (decimal n) := fun width n =>
    newline_not_mem_zeroPadded width (newline_not_mem_decimal n)
  cases n with
  | ofNat n => exact padded width n
  | negSucc n => exact List.not_mem_cons_of_ne_of_not_mem (by decide) (padded _ _)

/-- No word contains a newline, where newlines separate words. -/
theorem newline_not_mem_of_mem_words {separates : Char → Bool} (h : separates '\n' = true)
    {text word : Text} (mem : word ∈ words separates text) : '\n' ∉ word := by
  intro newline
  have apart := separates_eq_false_of_mem_splitOnP (List.mem_of_mem_filter mem) '\n' newline
  exact Bool.false_ne_true (apart.symm.trans h)

end Text

theorem Text.newline_not_mem_byteEscape (byte : UInt8) : '\n' ∉ byteEscape byte := by
  have digits : ∀ n < 16, (Nat.digitChar n).toUpper ≠ '\n' := by decide
  have small := byte.toNat_lt
  have high := digits (byte.toNat / 16) (by omega)
  have low := digits (byte.toNat % 16) (by omega)
  simp [byteEscape, high.symm, low.symm]

theorem Text.newline_not_mem_quotedPiece (piece : Piece) : '\n' ∉ quotedPiece piece := by
  cases piece with
  | stray byte => exact newline_not_mem_byteEscape byte
  | char c =>
    rw [quotedPiece]
    split
    · next single => simp [single]
    · exact newline_not_mem_quotedChar _ c

theorem Text.newline_not_mem_quotedBytes (bytes : ByteArray) : '\n' ∉ quotedBytes bytes := by
  have inner : '\n' ∉ (pieces bytes).flatMap quotedPiece := by
    rw [List.mem_flatMap]
    rintro ⟨piece, -, mem⟩
    exact newline_not_mem_quotedPiece piece mem
  simp [quotedBytes, inner]

theorem newline_not_mem_recordText {name : Text} (hname : '\n' ∉ name)
    {fields : List (Text × Text)} (h : ∀ field ∈ fields, '\n' ∉ field.1 ∧ '\n' ∉ field.2) :
    '\n' ∉ recordText name fields := by
  have inner : '\n' ∉
      Text.join ", ".toList (fields.map fun field => field.1 ++ ": ".toList ++ field.2) := by
    refine Text.not_mem_join (by decide) fun text mem => ?_
    obtain ⟨field, there, rfl⟩ := List.mem_map.1 mem
    simp [h field there]
  unfold recordText
  simp only [List.mem_append, hname, inner, or_false, false_or]
  decide

theorem newline_not_mem_optionText {text : Option Text} (h : ∀ t ∈ text, '\n' ∉ t) :
    '\n' ∉ optionText text := by
  cases text with
  | none => decide
  | some t =>
    exact List.not_mem_append (List.not_mem_append (by decide) (h t rfl)) (by decide)

theorem newline_not_mem_switchText (on : Bool) : '\n' ∉ switchText on := by
  cases on <;> decide

theorem Highlight.newline_not_mem_recordText (h : Highlight) : '\n' ∉ h.recordText := by
  have family : '\n' ∉ h.pair.family.recordText := by
    cases h.pair.family <;> decide
  have pair : '\n' ∉ h.pair.recordText :=
    BracketCue.newline_not_mem_recordText (by decide)
      (by simp [Text.newline_not_mem_decimal, family])
  exact BracketCue.newline_not_mem_recordText (by decide)
    (by simp [Text.newline_not_mem_decimal, pair])

theorem Settings.newline_not_mem_recordText (s : Settings) : '\n' ∉ s.recordText := by
  have activeBracket : '\n' ∉ s.activeBracket.recordText := by
    cases s.activeBracket <;> decide
  have paint : '\n' ∉ s.paint.recordText := by
    cases s.paint <;> decide
  have moveStyle : '\n' ∉ s.moveStyle.recordText := by
    cases s.moveStyle <;> decide
  have style : '\n' ∉ s.style.recordText :=
    BracketCue.newline_not_mem_recordText (by decide)
      (by simp [newline_not_mem_switchText, Text.newline_not_mem_decimal])
  exact BracketCue.newline_not_mem_recordText (by decide)
    (by simp [newline_not_mem_switchText, activeBracket, paint, moveStyle, style])

theorem Failure.newline_not_mem_kind (code : Nat) : '\n' ∉ kind code := by
  have listed : ∀ entry ∈ kinds, '\n' ∉ entry.2.toList := by decide +kernel
  unfold kind
  cases found : kinds.lookup code with
  | none => decide
  | some name =>
    obtain ⟨before, after, split, -⟩ := List.lookup_eq_some_iff.1 found
    exact listed (code, name) (split ▸ List.mem_append_right before List.mem_cons_self)

theorem Failure.newline_not_mem_describe (f : Failure) : '\n' ∉ f.describe := by
  -- with the texts in it, the equations that `unfold` asks for are slow to make
  delta describe
  cases f with
  | notText => simp [Text.newline_not_mem_quoted]
  | system code message =>
    simp [newline_not_mem_kind, Text.newline_not_mem_decimal, Text.newline_not_mem_quoted]

/-! ## Rejected lines -/

/-- A spelling that is no value is what the error is about. -/
theorem eq_of_orValueError_eq_error {α : Type} {value? : Option α} {e e' : ValueError}
    (h : orValueError value? e = .error e') : e' = e := by
  cases value? with
  | none => exact (Except.error.inj h).symm
  | some value => cases h

theorem Directive.eq_badValue_of_ofValue {α : Type} {make : α → Directive}
    {value? : Option α} {e : ValueError} {cause : Directive.Error}
    (h : ofValue make (orValueError value? e) = .error cause) : cause = .badValue e := by
  cases read : orValueError value? e with
  | ok value => rw [read] at h; cases h
  | error e' =>
    rw [read] at h
    rw [← Except.error.inj h, eq_of_orValueError_eq_error read]

/-- What is wrong with a name and a value is said with one of the two. -/
theorem Directive.newline_not_mem_of_ofNameValue {name value : Text} {cause : Directive.Error}
    (h : ofNameValue name value = .error cause) (hname : '\n' ∉ name) (hvalue : '\n' ∉ value) :
    '\n' ∉ cause.message := by
  unfold ofNameValue at h
  -- one case for each name, and the last for a name that no setting has
  repeat' split at h
  case isTrue | isTrue | isTrue | isTrue | isTrue | isTrue =>
    rw [eq_badValue_of_ofValue h]
    exact List.not_mem_append (by decide) hvalue
  case isFalse =>
    rw [← Except.error.inj h]
    exact List.not_mem_append (by decide) hname

theorem SettingsLine.newline_not_mem_of_read {line : Text} {cause : Directive.Error}
    (h : SettingsLine.read line = .rejected cause) : '\n' ∉ cause.message := by
  have quoted : ∀ line, '\n' ∉ (Directive.Error.notSet line).message := fun line =>
    List.not_mem_append (by decide) (Text.newline_not_mem_quoted line)
  unfold SettingsLine.read at h
  dsimp only at h
  split at h
  · cases h
  · split at h
    · next name value found =>
      obtain ⟨_, _, same, inForm⟩ := Directive.match?_form_eq_some_iff.1 found
      cases same
      have word : ∀ w ∈ ["set".toList, name, value], '\n' ∉ w := fun w mem =>
        Text.newline_not_mem_of_mem_words (by decide) (inForm.words_eq ▸ mem)
      split at h
      · cases h
      · next refused =>
        cases h
        exact Directive.newline_not_mem_of_ofNameValue refused (word name (by simp))
          (word value (by simp))
    · cases h
      exact quoted _

theorem Settings.newline_not_mem_of_mem_rejections {file : Text} {number : Nat}
    {cause : Directive.Error} (h : (number, cause) ∈ rejections file) : '\n' ∉ cause.message := by
  obtain ⟨⟨read, place⟩, mem, h⟩ := List.mem_filterMap.1 h
  obtain ⟨line, -, rfl⟩ := List.mem_map.1 (List.fst_mem_of_mem_zipIdx mem)
  cases hr : SettingsLine.read line with
  | ignored | directive d => simp [hr, SettingsLine.rejection?] at h
  | rejected cause' =>
    simp only [hr, SettingsLine.rejection?, Option.map_some, Option.some.injEq,
      Prod.mk.injEq] at h
    exact h.2 ▸ SettingsLine.newline_not_mem_of_read hr

/-! ## Entries -/

namespace Journal

theorem HomeError.newline_not_mem_message (cause : HomeError) : '\n' ∉ cause.message := by
  cases cause with
  | missing => decide
  | notText bytes =>
    exact List.not_mem_append (by decide) (Text.newline_not_mem_quotedBytes bytes)

/-- If the entry is about a line of a settings file, that line was rejected. -/
def Entry.Genuine : Entry → Prop
  | .rejected number cause => ∃ file, (number, cause) ∈ Settings.rejections file
  | _ => True

theorem newline_not_mem_message {entry : Entry} (h : entry.Genuine) : '\n' ∉ entry.message := by
  cases entry with
  | noHome cause => exact List.not_mem_append (by decide) cause.newline_not_mem_message
  | noTerminal => decide
  | rejected number cause =>
    obtain ⟨file, mem⟩ := h
    have cause := Settings.newline_not_mem_of_mem_rejections mem
    delta Entry.message
    simp [Text.newline_not_mem_decimal, cause]
  | started line script width settings =>
    delta Entry.message
    simp [Text.newline_not_mem_decimal, Text.newline_not_mem_quoted,
      settings.newline_not_mem_recordText]
  | moved before after change =>
    have highlight : ∀ h? : Option Highlight, '\n' ∉ optionText (h?.map (·.recordText)) := by
      refine fun h? => newline_not_mem_optionText fun text mem => ?_
      obtain ⟨h, -, rfl⟩ := Option.map_eq_some_iff.1 mem
      exact h.newline_not_mem_recordText
    delta Entry.message
    simp [Text.newline_not_mem_decimal, highlight]
  | writeFailed cause => exact List.not_mem_append (by decide) cause.newline_not_mem_describe

/-! ## Lines -/

def Stamp.of (process : Nat) (time : Calendar.DateTime) : Stamp :=
  ⟨time.render, Text.decimal process⟩

/-- What stands in front of a message. -/
def Stamp.mark (stamp : Stamp) : Text :=
  '[' :: stamp.time ++ "][".toList ++ stamp.process ++ "] ".toList

theorem Stamp.newline_not_mem_mark (process : Nat) (time : Calendar.DateTime) :
    '\n' ∉ (Stamp.of process time).mark := by
  have padded : ∀ width n, '\n' ∉ Calendar.padded width n := fun width n =>
    Text.newline_not_mem_zeroPadded width (Text.newline_not_mem_decimal n)
  simp [mark, Stamp.of, Calendar.DateTime.render, padded, Text.newline_not_mem_signedDecimal,
    Text.newline_not_mem_decimal]

/-- A message without newlines gets one. -/
theorem frame_of_newline_not_mem (stamp : Stamp) {message : Text} (h : '\n' ∉ message) :
    frame stamp message = stamp.mark ++ message ++ ['\n'] := by
  have last : message.getLast? ≠ some '\n' := fun newline =>
    h (List.mem_of_getLast? newline)
  unfold frame
  rw [if_neg last]
  rfl

/-- The text of a journal in which a process noted entries, each at its time. -/
def journalText (process : Nat) (noted : List (Calendar.DateTime × Entry)) : Text :=
  noted.flatMap fun (time, entry) => frame (Stamp.of process time) entry.message

/-- A journal has one line for each entry, its stamp and its message, and the empty line after the
last newline. -/
theorem lines_journalText (process : Nat) {noted : List (Calendar.DateTime × Entry)}
    (h : ∀ entry ∈ noted.map Prod.snd, entry.Genuine) :
    (journalText process noted).lines =
      noted.map (fun (time, entry) => (Stamp.of process time).mark ++ entry.message) ++ [[]] := by
  have plain : ∀ n ∈ noted, '\n' ∉ n.2.message := fun n mem =>
    newline_not_mem_message (h n.2 (List.mem_map_of_mem mem))
  have framed : journalText process noted =
      noted.flatMap fun (time, entry) =>
        (Stamp.of process time).mark ++ entry.message ++ ['\n'] :=
    List.flatMap_congr fun n mem => frame_of_newline_not_mem _ (plain n mem)
  rw [framed]
  exact Text.lines_flatMap (fun n : Calendar.DateTime × Entry =>
    (Stamp.of process n.1).mark ++ n.2.message) fun n mem =>
      List.not_mem_append (Stamp.newline_not_mem_mark process n.1) (plain n mem)

end Journal
end BracketCue
