import BracketCue.Proofs.CommandLine.Verdict

/-!
# What a settings file does

A settings file is read line by line. A line is ignored, or it is a directive, or it is invalid.
Each field of the settings has the value of the last directive for it, an invalid line changes
nothing, and it is noted once, by its number.

The lines are those of a file that was written anywhere: a carriage return before a newline belongs
to the end of the line. A reader who takes it for part of the line comes to the same result, because
it is white space.

* `readLines_eq_append`: the lines of a file, read.
* `exists_rejected_iff`: which lines are rejected.
* `mem_rejections_iff`, `pairwise_rejections`: each rejected line by its number, in order.
* `journal_of_file`: what reading a file leaves in a journal.
* `file_line_by_line`: the settings after a file, and what is noted.
-/
namespace BracketCue

/-! ## The lines of a file -/

namespace Text

/-- The line without the carriage return at its end, if there is one. -/
def withoutReturn (line : Text) : Text :=
  if line.getLast? = some '\r' then line.dropLast else line

/-- The lines of a file. A newline ends a line, together with one carriage return before it; what
stands behind the last newline is a line too, unless it is empty. -/
def fileLines (file : Text) : List Text :=
  file.lines.dropLast.map withoutReturn ++ file.lines.getLast?.toList.filter (· ≠ [])

theorem exists_lines_eq_concat (file : Text) : ∃ init last, file.lines = init ++ [last] := by
  rcases List.eq_nil_or_concat file.lines with h | ⟨init, last, h⟩
  · exact absurd h (List.splitOnP_ne_nil _ _)
  · exact ⟨init, last, by rw [h, List.concat_eq_append]⟩

end Text

namespace SettingsLine

theorem read_withoutReturn (line : Text) : read line.withoutReturn = read line := by
  unfold Text.withoutReturn
  split
  · next h =>
    obtain ⟨init, rfl⟩ := List.getLast?_eq_some_iff.1 h
    have blank : Text.isBlank '\r' = true := by decide
    unfold read
    rw [List.dropLast_concat, Text.trim_concat_of_separates blank]
  · rfl

end SettingsLine

namespace Settings

/-- What a newline at the end of a file leaves behind it is ignored. -/
theorem readLines_eq_append (file : Text) :
    ∃ rest, readLines file = file.fileLines.map SettingsLine.read ++ rest ∧
      ∀ line ∈ rest, line = .ignored := by
  obtain ⟨init, last, split⟩ := file.exists_lines_eq_concat
  have read : readLines file = init.map SettingsLine.read ++ [SettingsLine.read last] := by
    rw [readLines, split, List.map_append, List.map_singleton]
  have returns : (init.map Text.withoutReturn).map SettingsLine.read =
      init.map SettingsLine.read := by
    rw [List.map_map]
    exact List.map_congr_left fun line _ => SettingsLine.read_withoutReturn line
  have lines : file.fileLines =
      init.map Text.withoutReturn ++ [last].filter (· ≠ []) := by
    rw [Text.fileLines, split, List.dropLast_concat, List.getLast?_concat]
    rfl
  rw [read, lines, List.map_append, returns]
  by_cases empty : last = []
  · subst empty
    have nothing : SettingsLine.read [] = .ignored := rfl
    exact ⟨[.ignored], by simp [nothing], by simp⟩
  · exact ⟨[], by simp [empty], nofun⟩

end Settings

/-! ## Which lines are rejected -/

/-- The line is empty or a comment, up to white space. -/
def IsIgnored (line : Text) : Prop :=
  line.trim Text.isBlank = [] ∨ (line.trim Text.isBlank).head? = some '#'

structure IsInvalid (line : Text) : Prop where
  heeded : ¬IsIgnored line
  undirected : ∀ d, ¬IsDirective line d

theorem SettingsLine.read_eq_ignored_iff {line : Text} :
    read line = .ignored ↔ IsIgnored line := by
  unfold read IsIgnored
  dsimp only
  constructor
  · intro h
    split at h
    · next ignored => exact ignored
    · repeat' split at h
      all_goals cases h
  · intro h
    rw [if_pos h]

theorem SettingsLine.exists_rejected_iff {line : Text} :
    (∃ cause, read line = .rejected cause) ↔ IsInvalid line := by
  constructor
  · intro h
    obtain ⟨cause, rejected⟩ := h
    refine ⟨fun ignored => ?_, fun d isDirective => ?_⟩
    · rw [read_eq_ignored_iff.2 ignored] at rejected
      cases rejected
    · rw [read_eq_directive_iff.2 isDirective] at rejected
      cases rejected
  · intro h
    cases hr : read line with
    | ignored => exact absurd (read_eq_ignored_iff.1 hr) h.heeded
    | directive d => exact absurd (read_eq_directive_iff.1 hr) (h.undirected d)
    | rejected cause => exact ⟨cause, rfl⟩

namespace Settings

theorem getElem?_readLines_eq_rejected_iff {file : Text} {i : Nat} {cause : Directive.Error} :
    (readLines file)[i]? = some (.rejected cause) ↔
      ∃ line, file.fileLines[i]? = some line ∧ SettingsLine.read line = .rejected cause := by
  obtain ⟨rest, split, ignored⟩ := readLines_eq_append file
  rw [split, List.getElem?_append]
  split
  · rw [List.getElem?_map, Option.map_eq_some_iff]
  · next beyond =>
    rw [List.length_map] at beyond
    constructor
    · intro h
      cases ignored _ (List.mem_of_getElem? h)
    · intro h
      obtain ⟨line, here, -⟩ := h
      exact absurd (List.getElem?_eq_some_iff.1 here).1 beyond

/-- A rejected line is reported by its number. -/
theorem mem_rejections_iff {file : Text} {number : Nat} {cause : Directive.Error} :
    (number, cause) ∈ rejections file ↔
      ∃ i line, number = i + 1 ∧ file.fileLines[i]? = some line ∧
        SettingsLine.read line = .rejected cause := by
  have place : (number, cause) ∈ rejections file ↔
      (.rejected cause, number) ∈ (readLines file).zipIdx 1 := by
    unfold rejections
    rw [List.mem_filterMap]
    constructor
    · intro h
      obtain ⟨⟨line, n⟩, mem, h⟩ := h
      cases line with
      | ignored | directive d => cases h
      | rejected cause' =>
        cases h
        exact mem
    · exact fun h => ⟨_, h, rfl⟩
  rw [place, List.mk_mem_zipIdx_iff_le_and_getElem?_sub]
  constructor
  · intro h
    obtain ⟨line, here⟩ := getElem?_readLines_eq_rejected_iff.1 h.2
    exact ⟨number - 1, line, by omega, here⟩
  · intro h
    obtain ⟨i, line, rfl, here⟩ := h
    exact ⟨by omega, getElem?_readLines_eq_rejected_iff.2 ⟨line, here⟩⟩

/-- The rejected lines are reported in order, and each once. -/
theorem pairwise_rejections (file : Text) :
    ((rejections file).map Prod.fst).Pairwise (· < ·) := by
  have numbered : ((readLines file).zipIdx 1).Pairwise fun a b => a.2 < b.2 := by
    have := List.pairwise_lt_range' (s := 1) (n := (readLines file).length) 1
    rwa [← List.zipIdx_map_snd, List.pairwise_map] at this
  rw [List.pairwise_map]
  refine List.Pairwise.filterMap _ ?_ numbered
  intro a b lt x hx y hy
  obtain ⟨-, -, rfl⟩ := Option.map_eq_some_iff.1 hx
  obtain ⟨-, -, rfl⟩ := Option.map_eq_some_iff.1 hy
  exact lt

/-! ## The settings after a file -/

theorem withFile_eq_afterLines (s : Settings) (file : Text) :
    s.withFile file = s.afterLines file.fileLines := by
  obtain ⟨rest, split, ignored⟩ := readLines_eq_append file
  have nothing : rest.filterMap SettingsLine.directive? = [] := by
    rw [List.filterMap_eq_nil_iff]
    intro line mem
    rw [ignored line mem]
    rfl
  rw [withFile, afterLines, split, List.filterMap_append, nothing, List.append_nil]

/-- A line that is no directive could as well be missing. -/
theorem afterLines_skip (s : Settings) {line : Text} (h : ∀ d, ¬IsDirective line d)
    (before after : List Text) :
    s.afterLines (before ++ line :: after) = s.afterLines (before ++ after) := by
  have none : (SettingsLine.read line).directive? = none := by
    cases hd : (SettingsLine.read line).directive? with
    | none => rfl
    | some d => exact absurd (SettingsLine.directive?_eq_some_iff.1 hd) (h d)
  simp only [afterLines, List.map_append, List.map_cons, List.filterMap_append,
    List.filterMap_cons, none]

open CommandLine (Console rejectedEntries settingsAfter settingsSteps)
open Journal (Entry)

/-! ## What is noted -/

/-- A journal that is kept gets an entry for each rejected line, whatever becomes of the other
streams, and reading the file does not end the run. -/
theorem journal_of_file (file : Text) {c : Console} (kept : c.journal = .file) :
    let trace := c.performAll (settingsSteps (some (.contents file)))
    trace.ended = none ∧ trace.journal = rejectedEntries file := by
  have notes := CommandLine.settingsSteps_of_contents file
  have taken : ∀ step ∈ settingsSteps (some (.contents file)), ¬c.Loses step := by
    intro step mem
    rw [notes] at mem
    obtain ⟨entry, -, rfl⟩ := List.mem_map.1 mem
    exact fun lost => lost.2 (.inr kept)
  have performed := CommandLine.performAll_of_kept (.inr kept) taken
    (.inr (CommandLine.displayed_settingsSteps _))
  rw [Console.kept, if_pos kept] at performed
  refine ⟨performed.1, performed.2.trans ?_⟩
  rw [notes, CommandLine.noted_map_note]

/-- The numbers of the rejected lines are those of the invalid ones. -/
theorem exists_mem_rejections_iff {file : Text} {number : Nat} :
    (∃ cause, (number, cause) ∈ rejections file) ↔
      ∃ i line, number = i + 1 ∧ file.fileLines[i]? = some line ∧ IsInvalid line := by
  constructor
  · intro h
    obtain ⟨cause, mem⟩ := h
    obtain ⟨i, line, counted, here, rejected⟩ := mem_rejections_iff.1 mem
    exact ⟨i, line, counted, here, SettingsLine.exists_rejected_iff.1 ⟨cause, rejected⟩⟩
  · intro h
    obtain ⟨i, line, counted, here, invalid⟩ := h
    obtain ⟨cause, rejected⟩ := SettingsLine.exists_rejected_iff.2 invalid
    exact ⟨cause, mem_rejections_iff.2 ⟨i, line, counted, here, rejected⟩⟩

/-- After a file that is read each field of the settings has the value that the last directive for
it gives, or its value before if there is none, and the settings are the same if an invalid line is
left out of the file. All that reading the file does besides is to note the lines that are rejected,
which are the invalid ones: each once, by its number counted from one, in order. These notes are
what a journal that is kept gets, each with its number in front of what is wrong with the line. -/
theorem file_line_by_line (s : Settings) (file : Text) :
    let lines := file.fileLines
    let after := settingsAfter s (some (.contents file))
    (Field.enabled.Settles s lines after.enabled ∧
      Field.activeBracket.Settles s lines after.activeBracket ∧
      Field.paint.Settles s lines after.paint ∧
      Field.moveStyle.Settles s lines after.moveStyle ∧
      Field.bold.Settles s lines after.style.bold ∧
      Field.background.Settles s lines after.style.background) ∧
    (∀ before line later file', lines = before ++ line :: later → IsInvalid line →
      file'.fileLines = before ++ later → settingsAfter s (some (.contents file')) = after) ∧
    ∃ rejected : List (Nat × Directive.Error),
      settingsSteps (some (.contents file)) =
        rejected.map (fun (number, cause) => .note (.rejected number cause)) ∧
      (rejected.map Prod.fst).Pairwise (· < ·) ∧
      (∀ number, (∃ cause, (number, cause) ∈ rejected) ↔
        ∃ i line, number = i + 1 ∧ lines[i]? = some line ∧ IsInvalid line) ∧
      (∀ number cause, (number, cause) ∈ rejected →
        ∃ line, lines[number - 1]? = some line ∧ SettingsLine.read line = .rejected cause) ∧
      ∀ c : Console, c.journal = .file →
        (c.performAll (settingsSteps (some (.contents file)))).journal.map Entry.message =
          rejected.map fun (number, cause) =>
            "rcfile line ".toList ++ Text.decimal number ++ ": ".toList ++ cause.message := by
  intro lines after
  have settles : ∀ {α : Type} (f : Field α), f.Settles s lines (f.get after) := by
    intro α f
    have := f.settles_afterLines s lines
    rwa [← withFile_eq_afterLines] at this
  refine ⟨⟨settles .enabled, settles .activeBracket, settles .paint, settles .moveStyle,
    settles .bold, settles .background⟩, ?_, rejections file, rfl, pairwise_rejections file,
    fun number => exists_mem_rejections_iff, ?_, fun c kept => ?_⟩
  · intro before line later file' split invalid split'
    have whole : after = s.afterLines (before ++ line :: later) := by
      rw [← split]
      exact withFile_eq_afterLines s file
    have shorter : settingsAfter s (some (.contents file')) = s.afterLines (before ++ later) := by
      rw [← split']
      exact withFile_eq_afterLines s file'
    rw [whole, shorter, afterLines_skip s invalid.undirected]
  · intro number cause mem
    obtain ⟨i, line, rfl, here, read⟩ := mem_rejections_iff.1 mem
    exact ⟨line, here, read⟩
  · rw [(journal_of_file file kept).2, rejectedEntries, List.map_map]
    rfl

/-- A file with both ends of lines, a comment, a line without a value and one for no setting. -/
theorem file_line_by_line_mixed :
    let file : Text := "set paint partner\r\nset paint\n # x\nset paint both \nset bogus 1\r".toList
    let shorter : Text := "set paint partner\n # x\r\nset paint both \nset bogus 1\r".toList
    let later := [" # x", "set paint both ", "set bogus 1\r"].map String.toList
    let console : Console := ⟨none, none, .file, .noTerminal⟩
    file.fileLines = ["set paint partner".toList] ++ "set paint".toList :: later ∧
      shorter.fileLines = ["set paint partner".toList] ++ later ∧
      IsInvalid "set paint".toList ∧
      standard.withFile shorter = standard.withFile file ∧
      (standard.withFile file).paint = .both ∧
      (∃ cause, .note (.rejected 2 cause) ∈ settingsSteps (some (.contents file))) ∧
      (console.performAll (settingsSteps (some (.contents file)))).journal.map Entry.message =
        ["rcfile line 2: not a set directive: \"set paint\"",
          "rcfile line 5: unknown variable: bogus"].map String.toList := by
  intro file shorter later console
  have lines : file.fileLines = ["set paint partner".toList] ++ "set paint".toList :: later := by
    decide +kernel
  have lines' : shorter.fileLines = ["set paint partner".toList] ++ later := by
    decide +kernel
  have invalid : IsInvalid "set paint".toList := 
    SettingsLine.exists_rejected_iff.1 ⟨.notSet "set paint".toList, by decide +kernel⟩
  obtain ⟨-, left, rejected, steps, -, numbers, -⟩ := file_line_by_line standard file
  obtain ⟨cause, mem⟩ := (numbers 2).2 ⟨1, "set paint".toList, rfl, by rw [lines]; rfl, invalid⟩
  refine ⟨lines, lines', invalid, left _ _ _ shorter lines invalid lines', ?_, ?_, ?_⟩
  · decide +kernel
  · exact ⟨cause, steps ▸ List.mem_map_of_mem mem⟩
  · decide +kernel

end Settings
end BracketCue
