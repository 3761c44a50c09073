import BracketCue.Proofs.CommandLine.Verdict
import BracketCue.Proofs.Journal.Lines

/-!
# The journal of a run

What a run leaves in a journal that can be written, whatever becomes of its other streams. In order
it is the entry about the home directory, those about rejected lines of the settings file, the one
about a missing terminal, then, if there are columns and a script, the one that tells of the start,
those about the highlight, and the one about a result that was refused. Each is one line, no matter
which characters the user wrote.

A run can be cut short in one place: where nobody hears a complaint about the settings file. It then
has noted the home directory only.

* `journal_of_complaintLost`: the run that is cut short.
* `journalOf_cases`: every run.
* `journal_line_by_line`: every run, line by line.
-/
namespace BracketCue.CommandLine

open Journal (Entry Stamp journalText)
open Calendar (DateTime)

def journalOf (c : Console) (site : Site) (pages : Page → Text) (arguments : List Word) :
    List Entry :=
  match run c site pages arguments with
  | .ok outcome => outcome.journal
  | .error _ => []

section
variable {arguments : List Word} (c : Console) (site : Site) (pages : Page → Text)

theorem journalOf_of_read {o : Options} (h : Request.read arguments = .ok (.replay o)) :
    journalOf c site pages arguments = (c.performAll (o.planAt site c.window).steps).journal := by
  rw [journalOf, run_of_read h]
  rfl

theorem journalOf_of_page {page : Page} (h : Request.read arguments = .ok (.page page)) :
    journalOf c site pages arguments = [] := by
  rw [journalOf, run, h]
  rfl

theorem journalOf_of_refused {cause : UsageError} (h : Request.read arguments = .error cause) :
    journalOf c site pages arguments = [] := by
  rw [journalOf, run, h]
  rfl

end

/-! ## Complaints about the settings file -/

/-- There is a complaint about the settings file, and no stream takes it. -/
structure ComplaintLost (c : Console) (o : Options) (site : Site) : Prop where
  output : c.output ≠ none
  error : c.error ≠ none
  unreadable : Unreadable (site.read (o.settingsSource site.homePath))

section
variable {c : Console} (file : c.journal = .file) {o : Options} {site : Site}
include file

theorem Console.kept_of_file (entries : List Entry) : c.kept entries = entries :=
  if_pos file

theorem not_loses_opening (heard : ¬ComplaintLost c o site) :
    ∀ step ∈ o.openingAt site c.window, ¬c.Loses step := by
  intro step mem
  cases step with
  | note entry => exact fun lost => lost.2 (.inr file)
  | complain complaint =>
    exact fun lost => heard ⟨lost.1, lost.2, unreadable_of_complain_mem mem⟩
  | display text => exact fun lost => lost.2.1 (.inr file)

/-- A complaint about the settings file that is lost cuts the run short. -/
theorem journal_of_complaintLost (lost : ComplaintLost c o site) :
    (c.performAll (o.planAt site c.window).steps).journal = homeEntries o site := by
  have kept := not_loses_of_notes (c := c) (.inr file)
    (complain_not_mem_homeSteps o site.homePath)
  obtain ⟨goesOn, journal⟩ :=
    performAll_of_kept (.inr file) kept (.inr (displayed_homeSteps o site.homePath))
  rw [Console.kept_of_file file, noted_homeSteps] at journal
  obtain ⟨complaint, complained⟩ := settingsSteps_of_unreadable lost.unreadable
  have stops : (c.perform (.complain complaint)).ended = some aborted :=
    ended_perform_of_loses ⟨lost.output, lost.error⟩
  have silent : (c.perform (.complain complaint)).journal = [] := journal_complain complaint
  rw [Options.planAt, plan, complained]
  dsimp only
  rw [List.append_assoc, Console.performAll_append, Trace.append_of_goesOn goesOn]
  dsimp only
  rw [journal, List.singleton_append, Console.performAll, Trace.append_of_ended stops, silent,
    List.append_nil]

variable (site) in
/-- What a run leaves in the journal: it is cut short, or there is nothing after its opening, or
there is a result. -/
theorem journalOf_cases (pages : Page → Text) {arguments : List Word}
    (accepted : Request.read arguments = .ok (.replay o)) :
    let s := o.settings (site.read (o.settingsSource site.homePath))
    let entries := journalOf c site pages arguments
    (ComplaintLost c o site → entries = homeEntries o site) ∧
      (¬ComplaintLost c o site →
        (o.Unusable → entries = openingEntries o site c.window) ∧
        ∀ columns keys, o.columns c.window = .ok columns → Script.parse o.keys = .ok keys →
          let screen : Screen := ⟨Prompt.width o.prompt, columns⟩
          entries =
            openingEntries o site c.window ++ .started o.line o.keys columns.count s ::
              resultEntries c o keys ((Editor.start o.line screen s).pressKeys keys).2) := by
  intro s entries
  have left : entries = _ := journalOf_of_read c site pages accepted
  rw [left]
  refine ⟨journal_of_complaintLost file, fun heard => ⟨fun unusable => ?_, ?_⟩⟩
  · have opening := not_loses_opening file heard
    rw [journal_of_unusable site (.inr file) unusable opening, Console.kept_of_file file]
  · intro columns keys sized script screen
    have opening := not_loses_opening file heard
    rw [(journal_of_script site (.inr file) sized script opening).2, Console.kept_of_file file]

end

/-! ## Lines -/

theorem genuine_of_mem_homeEntries {o : Options} {site : Site} {entry : Entry}
    (h : entry ∈ homeEntries o site) : entry.Genuine := by
  unfold homeEntries at h
  split at h
  · rw [List.mem_singleton.1 h]
    trivial
  · cases h

theorem genuine_of_mem_openingEntries {o : Options} {site : Site} {window : Window}
    {entry : Entry} (h : entry ∈ openingEntries o site window) : entry.Genuine := by
  simp only [openingEntries, List.mem_append] at h
  rcases h with (home | rejected) | width
  · exact genuine_of_mem_homeEntries home
  · obtain ⟨⟨number, cause⟩, mem, rfl⟩ := List.mem_map.1 rejected
    exact ⟨_, mem⟩
  · unfold widthEntries at width
    split at width
    · rw [List.mem_singleton.1 width]
      trivial
    · cases width

theorem genuine_of_mem_resultEntries {c : Console} {o : Options} {keys : List Key}
    {presses : List Press} {entry : Entry} (h : entry ∈ resultEntries c o keys presses) :
    entry.Genuine := by
  have change : ∀ presses : List Press, entry ∈ presses.filterMap Entry.ofPress? →
      entry.Genuine := by
    intro presses mem
    obtain ⟨p, -, h⟩ := List.mem_filterMap.1 mem
    unfold Entry.ofPress? at h
    split at h
    · cases h
    · rw [← Option.some.inj h]
      trivial
  unfold resultEntries at h
  split at h
  · exact change _ h
  · rcases List.mem_append.1 h with h | h
    · exact change _ h
    · obtain ⟨cause, -, rfl⟩ := List.mem_map.1 h
      trivial

/-- Whatever a rejected entry tells of stands in a settings file. -/
theorem genuine_of_mem_journalOf {c : Console} (file : c.journal = .file) {site : Site}
    {pages : Page → Text} {arguments : List Word} {entry : Entry}
    (h : entry ∈ journalOf c site pages arguments) : entry.Genuine := by
  rcases accepted : Request.read arguments with cause | o | page
  · rw [journalOf_of_refused c site pages accepted] at h
    cases h
  · obtain ⟨cut, whole⟩ := journalOf_cases file site pages accepted
    by_cases lost : ComplaintLost c o site
    · rw [cut lost] at h
      exact genuine_of_mem_homeEntries h
    · obtain ⟨unusable, usable⟩ := whole lost
      rcases o.usable_or_unusable c.window with no | ⟨columns, keys, sized, script⟩
      · rw [unusable no] at h
        exact genuine_of_mem_openingEntries h
      · rw [usable columns keys sized script, List.mem_append, List.mem_cons] at h
        rcases h with opening | rfl | result
        · exact genuine_of_mem_openingEntries opening
        · trivial
        · exact genuine_of_mem_resultEntries result
  · rw [journalOf_of_page c site pages accepted] at h
    cases h

/-- The journal of any run that can write it, line by line. No message has a newline in it, and at
whatever times a process notes them, the text of the journal is one line for each entry, which is
the stamp of the entry and its message, whatever characters the arguments, the settings file and the
name of the home directory have, be they no characters at all. Arguments that are refused leave
none, and who asks for a page leaves none. Else there are, in this order: one if the home directory
is needed and not known, one for each rejected line of the settings file, one if the terminal is
needed and missing, and, if there are columns and a script, one that tells of the start, one for
each change of the highlight, as far as keys were pressed, and one if the result was refused. A
complaint about the settings file that no stream takes cuts this off after the first. -/
theorem journal_line_by_line {c : Console} (file : c.journal = .file) (site : Site)
    (pages : Page → Text) (arguments : List Word) :
    let entries := journalOf c site pages arguments
    (∀ entry ∈ entries, '\n' ∉ entry.message) ∧
    (∀ (process : Nat) (stamped : List (DateTime × Entry)), stamped.map Prod.snd = entries →
      (journalText process stamped).lines =
        stamped.map (fun (time, entry) => (Stamp.of process time).mark ++ entry.message) ++
          [[]]) ∧
    (∀ cause, Request.read arguments = .error cause → entries = []) ∧
    (∀ page, Request.read arguments = .ok (.page page) → entries = []) ∧
    ∀ o, Request.read arguments = .ok (.replay o) →
      let s := o.settings (site.read (o.settingsSource site.homePath))
      (ComplaintLost c o site → entries = homeEntries o site) ∧
      (¬ComplaintLost c o site →
        (o.Unusable → entries = openingEntries o site c.window) ∧
        ∀ columns keys, o.columns c.window = .ok columns → Script.parse o.keys = .ok keys →
          let screen : Screen := ⟨Prompt.width o.prompt, columns⟩
          entries =
            openingEntries o site c.window ++ .started o.line o.keys columns.count s ::
              resultEntries c o keys ((Editor.start o.line screen s).pressKeys keys).2) := by
  intro entries
  have genuine : ∀ entry ∈ entries, entry.Genuine := fun entry mem =>
    genuine_of_mem_journalOf file mem
  refine ⟨fun entry mem => Journal.newline_not_mem_message (genuine entry mem), ?_, ?_, ?_, ?_⟩
  · intro process stamped same
    exact Journal.lines_journalText process (same ▸ genuine)
  · exact fun cause refused => journalOf_of_refused c site pages refused
  · exact fun page asked => journalOf_of_page c site pages asked
  · exact fun o accepted => journalOf_cases file site pages accepted

/-- A line with a newline in it is edited where no terminal is and where the home directory has a
name that is no text and has a newline in it too; three entries are as many lines. -/
theorem journal_line_by_line_of_two_lines :
    let arguments := ["a\nb", "-k", ""].map (Word.text ·.toList)
    let home : ByteArray := ⟨#[0x2f, 0x0a, 0xff]⟩
    let entries := journalOf ⟨none, none, .file, .noTerminal⟩ ⟨⟨[]⟩, [], some home⟩ (fun _ => [])
      arguments
    entries = [.noHome (.notText home), .noTerminal, .started "a\nb".toList [] 80 .standard] ∧
      ∀ time, (journalText 1 (entries.map (time, ·))).lines.length = 3 + 1 := by
  intro arguments home entries
  let o : Options :=
    ⟨"a\nb".toList, [], "$ ".toList, none, false, none, none, none, .ops, none⟩
  have accepted : Request.read arguments = .ok (.replay o) := by rfl
  have script : Script.parse o.keys = .ok [] := by rfl
  obtain ⟨-, lines, -, -, course⟩ :=
    journal_line_by_line (c := ⟨none, none, .file, .noTerminal⟩) rfl ⟨⟨[]⟩, [], some home⟩
      (fun _ => []) arguments
  have heard : ¬ComplaintLost ⟨none, none, .file, .noTerminal⟩ o ⟨⟨[]⟩, [], some home⟩ :=
    fun lost => lost.output rfl
  have started := ((course o accepted).2 heard).2 defaultColumns [] rfl script
  have three : entries =
      [.noHome (.notText home), .noTerminal, .started "a\nb".toList [] 80 .standard] :=
    started.trans (by decide +kernel)
  refine ⟨three, fun time => ?_⟩
  rw [lines 1 (entries.map (time, ·)) (by simp [Function.comp_def]; rfl)]
  rw [three]
  rfl

/-- A complaint about the settings file that only the error output refuses does no harm. If the
standard output refuses it too, a run that has columns and a script does not come to its start. -/
theorem lost_complaint_before_start :
    let arguments := ["()", "--rcfile", "nope", "-k", "", "-w", "3"].map (Word.text ·.toList)
    let site : Site := ⟨⟨[]⟩, [], some .empty⟩
    let full : Option Failure := some .noSpace
    (∃ o, Request.read arguments = .ok (.replay o) ∧ o.width = some 3 ∧
      Script.parse o.keys = .ok []) ∧
    journalOf ⟨none, full, .file, .noTerminal⟩ site (fun _ => []) arguments =
      [.started "()".toList [] 3 .standard] ∧
    journalOf ⟨full, full, .file, .noTerminal⟩ site (fun _ => []) arguments = [] := by
  refine ⟨⟨_, rfl, rfl, rfl⟩, ?_, ?_⟩
  · decide
  · decide

end BracketCue.CommandLine
