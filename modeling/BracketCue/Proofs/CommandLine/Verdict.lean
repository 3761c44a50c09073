import BracketCue.Proofs.CommandLine.Refusals

/-!
# What the status says of the output

On a console whose journal refuses nothing, the course of a run can be told from its options and its
streams: what it notes, with which status it ends, and whether its result arrived. Where the error
output works as well the status is the truth about the result: 0 if all of it is on the standard
output, be it empty, and 1 if there is none or if it was refused.

* `journal_of_unusable`, `journal_of_script`: what is noted, line after line.
* `outcome_of_unusable`, `outcome_of_script`: the status and the output of each kind of run.
* `outcome_of_result`: what the status tells.
-/
namespace BracketCue.CommandLine

open Journal (Entry)

/-! ## The journal of steps -/

section
variable {c : Console}

theorem journal_complain (complaint : Complaint) : (c.complain complaint).journal = [] := by
  unfold Console.complain Console.remark
  split
  · rfl
  · split <;> rfl

/-- A step whose line is not lost, and that has no text that is refused, notes its entry. -/
theorem journal_perform (keeps : c.KeepsJournal) {step : Step}
    (shown : c.output = none ∨ step.displayed = []) :
    (c.perform step).journal = c.kept step.entry?.toList := by
  cases step with
  | note entry =>
    rw [Console.perform, note_of_keeps keeps]
    rfl
  | complain complaint => exact (journal_complain complaint).trans c.kept_nil.symm
  | display text =>
    have none : (c.display text).journal = [] := by
      unfold Console.display
      rcases shown with works | empty
      · rw [works]
        rfl
      · have empty : text = [] := empty
        split
        · rfl
        · rw [if_pos empty]
          rfl
    exact none.trans c.kept_nil.symm

/-- Steps of which no line is lost and no text refused go on to their end and note their entries. -/
theorem performAll_of_kept (keeps : c.KeepsJournal) {steps : List Step}
    (kept : ∀ step ∈ steps, ¬c.Loses step)
    (shown : c.output = none ∨ displayed steps = []) :
    (c.performAll steps).ended = none ∧ (c.performAll steps).journal = c.kept (noted steps) := by
  induction steps with
  | nil => exact ⟨rfl, c.kept_nil.symm⟩
  | cons step rest ih =>
    rw [List.forall_mem_cons] at kept
    have split : displayed (step :: rest) = step.displayed ++ displayed rest := rfl
    rw [split, List.append_eq_nil_iff] at shown
    have goesOn := ended_perform_of_kept kept.1
    rw [if_pos (shown.imp_right And.left)] at goesOn
    have first := journal_perform keeps (shown.imp_right And.left)
    have later := ih kept.2 (shown.imp_right And.right)
    rw [Console.performAll, Trace.append_of_goesOn goesOn]
    refine ⟨later.1, ?_⟩
    dsimp only
    rw [first, later.2, ← Console.kept_append]
    congr 1
    unfold noted
    rw [List.filterMap_cons]
    cases step.entry? <;> rfl

/-- A standard output that refuses everything has nothing on it. -/
theorem output_performAll_of_refused (off : c.output ≠ none) (steps : List Step) :
    (c.performAll steps).output = [] := by
  have remark : ∀ line, (c.remark line).output = [] := fun line =>
    (remark_of_refused off line).2.1
  have note : ∀ entry, (c.note entry).output = [] := by
    intro entry
    unfold Console.note
    split
    · rfl
    · rfl
    · exact remark _
    · exact remark _
  have append : ∀ {a b : Trace}, a.output = [] → b.output = [] → (a.append b).output = [] := by
    intro a b ha hb
    unfold Trace.append
    split
    · exact ha
    · rw [ha, hb]
      rfl
  have perform : ∀ step, (c.perform step).output = [] := by
    intro step
    cases step with
    | note entry => exact note entry
    | complain complaint =>
      unfold Console.perform Console.complain
      dsimp only
      split
      · rfl
      · exact remark _
    | display text =>
      unfold Console.perform Console.display
      dsimp only
      split
      · next works => exact absurd works off
      · split
        · rfl
        · exact append (note _) rfl
  induction steps with
  | nil => rfl
  | cons step rest ih => exact append (perform step) ih

/-- Where the error output works and the journal refuses nothing, no line is lost. -/
theorem not_loses_of_heard (keeps : c.KeepsJournal) (heard : c.error = none) (step : Step) :
    ¬c.Loses step := by
  cases step with
  | note entry => exact fun lost => lost.2 keeps
  | complain complaint => exact fun lost => lost.2 heard
  | display text => exact fun lost => lost.2.1 keeps

/-! ## The journal of a result -/

/-- The result is not refused: the standard output works, or there is nothing to show. -/
def Console.Takes (c : Console) (o : Options) (keys : List Key) : Prop :=
  c.output = none ∨ o.format = .ops ∧ keys = []

instance (o : Options) (keys : List Key) : Decidable (c.Takes o keys) :=
  inferInstanceAs (Decidable (_ ∨ _))

/-- What a result leaves in the journal: the changes of the highlight, but if it is refused only
those up to its first text, and then that it was refused and why. -/
def resultEntries (c : Console) (o : Options) (keys : List Key) (presses : List Press) :
    List Entry :=
  if c.Takes o keys then presses.filterMap Entry.ofPress?
  else
    (o.format.pressedFirst presses).filterMap Entry.ofPress? ++ c.output.toList.map .writeFailed

theorem not_loses_of_notes (keeps : c.KeepsJournal) {steps : List Step}
    (content : ∀ complaint, .complain complaint ∉ steps) : ∀ step ∈ steps, ¬c.Loses step := by
  intro step mem
  cases step with
  | note entry => exact fun lost => lost.2 keeps
  | complain complaint => exact absurd mem (content complaint)
  | display text => exact fun lost => lost.2.1 keeps

/-- A result is taken and noted to its end, or it is refused with its first text. -/
theorem performAll_result (keeps : c.KeepsJournal) (o : Options) (style : Terminal.Style)
    {keys : List Key} {presses : List Press} (same : presses.length = keys.length) :
    (c.performAll (result o style keys presses)).ended =
        (if c.Takes o keys then none else some 1) ∧
      (c.performAll (result o style keys presses)).journal =
        c.kept (resultEntries c o keys presses) := by
  have kept := not_loses_of_notes keeps (complain_not_mem_result o style keys presses)
  unfold resultEntries
  by_cases takes : c.Takes o keys
  · have shown : c.output = none ∨ displayed (result o style keys presses) = [] := by
      rcases takes with works | empty
      · exact .inl works
      · rcases result_cases o style same with ⟨-, none⟩ | ⟨some, -⟩
        · rw [none]
          exact .inr rfl
        · exact absurd empty some
    obtain ⟨ended, journal⟩ := performAll_of_kept keeps kept shown
    rw [if_pos takes, if_pos takes, ended, journal, noted_result o style same]
    exact ⟨rfl, rfl⟩
  · obtain ⟨refused, empty⟩ := not_or.1 takes
    obtain ⟨none, -⟩ | ⟨-, text, rest, some, split⟩ := result_cases o style same
    · exact absurd none empty
    · obtain ⟨cause, off⟩ := Option.ne_none_iff_exists'.1 refused
      rw [split] at kept ⊢
      have notes := (List.forall_mem_append.1 kept).1
      have quiet := displayed_flatMap_pressNotes (o.format.pressedFirst presses)
      obtain ⟨goesOn, journal⟩ := performAll_of_kept keeps notes (.inr quiet)
      have stops : (c.perform (.display text)).append (c.performAll rest) =
          { Trace.empty with
            journal := c.kept [.writeFailed cause]
            ended := Option.some 1 } := by
        rw [Console.perform, display_of_refused off some, note_of_keeps keeps]
        simp [Trace.append, Trace.empty]
      rw [if_neg takes, if_neg takes, Console.performAll_append, Trace.append_of_goesOn goesOn,
        Console.performAll, stops, journal, noted_flatMap_pressNotes, Console.kept_append, off]
      exact ⟨rfl, rfl⟩

/-! ## The journal of a run -/

def openingEntries (o : Options) (site : Site) (window : Window) : List Entry :=
  homeEntries o site ++
    rejectedEntries ((site.text? (o.settingsSource site.homePath).path).getD []) ++
      widthEntries o window

variable {o : Options} {site : Site}

/-- The opening of a run of which no line is lost. -/
theorem performAll_opening (keeps : c.KeepsJournal)
    (kept : ∀ step ∈ o.openingAt site c.window, ¬c.Loses step) :
    (c.performAll (o.openingAt site c.window)).ended = none ∧
      (c.performAll (o.openingAt site c.window)).journal =
        c.kept (openingEntries o site c.window) := by
  obtain ⟨goesOn, journal⟩ := performAll_of_kept keeps kept (.inr (displayed_openingSteps ..))
  rw [Options.openingAt, noted_openingSteps] at journal
  exact ⟨goesOn, journal⟩

variable (site) in
/-- A run without columns or without a script notes nothing after its opening. -/
theorem journal_of_unusable (keeps : c.KeepsJournal) (unusable : o.Unusable)
    (kept : ∀ step ∈ o.openingAt site c.window, ¬c.Loses step) :
    (c.performAll (o.planAt site c.window).steps).journal =
      c.kept (openingEntries o site c.window) := by
  obtain ⟨complaint, h⟩ := o.planAt_of_unusable site c.window unusable
  obtain ⟨goesOn, journal⟩ := performAll_opening keeps kept
  have last : (c.performAll [.complain complaint]).journal = [] := by
    have silent := journal_complain (c := c) complaint
    simp only [Console.performAll, Console.perform, Trace.append, Trace.empty]
    split
    · exact silent
    · simp [silent]
  rw [h, Console.performAll_append, Trace.append_of_goesOn goesOn]
  dsimp only
  rw [journal, last, List.append_nil]

variable (site) in
/-- A run with columns and a script notes its opening, that it starts, and its result. It ends with
status 0 if the result is taken and with status 1 if not. -/
theorem journal_of_script (keeps : c.KeepsJournal) {columns : Columns}
    (sized : o.columns c.window = .ok columns) {keys : List Key}
    (script : Script.parse o.keys = .ok keys)
    (kept : ∀ step ∈ o.openingAt site c.window, ¬c.Loses step) :
    let s := o.settings (site.read (o.settingsSource site.homePath))
    let presses := ((Editor.start o.line ⟨Prompt.width o.prompt, columns⟩ s).pressKeys keys).2
    (c.performAll (o.planAt site c.window).steps).ended =
        (if c.Takes o keys then none else some 1) ∧
      (c.performAll (o.planAt site c.window).steps).journal =
        c.kept (openingEntries o site c.window ++
          .started o.line o.keys columns.count s :: resultEntries c o keys presses) := by
  intro s presses
  obtain ⟨goesOn, opening⟩ := performAll_opening keeps kept
  obtain ⟨ended, journal⟩ := performAll_result keeps o s.style
    (Editor.length_pressKeys (Editor.start o.line ⟨Prompt.width o.prompt, columns⟩ s) keys)
  have started : ∀ rest, c.performAll (.note (.started o.line o.keys columns.count s) :: rest) =
      { Trace.empty with journal := c.kept [.started o.line o.keys columns.count s] }.append
        (c.performAll rest) := fun rest => by
    rw [Console.performAll, Console.perform, note_of_keeps keeps]
  rw [o.planAt_of_script site sized script, Console.performAll_append,
    Trace.append_of_goesOn goesOn, started, Trace.append_of_goesOn rfl]
  dsimp only
  rw [opening, journal, ended, ← Console.kept_append, ← Console.kept_append]
  exact ⟨rfl, rfl⟩

/-! ## Entries that tell of a result -/

/-- The entry is about the home directory, a line of the settings file or the width of the screen,
and tells nothing of keys or of a result. -/
def IsOpening : Entry → Prop
  | .noHome _ | .rejected .. | .noTerminal => True
  | .started .. | .moved .. | .writeFailed _ => False

theorem isOpening_of_mem {window : Window} {entry : Entry}
    (h : entry ∈ openingEntries o site window) : IsOpening entry := by
  simp only [openingEntries, homeEntries, rejectedEntries, widthEntries, List.mem_append,
    List.mem_map] at h
  rcases h with (home | ⟨rejection, -, rfl⟩) | width
  · split at home
    · cases List.mem_singleton.1 home
      trivial
    · cases home
  · trivial
  · split at width
    · cases List.mem_singleton.1 width
      trivial
    · cases width

theorem writeFailed_not_mem_changes (presses : List Press) (cause : Failure) :
    .writeFailed cause ∉ presses.filterMap Entry.ofPress? := by
  intro mem
  obtain ⟨p, -, h⟩ := List.mem_filterMap.1 mem
  unfold Entry.ofPress? at h
  split at h <;> cases h

/-- Up to the result nothing says that it was refused. -/
theorem writeFailed_not_mem_before (window : Window) (line script : Text) (width : Nat)
    (s : Settings) (presses : List Press) (cause : Failure) :
    .writeFailed cause ∉ openingEntries o site window ++
      .started line script width s :: presses.filterMap Entry.ofPress? := by
  rw [List.mem_append, List.mem_cons]
  rintro (opening | started | changed)
  · exact isOpening_of_mem opening
  · cases started
  · exact writeFailed_not_mem_changes presses cause changed

end

/-! ## The status -/

/-- Only operations by name, and only those of no keys at all, have nothing to show. -/
theorem Format.shows_eq_nil_iff (f : Format) (o : Options) (style : Terminal.Style)
    {keys : List Key} {blocks : List (List Terminal.Op)} (same : blocks.length = keys.length) :
    f.shows o style keys blocks = [] ↔ f = .ops ∧ keys = [] := by
  unfold Format.shows
  cases f with
  | escaped | raw => simp
  | ops =>
    cases keys with
    | nil => simp
    | cons key keys =>
      cases blocks with
      | nil => cases same
      | cons ops blocks => simp

section
variable {c : Console} (keeps : c.KeepsJournal) (heard : c.error = none) {o : Options}
  (site : Site)
include keeps heard

theorem output_performAll_of_heard (steps : List Step) :
    (c.performAll steps).output = if c.output = none then displayed steps else [] := by
  split
  · next works => exact (performAll_of_works ⟨works, heard, keeps⟩ steps).2
  · next refused => exact output_performAll_of_refused refused steps

/-- Without columns or without a script there is a complaint instead of a result. -/
theorem outcome_of_unusable (unusable : o.Unusable) :
    let outcome := c.outcome (o.planAt site c.window)
    outcome.status = 1 ∧ outcome.output = [] ∧
      outcome.journal = c.kept (openingEntries o site c.window) := by
  intro outcome
  have kept : ∀ steps : List Step, ∀ step ∈ steps, ¬c.Loses step := fun _ step _ =>
    not_loses_of_heard keeps heard step
  obtain ⟨complaint, planned⟩ := o.planAt_of_unusable site c.window unusable
  have quiet : displayed (o.planAt site c.window).steps = [] := by
    rw [planned, displayed_append, Options.openingAt, displayed_openingSteps]
    rfl
  have goesOn := (performAll_of_kept keeps (kept (o.planAt site c.window).steps) (.inr quiet)).1
  have output := output_performAll_of_heard keeps heard (o.planAt site c.window).steps
  rw [quiet, ite_self] at output
  have status : outcome.status =
      (c.performAll (o.planAt site c.window).steps).ended.getD
        (o.planAt site c.window).status := rfl
  refine ⟨?_, output, journal_of_unusable site keeps unusable (kept _)⟩
  rw [status, goesOn, planned]
  rfl

/-- With columns and a script there is a result, all of it or nothing. -/
theorem outcome_of_script {columns : Columns} (sized : o.columns c.window = .ok columns)
    {keys : List Key} (script : Script.parse o.keys = .ok keys) :
    let s := o.settings (site.read (o.settingsSource site.homePath))
    let e := Editor.start o.line ⟨Prompt.width o.prompt, columns⟩ s
    let outcome := c.outcome (o.planAt site c.window)
    outcome.status = (if c.Takes o keys then 0 else 1) ∧
      outcome.output =
        (if c.output = none then o.format.shows o s.style keys (e.outputs (keys.map .press))
          else []) ∧
      outcome.journal =
        c.kept (openingEntries o site c.window ++ .started o.line o.keys columns.count s ::
          resultEntries c o keys (e.pressKeys keys).2) := by
  intro s e outcome
  have kept : ∀ steps : List Step, ∀ step ∈ steps, ¬c.Loses step := fun _ step _ =>
    not_loses_of_heard keeps heard step
  obtain ⟨ended, journal⟩ := journal_of_script site keeps sized script (kept _)
  have output := output_performAll_of_heard keeps heard (o.planAt site c.window).steps
  have shown : displayed (o.planAt site c.window).steps =
      o.format.shows o s.style keys (e.outputs (keys.map .press)) :=
    (displayed_plan ..).trans (displayed_mainPart sized script s).2
  rw [shown] at output
  have status : outcome.status =
      (c.performAll (o.planAt site c.window).steps).ended.getD
        (o.planAt site c.window).status := rfl
  refine ⟨?_, output, journal⟩
  rw [status, ended, o.planAt_of_script site sized script]
  split <;> rfl

/-- A result that has something to show and is refused ends the run with status 1, and a journal
that is kept gives the cause in its last entry, and only there. -/
theorem outcome_of_refused {columns : Columns} (sized : o.columns c.window = .ok columns)
    {keys : List Key} (script : Script.parse o.keys = .ok keys) {cause : Failure}
    (off : c.output = some cause) (content : ¬(o.format = .ops ∧ keys = [])) :
    let outcome := c.outcome (o.planAt site c.window)
    outcome.status = 1 ∧ (c.journal = .file →
      ∃ before, outcome.journal = before ++ [.writeFailed cause] ∧
        ∀ cause', .writeFailed cause' ∉ before) := by
  intro outcome
  obtain ⟨status, -, journal⟩ := outcome_of_script keeps heard site sized script
  have refused : ¬c.Takes o keys := not_or.2 ⟨by simp [off], content⟩
  rw [if_neg refused] at status
  refine ⟨status, fun file => ?_⟩
  rw [Console.kept, if_pos file, resultEntries, if_neg refused, off, ← List.cons_append,
    ← List.append_assoc] at journal
  exact ⟨_, journal, writeFailed_not_mem_before _ _ _ _ _ _⟩

/-- A run that ends with status 0 has no result that was refused. -/
theorem writeFailed_not_mem_of_success
    (success : (c.outcome (o.planAt site c.window)).status = 0) (cause : Failure) :
    .writeFailed cause ∉ (c.outcome (o.planAt site c.window)).journal := by
  intro mem
  rcases o.usable_or_unusable c.window with unusable | ⟨columns, keys, sized, script⟩
  · obtain ⟨status, -⟩ := outcome_of_unusable keeps heard site unusable
    rw [status] at success
    cases success
  · obtain ⟨status, -, journal⟩ := outcome_of_script keeps heard site sized script
    have taken : c.Takes o keys := by
      by_contra refused
      rw [status, if_neg refused] at success
      cases success
    rw [journal, resultEntries, if_pos taken] at mem
    exact writeFailed_not_mem_before _ _ _ _ _ _ cause (Console.mem_of_mem_kept mem)

end

/-- The status tells the truth about the result, where the error output works and the journal
refuses nothing. Without columns or without a script the status is 1, nothing is on the standard
output and no key was pressed. Else there is a result, empty only if operations by name are asked
for and there are no keys. A standard output that works, a terminal of any size or none, has all of
it, and the status is 0. One that refuses everything, from whatever cause, has nothing of it; the
status is 0 all the same if the result is empty and else 1, and then a journal that is kept gives
the cause in its last entry, and only there. With status 0 it never speaks of a failure. -/
theorem outcome_of_result {c : Console} (keeps : c.KeepsJournal) (heard : c.error = none)
    (site : Site) (pages : Page → Text) {arguments : List Word} {o : Options}
    (accepted : Request.read arguments = .ok (.replay o)) :
    let s := o.settings (site.read (o.settingsSource site.homePath))
    ∃ outcome, run c site pages arguments = .ok outcome ∧
      (o.Unusable → outcome.status = 1 ∧ outcome.output = [] ∧
        ∀ entry ∈ outcome.journal, IsOpening entry) ∧
      (¬o.Unusable → ∃ columns keys,
        o.columns c.window = .ok columns ∧ Script.parse o.keys = .ok keys ∧
        let screen : Screen := ⟨Prompt.width o.prompt, columns⟩
        let shown := o.format.shows o s.style keys
          ((Editor.start o.line screen s).outputs (keys.map .press))
        (shown = [] ↔ o.format = .ops ∧ keys = []) ∧
        (c.output = none → outcome.status = 0 ∧ outcome.output = shown) ∧
        ∀ cause, c.output = some cause →
          outcome.output = [] ∧ (shown = [] → outcome.status = 0) ∧
          (shown ≠ [] → outcome.status = 1 ∧ (c.journal = .file →
            ∃ before, outcome.journal = before ++ [.writeFailed cause] ∧
              ∀ cause', .writeFailed cause' ∉ before))) ∧
      (outcome.status = 0 → ∀ cause, .writeFailed cause ∉ outcome.journal) := by
  intro s
  refine ⟨_, run_of_read accepted c site pages, fun unusable => ?_, fun usable => ?_,
    writeFailed_not_mem_of_success keeps heard site⟩
  · obtain ⟨status, output, journal⟩ := outcome_of_unusable keeps heard site unusable
    refine ⟨status, output, fun entry mem => ?_⟩
    rw [journal] at mem
    exact isOpening_of_mem (Console.mem_of_mem_kept mem)
  · obtain ⟨columns, keys, sized, script⟩ := (o.usable_or_unusable c.window).resolve_left usable
    refine ⟨columns, keys, sized, script, ?_⟩
    intro screen shown
    obtain ⟨status, output, -⟩ := outcome_of_script keeps heard site sized script
    have empty : shown = [] ↔ o.format = .ops ∧ keys = [] :=
      Format.shows_eq_nil_iff _ _ _ (by rw [Editor.length_outputs, List.length_map])
    refine ⟨empty, fun works => ?_, fun cause off => ⟨?_, fun none => ?_, fun some => ?_⟩⟩
    · rw [if_pos (.inl works)] at status
      rw [if_pos works] at output
      exact ⟨status, output⟩
    · rwa [if_neg (by simp [off])] at output
    · rwa [if_pos (.inr (empty.1 none))] at status
    · exact outcome_of_refused keeps heard site sized script off (mt empty.2 some)

/-- A result that a pipe refuses which nobody reads, where the journal is kept, and one that is
empty and taken all the same. -/
theorem outcome_of_result_refused :
    let c : Console := ⟨some .brokenPipe, none, .file, .noTerminal⟩
    let site : Site := ⟨⟨[]⟩, [], none⟩
    (∃ outcome before, run c site (fun _ => []) (pairArguments .raw) = .ok outcome ∧
      outcome.status = 1 ∧ outcome.output = [] ∧
      outcome.journal = before ++ [.writeFailed .brokenPipe]) ∧
    ∃ outcome,
      run c site (fun _ => []) (["()", "-k", ""].map (.text ·.toList)) = .ok outcome ∧
        outcome.status = 0 ∧ outcome.output = [] := by
  intro c site
  have accepted : Request.read (pairArguments .raw) = .ok (.replay (pairOptions .raw)) := by rfl
  have usable : ¬(pairOptions .raw).Unusable := by
    rintro (zero | ⟨cause, bad⟩)
    · cases zero
    · cases bad
  let o : Options :=
    ⟨"()".toList, [], "$ ".toList, none, false, none, none, none, .ops, none⟩
  have accepted' : Request.read (["()", "-k", ""].map (.text ·.toList)) = .ok (.replay o) := by rfl
  have usable' : ¬o.Unusable := by
    rintro (zero | ⟨cause, bad⟩)
    · cases zero
    · cases bad
  obtain ⟨outcome, ran, -, result, -⟩ :=
    outcome_of_result (c := c) (.inr rfl) rfl site (fun _ => []) accepted
  obtain ⟨columns, keys, -, script, empty, -, refused⟩ := result usable
  obtain ⟨output, -, failed⟩ := refused .brokenPipe rfl
  have some : ¬((pairOptions .raw).format = .ops ∧ keys = []) := nofun
  obtain ⟨status, journal⟩ := failed (mt empty.1 some)
  obtain ⟨before, journal, -⟩ := journal rfl
  obtain ⟨outcome', ran', -, result', -⟩ :=
    outcome_of_result (c := c) (.inr rfl) rfl site (fun _ => []) accepted'
  obtain ⟨columns', keys', -, script', empty', -, refused'⟩ := result' usable'
  obtain ⟨output', harmless, -⟩ := refused' .brokenPipe rfl
  have none : keys' = [] := (Except.ok.inj script').symm
  exact ⟨⟨outcome, before, ran, status, output, journal⟩,
    outcome', ran', harmless (empty'.2 ⟨rfl, none⟩), output'⟩

end BracketCue.CommandLine
