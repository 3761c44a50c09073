import BracketCue.Proofs.CommandLine.Course

/-!
# Streams that refuse

What becomes of a run when streams refuse what is written to them. Each step has a stream of its
own: the journal, the error output or the standard output. A line for the journal or the error
output that is refused there goes to the standard output instead. If that refuses it too, the line
is lost and the run is aborted, and no other run is. A text that the standard output refuses is
noted in the journal, which can be lost in its turn, and ends the run with status 1.

* `performAll_append`: what comes after the end of a run has no effect.
* `ended_performAll_of_kept`: how steps end of which no line is lost.
* `ended_performAll_eq_aborted_iff`: steps are aborted exactly if a line is lost.
* `exitStatus_on_any_streams`: the status of any run on any streams.
-/
namespace BracketCue.CommandLine

open Journal (Entry)

/-! ## One trace after another -/

namespace Trace

variable {a : Trace}

theorem append_of_ended {status : Nat} (h : a.ended = some status) (b : Trace) :
    a.append b = a := by
  unfold append
  rw [h]

theorem append_of_goesOn (h : a.ended = none) (b : Trace) :
    a.append b =
      ⟨a.output ++ b.output, a.error ++ b.error, a.journal ++ b.journal, b.ended⟩ := by
  unfold append
  rw [h]

theorem append_assoc (a b c : Trace) : (a.append b).append c = a.append (b.append c) := by
  cases ha : a.ended with
  | some status => simp only [append_of_ended ha]
  | none =>
    rw [append_of_goesOn ha, append_of_goesOn ha]
    cases hb : b.ended with
    | some status => rw [append_of_ended hb, append_of_ended rfl, hb]
    | none =>
      rw [append_of_goesOn hb, append_of_goesOn rfl]
      simp only [List.append_assoc]

end Trace

theorem Console.performAll_append (c : Console) (a b : List Step) :
    c.performAll (a ++ b) = (c.performAll a).append (c.performAll b) := by
  induction a with
  | nil => rfl
  | cons step rest ih =>
    simp only [List.cons_append, Console.performAll, ih, Trace.append_assoc]

/-! ## One step -/

/-- A journal that is kept in a file, or not at all, refuses nothing. -/
def Console.KeepsJournal (c : Console) : Prop :=
  c.journal = .off ∨ c.journal = .file

/-- What is left in the journal of entries that it does not refuse. -/
def Console.kept (c : Console) (entries : List Entry) : List Entry :=
  if c.journal = .file then entries else []

/-- The line of a step is lost: neither the stream that it is meant for nor the standard output
takes it. Of a text of the result it is the note that it was refused. -/
def Console.Loses (c : Console) : Step → Prop
  | .note _ => c.output ≠ none ∧ ¬c.KeepsJournal
  | .complain _ => c.output ≠ none ∧ c.error ≠ none
  | .display text => c.output ≠ none ∧ ¬c.KeepsJournal ∧ text ≠ []

section
variable {c : Console}

theorem Console.output_ne_none_of_loses {step : Step} (h : c.Loses step) : c.output ≠ none := by
  cases step <;> exact h.1

theorem Console.kept_nil : c.kept [] = [] := by
  unfold kept
  split <;> rfl

theorem Console.kept_append (a b : List Entry) : c.kept (a ++ b) = c.kept a ++ c.kept b := by
  unfold kept
  split <;> rfl

theorem Console.mem_of_mem_kept {entries : List Entry} {entry : Entry}
    (h : entry ∈ c.kept entries) : entry ∈ entries := by
  unfold kept at h
  split at h
  · exact h
  · cases h

theorem remark_of_works (works : c.output = none) (line : Text) :
    (c.remark line).ended = none ∧ (c.remark line).journal = [] := by
  simp [Console.remark, works, Trace.empty]

theorem remark_of_refused (off : c.output ≠ none) (line : Text) :
    (c.remark line).ended = some aborted ∧ (c.remark line).output = [] ∧
      (c.remark line).journal = [] := by
  obtain ⟨cause, refused⟩ := Option.ne_none_iff_exists'.1 off
  simp [Console.remark, refused, Trace.empty]

theorem note_of_keeps (keeps : c.KeepsJournal) (entry : Entry) :
    c.note entry = { Trace.empty with journal := c.kept [entry] } := by
  rcases keeps with h | h <;> simp [Console.note, Console.kept, h, Trace.empty]

/-- An entry that the journal refuses is replaced by a remark. -/
theorem note_of_refused (refused : ¬c.KeepsJournal) (entry : Entry) :
    ∃ line, c.note entry = c.remark line := by
  unfold Console.note
  cases h : c.journal with
  | off => exact absurd (.inl h) refused
  | file => exact absurd (.inr h) refused
  | unopenable | unwritable => exact ⟨_, rfl⟩

/-- A text of the result that is refused is noted, with the cause, and ends the run. -/
theorem display_of_refused {cause : Failure} (refused : c.output = some cause) {text : Text}
    (some : text ≠ []) :
    c.display text =
      (c.note (.writeFailed cause)).append { Trace.empty with ended := Option.some 1 } := by
  simp [Console.display, refused, some]

theorem ended_perform_of_loses {step : Step} (h : c.Loses step) :
    (c.perform step).ended = some aborted := by
  have off := Console.output_ne_none_of_loses h
  cases step with
  | note entry =>
    obtain ⟨line, replaced⟩ := note_of_refused h.2 entry
    rw [Console.perform, replaced]
    exact (remark_of_refused off line).1
  | complain complaint =>
    obtain ⟨cause, refused⟩ := Option.ne_none_iff_exists'.1 h.2
    simp only [Console.perform, Console.complain, refused]
    exact (remark_of_refused off _).1
  | display text =>
    obtain ⟨cause, refused⟩ := Option.ne_none_iff_exists'.1 off
    obtain ⟨line, replaced⟩ := note_of_refused h.2.1 (.writeFailed cause)
    have lost := (remark_of_refused off line).1
    rw [Console.perform, display_of_refused refused h.2.2, replaced, Trace.append_of_ended lost]
    exact lost

/-- A step whose line is not lost goes on, unless it has a text that is refused. -/
theorem ended_perform_of_kept {step : Step} (kept : ¬c.Loses step) :
    (c.perform step).ended =
      if c.output = none ∨ step.displayed = [] then none else some 1 := by
  cases output : c.output with
  | none =>
    rw [if_pos (.inl rfl)]
    cases step with
    | note entry =>
      by_cases keeps : c.KeepsJournal
      · rw [Console.perform, note_of_keeps keeps]
        rfl
      · obtain ⟨line, replaced⟩ := note_of_refused keeps entry
        rw [Console.perform, replaced]
        exact (remark_of_works output line).1
    | complain complaint =>
      unfold Console.perform Console.complain
      dsimp only
      split
      · rfl
      · exact (remark_of_works output _).1
    | display text => simp [Console.perform, Console.display, output, Trace.empty]
  | some cause =>
    have off : c.output ≠ none := by simp [output]
    simp only [reduceCtorEq, false_or]
    cases step with
    | note entry =>
      have keeps : c.KeepsJournal := by
        by_contra refused
        exact kept ⟨off, refused⟩
      rw [Console.perform, note_of_keeps keeps]
      rfl
    | complain complaint =>
      have heard : c.error = none := by
        by_contra refused
        exact kept ⟨off, refused⟩
      simp [Console.perform, Console.complain, heard, Trace.empty, Step.displayed]
    | display text =>
      by_cases empty : text = []
      · simp [Console.perform, Console.display, output, empty, Trace.empty, Step.displayed]
      · have keeps : c.KeepsJournal := by
          by_contra refused
          exact kept ⟨off, refused, empty⟩
        rw [Console.perform, display_of_refused output empty, note_of_keeps keeps]
        simp [Trace.append, Trace.empty, Step.displayed, empty]

/-! ## Steps in order -/

/-- Steps of which no line is lost end with status 1 if they have a text that is refused, and else
do not end the run. -/
theorem ended_performAll_of_kept {steps : List Step} (kept : ∀ step ∈ steps, ¬c.Loses step) :
    (c.performAll steps).ended =
      if c.output = none ∨ displayed steps = [] then none else some 1 := by
  induction steps with
  | nil => simp [Console.performAll, Trace.empty, displayed]
  | cons step rest ih =>
    rw [List.forall_mem_cons] at kept
    have first := ended_perform_of_kept kept.1
    have later := ih kept.2
    rw [Console.performAll]
    split at first
    · next goesOn =>
      rw [Trace.append_of_goesOn first]
      dsimp only
      rw [later]
      rcases goesOn with works | silent
      · simp [works]
      · simp [displayed, silent]
    · next stops =>
      rw [not_or] at stops
      rw [Trace.append_of_ended first, first, if_neg]
      simp [displayed, stops]

/-- Steps are aborted exactly if a line is lost, where complaints come first: then no text that is
refused ends the run before a complaint that is lost. -/
theorem ended_performAll_eq_aborted_iff {steps : List Step} (first : ComplaintsFirst steps) :
    (c.performAll steps).ended = some aborted ↔ ∃ step ∈ steps, c.Loses step := by
  constructor
  · intro lost
    by_contra kept
    simp only [not_exists, not_and] at kept
    rw [ended_performAll_of_kept kept] at lost
    split at lost <;> cases lost
  · rintro ⟨step, mem, loses⟩
    induction steps with
    | nil => cases mem
    | cons head rest ih =>
      obtain ⟨later, first⟩ := List.pairwise_cons.1 first
      rw [Console.performAll]
      by_cases headLost : c.Loses head
      · have ended := ended_perform_of_loses headLost
        rw [Trace.append_of_ended ended, ended]
      · have there : step ∈ rest := by
          rcases List.mem_cons.1 mem with rfl | there
          · exact absurd loses headLost
          · exact there
        have off := Console.output_ne_none_of_loses loses
        have silent : head.displayed = [] := by
          by_contra shows
          -- the text would be noted, unless the journal refuses it, and then it is lost itself
          cases step with
          | complain complaint => exact later _ there shows complaint rfl
          | note entry =>
            cases head with
            | display text => exact headLost ⟨off, loses.2, shows⟩
            | note entry' | complain complaint' => exact shows rfl
          | display text =>
            cases head with
            | display text' => exact headLost ⟨off, loses.2.1, shows⟩
            | note entry' | complain complaint' => exact shows rfl
        have goesOn := ended_perform_of_kept headLost
        rw [if_pos (.inr silent)] at goesOn
        rw [Trace.append_of_goesOn goesOn]
        exact ih first there

end

/-! ## The status of a run -/

def exitStatus (c : Console) (site : Site) (pages : Page → Text) (arguments : List Word) : Nat :=
  match run c site pages arguments with
  | .ok outcome => outcome.status
  | .error _ => usageStatus

section
variable {arguments : List Word} (pages : Page → Text)

theorem exitStatus_of_read {o : Options} (h : Request.read arguments = .ok (.replay o))
    (c : Console) (site : Site) :
    exitStatus c site pages arguments =
      (c.performAll (o.planAt site c.window).steps).ended.getD (o.planAt site c.window).status := by
  rw [exitStatus, run_of_read h]
  rfl

theorem exitStatus_of_page {page : Page} (h : Request.read arguments = .ok (.page page))
    (c : Console) (site : Site) : exitStatus c site pages arguments = 0 := by
  rw [exitStatus, run, h]
  rfl

theorem exitStatus_of_refused {cause : UsageError} (h : Request.read arguments = .error cause)
    (c : Console) (site : Site) : exitStatus c site pages arguments = usageStatus := by
  rw [exitStatus, run, h]
  rfl

/-- A run of which no line is lost ends as its plan says if the standard output works or nothing is
to be shown, and else with status 1. -/
theorem exitStatus_of_kept {o : Options} (h : Request.read arguments = .ok (.replay o))
    {c : Console} {site : Site} (kept : ∀ step ∈ (o.planAt site c.window).steps, ¬c.Loses step) :
    exitStatus c site pages arguments =
      if c.output = none ∨ displayed (o.planAt site c.window).steps = [] then
        (o.planAt site c.window).status
      else 1 := by
  rw [exitStatus_of_read pages h, ended_performAll_of_kept kept]
  split <;> rfl

theorem exitStatus_eq_aborted_iff {o : Options} (h : Request.read arguments = .ok (.replay o))
    (c : Console) (site : Site) :
    exitStatus c site pages arguments = aborted ↔
      ∃ step ∈ (o.planAt site c.window).steps, c.Loses step := by
  have first : ComplaintsFirst (o.planAt site c.window).steps := complaintsFirst_plan ..
  rw [← ended_performAll_eq_aborted_iff first, exitStatus_of_read pages h]
  have planned := o.planAt_status site c.window
  cases (c.performAll (o.planAt site c.window).steps).ended with
  | some status => simp
  | none => rcases planned with h | h <;> simp [h, aborted]

/-- A run of a plan ends with status 0 or 1, or it is aborted. -/
theorem exitStatus_cases {o : Options} (h : Request.read arguments = .ok (.replay o))
    (c : Console) (site : Site) :
    exitStatus c site pages arguments = 0 ∨ exitStatus c site pages arguments = 1 ∨
      exitStatus c site pages arguments = aborted := by
  by_cases lost : ∃ step ∈ (o.planAt site c.window).steps, c.Loses step
  · exact .inr (.inr ((exitStatus_eq_aborted_iff pages h c site).2 lost))
  · simp only [not_exists, not_and] at lost
    rw [exitStatus_of_kept pages h lost]
    split
    · exact (o.planAt_status site c.window).imp_right .inl
    · exact .inr (.inl rfl)

end

/-- Any run on any streams. It ends with status 0, 1 or 2, or it is aborted: with 2 exactly if its
arguments are refused, and aborted exactly if one of its lines is lost, which takes a standard
output that refuses. Who asks for a page gets status 0 whatever becomes of it. Where the journal
goes makes no other difference: two runs that differ in this end with the same status unless one of
them is aborted. -/
theorem exitStatus_on_any_streams (c : Console) (site : Site) (pages : Page → Text)
    (arguments : List Word) :
    let status := exitStatus c site pages arguments
    (status = 0 ∨ status = 1 ∨ status = 2 ∨ status = aborted) ∧
      (status = 2 ↔ ∃ cause, Request.read arguments = .error cause) ∧
      (∀ page, Request.read arguments = .ok (.page page) → status = 0) ∧
      (status = aborted ↔ c.output ≠ none ∧
        ∃ o, Request.read arguments = .ok (.replay o) ∧
          ∃ step ∈ (o.planAt site c.window).steps, c.Loses step) ∧
      ∀ journal, exitStatus { c with journal := journal } site pages arguments = status ∨
        exitStatus { c with journal := journal } site pages arguments = aborted ∨
          status = aborted := by
  intro status
  rcases read : Request.read arguments with cause | o | page
  · have refused := fun c => exitStatus_of_refused pages read c site
    have value : status = 2 := refused c
    refine ⟨.inr (.inr (.inl value)), by simp [value], nofun, by simp [value, aborted],
      fun journal => ?_⟩
    exact .inl ((refused _).trans (refused c).symm)
  · have lost := exitStatus_eq_aborted_iff pages read c site
    have cases := exitStatus_cases pages read c site
    refine ⟨by omega, ⟨fun two => ?_, nofun⟩, nofun, ⟨fun h => ?_, ?_⟩, fun journal => ?_⟩
    · have two : exitStatus c site pages arguments = 2 := two
      simp [two, aborted] at cases
    · obtain ⟨step, mem, loses⟩ := lost.1 h
      exact ⟨Console.output_ne_none_of_loses loses, o, rfl, step, mem, loses⟩
    · rintro ⟨-, o', same, step, mem, loses⟩
      cases same
      exact lost.2 ⟨step, mem, loses⟩
    · -- the plan is the same: it depends on the terminal, and not on where the journal goes
      let c' : Console := { c with journal := journal }
      by_cases kept : ∃ step ∈ (o.planAt site c.window).steps, c.Loses step
      · exact .inr (.inr (lost.2 kept))
      · by_cases kept' : ∃ step ∈ (o.planAt site c'.window).steps, c'.Loses step
        · exact .inr (.inl ((exitStatus_eq_aborted_iff pages read c' site).2 kept'))
        · simp only [not_exists, not_and] at kept kept'
          have same := exitStatus_of_kept pages read kept
          exact .inl ((exitStatus_of_kept pages read kept').trans same.symm)
  · have shown := fun c => exitStatus_of_page pages read c site
    have value : status = 0 := shown c
    refine ⟨.inl value, by simp [value], fun _ _ => value, by simp [value, aborted],
      fun journal => ?_⟩
    exact .inl ((shown _).trans (shown c).symm)

/-- A script without keys has nothing to show, so that a standard output that refuses everything
does no harm. A journal that cannot be opened then aborts the run that would have succeeded without
it. -/
theorem unopenable_journal_aborts :
    let arguments := ["()", "-k", "", "-w", "3"].map (Word.text ·.toList)
    let site : Site := ⟨⟨[]⟩, [], some .empty⟩
    let full : Option Failure := some .noSpace
    exitStatus ⟨full, full, .unopenable, .noTerminal⟩ site (fun _ => []) arguments = aborted ∧
      exitStatus ⟨full, full, .off, .noTerminal⟩ site (fun _ => []) arguments = 0 := by
  decide

end BracketCue.CommandLine
