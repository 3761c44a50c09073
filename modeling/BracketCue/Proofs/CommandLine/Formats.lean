import BracketCue.Proofs.CommandLine.Precedence
import BracketCue.Proofs.Line.Run
import BracketCue.Proofs.Terminal.OneLine

/-!
# One result in three formats

Where all streams work, what a run leaves on the standard output is what its steps display: notes
and complaints go elsewhere. What is displayed are the operations of the keys, pressed one after the
other, in each of the formats: by name, as escape sequences that people can read, and as the escape
sequences themselves.

* `performAll_of_works`: the output of steps is what they display.
* `displayed_result`: the result in each format.
* `run_shows`: a run, in its format.
* `formats_agree`: the outcomes of runs that differ in the format only.
-/
namespace BracketCue.CommandLine

open Terminal

/-! ## Steps where all streams work -/

/-- Every stream can be written, and a journal is kept in a file that can be written or not at
all. -/
structure Console.Works (c : Console) : Prop where
  output : c.output = none
  error : c.error = none
  journal : c.journal = .off ∨ c.journal = .file

def Step.displayed : Step → Text
  | .display text => text
  | .note _ | .complain _ => []

def displayed (steps : List Step) : Text :=
  steps.flatMap Step.displayed

theorem displayed_append (a b : List Step) : displayed (a ++ b) = displayed a ++ displayed b :=
  List.flatMap_append

theorem displayed_display (text : Text) : displayed [.display text] = text := by
  simp [displayed, Step.displayed]

theorem displayed_note (entry : Journal.Entry) (rest : List Step) :
    displayed (.note entry :: rest) = displayed rest := by
  simp [displayed, Step.displayed]

theorem displayed_eq_nil {steps : List Step} (h : ∀ step ∈ steps, step.displayed = []) :
    displayed steps = [] :=
  List.flatMap_eq_nil_iff.2 h

section
variable {c : Console} (works : c.Works)
include works

theorem perform_of_works (step : Step) :
    (c.perform step).ended = none ∧ (c.perform step).output = step.displayed := by
  cases step with
  | note entry =>
    rcases works.journal with h | h <;>
      simp [Console.perform, Console.note, h, Trace.empty, Step.displayed]
  | complain complaint =>
    simp [Console.perform, Console.complain, works.error, Trace.empty, Step.displayed]
  | display text =>
    simp [Console.perform, Console.display, works.output, Trace.empty, Step.displayed]

theorem performAll_of_works (steps : List Step) :
    (c.performAll steps).ended = none ∧ (c.performAll steps).output = displayed steps := by
  induction steps with
  | nil => exact ⟨rfl, rfl⟩
  | cons step rest ih =>
    obtain ⟨goesOn, output⟩ := perform_of_works works step
    simp [Console.performAll, Trace.append, goesOn, output, ih, displayed]

theorem outcome_of_works (p : Plan) :
    (c.outcome p).status = p.status ∧ (c.outcome p).output = displayed p.steps := by
  obtain ⟨goesOn, output⟩ := performAll_of_works works p.steps
  simp [Console.outcome, goesOn, output]

end

/-! ## What a plan displays -/

theorem displayed_homeSteps (o : Options) (home : Except Journal.HomeError Text) :
    displayed (homeSteps o home) = [] := by
  unfold homeSteps
  split <;> rfl

theorem displayed_widthSteps (o : Options) (window : Window) :
    displayed (widthSteps o window) = [] := by
  unfold widthSteps
  split <;> rfl

theorem displayed_settingsSteps (reading : Option Reading) :
    displayed (settingsSteps reading) = [] := by
  refine displayed_eq_nil fun step mem => ?_
  rcases reading with _ | file | cause | cause
  · cases mem
  · obtain ⟨⟨line, cause⟩, -, rfl⟩ := List.mem_map.1 mem
    rfl
  · cases List.mem_singleton.1 mem
    rfl
  · cases List.mem_singleton.1 mem
    rfl

theorem displayed_pressNotes (p : Press) : displayed (pressNotes p) = [] := by
  refine displayed_eq_nil fun step mem => ?_
  obtain ⟨entry, -, rfl⟩ := List.mem_map.1 mem
  rfl

theorem displayed_flatMap_pressNotes (presses : List Press) :
    displayed (presses.flatMap pressNotes) = [] := by
  refine displayed_eq_nil fun step mem => ?_
  obtain ⟨p, -, mem⟩ := List.mem_flatMap.1 mem
  exact List.flatMap_eq_nil_iff.1 (displayed_pressNotes p) step mem

/-- A line of the result: a key and the operations of its press, by name. -/
def blockLine (block : Key × List Op) : Text :=
  keyLabel block.1 ++ ": ".toList ++ spell block.2

theorem newline_not_mem_blockLine (block : Key × List Op) : '\n' ∉ blockLine block := by
  have label : ∀ key, '\n' ∉ keyLabel key := fun key => by cases key <;> decide
  simp [blockLine, label, newline_not_mem_spell]

/-- What is displayed in a format of the operations of keys. -/
def Format.shows (f : Format) (o : Options) (style : Style) (keys : List Key)
    (blocks : List (List Op)) : Text :=
  match f with
  | .ops => (keys.zip blocks).flatMap fun block => blockLine block ++ ['\n']
  | .escaped => visible (escapes style blocks.flatten) ++ ['\n']
  | .raw => o.prompt ++ o.line ++ escapes style blocks.flatten ++ ['\n']

theorem displayed_pressLines (keys : List Key) (presses : List Press) :
    displayed ((keys.zip presses).flatMap fun (key, p) =>
        pressNotes p ++ [.display (pressLine key p)]) =
      (keys.zip (presses.map (·.ops))).flatMap fun block => blockLine block ++ ['\n'] := by
  induction keys generalizing presses with
  | nil => rfl
  | cons key keys ih =>
    cases presses with
    | nil => rfl
    | cons p presses =>
      simp only [List.zip_cons_cons, List.map_cons, List.flatMap_cons, displayed_append,
        displayed_pressNotes, displayed_display, ih]
      rfl

/-- A result displays the operations of the presses, in its format. -/
theorem displayed_result (o : Options) (style : Style) (keys : List Key) (presses : List Press) :
    displayed (result o style keys presses) =
      o.format.shows o style keys (presses.map (·.ops)) := by
  have notes := displayed_flatMap_pressNotes presses
  have all : Press.allOps presses = (presses.map (·.ops)).flatten := List.flatMap_def ..
  unfold result Format.shows
  cases o.format with
  | ops => exact displayed_pressLines keys presses
  | escaped => simp [displayed_append, displayed_display, notes, all]
  | raw => simp [displayed_append, displayed_display, notes, all]

/-- On a screen that has columns, a script that can be read is run. What comes before the result
are notes. -/
theorem displayed_mainPart {o : Options} {window : Window} {columns : Columns}
    (sized : o.columns window = .ok columns) {keys : List Key}
    (script : Script.parse o.keys = .ok keys) (s : Settings) :
    let e := Editor.start o.line ⟨Prompt.width o.prompt, columns⟩ s
    (mainPart o window s).status = 0 ∧
      displayed (mainPart o window s).steps =
        o.format.shows o s.style keys (e.outputs (keys.map .press)) := by
  intro e
  rw [mainPart_of_script sized script]
  simp only [displayed_append, displayed_note, displayed_widthSteps, displayed_result,
    Editor.pressKeys_ops, List.nil_append]
  exact ⟨trivial, rfl⟩

theorem displayed_plan (o : Options) (window : Window) (home : Except Journal.HomeError Text)
    (reading : Option Reading) :
    displayed (plan o window home reading).steps =
      displayed (mainPart o window (o.settings reading)).steps := by
  unfold plan
  simp only [displayed_append, displayed_homeSteps, displayed_settingsSteps, List.nil_append]

/-! ## Runs in each format -/

/-- Where all streams work, a run that has columns and a script ends with status 0 and shows the
operations that the editor puts out, in its format. -/
theorem run_shows {c : Console} (works : c.Works) (site : Site) (pages : Page → Text)
    {arguments : List Word} {o : Options} (accepted : Request.read arguments = .ok (.replay o))
    {columns : Columns} (sized : o.columns c.window = .ok columns) {keys : List Key}
    (script : Script.parse o.keys = .ok keys) :
    let s := o.settings (site.read (o.settingsSource site.homePath))
    let screen : Screen := ⟨Prompt.width o.prompt, columns⟩
    ∃ outcome, run c site pages arguments = .ok outcome ∧ outcome.status = 0 ∧
      outcome.output = o.format.shows o s.style keys
        ((Editor.start o.line screen s).outputs (keys.map .press)) := by
  intro s screen
  obtain ⟨status, output⟩ := outcome_of_works works (o.planAt site c.window)
  obtain ⟨ok, shows⟩ := displayed_mainPart sized script s
  rw [Options.planAt, displayed_plan, shows] at output
  exact ⟨_, run_of_read accepted c site pages, status.trans ok, output⟩

/-- The outcomes of runs whose options differ in the format only, where all streams work: for a
script that can be read and a screen that has columns, each ends with status 0 and shows the same
operations, key by key those that the editor puts out. By name they are as many lines as there are
keys, and the empty line after the last newline; as sequences that people can read they are what
becomes of the sequences themselves, for no sequence reaches over the seam of prompt, line and
operations. -/
theorem formats_agree {c : Console} (works : c.Works) (site : Site) (pages : Page → Text)
    (o : Options) (arguments : Format → List Word)
    (accepted : ∀ f, Request.read (arguments f) = .ok (.replay { o with format := f }))
    {columns : Columns} (sized : o.columns c.window = .ok columns) {keys : List Key}
    (script : Script.parse o.keys = .ok keys) :
    let s := o.settings (site.read (o.settingsSource site.homePath))
    let screen : Screen := ⟨Prompt.width o.prompt, columns⟩
    let blocks := (Editor.start o.line screen s).outputs (keys.map .press)
    blocks.length = keys.length ∧
    ∃ outcome : Format → Outcome,
      (∀ f, run c site pages (arguments f) = .ok (outcome f) ∧ (outcome f).status = 0) ∧
      (outcome .ops).output.lines =
        (keys.zip blocks).map (fun (key, ops) => keyLabel key ++ ": ".toList ++ spell ops) ++ [[]] ∧
      (outcome .escaped).output = visible (escapes s.style blocks.flatten) ++ ['\n'] ∧
      (outcome .raw).output =
        o.prompt ++ o.line ++ escapes s.style blocks.flatten ++ ['\n'] ∧
      visible (outcome .raw).output =
        visible (o.prompt ++ o.line) ++ (outcome .escaped).output := by
  intro s screen blocks
  have one : blocks.length = keys.length := by
    simp [blocks, Editor.length_outputs]
  have runs := fun f => run_shows works site pages (accepted f) sized script
  choose outcome run ok shows using runs
  refine ⟨one, outcome, fun f => ⟨run f, ok f⟩, ?_, shows .escaped, shows .raw, ?_⟩
  · rw [shows .ops]
    exact Text.lines_flatMap blockLine fun block _ => newline_not_mem_blockLine block
  · have newline : visible ['\n'] = ['\n'] := by rfl
    rw [shows .raw, shows .escaped]
    unfold Format.shows
    dsimp only
    rw [visible_append, visible_append, newline, List.append_assoc]
    rfl

/-- What a key over a pair is asked to show, in a format. -/
def pairOptions (f : Format) : Options :=
  ⟨"(x)".toList, "left".toList, "$ ".toList, none, false, none, none, none, f, none⟩

def pairArguments (f : Format) : List Word :=
  let name := match f with
    | .ops => "ops"
    | .escaped => "escaped"
    | .raw => "raw"
  ["--format", name, "-kleft", "(x)"].map (.text ·.toList)

/-- The three runs of a key that lights a pair, on a terminal and in a place that has no files. -/
theorem formats_agree_lit_pair :
    ∃ outcome : Format → Outcome,
      (∀ f, run ⟨none, none, .off, .size 4 24⟩ ⟨⟨[]⟩, [], none⟩ (fun _ => []) (pairArguments f) =
          .ok (outcome f) ∧
        (outcome f).status = 0) ∧
      (outcome .ops).output.lines =
        ["Left: left(1) save up(1) right(2) highlight('(') left(1) restore " ++
          "save highlight(')') left(1) restore", ""].map String.toList ∧
      visible (outcome .raw).output = "$ (x)".toList ++ (outcome .escaped).output := by
  have accepted : ∀ f, Request.read (pairArguments f) =
      .ok (.replay { pairOptions .ops with format := f }) := by
    intro f
    cases f <;> rfl
  have sized : (pairOptions .ops).columns (.size 4 24) = .ok ⟨4, by decide⟩ := by rfl
  have script : Script.parse (pairOptions .ops).keys = .ok [.left] := by rfl
  obtain ⟨-, outcome, runs, lines, -, -, seam⟩ :=
    formats_agree (c := ⟨none, none, .off, .size 4 24⟩) ⟨rfl, rfl, .inl rfl⟩ ⟨⟨[]⟩, [], none⟩
      (fun _ => []) (pairOptions .ops) pairArguments accepted sized script
  exact ⟨outcome, runs, lines.trans (by decide +kernel), seam.trans (by rfl)⟩

end BracketCue.CommandLine
