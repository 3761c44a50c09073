import BracketCue.Proofs.CommandLine.Formats

/-!
# The course of a run

Every plan opens in the same way, with what the home directory, the settings file and the screen
give rise to. If the options ask for no columns or have a script that cannot be read, a complaint is
all that follows and the status is 1. Else the start is noted and the result follows, each key with
a note in front of the first text that shows it, and the status is 0.

* `plan_of_unusable`, `plan_of_script`: the two ways in which a plan goes on.
* `noted_openingSteps`, `noted_result`: what is noted on the way.
* `result_cases`: what a result is up to its first text.
* `complaintsFirst_plan`: nothing is shown before a complaint.
-/
namespace BracketCue.CommandLine

open Journal (Entry HomeError)

/-! ## What steps note -/

def Step.entry? : Step → Option Entry
  | .note entry => some entry
  | .complain _ | .display _ => none

/-- The entries that steps make, in order. -/
def noted (steps : List Step) : List Entry :=
  steps.filterMap Step.entry?

theorem noted_append (a b : List Step) : noted (a ++ b) = noted a ++ noted b :=
  List.filterMap_append

theorem noted_map_note (entries : List Entry) : noted (entries.map .note) = entries := by
  unfold noted
  rw [List.filterMap_map]
  exact List.filterMap_some

/-! ## The opening -/

/-- The steps before the width and the script are looked at. -/
def openingSteps (o : Options) (window : Window) (home : Except HomeError Text)
    (reading : Option Reading) : List Step :=
  homeSteps o home ++ settingsSteps reading ++ widthSteps o window

def homeEntries (o : Options) (site : Site) : List Entry :=
  match o.settingsFile, site.homePath with
  | none, .error cause => [.noHome cause]
  | _, _ => []

/-- The entries about the lines of a settings file that are rejected. -/
def rejectedEntries (file : Text) : List Entry :=
  (Settings.rejections file).map fun (line, cause) => .rejected line cause

def widthEntries (o : Options) (window : Window) : List Entry :=
  if o.width = none ∧ window = .noTerminal then [.noTerminal] else []

theorem settingsSteps_of_unreadable {reading : Option Reading} (h : Unreadable reading) :
    ∃ complaint, settingsSteps reading = [.complain complaint] := by
  cases h <;> exact ⟨_, rfl⟩

/-- Of a file that can be read the rejected lines are noted, and there is nothing else to do. -/
theorem settingsSteps_of_contents (file : Text) :
    settingsSteps (some (.contents file)) = (rejectedEntries file).map .note := by
  simp only [settingsSteps, rejectedEntries, List.map_map]
  rfl

/-- What reading a settings file notes comes down to its text. -/
theorem noted_settingsSteps (site : Site) (source : SettingsSource) :
    noted (settingsSteps (site.read source)) =
      rejectedEntries ((site.text? source.path).getD []) := by
  rcases site.read_cases source with ⟨text, here, read⟩ | ⟨here, read | unreadable⟩
  · rw [here, read, settingsSteps_of_contents, noted_map_note]
    rfl
  · rw [here, read]
    rfl
  · obtain ⟨complaint, steps⟩ := settingsSteps_of_unreadable unreadable
    rw [here, steps]
    rfl

theorem noted_homeSteps (o : Options) (site : Site) :
    noted (homeSteps o site.homePath) = homeEntries o site := by
  unfold homeSteps homeEntries
  cases o.settingsFile <;> cases site.homePath <;> rfl

theorem noted_widthSteps (o : Options) (window : Window) :
    noted (widthSteps o window) = widthEntries o window := by
  unfold widthSteps widthEntries
  split <;> rfl

theorem noted_openingSteps (o : Options) (window : Window) (site : Site)
    (source : SettingsSource) :
    noted (openingSteps o window site.homePath (site.read source)) =
      homeEntries o site ++ rejectedEntries ((site.text? source.path).getD []) ++
        widthEntries o window := by
  simp only [openingSteps, noted_append, noted_homeSteps, noted_settingsSteps, noted_widthSteps]

theorem displayed_openingSteps (o : Options) (window : Window) (home : Except HomeError Text)
    (reading : Option Reading) :
    displayed (openingSteps o window home reading) = [] := by
  simp only [openingSteps, displayed_append, displayed_homeSteps, displayed_settingsSteps,
    displayed_widthSteps, List.append_nil]

theorem complain_not_mem_homeSteps (o : Options) (home : Except HomeError Text)
    (complaint : Complaint) : .complain complaint ∉ homeSteps o home := by
  unfold homeSteps
  split <;> simp

theorem complain_not_mem_widthSteps (o : Options) (window : Window) (complaint : Complaint) :
    .complain complaint ∉ widthSteps o window := by
  unfold widthSteps
  split <;> simp

/-- A complaint of the opening is about a settings file that cannot be read. -/
theorem unreadable_of_complain_mem {o : Options} {window : Window} {home : Except HomeError Text}
    {reading : Option Reading} {complaint : Complaint}
    (h : .complain complaint ∈ openingSteps o window home reading) : Unreadable reading := by
  simp only [openingSteps, List.mem_append] at h
  rcases h with (home | complained) | width
  · exact absurd home (complain_not_mem_homeSteps o _ complaint)
  · rcases reading with _ | file | cause | cause
    · cases complained
    · obtain ⟨rejection, -, h⟩ := List.mem_map.1 complained
      cases h
    · exact .unopened cause
    · exact .unread cause
  · exact absurd width (complain_not_mem_widthSteps o window complaint)

/-! ## What follows -/

/-- The options ask for a screen without columns, or for a script that cannot be read. -/
def Options.Unusable (o : Options) : Prop :=
  o.width = some 0 ∨ ∃ cause, Script.parse o.keys = .error cause

/-- Only a width that is asked for can be zero: a terminal that says so is not believed. -/
theorem Options.exists_columns {o : Options} (h : o.width ≠ some 0) (window : Window) :
    ∃ columns, o.columns window = .ok columns := by
  unfold columns
  split
  · next count asked =>
    have pos : 0 < count := by
      rw [asked, ne_eq, Option.some.injEq] at h
      exact Nat.pos_of_ne_zero h
    exact ⟨⟨count, pos⟩, dif_pos pos⟩
  · exact ⟨_, rfl⟩

theorem Options.usable_or_unusable (o : Options) (window : Window) :
    o.Unusable ∨ ∃ columns keys,
      o.columns window = .ok columns ∧ Script.parse o.keys = .ok keys := by
  by_cases zero : o.width = some 0
  · exact .inl (.inl zero)
  · obtain ⟨columns, sized⟩ := exists_columns zero window
    cases script : Script.parse o.keys with
    | error cause => exact .inl (.inr ⟨cause, script⟩)
    | ok keys => exact .inr ⟨columns, keys, sized, rfl⟩

section
variable {o : Options} (window : Window) (home : Except HomeError Text)
  (reading : Option Reading)

theorem plan_of_unusable (unusable : o.Unusable) :
    ∃ complaint, plan o window home reading =
      ⟨openingSteps o window home reading ++ [.complain complaint], 1⟩ := by
  by_cases zero : o.width = some 0
  · refine ⟨.zeroWidth, ?_⟩
    have main : mainPart o window (o.settings reading) = ⟨[.complain .zeroWidth], 1⟩ := by
      unfold mainPart Options.columns
      rw [zero]
      rfl
    -- a width that is asked for is looked at before the terminal is, which then is not noted
    have width : widthSteps o window = [] := by
      simp [widthSteps, zero]
    simp only [plan, main, openingSteps, width, List.append_nil]
  · obtain ⟨cause, script⟩ := unusable.resolve_left zero
    obtain ⟨columns, sized⟩ := Options.exists_columns zero window
    refine ⟨.badScript cause, ?_⟩
    have main : mainPart o window (o.settings reading) =
        ⟨widthSteps o window ++ [.complain (.badScript cause)], 1⟩ := by
      unfold mainPart
      simp only [sized, script]
    simp only [plan, main, openingSteps, List.append_assoc]

theorem plan_of_script {columns : Columns} (sized : o.columns window = .ok columns)
    {keys : List Key} (script : Script.parse o.keys = .ok keys) :
    let s := o.settings reading
    let screen : Screen := ⟨Prompt.width o.prompt, columns⟩
    plan o window home reading =
      ⟨openingSteps o window home reading ++
          .note (.started o.line o.keys columns.count s) ::
            result o s.style keys ((Editor.start o.line screen s).pressKeys keys).2, 0⟩ := by
  intro s screen
  simp only [plan, mainPart_of_script sized script, openingSteps, List.append_assoc, s, screen]

variable (o) in
theorem plan_status :
    (plan o window home reading).status = 0 ∨ (plan o window home reading).status = 1 := by
  rcases o.usable_or_unusable window with unusable | ⟨columns, keys, sized, script⟩
  · obtain ⟨complaint, h⟩ := plan_of_unusable window home reading unusable
    rw [h]
    exact .inr rfl
  · rw [plan_of_script window home reading sized script]
    exact .inl rfl

end

def Options.openingAt (o : Options) (site : Site) (window : Window) : List Step :=
  openingSteps o window site.homePath (site.read (o.settingsSource site.homePath))

theorem Options.planAt_of_unusable (o : Options) (site : Site) (window : Window)
    (unusable : o.Unusable) :
    ∃ complaint, o.planAt site window =
      ⟨o.openingAt site window ++ [.complain complaint], 1⟩ :=
  plan_of_unusable window site.homePath _ unusable

theorem Options.planAt_of_script (o : Options) (site : Site) {window : Window} {columns : Columns}
    (sized : o.columns window = .ok columns) {keys : List Key}
    (script : Script.parse o.keys = .ok keys) :
    let s := o.settings (site.read (o.settingsSource site.homePath))
    let screen : Screen := ⟨Prompt.width o.prompt, columns⟩
    o.planAt site window =
      ⟨o.openingAt site window ++ .note (.started o.line o.keys columns.count s) ::
        result o s.style keys ((Editor.start o.line screen s).pressKeys keys).2, 0⟩ :=
  plan_of_script window site.homePath _ sized script

theorem Options.planAt_status (o : Options) (site : Site) (window : Window) :
    (o.planAt site window).status = 0 ∨ (o.planAt site window).status = 1 :=
  plan_status o window site.homePath _

/-! ## Results -/

theorem noted_pressNotes (p : Press) : noted (pressNotes p) = (Entry.ofPress? p).toList :=
  noted_map_note _

theorem noted_flatMap_pressNotes (presses : List Press) :
    noted (presses.flatMap pressNotes) = presses.filterMap Entry.ofPress? := by
  induction presses with
  | nil => rfl
  | cons p rest ih =>
    rw [List.flatMap_cons, noted_append, noted_pressNotes, ih, List.filterMap_cons]
    cases Entry.ofPress? p <;> rfl

theorem noted_display (text : Text) : noted [.display text] = [] := rfl

/-- A result notes the changes of the highlight, in every format. -/
theorem noted_result (o : Options) (style : Terminal.Style) {keys : List Key}
    {presses : List Press} (same : presses.length = keys.length) :
    noted (result o style keys presses) = presses.filterMap Entry.ofPress? := by
  unfold result
  cases o.format with
  | escaped | raw =>
    simp only [noted_append, noted_flatMap_pressNotes, noted_display, List.append_nil]
  | ops =>
    dsimp only
    induction keys generalizing presses with
    | nil => rw [List.length_eq_zero_iff.1 same]; rfl
    | cons key keys ih =>
      cases presses with
      | nil => cases same
      | cons p presses =>
        have rest := ih (Nat.succ.inj same)
        rw [List.zip_cons_cons, List.flatMap_cons]
        dsimp only
        rw [noted_append, noted_append, noted_pressNotes, noted_display, rest, List.append_nil,
          List.filterMap_cons]
        cases Entry.ofPress? p <;> rfl

/-- The presses in front of the first text of a result. -/
def Format.pressedFirst (f : Format) (presses : List Press) : List Press :=
  match f with
  | .ops => presses.take 1
  | .escaped | .raw => presses

/-- A result is empty if there are no keys to show by name. Else it is notes of presses up to its
first text, which is not empty. -/
theorem result_cases (o : Options) (style : Terminal.Style) {keys : List Key}
    {presses : List Press} (same : presses.length = keys.length) :
    ((o.format = .ops ∧ keys = []) ∧ result o style keys presses = []) ∨
      ¬(o.format = .ops ∧ keys = []) ∧ ∃ text rest, text ≠ [] ∧
        result o style keys presses =
          (o.format.pressedFirst presses).flatMap pressNotes ++ .display text :: rest := by
  unfold result
  cases o.format with
  | escaped | raw => exact .inr ⟨by simp, _, [], by simp, rfl⟩
  | ops =>
    cases keys with
    | nil => exact .inl ⟨⟨rfl, rfl⟩, rfl⟩
    | cons key keys =>
      cases presses with
      | nil => cases same
      | cons p presses =>
        refine .inr ⟨by simp, pressLine key p, (keys.zip presses).flatMap fun block =>
          pressNotes block.2 ++ [.display (pressLine block.1 block.2)], by simp [pressLine], ?_⟩
        simp [Format.pressedFirst]

theorem complain_not_mem_result (o : Options) (style : Terminal.Style) (keys : List Key)
    (presses : List Press) (complaint : Complaint) :
    .complain complaint ∉ result o style keys presses := by
  have notes : ∀ p, .complain complaint ∉ pressNotes p := by simp [pressNotes]
  unfold result
  cases o.format <;> simp [notes]

/-! ## Complaints -/

/-- No text is shown before a complaint is made. -/
def ComplaintsFirst (steps : List Step) : Prop :=
  steps.Pairwise fun earlier later =>
    earlier.displayed ≠ [] → ∀ complaint, later ≠ .complain complaint

theorem complaintsFirst_append {a b : List Step} (quiet : displayed a = [])
    (content : ∀ complaint, .complain complaint ∉ b) : ComplaintsFirst (a ++ b) := by
  have silent : ∀ step ∈ a, step.displayed = [] := List.flatMap_eq_nil_iff.1 quiet
  refine List.pairwise_append.2 ⟨?_, ?_, ?_⟩
  · exact List.pairwise_of_forall_mem_list fun step mem _ _ shows => absurd (silent step mem) shows
  · exact List.pairwise_of_forall_mem_list fun _ _ step mem _ complaint h =>
      content complaint (h ▸ mem)
  · exact fun step mem _ _ shows => absurd (silent step mem) shows

theorem complaintsFirst_plan (o : Options) (window : Window) (home : Except HomeError Text)
    (reading : Option Reading) : ComplaintsFirst (plan o window home reading).steps := by
  have opening := displayed_openingSteps o window home reading
  rcases o.usable_or_unusable window with unusable | ⟨columns, keys, sized, script⟩
  · obtain ⟨complaint, h⟩ := plan_of_unusable window home reading unusable
    rw [h, ← List.append_nil (_ ++ _)]
    refine complaintsFirst_append ?_ (by simp)
    rw [displayed_append, opening]
    rfl
  · rw [plan_of_script window home reading sized script]
    refine complaintsFirst_append opening fun complaint mem => ?_
    rcases List.mem_cons.1 mem with h | mem
    · cases h
    · exact complain_not_mem_result _ _ _ _ complaint mem

end BracketCue.CommandLine
