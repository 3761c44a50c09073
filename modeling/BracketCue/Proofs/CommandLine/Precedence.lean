import BracketCue.CommandLine.Console
import BracketCue.Proofs.Settings.LastSay

/-!
# Which settings a run takes

Three layers decide each setting: an option of the command line, if there is one for it and it is
given; else the last directive for it in the settings file that is read; else the default. A
settings file that is no readable text says nothing, and one that is named by an option takes the
place of the one in the home directory altogether.

* `mem_iff_of_givenText`, `prefers_of_given`: what the arguments give is what is taken.
* `settingsAfter_read`: reading a settings file comes down to its text.
* `mainPart_of_script`: the session starts with the settings.
* `run_of_named`: next to a file that is named by an option nothing else matters.
* `settings_precedence`: the settings of a run, field by field.
-/
namespace BracketCue.CommandLine

/-! ## What is given -/

theorem exists_of_bind_ok {ε α β : Type} {x : Except ε α} {f : α → Except ε β} {b : β}
    (h : x >>= f = .ok b) : ∃ a, x = .ok a ∧ f a = .ok b := by
  cases x with
  | error e => cases h
  | ok a => exact ⟨a, rfl, h⟩

theorem atMostOne_eq_ok_iff {α : Type} {values : List α} {value : Option α} :
    atMostOne values = .ok value ↔ values = value.toList := by
  rcases values with _ | ⟨a, _ | ⟨b, rest⟩⟩ <;> cases value <;> simp [atMostOne]

theorem Item.value?_eq_some_iff {name : Name} {item : Item} {value : Text} :
    item.value? name = some value ↔ item = .option name value := by
  cases item with
  | line text | noHighlight | page p => simp [Item.value?]
  | option name' value' =>
    by_cases h : name' = name <;> simp [Item.value?, h]

section
variable {items : List Item} {name : Name}

theorem mem_iff_of_givenText {given : Option Text} (h : givenText items name = .ok given)
    (value : Text) : .option name value ∈ items ↔ given = some value := by
  have values := atMostOne_eq_ok_iff.1 h
  rw [← Option.mem_toList, ← values, List.mem_filterMap]
  simp [Item.value?_eq_some_iff]

/-- An option that is read is given with a value that can be read, or not at all. -/
theorem given_cases {α : Type} {read? : Text → Option α} {value : Option α}
    (h : given items name read? = .ok value) :
    (∃ text, value = read? text ∧ value.isSome ∧
      ∀ text', .option name text' ∈ items ↔ text' = text) ∨
    ((∀ text, .option name text ∉ items) ∧ value = none) := by
  obtain ⟨text?, htext, h⟩ := exists_of_bind_ok h
  have mem := mem_iff_of_givenText htext
  cases text? with
  | none => exact .inr ⟨fun text ht => absurd ((mem text).1 ht) nofun, (Except.ok.inj h).symm⟩
  | some text =>
    dsimp only at h
    cases hr : read? text with
    | none => rw [hr] at h; cases h
    | some v =>
      rw [hr] at h
      cases h
      refine .inl ⟨text, hr.symm, rfl, fun text' => ?_⟩
      rw [mem, Option.some.injEq, eq_comm]

/-- A field that an option can give has the value that the option is read as, if it is given, and
else what the settings file makes of it. -/
structure Prefers {α : Type} (items : List Item) (name : Name)
    (read : Text → Except ValueError α) (f : Field α) (lines : List Text) (v : α) : Prop where
  given : ∀ value, .option name value ∈ items → read value = .ok v
  otherwise : (∀ value, .option name value ∉ items) → f.Settles .standard lines v

theorem prefers_of_given {α : Type} {read : Text → Except ValueError α} {f : Field α}
    {lines : List Text} {value : Option α} {v : α}
    (h : given items name (fun text => (read text).toOption) = .ok value)
    (settles : f.Settles .standard lines v) :
    Prefers items name read f lines (value.getD v) := by
  rcases given_cases h with ⟨text, hvalue, some, mem⟩ | ⟨absent, rfl⟩
  · refine ⟨fun text' ht => ?_, fun absent => absurd ((mem text).2 rfl) (absent text)⟩
    rw [(mem text').1 ht]
    cases hr : read text with
    | error e => rw [hvalue, hr] at some; cases some
    | ok x => rw [hvalue, hr]; rfl
  · exact ⟨fun text ht => absurd ht (absent text), fun _ => settles⟩

/-- A flag is set if one of the items sets it. -/
theorem isSome_iff_of_filter {item : Item} {flag : Option Item}
    (h : atMostOne (items.filter (· = item)) = .ok flag) : flag.isSome = true ↔ item ∈ items := by
  have set : item ∈ items ↔ item ∈ flag.toList := by
    rw [← atMostOne_eq_ok_iff.1 h]
    simp
  rw [set]
  cases flag with
  | none => simp
  | some item' =>
    have mem : item' ∈ items.filter (· = item) := by
      rw [atMostOne_eq_ok_iff.1 h]
      simp
    have same : item' = item := by simpa using (List.mem_filter.1 mem).2
    simp [same]

/-- What the options take from the items that make them. -/
structure Options.Takes (o : Options) (items : List Item) : Prop where
  paint : given items .paint (fun value => (Paint.ofName value).toOption) = .ok o.paint
  moveStyle :
    given items .moveStyle (fun value => (MoveStyle.ofName value).toOption) = .ok o.moveStyle
  activeBracket :
    given items .activeBracket (fun value => (ActiveBracket.ofName value).toOption) =
      .ok o.activeBracket
  settingsFile : givenText items .settingsFile = .ok o.settingsFile
  noHighlight : o.noHighlight = true ↔ .noHighlight ∈ items

theorem takes_of_ofItems {o : Options} (h : ofItems items = .ok (.replay o)) : o.Takes items := by
  obtain ⟨keys, -, h⟩ := exists_of_bind_ok h
  obtain ⟨prompt, -, h⟩ := exists_of_bind_ok h
  obtain ⟨width, -, h⟩ := exists_of_bind_ok h
  obtain ⟨paint, hpaint, h⟩ := exists_of_bind_ok h
  obtain ⟨moveStyle, hmoveStyle, h⟩ := exists_of_bind_ok h
  obtain ⟨activeBracket, hactiveBracket, h⟩ := exists_of_bind_ok h
  obtain ⟨format, -, h⟩ := exists_of_bind_ok h
  obtain ⟨settingsFile, hsettingsFile, h⟩ := exists_of_bind_ok h
  obtain ⟨flag, hflag, h⟩ := exists_of_bind_ok h
  split at h
  · cases h
  · cases h
  · cases h
  · cases h
    exact ⟨hpaint, hmoveStyle, hactiveBracket, hsettingsFile, isSome_iff_of_filter hflag⟩

end

/-! ## What is read -/

def SettingsSource.path : SettingsSource → Text
  | .named path | .standard path => path

/-- The text of what stands at a path, if it may be read and is text in UTF-8. -/
def Node.text? : Node → Option Text
  | .file bytes true => Text.ofUtf8? bytes
  | .file _ false | .directory .. => none

def Site.text? (site : Site) (path : Text) : Option Text :=
  match site.files.find site.working path with
  | .ok node => node.text?
  | .error _ => none

/-- Something was to be read that is no text: it cannot be opened, or what it holds cannot be
read. -/
inductive Unreadable : Option Reading → Prop
  | unopened (cause : Failure) : Unreadable (some (.cannotOpen cause))
  | unread (cause : Failure) : Unreadable (some (.cannotRead cause))

theorem Node.read_cases (node : Node) :
    (∃ text, node.text? = some text ∧ node.read = .contents text) ∨
      node.text? = none ∧ Unreadable (some node.read) := by
  cases node with
  | directory readable enterable =>
    cases readable with
    | false => exact .inr ⟨rfl, .unopened _⟩
    | true => exact .inr ⟨rfl, .unread _⟩
  | file bytes readable =>
    cases readable with
    | false => exact .inr ⟨rfl, .unopened _⟩
    | true =>
      unfold Node.read Reading.ofBytes Node.text?
      dsimp only
      cases Text.ofUtf8? bytes with
      | none => exact .inr ⟨rfl, .unread _⟩
      | some text => exact .inl ⟨text, rfl, rfl⟩

/-- A settings file gives its text, or it gives nothing: there is none to read, or it is no readable
text. -/
theorem Site.read_cases (site : Site) (source : SettingsSource) :
    (∃ text, site.text? source.path = some text ∧ site.read source = some (.contents text)) ∨
      site.text? source.path = none ∧
        (site.read source = none ∨ Unreadable (site.read source)) := by
  have standing : ∀ node : Node,
      (∃ text, node.text? = some text ∧ some node.read = some (.contents text)) ∨
        node.text? = none ∧ (some node.read = none ∨ Unreadable (some node.read)) := by
    intro node
    rcases node.read_cases with ⟨text, here, read⟩ | ⟨here, unreadable⟩
    · exact .inl ⟨text, here, congrArg some read⟩
    · exact .inr ⟨here, .inr unreadable⟩
  unfold Site.text?
  cases source with
  | named path =>
    unfold Site.read FileTree.read SettingsSource.path
    dsimp only
    cases site.files.find site.working path with
    | error cause => exact .inr ⟨rfl, .inr (.unopened cause)⟩
    | ok node => exact standing node
  | standard path =>
    unfold Site.read FileTree.readIfPresent SettingsSource.path
    dsimp only
    cases site.files.find site.working path with
    | error cause => exact .inr ⟨rfl, .inl rfl⟩
    | ok node => exact standing node

theorem settingsAfter_of_unreadable (s : Settings) {reading : Option Reading}
    (h : Unreadable reading) : settingsAfter s reading = s := by
  cases h <;> rfl

/-- Reading a settings file comes down to its text; what cannot be read is as good as empty. -/
theorem settingsAfter_read (s : Settings) (site : Site) (source : SettingsSource) :
    settingsAfter s (site.read source) = s.withFile ((site.text? source.path).getD []) := by
  rcases site.read_cases source with ⟨text, here, read⟩ | ⟨here, read | unreadable⟩
  · rw [here, read]
    rfl
  · rw [here, read]
    rfl
  · rw [here, settingsAfter_of_unreadable s unreadable]
    rfl

/-! ## The run -/

theorem run_of_read {arguments : List Word} {o : Options}
    (h : Request.read arguments = .ok (.replay o)) (c : Console) (site : Site)
    (pages : Page → Text) :
    run c site pages arguments = .ok (c.outcome (o.planAt site c.window)) := by
  rw [run, h]
  rfl

/-- With columns and a script the keys are pressed in a session that starts with the settings. -/
theorem mainPart_of_script {o : Options} {window : Window} {columns : Columns}
    (sized : o.columns window = .ok columns) {keys : List Key}
    (script : Script.parse o.keys = .ok keys) (s : Settings) :
    mainPart o window s =
      ⟨widthSteps o window ++ .note (.started o.line o.keys columns.count s) ::
        result o s.style keys
          ((Editor.start o.line ⟨Prompt.width o.prompt, columns⟩ s).pressKeys keys).2, 0⟩ := by
  unfold mainPart
  simp only [sized, script]

theorem Options.settingsSource_of_named {o : Options} {path : Text}
    (named : o.settingsFile = some path) (home : Except Journal.HomeError Text) :
    o.settingsSource home = .named path := by
  simp [settingsSource, named]

/-- If the options name a settings file, a run depends on its site through this file only. -/
theorem run_of_named {arguments : List Word} {o : Options}
    (accepted : Request.read arguments = .ok (.replay o)) {path : Text}
    (named : o.settingsFile = some path) {site site' : Site}
    (alike : site'.read (.named path) = site.read (.named path)) (c : Console)
    (pages : Page → Text) : run c site' pages arguments = run c site pages arguments := by
  have silent : ∀ home, homeSteps o home = [] := fun home => by
    simp [homeSteps, named]
  rw [run_of_read accepted, run_of_read accepted]
  simp only [Options.planAt, plan, Options.settingsSource_of_named named, alike, silent]

/-- The settings that a run takes, for arguments that are accepted. The run is what the command does
with them once its settings file is read, its complaints and notes about that file coming first: if
there are columns and the script can be read, it says that it starts with these settings, and the
result is that of an editor which starts with them. `paint`, `moveStyle` and `activeBracket` are
what the options say that are given; highlighting is off if the option against it is given. All else
is what the last directive in the settings file makes of the default: of the file that an option
names, or if none does of the one in the home directory. A file that is no readable text leaves the
defaults as they are, and next to a file that is named by an option nothing else that stands at the
site matters, nor where its home directory is. -/
theorem settings_precedence (arguments : List Word) (o : Options)
    (accepted : Request.read arguments = .ok (.replay o)) (site : Site) :
    let source := o.settingsSource site.homePath
    let s := o.settings (site.read source)
    let lines := ((site.text? source.path).getD []).lines
    ∃ items, readItems arguments = .ok items ∧
      (∃ before, ∀ c pages,
        run c site pages arguments =
          .ok (c.outcome
            ⟨before ++ (mainPart o c.window s).steps, (mainPart o c.window s).status⟩) ∧
        ∀ columns keys, o.columns c.window = .ok columns → Script.parse o.keys = .ok keys →
          let editor := Editor.start o.line ⟨Prompt.width o.prompt, columns⟩ s
          run c site pages arguments =
            .ok (c.outcome
              ⟨before ++ widthSteps o c.window ++
                .note (.started o.line o.keys columns.count s) ::
                  result o s.style keys (editor.pressKeys keys).2, 0⟩)) ∧
      Prefers items .paint Paint.ofName .paint lines s.paint ∧
      Prefers items .moveStyle MoveStyle.ofName .moveStyle lines s.moveStyle ∧
      Prefers items .activeBracket ActiveBracket.ofName .activeBracket lines s.activeBracket ∧
      (.noHighlight ∈ items → s.enabled = false) ∧
      (.noHighlight ∉ items → Field.enabled.Settles .standard lines s.enabled) ∧
      Field.bold.Settles .standard lines s.style.bold ∧
      Field.background.Settles .standard lines s.style.background ∧
      (∀ path, .option .settingsFile path ∈ items → source = .named path ∧
        ∀ site', site'.read (.named path) = site.read (.named path) →
          ∀ c pages, run c site' pages arguments = run c site pages arguments) ∧
      ((∀ path, .option .settingsFile path ∉ items) →
        source.path = site.homePath.toOption.getD [] ++ "/.bracketlightrc".toList) ∧
      (site.text? source.path = none → s = o.override .standard) := by
  intro source s lines
  obtain ⟨items, read, made⟩ := exists_of_bind_ok accepted
  have takes := takes_of_ofItems made
  have file : ∀ {α : Type} (f : Field α),
      f.Settles .standard lines (f.get (settingsAfter .standard (site.read source))) := by
    intro α f
    rw [settingsAfter_read, Settings.withFile_eq]
    exact f.settles_afterLines .standard lines
  have settingsFile := mem_iff_of_givenText takes.settingsFile
  refine ⟨items, read, ⟨homeSteps o site.homePath ++ settingsSteps (site.read source),
    fun c pages => ?_⟩, ?_⟩
  · have runs := run_of_read accepted c site pages
    refine ⟨runs, fun columns keys sized script => ?_⟩
    have main := mainPart_of_script sized script s
    rw [runs, Options.planAt, plan, main]
    simp only [List.append_assoc, source]
  refine ⟨prefers_of_given takes.paint (file .paint),
    prefers_of_given takes.moveStyle (file .moveStyle),
    prefers_of_given takes.activeBracket (file .activeBracket), fun off => ?_, fun allowed => ?_,
    file .bold, file .background, fun path named => ?_, fun unnamed => ?_, fun unreadable => ?_⟩
  · have flag : o.noHighlight = true := takes.noHighlight.2 off
    simp [s, Options.settings, Options.override, flag]
  · have flag : o.noHighlight = false := by
      simpa using mt takes.noHighlight.1 allowed
    have same : s.enabled = (settingsAfter .standard (site.read source)).enabled := by
      simp [s, Options.settings, Options.override, flag]
    rw [same]
    exact file .enabled
  · have given : o.settingsFile = some path := (settingsFile path).1 named
    exact ⟨Options.settingsSource_of_named given _, fun site' alike c pages =>
      run_of_named accepted given alike c pages⟩
  · have none : o.settingsFile = none := by
      cases h : o.settingsFile with
      | none => rfl
      | some path => exact absurd ((settingsFile path).2 h) (unnamed path)
    simp [source, Options.settingsSource, none, SettingsSource.path]
  · simp only [s, Options.settings, settingsAfter_read, unreadable, Option.getD_none,
      Settings.withFile_nil]

/-- Where a directory stands in the place of the file that is asked for, and the file in the home
directory asks for another color and for both ends. -/
def siteWithoutFile : Site where
  files := ⟨[(["adir".toList], .directory true true),
    ([".bracketlightrc".toList],
      .file "set highlight-background blue\nset paint both".toUTF8 true)]⟩
  working := []
  home := some .empty

/-- A file that cannot be read leaves the defaults, which the options then change; the file in the
home directory has no say. The run starts with what comes of this, and ends well. -/
theorem settings_precedence_unreadable_file :
    let arguments := ["--rcfile", "adir", "--paint=partner", "--no-character-highlight", "(x)"]
    let o : Options := ⟨"(x)".toList, "enter".toList, "$ ".toList, none, true, some .partner, none,
      none, .ops, some "adir".toList⟩
    let s : Settings := ⟨false, .underCursor, .partner, .relative, .standard⟩
    let console : Console := ⟨none, none, .file, .size 120 40⟩
    Request.read (arguments.map (.text ·.toList)) = .ok (.replay o) ∧
      o.settings (siteWithoutFile.read (o.settingsSource siteWithoutFile.homePath)) = s ∧
      ∃ before, ∀ pages, ∃ outcome,
        run console siteWithoutFile pages (arguments.map (.text ·.toList)) = .ok outcome ∧
          outcome.status = 0 ∧ outcome.journal = [.started o.line o.keys 120 s] ∧
          outcome = console.outcome
            ⟨before ++ [.note (.started o.line o.keys 120 s), .display "Enter: \n".toList], 0⟩ := by
  intro arguments o s console
  have accepted : Request.read (arguments.map (.text ·.toList)) = .ok (.replay o) := by rfl
  obtain ⟨items, -, ⟨before, runs⟩, -, -, -, -, -, -, -, -, -, unreadable⟩ :=
    settings_precedence _ o accepted siteWithoutFile
  have settings : o.settings (siteWithoutFile.read
      (o.settingsSource siteWithoutFile.homePath)) = s := unreadable rfl
  refine ⟨accepted, settings, before, fun pages => ?_⟩
  have finished := run_of_read accepted console siteWithoutFile pages
  have started := (runs console pages).2 ⟨120, by decide⟩ [.enter] rfl rfl
  dsimp only at started
  have steps : widthSteps o console.window ++ .note (.started o.line o.keys 120 s) ::
      result o s.style [.enter]
        ((Editor.start o.line ⟨Prompt.width o.prompt, ⟨120, by decide⟩⟩ s).pressKeys [.enter]).2 =
      [.note (.started o.line o.keys 120 s), .display "Enter: \n".toList] := by decide +kernel
  rw [settings, List.append_assoc, steps] at started
  exact ⟨_, finished, by decide +kernel, by decide +kernel,
    Except.ok.inj (finished.symm.trans started)⟩

end BracketCue.CommandLine
