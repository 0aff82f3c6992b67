import ApiBindings.CommandLine.Commands
import ApiBindings.CommandLine.Files
import ApiBindings.Proofs.Walks

/-!
# Changes of files

What a run does to the files of its directory (`run_accounts`). A run first finds all that it needs (`Finds`), and ends
badly with the files as they are where it does not; only then it writes, one text to one path, and ends. Directories may
be made on the way; that changes no file (`makeDirectory_files`).
-/

namespace ApiBindings.FileChanges
open ApiBindings.CommandLine ApiBindings.View ApiBindings.Walks

variable {α β : Type}

/-! ## Places -/

theorem lookup_setText (fs : Files) (place : Names) (text : String) :
    (fs.setText place text).files.lookup place = some text := by
  simp [Files.setText]

theorem lookup_setText_other (fs : Files) {place other : Names} (apart : other ≠ place) (text : String) :
    (fs.setText place text).files.lookup other = fs.files.lookup other := by
  have kept (files : List (Names × String)) :
      (files.filter (·.1 ≠ place)).lookup other = files.lookup other := by
    induction files with
    | nil => rfl
    | cons f rest ih =>
      obtain ⟨name, held⟩ := f
      by_cases here : name = place
      · rw [List.filter_cons_of_neg (by simpa using here), ih, List.lookup_cons, beq_false_of_ne (here ▸ apart)]
      · rw [List.filter_cons_of_pos (by simpa using here), List.lookup_cons, List.lookup_cons, ih]
  rw [Files.setText, List.lookup_cons, beq_false_of_ne apart]
  exact kept fs.files

theorem entry_setText (fs : Files) (place : Names) (text : String) :
    (fs.setText place text).entry place = .file text := by
  rw [Files.entry, lookup_setText]

/-- A directory is a place without a text that is above the files or above a place that is there. -/
theorem entry_directory (fs : Files) (place : Names) :
    fs.entry place = .directory ↔ fs.files.lookup place = none ∧
      (Files.isAbove place = true ∨ (∃ f ∈ fs.files, place.isPrefixOf f.1 = true) ∨
        ∃ d ∈ fs.directories, place.isPrefixOf d = true) := by
  have told : (Files.isAbove place || fs.files.any (fun f => place.isPrefixOf f.1) ||
      fs.directories.any (place.isPrefixOf ·)) = true ↔ (Files.isAbove place = true ∨
        (∃ f ∈ fs.files, place.isPrefixOf f.1 = true) ∨ ∃ d ∈ fs.directories, place.isPrefixOf d = true) := by
    simp only [Bool.or_eq_true, List.any_eq_true, or_assoc]
  rw [Files.entry, ← told]
  cases fs.files.lookup place with
  | some text => simp
  | none =>
    dsimp only
    rw [ite_eq_left_iff]
    simp only [reduceCtorEq, imp_false, Decidable.not_not, true_and]

/-- A text that is set where no directory is leaves the directories as they are. -/
theorem directory_setText {fs : Files} {place : Names} (free : fs.entry place ≠ .directory) (text : String)
    {other : Names} (directory : fs.entry other = .directory) : (fs.setText place text).entry other = .directory := by
  have apart : other ≠ place := by
    rintro rfl
    exact free directory
  rw [entry_directory] at directory ⊢
  rw [lookup_setText_other fs apart]
  refine ⟨directory.1, ?_⟩
  rcases directory.2 with above | ⟨f, inside, below⟩ | made
  · exact .inl above
  · refine .inr (.inl ?_)
    by_cases here : f.1 = place
    · exact ⟨(place, text), List.mem_cons_self, here ▸ below⟩
    · exact ⟨f, List.mem_cons_of_mem _ (List.mem_filter.mpr ⟨inside, by simpa using here⟩), below⟩
  · exact .inr (.inr made)

/-- A place that is reached is still reached where no directory is gone. -/
theorem walk_kept {fs fs' : Files} (kept : ∀ place, fs.entry place = .directory → fs'.entry place = .directory)
    {place last : Names} {names : List String} (reached : fs.walk place names = .ok last) :
    fs'.walk place names = .ok last := by
  induction names generalizing place with
  | nil => exact reached
  | cons name rest ih =>
    rw [Files.walk] at reached ⊢
    cases here : fs.entry place with
    | file _ => simp [here] at reached
    | nothing => simp [here] at reached
    | directory =>
      rw [kept place here]
      simp only [here] at reached ⊢
      by_cases stays : name = "" ∨ name = "."
      · rw [if_pos stays] at reached ⊢
        exact ih reached
      rw [if_neg stays] at reached ⊢
      by_cases up : name = ".."
      · rw [if_pos up] at reached ⊢
        exact ih reached
      rw [if_neg up] at reached ⊢
      by_cases long : Files.nameLimit < name.utf8ByteSize
      · simp [long] at reached
      rw [if_neg long] at reached ⊢
      exact ih reached

/-! ## Writing -/

/-- Directories that are made change no file. -/
theorem makeAlong_files {fs made : Files} {place : Names} {names : List String}
    (done : fs.makeAlong place names = .ok made) : made.files = fs.files := by
  fun_induction Files.makeAlong fs place names with
  | case1 =>
    cases done
    rfl
  | case2 _ _ _ _ _ ih => exact ih done
  | case3 _ _ _ _ ih => exact ih done
  | case4 => cases done
  | case5 _ _ _ _ _ _ _ _ _ ih => exact ih done
  | case6 => cases done
  | case7 _ _ _ _ _ _ _ _ _ ih => exact ih done

theorem makeDirectory_files {fs made : Files} {path : String} (done : fs.makeDirectory path = .ok made) :
    made.files = fs.files := by
  obtain ⟨⟨origin, names⟩, _, along⟩ := ok_of_bind done
  exact makeAlong_files along

/-- One text was written: the file at a path has it, and all other files are as they were. -/
def Wrote (fs : Files) (path text : String) (after : Files) : Prop :=
  ∃ place, after.locate path = .ok place ∧ after.read path = .ok text ∧
    ∀ other, other ≠ place → after.files.lookup other = fs.files.lookup other

theorem write_wrote {fs after : Files} {path text : String} (done : fs.write path text = .ok after) :
    Wrote fs path text after := by
  unfold Files.write at done
  cases located : fs.locate path with
  | error f => cases f <;> simp [located] at done
  | ok place =>
    have free : fs.entry place ≠ .directory := by
      intro directory
      simp [located, directory] at done
    obtain rfl : fs.setText place text = after := by
      cases here : fs.entry place <;> simp_all
    -- The path leads to the same place still, since no directory on the way was touched.
    have again : (fs.setText place text).locate path = .ok place := by
      obtain ⟨⟨origin, names⟩, started, walked⟩ := ok_of_bind located
      rw [Files.locate, started]
      exact walk_kept (fun _ => directory_setText free text) walked
    refine ⟨place, again, ?_, fun other apart => lookup_setText_other fs apart text⟩
    simp [Files.read, again, entry_setText, bind, Except.bind]

/-! ## What a run finds -/

/-- A run has ended badly and left the files as they are. -/
def Stopped (fs : Files) (ended : Outcome × Files) : Prop := ended.1.exitCode ≠ 0 ∧ ended.2 = fs

theorem fail_stopped (fs : Files) (p : Problem) (before : String) : Stopped fs ((Script.fail p before).runOn fs) :=
  ⟨Nat.one_ne_zero, rfl⟩

/-- A step of a script goes on with a value, or ends the run where there is none. -/
def Finds (fs : Files) (value? : Option α) (step : (α → Script) → Script) : Prop :=
  ∀ next, (∃ a, value? = some a ∧ (step next).runOn fs = (next a).runOn fs) ∨
    value? = none ∧ Stopped fs ((step next).runOn fs)

/-- Steps go on one after another. -/
theorem Finds.bind {fs : Files} {value? : Option α} {step : (α → Script) → Script} (first : Finds fs value? step)
    {value'? : α → Option β} {step' : α → (β → Script) → Script} (second : ∀ a, Finds fs (value'? a) (step' a)) :
    Finds fs (value?.bind value'?) fun next => step fun a => step' a next := by
  intro next
  rcases first fun a => step' a next with ⟨a, rfl, goes⟩ | ⟨rfl, stopped⟩
  · simpa only [Option.bind_some, goes] using second a next
  · exact .inr ⟨rfl, stopped⟩

theorem Finds.map {fs : Files} {value? : Option α} {step : (α → Script) → Script} (finds : Finds fs value? step)
    (f : α → β) : Finds fs (value?.map f) fun next => step fun a => next (f a) := by
  intro next
  rcases finds fun a => next (f a) with ⟨a, rfl, goes⟩ | ⟨rfl, stopped⟩
  · exact .inl ⟨f a, rfl, goes⟩
  · exact .inr ⟨rfl, stopped⟩

/-- A step that asks for the text of a file. -/
theorem finds_text (fs : Files) (path : String) (problem : FileFault → Problem) :
    Finds fs (fs.read path).toOption fun next => .readFile path fun
      | .error f => .fail (problem f)
      | .ok text => next text := by
  intro next
  rw [Script.runOn]
  cases fs.read path with
  | error f => exact .inr ⟨rfl, fail_stopped fs _ _⟩
  | ok text => exact .inl ⟨text, rfl, rfl⟩

/-- A step that goes on with a result. -/
theorem finds_result {ε : Type} (fs : Files) {result : Except ε α} {step : (α → Script) → Script}
    (fails : ∀ e, result = .error e → ∀ next, ∃ p before, step next = .fail p before)
    (goes : ∀ a, result = .ok a → ∀ next, step next = next a) : Finds fs result.toOption step := by
  intro next
  cases result with
  | error e =>
    obtain ⟨p, before, failed⟩ := fails e rfl next
    exact .inr ⟨rfl, failed ▸ fail_stopped fs p before⟩
  | ok a => exact .inl ⟨a, rfl, by rw [goes a rfl]⟩

/-- The settings of a directory: those of its settings file, and the default ones where there is no such file. -/
def settings? (fs : Files) : Option Settings :=
  if fs.has Settings.fileName then
    (fs.read Settings.fileName).toOption.bind fun text => (Settings.read text).toOption
  else some {}

/-- The document in a file. -/
def document? (fs : Files) (path : String) : Option ApiBindings.Document :=
  (fs.read path).toOption.bind fun text =>
    (if isJsonPath path then Document.readJson text else Document.readYaml text).toOption

/-- The view model of the document in a file, and the settings that it was built with. -/
def model? (fs : Files) (input : Option String) (isTyped : Bool) : Option (Settings × Model) :=
  (settings? fs).bind fun s =>
    (document? fs (input.getD s.input)).bind fun d =>
      (ofDocument d (s.options isTyped)).toOption.map (s, ·)

/-- The text that a template gives for a model: the template in a file, else that of classes. -/
def rendering? (fs : Files) (template : Option String) (typeKey : String) (m : Model) : Option String :=
  match template with
  | none => (m.render TypeScript.classTemplateName TypeScript.classTemplate typeKey).toOption
  | some path => (fs.read path).toOption.bind fun source => (m.render path source typeKey).toOption

/-- The text that is to be rendered, with the settings that say where it goes. -/
def rendered? (fs : Files) (input template : Option String) : Option (Settings × String) :=
  (model? fs input false).bind fun (s, m) => (rendering? fs (template <|> s.template) s.typeKey m).map (s, ·)

theorem finds_settings (fs : Files) : Finds fs (settings? fs) withSettings := by
  intro next
  rw [settings?, withSettings.eq_def, Script.runOn]
  cases there : fs.has Settings.fileName with
  | false => exact .inl ⟨{}, rfl, rfl⟩
  | true =>
    exact ((finds_text fs _ _).bind fun _ => finds_result fs (fun e failed next => ⟨_, _, by rw [failed]⟩)
      fun s found next => by rw [found]) next

theorem finds_document (fs : Files) (path : String) : Finds fs (document? fs path) (withDocument path) :=
  (finds_text fs path _).bind fun _ => finds_result fs (fun e failed next => ⟨_, _, by rw [failed]⟩)
    fun s found next => by rw [found]

theorem finds_view (fs : Files) (d : ApiBindings.Document) (o : Options) (before : String) :
    Finds fs (ofDocument d o).toOption fun next => withModel d o next before :=
  finds_result fs (fun e failed next => ⟨_, _, by unfold withModel; rw [failed]⟩)
    fun s found next => by unfold withModel; rw [found]

theorem finds_model (fs : Files) (input : Option String) (isTyped : Bool) :
    Finds fs (model? fs input isTyped) fun next => withSettings fun s =>
      withDocument (input.getD s.input) fun d => withModel d (s.options isTyped) fun m => next (s, m) :=
  (finds_settings fs).bind fun s => (finds_document fs _).bind fun d => (finds_view fs d _ "").map (s, ·)

theorem finds_rendering (fs : Files) (template : Option String) (typeKey : String) (m : Model) :
    Finds fs (rendering? fs template typeKey m) (withRendering template typeKey m) := by
  intro next
  unfold rendering? withRendering
  -- What the template of classes gives is not to be computed here.
  generalize m.render TypeScript.classTemplateName TypeScript.classTemplate typeKey = built
  cases template with
  | none =>
    cases built with
    | error e => exact .inr ⟨rfl, fail_stopped fs _ _⟩
    | ok text => exact .inl ⟨text, rfl, rfl⟩
  | some path =>
    exact ((finds_text fs path _).bind fun _ => finds_result fs (fun e failed next => ⟨_, _, by rw [failed]⟩)
      fun text found next => by rw [found]) next

theorem finds_rendered (fs : Files) (input template : Option String) :
    Finds fs (rendered? fs input template) fun next => withSettings fun s =>
      withDocument (input.getD s.input) fun d => withModel d (s.options false) fun m =>
        withRendering (template <|> s.template) s.typeKey m fun text => next (s, text) :=
  (finds_model fs input false).bind fun _ => (finds_rendering fs _ _ _).map _

/-! ## What a run does -/

/-- The files after a text was written to a path, whose directory is made before. -/
def written? (fs : Files) (path text : String) : Option Files :=
  match parentPath? path with
  | none => (fs.write path text).toOption
  | some parent => (fs.makeDirectory parent).toOption.bind fun made => (made.write path text).toOption

/-- A text has gone where it should: to a file, or, where none is named, to what is printed. -/
def Delivered (fs : Files) (target : Option String) (text : String) (outcome : Outcome) (after : Files) : Prop :=
  match target with
  | none => after = fs ∧ outcome.stdout = text
  | some path => written? fs path text = some after ∧ Wrote fs path text after ∧ outcome.stdout = ""

/-- What has become of the files and what was printed when a run has done what it was asked for. -/
def Done (fs : Files) (asked : Except UsageError Request) (outcome : Outcome) (after : Files) : Prop :=
  match asked with
  | .error _ => False
  | .ok .version | .ok .help | .ok (.command (.completions _)) => after = fs
  | .ok (.command (.prepare input format isTyped)) =>
    after = fs ∧ ∃ s m, model? fs input isTyped = some (s, m) ∧ outcome.stdout = format.write m
  | .ok (.command (.validate input)) =>
    after = fs ∧ ∃ d m, document? fs input = some d ∧ ofDocument d .default = .ok m
  | .ok (.command (.render input template output)) =>
    ∃ s text, rendered? fs input template = some (s, text) ∧ Delivered fs (output <|> s.output) text outcome after
  | .ok (.command (.init isForced)) =>
    (fs.has Settings.fileName = false ∨ isForced = true) ∧
      fs.write Settings.fileName Settings.initialText = .ok after ∧
      Wrote fs Settings.fileName Settings.initialText after

/-- A run ends well exactly if it has done what it was asked for, and else it changes no file. -/
def Accounts (fs : Files) (asked : Except UsageError Request) (ended : Outcome × Files) : Prop :=
  (ended.1.exitCode ≠ 0 → ended.2.files = fs.files) ∧ (ended.1.exitCode = 0 ↔ Done fs asked ended.1 ended.2)

variable {fs : Files} {asked : Except UsageError Request} {ended : Outcome × Files}

theorem accounts_bad (bad : ended.1.exitCode ≠ 0) (same : ended.2.files = fs.files)
    (undone : ¬ Done fs asked ended.1 ended.2) : Accounts fs asked ended :=
  ⟨fun _ => same, iff_of_false bad undone⟩

theorem accounts_well (well : ended.1.exitCode = 0) (done : Done fs asked ended.1 ended.2) : Accounts fs asked ended :=
  ⟨fun bad => absurd well bad, iff_of_true well done⟩

theorem Stopped.accounts (stopped : Stopped fs ended) (undone : ¬ Done fs asked ended.1 ended.2) :
    Accounts fs asked ended :=
  accounts_bad stopped.1 (congrArg Files.files stopped.2) undone

theorem ok_of_toOption {ε : Type} {x : Except ε α} {a : α} (there : x.toOption = some a) : x = .ok a := by
  cases x with
  | error _ => cases there
  | ok b =>
    cases there
    rfl

theorem written_wrote {fs after : Files} {path text : String} (written : written? fs path text = some after) :
    Wrote fs path text after := by
  unfold written? at written
  split at written
  · exact write_wrote (ok_of_toOption written)
  · obtain ⟨made, directory, wrote⟩ := Option.bind_eq_some_iff.mp written
    obtain ⟨place, found, read, others⟩ := write_wrote (ok_of_toOption wrote)
    rw [makeDirectory_files (ok_of_toOption directory)] at others
    exact ⟨place, found, read, others⟩

/-- A run was to write a text. It has written it and ended well, or it has ended badly and changed no file. -/
def Writes (fs : Files) (written? : Option Files) (ended : Outcome × Files) : Prop :=
  (written? = some ended.2 ∧ ended.1.exitCode = 0 ∧ ended.1.stdout = "") ∨
    written? = none ∧ ended.1.exitCode ≠ 0 ∧ ended.2.files = fs.files

theorem writeFile_writes (fs : Files) (path text line : String) (problem : FileFault → Problem) :
    Writes fs (fs.write path text).toOption (Script.runOn fs (.writeFile path text fun
      | .error f => .fail (problem f)
      | .ok () => .finish { stderr := line })) := by
  rw [Script.runOn]
  cases fs.write path text with
  | error f => exact .inr ⟨rfl, Nat.one_ne_zero, rfl⟩
  | ok after => exact .inl ⟨rfl, rfl, rfl⟩

theorem deliver_path (fs : Files) (path text : String) :
    Writes fs (written? fs path text) ((deliver (some path) text).runOn fs) := by
  unfold deliver written?
  dsimp only
  cases parentPath? path with
  | none => exact writeFile_writes fs path text _ _
  | some parent =>
    dsimp only
    rw [Script.runOn]
    cases directory : fs.makeDirectory parent with
    | error f => exact .inr ⟨rfl, Nat.one_ne_zero, rfl⟩
    | ok made =>
      rcases writeFile_writes made path text _ _ with wrote | ⟨none, bad, same⟩
      · exact .inl wrote
      · exact .inr ⟨none, bad, same.trans (makeDirectory_files directory)⟩

theorem deliver_delivered (fs : Files) (target : Option String) (text : String) {ended : Outcome × Files}
    (run : (deliver target text).runOn fs = ended) :
    (ended.1.exitCode = 0 ∧ Delivered fs target text ended.1 ended.2) ∨
      ended.1.exitCode ≠ 0 ∧ ended.2.files = fs.files ∧ ¬ Delivered fs target text ended.1 ended.2 := by
  subst run
  cases target with
  | none => exact .inl ⟨rfl, rfl, rfl⟩
  | some path =>
    rcases deliver_path fs path text with ⟨wrote, well, silent⟩ | ⟨unwritten, bad, same⟩
    · exact .inl ⟨well, wrote, written_wrote wrote, silent⟩
    · refine .inr ⟨bad, same, ?_⟩
      rintro ⟨wrote, _⟩
      rw [unwritten] at wrote
      cases wrote

/-! ## Commands -/

theorem prepare_accounts (fs : Files) (input : Option String) (format : Format) (isTyped : Bool) :
    Accounts fs (.ok (.command (.prepare input format isTyped))) ((prepare input format isTyped).runOn fs) := by
  rcases finds_model fs input isTyped fun (_, m) => .finish { stdout := format.write m } with
    ⟨⟨s, m⟩, found, goes⟩ | ⟨none, stopped⟩
  · refine accounts_well (congrArg (·.1.exitCode) goes) ⟨congrArg (·.2) goes, s, m, found, congrArg (·.1.stdout) goes⟩
  · refine Stopped.accounts stopped ?_
    rintro ⟨_, s, m, found, _⟩
    rw [none] at found
    cases found

theorem validate_accounts (fs : Files) (input : String) :
    Accounts fs (.ok (.command (.validate input))) ((validate input).runOn fs) := by
  have finds : Finds fs ((document? fs input).bind fun d => (ofDocument d .default).toOption.map (d, ·))
      fun next => withDocument input fun d => withModel d .default (fun m => next (d, m)) (documentLines d) :=
    (finds_document fs input).bind fun d => (finds_view fs d .default (documentLines d)).map (d, ·)
  rcases finds fun (d, m) =>
      .finish { stderr := documentLines d ++ modelLines m ++ "Validation successful.\n" } with
    ⟨⟨d, m⟩, found, goes⟩ | ⟨none, stopped⟩
  · obtain ⟨d, read, viewed⟩ := Option.bind_eq_some_iff.mp found
    obtain ⟨m, built, _⟩ := Option.map_eq_some_iff.mp viewed
    exact accounts_well (congrArg (·.1.exitCode) goes) ⟨congrArg (·.2) goes, d, m, read, ok_of_toOption built⟩
  · refine Stopped.accounts stopped ?_
    rintro ⟨_, d, m, read, built⟩
    simp [read, built, Except.toOption] at none

theorem render_accounts (fs : Files) (input template output : Option String) :
    Accounts fs (.ok (.command (.render input template output))) ((render input template output).runOn fs) := by
  rcases finds_rendered fs input template fun (s, text) => deliver (output <|> s.output) text with
    ⟨⟨s, text⟩, found, goes⟩ | ⟨none, stopped⟩
  · rcases deliver_delivered fs _ text goes.symm with ⟨well, delivered⟩ | ⟨bad, same, undelivered⟩
    · exact accounts_well well ⟨s, text, found, delivered⟩
    · refine accounts_bad bad same ?_
      rintro ⟨s', text', found', delivered⟩
      obtain ⟨rfl, rfl⟩ : s' = s ∧ text' = text := by simpa [found, eq_comm] using found'
      exact undelivered delivered
  · refine Stopped.accounts stopped ?_
    rintro ⟨s, text, found, _⟩
    rw [none] at found
    cases found

theorem init_accounts (fs : Files) (isForced : Bool) :
    Accounts fs (.ok (.command (.init isForced))) ((init isForced).runOn fs) := by
  rw [init.eq_def, Script.runOn]
  cases refused : fs.has Settings.fileName && !isForced with
  | true =>
    refine Stopped.accounts (fail_stopped fs _ _) ?_
    rintro ⟨allowed, _⟩
    simp_all
  | false =>
    have allowed : fs.has Settings.fileName = false ∨ isForced = true := by
      cases there : fs.has Settings.fileName <;> simp_all
    rcases writeFile_writes fs Settings.fileName Settings.initialText _ _ with ⟨wrote, well, _⟩ | ⟨unwritten, bad, same⟩
    · exact accounts_well well ⟨allowed, ok_of_toOption wrote, write_wrote (ok_of_toOption wrote)⟩
    · refine accounts_bad bad same ?_
      rintro ⟨_, wrote, _⟩
      rw [wrote] at unwritten
      cases unwritten

/-- A run ends well exactly if it has done what its arguments ask for, and else it changes no file. What is asked for
    changes no file but the one that a text is rendered into, and the settings file that is begun. -/
theorem run_accounts (arguments : List String) (fs : Files) :
    Accounts fs (request arguments) ((scriptOf arguments).runOn fs) := by
  unfold scriptOf
  cases request arguments with
  | error e => exact accounts_bad (by simp [Script.runOn]) rfl id
  | ok asked =>
    cases asked with
    | version => exact accounts_well rfl rfl
    | help => exact accounts_well rfl rfl
    | command c =>
      cases c with
      | prepare input format isTyped => exact prepare_accounts fs input format isTyped
      | render input template output => exact render_accounts fs input template output
      | validate input => exact validate_accounts fs input
      | init isForced => exact init_accounts fs isForced
      | completions shell => exact accounts_well rfl rfl

end ApiBindings.FileChanges
