import Mathlib
import SecretAccess.Run

/-!
# Runs that fail

Three things keep a run from showing anything: a configuration that cannot be
used, a blank name for the graph, and a root that is no directory. They are
looked at in this order, the first is reported, and nothing is written or shown
before the last has been passed. Whatever comes later does not make a run fail
(`exit_exact`).
-/

namespace SecretAccess

open CommandLine (Request)
open Host (FileTree)
open Text (isBlankText)

namespace Config

variable {tree : FileTree} {explicit : Option String} {contents : String} {c : Config}
  {o : Overlay} {e : ConfigError}

/-- The text is TOML of the expected shape and sets these values. -/
def Sets (contents : String) (o : Overlay) : Prop :=
  ∃ document, Toml.parse? contents = some document ∧ Overlay.ofToml document = some o

/-- The file that a configuration is read from: the one that is named, or else the
usual one if it exists. -/
inductive ReadFrom (tree : FileTree) : Option String → String → Prop
  | named {path} : ReadFrom tree (some path) path
  | usual : tree.pathExists ".sops-acl.toml" → ReadFrom tree none ".sops-acl.toml"

/-- The configuration that a run goes by. -/
inductive InUse (tree : FileTree) : Option String → Config → Prop
  | default : tree.pathExists ".sops-acl.toml" = false → InUse tree none .default
  | file {explicit path contents o} : ReadFrom tree explicit path →
    tree.readText path = .ok contents → Sets contents o →
    (default.overlay o).validate = .ok () → InUse tree explicit (default.overlay o)

/-- Why there is no configuration to go by. -/
inductive Unusable (tree : FileTree) : Option String → ConfigError → Prop
  | unreadable {explicit path f} : ReadFrom tree explicit path → tree.readText path = .error f →
    Unusable tree explicit (.unreadable f)
  | unparsable {explicit path contents} : ReadFrom tree explicit path →
    tree.readText path = .ok contents → (∀ o, ¬ Sets contents o) →
    Unusable tree explicit .unparsable
  | invalid {explicit path contents o v} : ReadFrom tree explicit path →
    tree.readText path = .ok contents → Sets contents o →
    (default.overlay o).validate = .error v → Unusable tree explicit (.invalid v)

theorem file?_eq_some_iff {path : String} :
    file? tree explicit = some path ↔ ReadFrom tree explicit path := by
  have hname : fileName = ".sops-acl.toml" := rfl
  unfold file?
  rw [hname]
  constructor
  · intro h
    cases explicit with
    | some named =>
      cases h
      exact .named
    | none =>
      obtain ⟨he, hp⟩ := Option.ite_none_right_eq_some.mp h
      cases hp
      exact .usual he
  · rintro (_ | he)
    · rfl
    · exact if_pos he

theorem file?_eq_none_iff :
    file? tree explicit = none ↔ explicit = none ∧ tree.pathExists ".sops-acl.toml" = false := by
  have hname : fileName = ".sops-acl.toml" := rfl
  cases explicit <;> simp [file?, hname]

theorem parse_of_sets (h : Sets contents o) : parse contents = (default.overlay o).check := by
  obtain ⟨document, hd, ho⟩ := h
  simp [parse, hd, ofToml, ho]

theorem parse_of_not_sets (h : ∀ o, ¬ Sets contents o) : parse contents = .error .unparsable := by
  unfold parse
  cases hd : Toml.parse? contents with
  | none => rfl
  | some document =>
    cases ho : Overlay.ofToml document with
    | none => simp [ofToml, ho]
    | some o => exact absurd ⟨document, hd, ho⟩ (h o)

theorem load_of_inUse (h : InUse tree explicit c) : load tree explicit = .ok c := by
  cases h with
  | default he => simp [load, file?_eq_none_iff.mpr ⟨rfl, he⟩]
  | file hf hr hs hv => simp [load, file?_eq_some_iff.mpr hf, read, hr, parse_of_sets hs, check, hv]

theorem load_of_unusable (h : Unusable tree explicit e) : load tree explicit = .error e := by
  cases h with
  | unreadable hf hr => simp [load, file?_eq_some_iff.mpr hf, read, hr]
  | unparsable hf hr hs => simp [load, file?_eq_some_iff.mpr hf, read, hr, parse_of_not_sets hs]
  | invalid hf hr hs hv =>
    simp [load, file?_eq_some_iff.mpr hf, read, hr, parse_of_sets hs, check, hv]

/-- There is always a configuration to go by, or a reason why there is none. -/
theorem inUse_or_unusable (tree : FileTree) (explicit : Option String) :
    (∃ c, InUse tree explicit c) ∨ ∃ e, Unusable tree explicit e := by
  cases hf : file? tree explicit with
  | none =>
    obtain ⟨rfl, he⟩ := file?_eq_none_iff.mp hf
    exact .inl ⟨_, .default he⟩
  | some path =>
    have hf := file?_eq_some_iff.mp hf
    cases hr : tree.readText path with
    | error f => exact .inr ⟨_, .unreadable hf hr⟩
    | ok contents =>
      by_cases hs : ∃ o, Sets contents o
      · obtain ⟨o, hs⟩ := hs
        cases hv : (default.overlay o).validate with
        | ok => exact .inl ⟨_, .file hf hr hs hv⟩
        | error v => exact .inr ⟨_, .invalid hf hr hs hv⟩
      · exact .inr ⟨_, .unparsable hf hr (not_exists.mp hs)⟩

theorem validate_default : default.validate = .ok () := rfl

theorem validate_of_inUse (h : InUse tree explicit c) : c.validate = .ok () := by
  cases h with
  | default => exact validate_default
  | file _ _ _ hv => exact hv

/-- The checks in their order. -/
theorem validate_eq (c : Config) : c.validate =
    if c.keyTypes.isEmpty then .error .noKeyTypes
    else if c.keyTypes.any isBlankText then .error .blankKeyType
    else match c.format with
      | .error v => .error v
      | .ok _ => if isBlankText c.graphOutput then .error .blankConfiguredOutput else .ok () := by
  unfold validate
  cases c.keyTypes.isEmpty
  · cases c.keyTypes.any isBlankText
    · cases c.format
      · rfl
      · cases isBlankText c.graphOutput <;> rfl
    · rfl
  · rfl

/-- A configuration that is accepted never fails later for its format. -/
theorem format_of_validate (h : c.validate = .ok ()) : ∃ f, c.format = .ok f := by
  cases hf : c.format with
  | ok f => exact ⟨f, rfl⟩
  | error v =>
    rw [validate_eq, hf] at h
    split at h
    · cases h
    · split at h <;> cases h

end Config

namespace Settings

variable {r : Request} {c : Config}

/-- The name of the file that a graph would be exported to, without its ending. -/
def outputName (r : Request) (c : Config) : String := r.graphOutput.getD c.graphOutput

def rootPath (r : Request) (c : Config) : String := (r.root.or c.root).getD defaultRoot

/-- Of the settings only the name for the graph is still looked at. -/
theorem resolve_of_validate (hv : c.validate = .ok ()) : ∃ f, chosenFormat r c = .ok f ∧
    resolve r c = if isBlankText (outputName r c) then .error .blankChosenOutput
      else .ok ⟨rootPath r c, c.keyTypes, f, outputName r c⟩ := by
  have hf : ∃ f, chosenFormat r c = .ok f := by
    unfold chosenFormat
    cases r.graphFormat with
    | some f => exact ⟨f, rfl⟩
    | none => exact Config.format_of_validate hv
  obtain ⟨f, hf⟩ := hf
  refine ⟨f, hf, ?_⟩
  by_cases hb : isBlankText (outputName r c)
  all_goals
    rw [outputName] at hb
    simp [resolve, hf, hb, bind, Except.bind, outputName, rootPath]

end Settings

namespace Run

variable {tree : FileTree} {w : World} {wording : Wording} {r : Request} {f : Failure}

-- ---------------------------------------------------------------------------
-- What is wrong
-- ---------------------------------------------------------------------------

/-- Something is wrong with what a run has to go by. -/
def Fails (tree : FileTree) (r : Request) : Prop :=
  (∃ e, Config.Unusable tree r.config e) ∨
    (∃ c, Config.InUse tree r.config c ∧ isBlankText (Settings.outputName r c)) ∨
    ∃ c, Config.InUse tree r.config c ∧ ¬ tree.isDirectory (Settings.rootPath r c)

/-- The first thing that is wrong: the configuration, the name for the graph,
the root. -/
inductive FirstFailure (tree : FileTree) (r : Request) : Failure → Prop
  | config {e} : Config.Unusable tree r.config e → FirstFailure tree r (.config e)
  | output {c} : Config.InUse tree r.config c → isBlankText (Settings.outputName r c) →
    FirstFailure tree r (.config (.invalid .blankChosenOutput))
  | root {c} : Config.InUse tree r.config c → ¬ isBlankText (Settings.outputName r c) →
    ¬ tree.isDirectory (Settings.rootPath r c) →
    FirstFailure tree r (.rootMissing (Settings.rootPath r c))

theorem fails_iff_firstFailure : Fails tree r ↔ ∃ f, FirstFailure tree r f := by
  constructor
  · rintro (⟨e, he⟩ | ⟨c, hc, hb⟩ | ⟨c, hc, hd⟩)
    · exact ⟨_, .config he⟩
    · exact ⟨_, .output hc hb⟩
    · by_cases hb : isBlankText (Settings.outputName r c)
      · exact ⟨_, .output hc hb⟩
      · exact ⟨_, .root hc hb hd⟩
  · rintro ⟨f, ⟨he⟩ | ⟨hc, hb⟩ | ⟨hc, -, hd⟩⟩
    · exact .inl ⟨_, he⟩
    · exact .inr (.inl ⟨_, hc, hb⟩)
    · exact .inr (.inr ⟨_, hc, hd⟩)

theorem settings_of_firstFailure (h : FirstFailure w.tree r f) : settings w r = .error f := by
  unfold settings
  cases h with
  | config he => rw [Config.load_of_unusable he]
  | output hc hb =>
    obtain ⟨g, -, hs⟩ := Settings.resolve_of_validate (r := r) (Config.validate_of_inUse hc)
    simp [Config.load_of_inUse hc, hs, hb]
  | root hc hb hd =>
    obtain ⟨g, -, hs⟩ := Settings.resolve_of_validate (r := r) (Config.validate_of_inUse hc)
    simp [Config.load_of_inUse hc, hs, hb, hd]

theorem settings_of_not_fails (h : ¬ Fails w.tree r) : ∃ s, settings w r = .ok s := by
  rcases Config.inUse_or_unusable w.tree r.config with ⟨c, hc⟩ | ⟨e, he⟩
  · obtain ⟨g, -, hs⟩ := Settings.resolve_of_validate (r := r) (Config.validate_of_inUse hc)
    have hb : isBlankText (Settings.outputName r c) = false :=
      Bool.eq_false_iff.mpr fun hb => h (.inr (.inl ⟨c, hc, hb⟩))
    have hd : w.tree.isDirectory (Settings.rootPath r c) :=
      Decidable.byContradiction fun hd => h (.inr (.inr ⟨c, hc, hd⟩))
    refine ⟨⟨Settings.rootPath r c, c.keyTypes, g, Settings.outputName r c⟩, ?_⟩
    simp [settings, Config.load_of_inUse hc, hs, hb, hd]
  · exact absurd (.inl ⟨e, he⟩) h

-- ---------------------------------------------------------------------------
-- What a run leaves
-- ---------------------------------------------------------------------------

/-- The lines of the log for some events, as far as its filter lets them pass. -/
def logText (w : World) (wording : Wording) (r : Request) (es : List Log.Event) : String :=
  let filter := Log.Filter.ofRun (w.environment.get? Environment.logVariable) r.verbose
  String.join ((es.filter filter.passes).map (Log.line wording.json w.environment.logTheme))

/-- What is seen of a run that ended with a failure. -/
structure Reports (w : World) (wording : Wording) (r : Request) (f : Failure)
    (result : Result) : Prop where
  exit : result.exit = 1
  tree : result.tree = w.tree
  output : result.output =
    (f.hint?.map (Display.Notice.hint (w.environment.outputTheme r.basic))).getD ""
  errors : result.errors = logText w wording r (configEvents w.tree r.config) ++
    Display.Notice.failure (w.environment.outputTheme r.basic) (f.message wording)

@[simp] theorem outputText_logs (es : List Log.Event) :
    String.join ((logs es).map outputText) = "" := by
  induction es with
  | nil => rfl
  | cons e es ih => simpa [logs, outputText] using ih

theorem errorText_logs (t : Display.Theme) (filter : Log.Filter) (es : List Log.Event) :
    String.join ((logs es).map (errorText wording t filter)) =
      String.join ((es.filter filter.passes).map (Log.line wording.json t)) := by
  induction es with
  | nil => rfl
  | cons e es ih =>
    have hl : logs (e :: es) = .log e :: logs es := rfl
    rw [hl, List.map_cons, String.join_cons, ih, List.filter_cons]
    split
    case isTrue he => simp [errorText, he]
    case isFalse he => simp [errorText, he]

theorem reports_of_firstFailure (hs : r.shell = none) (h : FirstFailure w.tree r f) :
    Reports w wording r f (finish w wording r (execute w r)) := by
  have hx : execute w r = failed w (logs (configEvents w.tree r.config)) f := by
    simp [execute, hs, settings_of_firstFailure h]
  rw [hx]
  refine ⟨rfl, rfl, ?_, ?_⟩
  · cases hh : f.hint? <;>
      simp [finish, failed, closing, failureEmissions, hh, outputText]
  · cases hh : f.hint? <;>
      simp [finish, failed, closing, failureEmissions, hh, errorText, errorText_logs, logText]

theorem failure_execute (hs : r.shell = none) {s : Settings} (h : settings w r = .ok s) :
    (execute w r).failure = none := by
  have hp : ∀ hierarchy, (present w r s hierarchy).failure = none := by
    intro hierarchy
    unfold present
    split
    · rfl
    · simp only
      split <;> rfl
  simp [execute, hs, h, scanAndPresent, hp]

/-- A run without a subcommand fails just when its configuration cannot be used,
its name for the graph is blank or its root is no directory. It then reports
the first of these, leaves the files as they are, and shows one line of advice
or nothing. Any other run succeeds. -/
theorem exit_exact (w : World) (wording : Wording) {args : List String} {r : Request}
    (hp : CommandLine.parse w.environment.root? args = .ok r) (hs : r.shell = none) :
    ((run w wording args).exit = 1 ↔ Fails w.tree r) ∧
      ((run w wording args).exit = 0 ↔ ¬ Fails w.tree r) ∧
      (Fails w.tree r ↔ ∃ f, FirstFailure w.tree r f) ∧
      ∀ f, FirstFailure w.tree r f → Reports w wording r f (run w wording args) := by
  have hrun : run w wording args = finish w wording r (execute w r) := by
    simp [run, hp]
  have hfail : Fails w.tree r → (run w wording args).exit = 1 := by
    rw [fails_iff_firstFailure]
    rintro ⟨f, hf⟩
    exact hrun ▸ (reports_of_firstFailure hs hf).exit
  have hpass : ¬ Fails w.tree r → (run w wording args).exit = 0 := by
    intro hn
    obtain ⟨s, hset⟩ := settings_of_not_fails hn
    simp [hrun, finish, failure_execute hs hset]
  refine ⟨⟨fun hx => ?_, hfail⟩, ⟨fun hx hf => ?_, hpass⟩, fails_iff_firstFailure, ?_⟩
  · refine Classical.byContradiction fun hn => ?_
    simp [hpass hn] at hx
  · simp [hfail hf] at hx
  · exact fun f hf => hrun ▸ reports_of_firstFailure hs hf

/-- Nothing is right here: the usual configuration file is a directory, and
there is no root. -/
def brokenWorld : World where
  tree :=
    { entries := [(Host.Path.names (Text.Utf8.encode ".sops-acl.toml"), .directory)]
      working := [] }
  environment := ⟨[]⟩
  tool _ _ := .notStarted .notFound

def blankOutput : Request := { Request.empty with graphOutput := some " " }

/-- Only the first thing that is wrong is reported. -/
theorem brokenWorld_reports_config :
    CommandLine.parse brokenWorld.environment.root? ["--graph-output", " "] = .ok blankOutput ∧
      blankOutput.shell = none ∧
      (run brokenWorld .brief ["--graph-output", " "]).exit = 1 ∧
      Reports brokenWorld .brief blankOutput (.config (.unreadable .isADirectory))
        (run brokenWorld .brief ["--graph-output", " "]) := by
  have hp : CommandLine.parse brokenWorld.environment.root? ["--graph-output", " "] =
      .ok blankOutput := rfl
  have hexists : brokenWorld.tree.pathExists ".sops-acl.toml" := by cbv
  have hread : brokenWorld.tree.readText ".sops-acl.toml" = .error .isADirectory := by cbv
  have hf : FirstFailure brokenWorld.tree blankOutput (.config (.unreadable .isADirectory)) :=
    .config (.unreadable (.usual hexists) hread)
  obtain ⟨hexit, -, hfirst, hreports⟩ := exit_exact brokenWorld .brief hp rfl
  exact ⟨hp, rfl, hexit.mpr (hfirst.mpr ⟨_, hf⟩), hreports _ hf⟩

end Run

end SecretAccess
