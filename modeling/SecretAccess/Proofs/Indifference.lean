import SecretAccess.Proofs.Composition

/-!
# What does not show

How much is logged, and in which colours things are printed, has no bearing on
what comes out of a run. The log goes to the error stream alone, and neither a
report in JSON nor the source of a graph is printed in a theme. One thing is out
of the program's hands: graphviz is given the environment as it is, and a program
of that name may go by any variable in it (`log_and_colours_do_not_show`).
-/

namespace SecretAccess

open CommandLine (Request)

namespace Environment

/-- The variables that settle whether colours are used. -/
def colourVariables : List String := ["NO_COLOR", "CLICOLOR", "CLICOLOR_FORCE"]

/-- The second environment says the same as the first on all other variables. -/
def AlikeBut (names : List String) (e e' : Environment) : Prop :=
  ∀ name, name ∉ names → e'.get? name = e.get? name

namespace AlikeBut

variable {names names' : List String} {e e' : Environment}

theorem mono (h : AlikeBut names e e') (hn : names ⊆ names') : AlikeBut names' e e' :=
  fun name hname => h name fun hmem => hname (hn hmem)

theorem root? (h : AlikeBut (logVariable :: colourVariables) e e') : e'.root? = e.root? :=
  h rootVariable (by decide)

theorem searchPath (h : AlikeBut (logVariable :: colourVariables) e e') :
    e'.searchPath = e.searchPath := by
  have hp := h pathVariable (by decide)
  have hh := h homeVariable (by decide)
  unfold Environment.searchPath home?
  rw [hp, hh]

theorem outputTheme (h : AlikeBut [logVariable] e e') (basic : Bool) :
    e'.outputTheme basic = e.outputTheme basic := by
  have hf := h "CLICOLOR_FORCE" (by decide)
  have hn := h "NO_COLOR" (by decide)
  unfold Environment.outputTheme forcesColour
  rw [hf, hn]

theorem usageText (h : AlikeBut [logVariable] e e') (text : String) :
    e'.usageText text = e.usageText text := by
  have hf := h "CLICOLOR_FORCE" (by decide)
  have hn := h "NO_COLOR" (by decide)
  unfold Environment.usageText stylesUsage hasValue
  rw [hf, hn]

theorem withColours (h : AlikeBut [logVariable] e e') :
    AlikeBut (logVariable :: colourVariables) e e' :=
  h.mono (List.cons_subset_cons _ (List.nil_subset _))

end AlikeBut

end Environment

namespace CommandLine.Request

variable {r r' : Request}

/-- The request without its say in what is logged. -/
def quiet (r : Request) : Request := { r with verbose := false }

/-- The request without its say in what is logged and in colours. -/
def bare (r : Request) : Request := { r with verbose := false, basic := false }

theorem bare_of_quiet (h : r'.quiet = r.quiet) : r'.bare = r.bare :=
  (congrArg bare h :)

theorem exists_of_quiet (h : r'.quiet = r.quiet) : ∃ v, r' = { r with verbose := v } := by
  obtain ⟨⟩ := r
  obtain ⟨⟩ := r'
  cases h
  exact ⟨_, rfl⟩

theorem shell_of_bare (h : r'.bare = r.bare) : r'.shell = r.shell := (congrArg shell h :)

theorem json_of_bare (h : r'.bare = r.bare) : r'.json = r.json := (congrArg json h :)

theorem exists_of_bare (h : r'.bare = r.bare) :
    ∃ b v, r' = { r with basic := b, verbose := v } := by
  obtain ⟨⟩ := r
  obtain ⟨⟩ := r'
  cases h
  exact ⟨_, _, rfl⟩

end CommandLine.Request

namespace Run

open Host (Invocation)

variable {w : World} {wording : Wording} {r r' : Request} {s : Settings} {e : Environment}

/-- The same files and programs, in another environment. -/
def World.under (w : World) (e : Environment) : World := { w with environment := e }

@[simp] theorem World.under_tree (w : World) (e : Environment) : (w.under e).tree = w.tree := rfl

/-- The second run differs from the first in how much it logs: by its command line,
or by the variable of the log. -/
structure LogsApart (w : World) (e : Environment) (args args' : List String) : Prop where
  environment : w.environment.AlikeBut [Environment.logVariable] e
  read : (CommandLine.parse e.root? args').map Request.quiet =
    (CommandLine.parse w.environment.root? args).map Request.quiet

/-- The second run differs from the first in how much it logs and in colours. -/
structure ColoursApart (w : World) (e : Environment) (args args' : List String) : Prop where
  environment :
    w.environment.AlikeBut (Environment.logVariable :: Environment.colourVariables) e
  read : (CommandLine.parse e.root? args').map Request.bare =
    (CommandLine.parse w.environment.root? args).map Request.bare

/-- The run gets as far as exporting the graph, and goes by these settings. -/
structure Exports (w : World) (r : Request) (s : Settings) : Prop where
  shell : r.shell = none
  json : r.json = false
  chosen : (Selection.ofRequest r).graph = true
  settings : settings w r = .ok s

/-- What an export in DOT does. -/
def sourceOutcome (w : World) (s : Settings) : Export.Outcome :=
  Export.writeSource w.tree (Dot.render (scanned w s).graph) (Export.path .dot s.graphOutput)

/-- The run starts graphviz, in this way. -/
def Starts (w : World) (r : Request) (i : Invocation) : Prop :=
  ∃ s program, Exports w r s ∧ s.graphFormat.needsGraphviz ∧
    w.tree.which w.environment.searchPath Export.program = some program ∧
    i = Export.invocation w.environment program (Dot.render (scanned w s).graph) s.graphFormat
      (Export.path s.graphFormat s.graphOutput)

/-- Where the run starts graphviz, the program does in the one environment what
it does in the other: it takes what it is given to read or not, leaves the same
files and ends in the same way. -/
def DrawsAlike (w : World) (e : Environment) (r : Request) : Prop :=
  ∀ i, Starts w r i → w.tool w.tree { i with environment := e.bindings } = w.tool w.tree i

-- ---------------------------------------------------------------------------
-- Two requests for the same
-- ---------------------------------------------------------------------------

theorem settings_under (e : Environment) (hr : r'.bare = r.bare) :
    settings (w.under e) r' = settings w r := by
  obtain ⟨b, v, rfl⟩ := Request.exists_of_bare hr
  rfl

theorem Exports.under (hx : Exports w r s) (e : Environment) (hr : r'.bare = r.bare) :
    Exports (w.under e) r' s := by
  have hset := (settings_under e hr).trans hx.settings
  obtain ⟨b, v, rfl⟩ := Request.exists_of_bare hr
  exact ⟨hx.shell, hx.json, hx.chosen, hset⟩

theorem failure_under (e : Environment) (hr : r'.bare = r.bare) :
    (execute (w.under e) r').failure = (execute w r).failure := by
  have hs' := Request.shell_of_bare hr
  have hset' := settings_under (w := w) e hr
  cases hs : r.shell with
  | some shell => simp [execute, hs, hs']
  | none =>
    cases hset : settings w r with
    | ok s => rw [failure_execute hs hset, failure_execute (hs'.trans hs) (hset'.trans hset)]
    | error f => simp [execute, hs, hs', hset, hset', failed]

theorem exit_under (e : Environment) (hr : r'.bare = r.bare) :
    (carryOut (w.under e) wording r').exit = (carryOut w wording r).exit := by
  simp only [carryOut, finish, failure_under e hr]

theorem exportOutcome_source (hf : s.graphFormat = .dot) :
    exportOutcome w s (scanned w s) = sourceOutcome w s := by
  unfold exportOutcome Export.run
  rw [hf]
  rfl

theorem tree_carryOut (hx : Exports w r s) :
    (carryOut w wording r).tree = (exportOutcome w s (scanned w s)).tree := by
  have hp : (present w r s (scanned w s)).tree = (exportOutcome w s (scanned w s)).tree := by
    simp [present, hx.json, hx.chosen, exportOutcome]
  simp only [carryOut, finish, execute, hx.shell, hx.settings, scanAndPresent]
  exact hp

theorem output_json (hs : r.shell = none) (hj : r.json = true) (hset : settings w r = .ok s) :
    (carryOut w wording r).output = reportText (scanned w s) r := by
  have hp : (present w r s (scanned w s)).emissions = [.output (reportText (scanned w s) r)] := by
    simp [present, hj]
  rw [output_eq_present wording hs hset, hp]
  simp [outputOf, outputText]

-- ---------------------------------------------------------------------------
-- Runs that log otherwise
-- ---------------------------------------------------------------------------

theorem exportOutcome_under
    (he : Environment.AlikeBut [Environment.logVariable] w.environment e) (hx : Exports w r s)
    (hd : DrawsAlike w e r) :
    exportOutcome (w.under e) s (scanned w s) = exportOutcome w s (scanned w s) := by
  have hp : (w.under e).environment.searchPath = w.environment.searchPath :=
    he.withColours.searchPath
  unfold exportOutcome Export.run
  rw [hp]
  by_cases hn : s.graphFormat.needsGraphviz
  case neg => simp only [hn, Bool.false_eq_true, if_false, World.under]
  case pos =>
    simp only [hn, if_true, World.under]
    cases hw : w.tree.which w.environment.searchPath Export.program with
    | none => rfl
    | some program =>
      have ht : w.tool w.tree (Export.invocation e program (Dot.render (scanned w s).graph)
          s.graphFormat (Export.path s.graphFormat s.graphOutput)) = _ :=
        hd _ ⟨s, program, hx, hn, hw, rfl⟩
      simp only [Export.draw]
      rw [ht]

theorem present_under (he : Environment.AlikeBut [Environment.logVariable] w.environment e)
    (hd : DrawsAlike w e r) (hs : r.shell = none) (hset : settings w r = .ok s) :
    present (w.under e) r s (scanned w s) = present w r s (scanned w s) := by
  have ht : (w.under e).environment.outputTheme = w.environment.outputTheme :=
    funext he.outputTheme
  unfold present
  rw [ht]
  by_cases hj : r.json = true
  case pos =>
    simp only [hj, if_true]
    rfl
  case neg =>
    by_cases hg : (Selection.ofRequest r).graph = true
    case pos =>
      have hx := exportOutcome_under he ⟨hs, Bool.eq_false_iff.mpr hj, hg, hset⟩ hd
      unfold exportOutcome at hx
      simp only [hj, hg, hx, if_true, Bool.false_eq_true, if_false]
    case neg =>
      simp only [hj, hg, Bool.false_eq_true, if_false]
      rfl

/-- Not even the events differ, only which of them the log lets pass. -/
theorem execute_under (he : Environment.AlikeBut [Environment.logVariable] w.environment e)
    (hd : DrawsAlike w e r) : execute (w.under e) r = execute w r := by
  have hset' := settings_under (w := w) (r := r) e rfl
  unfold execute
  rw [hset']
  cases hs : r.shell with
  | some shell => rfl
  | none =>
    cases hset : settings w r with
    | error f => rfl
    | ok s =>
      have hp : present (w.under e) r s (Hierarchy.run (Scan.steps w.tree s.root s.keyTypes).value) =
          present w r s (Hierarchy.run (Scan.steps w.tree s.root s.keyTypes).value) :=
        present_under he hd hs hset
      simp only [scanAndPresent, World.under_tree, hp]

theorem execute_quiet (hr : r'.quiet = r.quiet) : execute w r' = execute w r := by
  obtain ⟨v, rfl⟩ := Request.exists_of_quiet hr
  rfl

-- ---------------------------------------------------------------------------
-- Whole runs
-- ---------------------------------------------------------------------------

theorem stopped_under (he : Environment.AlikeBut [Environment.logVariable] w.environment e)
    (stop : CommandLine.Stop) : stopped (w.under e) stop = stopped w stop := by
  have hu : (w.under e).environment.usageText = w.environment.usageText := funext he.usageText
  have hr : (w.under e).environment.root? = w.environment.root? := he.withColours.root?
  unfold stopped
  rw [hu, hr]
  rfl

/-- Runs that go the same way show the same, however much they log. -/
theorem output_of_execute
    (he : Environment.AlikeBut [Environment.logVariable] w.environment e)
    (hr : r'.quiet = r.quiet) (hx : execute (w.under e) r' = execute w r) :
    (carryOut (w.under e) wording r').output = (carryOut w wording r).output ∧
      (carryOut (w.under e) wording r').tree = (carryOut w wording r).tree := by
  have ht : (w.under e).environment.outputTheme = w.environment.outputTheme :=
    funext he.outputTheme
  have hc : closing (w.under e) wording r' (execute w r) = closing w wording r (execute w r) := by
    obtain ⟨v, rfl⟩ := Request.exists_of_quiet hr
    unfold closing
    rw [ht]
  simp only [carryOut, finish, hx, hc, and_self]

theorem output_json_under (hr : r'.bare = r.bare) (hj : r.json = true)
    (hx : (carryOut w wording r).exit = 0) :
    (carryOut (w.under e) wording r').output = (carryOut w wording r).output := by
  have hs' := Request.shell_of_bare hr
  cases hs : r.shell with
  | some shell => simp [carryOut, finish, execute, closing, hs, hs']
  | none =>
    obtain ⟨s, hset⟩ := exists_settings_of_exit hs hx
    have hj' := (Request.json_of_bare hr).trans hj
    have hset' := (settings_under (w := w) e hr).trans hset
    rw [output_json hs hj hset, output_json (hs'.trans hs) hj' hset']
    obtain ⟨b, v, rfl⟩ := Request.exists_of_bare hr
    rfl

theorem exists_of_map_eq {f : Request → Request} {x y : Except CommandLine.Stop Request}
    (h : y.map f = x.map f) (hx : x = .ok r) : ∃ r', y = .ok r' ∧ f r' = f r := by
  subst hx
  cases y with
  | error stop => cases h
  | ok r' => exact ⟨r', rfl, Except.ok.inj h⟩

theorem eq_error_of_map_eq {f : Request → Request} {x y : Except CommandLine.Stop Request}
    {stop : CommandLine.Stop} (h : y.map f = x.map f) (hx : x = .error stop) :
    y = .error stop := by
  subst hx
  cases y with
  | error stop' => exact h
  | ok r' => cases h

/-- Runs that differ in how much they log end in the same way, show the same and
leave the same files, unless they start graphviz and this goes by the variable
of the log. Runs that differ in colours besides show the same report in JSON if
they succeed, and write the same source where they export the graph in DOT. -/
theorem log_and_colours_do_not_show (w : World) (wording : Wording) (e : Environment)
    (args args' : List String) :
    (LogsApart w e args args' →
      (run (w.under e) wording args').exit = (run w wording args).exit ∧
        ((∀ r, CommandLine.parse w.environment.root? args = .ok r → DrawsAlike w e r) →
          (run (w.under e) wording args').output = (run w wording args).output ∧
            (run (w.under e) wording args').tree = (run w wording args).tree)) ∧
      (ColoursApart w e args args' →
        ∀ r, CommandLine.parse w.environment.root? args = .ok r →
          (r.json = true → (run w wording args).exit = 0 →
            (run (w.under e) wording args').exit = 0 ∧
              (run (w.under e) wording args').output = (run w wording args).output) ∧
          ∀ s, Exports w r s → s.graphFormat = .dot →
            exportOutcome w s (scanned w s) = sourceOutcome w s ∧
              (run w wording args).tree = (sourceOutcome w s).tree ∧
              ∃ r', CommandLine.parse e.root? args' = .ok r' ∧ Exports (w.under e) r' s ∧
                exportOutcome (w.under e) s (scanned (w.under e) s) = sourceOutcome w s ∧
                (run (w.under e) wording args').tree = (sourceOutcome w s).tree) := by
  refine ⟨fun ⟨he, hread⟩ => ?_, fun ⟨he, hread⟩ r hp => ?_⟩
  · cases hp : CommandLine.parse w.environment.root? args with
    | error stop =>
      have hp' : CommandLine.parse (w.under e).environment.root? args' = .error stop :=
        eq_error_of_map_eq hread hp
      simp only [run, hp, hp', stopped_under he, and_self, implies_true]
    | ok r =>
      obtain ⟨r', hp', hr⟩ := exists_of_map_eq hread hp
      have hrun' : run (w.under e) wording args' = carryOut (w.under e) wording r' :=
        run_eq_carryOut hp'
      rw [run_eq_carryOut hp, hrun']
      refine ⟨exit_under e (Request.bare_of_quiet hr), fun hd => ?_⟩
      exact output_of_execute he hr ((execute_quiet hr).trans (execute_under he (hd r rfl)))
  · obtain ⟨r', hp', hr⟩ := exists_of_map_eq hread hp
    have hrun' : run (w.under e) wording args' = carryOut (w.under e) wording r' :=
      run_eq_carryOut hp'
    rw [run_eq_carryOut hp, hrun']
    refine ⟨fun hj hx => ⟨(exit_under e hr).trans hx, output_json_under hr hj hx⟩, ?_⟩
    intro s hs hf
    have hs' := hs.under e hr
    have ho : exportOutcome w s (scanned w s) = sourceOutcome w s := exportOutcome_source hf
    have ho' : exportOutcome (w.under e) s (scanned (w.under e) s) = sourceOutcome w s :=
      exportOutcome_source hf
    refine ⟨ho, ?_, r', hp', hs', ho', ?_⟩
    · rw [tree_carryOut hs, ho]
    · rw [tree_carryOut hs', ho']

-- ---------------------------------------------------------------------------
-- Graphviz sees the environment
-- ---------------------------------------------------------------------------

/-- Somebody has an account, and there is a program by the name of graphviz. -/
def pictureTree : Host.FileTree where
  entries :=
    [(["bin"].map Text.Utf8.encode, .directory),
      (["bin", "dot"].map Text.Utf8.encode, .program "dot"),
      (["sops"].map Text.Utf8.encode, .directory),
      (["sops", "users"].map Text.Utf8.encode, .directory),
      (["sops", "users", "ana"].map Text.Utf8.encode, .directory)]
  working := []

def pictureEnvironment (level : String) : Environment :=
  ⟨[("PATH", "/bin"), (Environment.logVariable, level)]⟩

/-- The end of a program that has written this down as a picture. -/
def painted (tree : Host.FileTree) (text : String) (successful : Bool) : Host.ToolOutcome :=
  match tree.write "sops_hierarchy.png" (Text.Utf8.encode text) with
  | .ok (.stored tree) => .ended tree successful []
  | .ok (.shown _) | .error _ => .ended tree false []

/-- Paints how much is to be logged, and takes only one level for right. -/
def tattler : Host.Tool := fun tree i =>
  let level := (i.environment.lookup Environment.logVariable).getD ""
  painted tree level (level = "off")

/-- Paints what it is given to read. -/
def painter : Host.Tool := fun tree i => painted tree i.input true

def tattlerWorld (level : String) : World := ⟨pictureTree, pictureEnvironment level, tattler⟩

def pictureArguments : List String := ["--graph", "--no-summary"]

def pictureRequest : Request := { Request.empty with graph := true, noSummary := true }

def pictureSettings : Settings := ⟨"./sops", ["age"], .png, "sops_hierarchy"⟩

theorem parse_pictureArguments (level : String) :
    CommandLine.parse (pictureEnvironment level).root? pictureArguments = .ok pictureRequest := rfl

theorem settings_pictureTree (hw : w.tree = pictureTree) (hc : r.config = none)
    (hr : Settings.resolve r .default = .ok s) (hroot : s.root = "./sops") :
    settings w r = .ok s := by
  have he : pictureTree.pathExists ".sops-acl.toml" = false := by cbv
  have hl : Config.load pictureTree none = .ok .default := Config.load_of_inUse (.default he)
  have hd : pictureTree.isDirectory "./sops" := by cbv
  simp [settings, hw, hc, hl, hr, hroot, hd]

theorem alikeBut_pictureEnvironment (level level' : String) :
    (pictureEnvironment level).AlikeBut [Environment.logVariable] (pictureEnvironment level') := by
  intro name hn
  have hl : name ≠ Environment.logVariable := List.mem_singleton.not.mp hn
  simp [Environment.get?, pictureEnvironment, List.lookup_cons, beq_eq_false_iff_ne.mpr hl]

theorem which_pictureTree (level : String) :
    pictureTree.which (pictureEnvironment level).searchPath Export.program = some "/bin/dot" := by
  have hp : (pictureEnvironment level).searchPath = ["/bin"] := rfl
  rw [hp]
  cbv

/-- The same files and a picture with these contents. -/
def withPicture (contents : List UInt8) : Host.FileTree :=
  { pictureTree with
    entries := pictureTree.entries ++
      [(["sops_hierarchy.png"].map Text.Utf8.encode, .file contents false)] }

theorem write_pictureTree (contents : List UInt8) :
    pictureTree.write "sops_hierarchy.png" contents = .ok (.stored (withPicture contents)) := by
  cbv

theorem withPicture_inj {contents contents' : List UInt8} :
    withPicture contents = withPicture contents' ↔ contents = contents' := by
  simp [withPicture]

theorem exports_pictureTree (hw : w.tree = pictureTree) :
    Exports w pictureRequest pictureSettings :=
  ⟨rfl, rfl, rfl, settings_pictureTree hw rfl rfl rfl⟩

/-- How the picture of the tattler ends. -/
def tattlerProblem (level : String) : Option Export.Problem :=
  if level = "off" then none
  else some (.toolFailed (Text.trim (Text.Utf8.decodeLossy [])))

theorem exportOutcome_tattler (level : String) (h : Hierarchy) :
    (exportOutcome (tattlerWorld level) pictureSettings h).tree =
        withPicture (Text.Utf8.encode level) ∧
      (exportOutcome (tattlerWorld level) pictureSettings h).problem = tattlerProblem level := by
  have hn : pictureSettings.graphFormat.needsGraphviz = true := rfl
  have hl : (pictureEnvironment level).bindings.lookup Environment.logVariable = some level := rfl
  have ht : tattler pictureTree (Export.invocation (pictureEnvironment level) "/bin/dot"
      (Dot.render h.graph) pictureSettings.graphFormat
      (Export.path pictureSettings.graphFormat pictureSettings.graphOutput)) =
      .ended (withPicture (Text.Utf8.encode level)) (level = "off") [] := by
    simp only [tattler, painted, Export.invocation, hl, Option.getD_some, write_pictureTree]
  simp only [exportOutcome, Export.run, tattlerWorld, hn, if_true, which_pictureTree, Export.draw, ht]
  by_cases ho : level = "off"
  · simp [ho, tattlerProblem]
  · simp [ho, tattlerProblem]

theorem run_tattler (level : String) :
    (run (tattlerWorld level) .brief pictureArguments).tree =
        withPicture (Text.Utf8.encode level) ∧
      (run (tattlerWorld level) .brief pictureArguments).output =
        statusLines .plain "sops_hierarchy.png" (tattlerProblem level) ++ "\n" := by
  have hx : Exports (tattlerWorld level) pictureRequest pictureSettings := exports_pictureTree rfl
  have hd : ∀ h, divertedSource (tattlerWorld level).tree pictureSettings h = "" := fun h => rfl
  have ht : (tattlerWorld level).environment.outputTheme pictureRequest.basic = .plain := rfl
  have hv : TextView.every.filter (·.isChosen (.ofRequest pictureRequest)) = [] := rfl
  have hg : (Selection.ofRequest pictureRequest).graph = true := rfl
  have hns : pictureRequest.noSummary = true := rfl
  have hp : Export.path pictureSettings.graphFormat pictureSettings.graphOutput =
      "sops_hierarchy.png" := by decide
  have ho := exportOutcome_tattler level (scanned (tattlerWorld level) pictureSettings)
  have hrun : run (tattlerWorld level) .brief pictureArguments =
      carryOut (tattlerWorld level) .brief pictureRequest :=
    run_eq_carryOut (parse_pictureArguments level)
  rw [hrun, tree_carryOut hx, output_carryOut .brief hx.shell hx.json hx.settings]
  refine ⟨ho.1, ?_⟩
  simp [composed, exportText, hd, ht, hv, hg, hns, hp, ho.2]

/-- A program that goes by the variable of the log makes the run depend on it, in
its files and in what it shows. -/
theorem tattler_tells :
    LogsApart (tattlerWorld "off") (pictureEnvironment "warn") pictureArguments
        pictureArguments ∧
      CommandLine.parse (pictureEnvironment "off").root? pictureArguments = .ok pictureRequest ∧
      (run ((tattlerWorld "off").under (pictureEnvironment "warn")) .brief pictureArguments).tree ≠
        (run (tattlerWorld "off") .brief pictureArguments).tree ∧
      (run ((tattlerWorld "off").under (pictureEnvironment "warn")) .brief
          pictureArguments).output ≠
        (run (tattlerWorld "off") .brief pictureArguments).output := by
  obtain ⟨htree, hout⟩ := run_tattler "off"
  obtain ⟨htree', hout'⟩ := run_tattler "warn"
  have hunder : (tattlerWorld "off").under (pictureEnvironment "warn") = tattlerWorld "warn" := rfl
  rw [hunder]
  refine ⟨⟨alikeBut_pictureEnvironment _ _, rfl⟩, parse_pictureArguments _, ?_, ?_⟩
  · rw [htree, htree', ne_eq, withPicture_inj]
    decide +kernel
  · rw [hout, hout']
    decide +kernel

def painterWorld : World := ⟨pictureTree, pictureEnvironment "warn", painter⟩

def colourfulEnvironment : Environment :=
  ⟨[("PATH", "/bin"), ("CLICOLOR_FORCE", "1"), (Environment.logVariable, "debug")]⟩

theorem alikeBut_colourfulEnvironment :
    (pictureEnvironment "warn").AlikeBut (Environment.logVariable :: Environment.colourVariables)
      colourfulEnvironment := by
  intro name hn
  simp only [Environment.colourVariables, List.mem_cons, not_or] at hn
  obtain ⟨hl, -, -, hf, -⟩ := hn
  simp [Environment.get?, pictureEnvironment, colourfulEnvironment, List.lookup_cons,
    beq_eq_false_iff_ne.mpr hl, beq_eq_false_iff_ne.mpr hf]

/-- A program that only looks at the graph draws it whatever is logged. -/
theorem painterWorld_indifferent :
    DrawsAlike painterWorld (pictureEnvironment "debug") pictureRequest ∧
      (run (painterWorld.under (pictureEnvironment "debug")) .brief
          ("-v" :: pictureArguments)).output = (run painterWorld .brief pictureArguments).output ∧
      (run (painterWorld.under (pictureEnvironment "debug")) .brief
          ("-v" :: pictureArguments)).tree = (run painterWorld .brief pictureArguments).tree ∧
      (run painterWorld .brief ["--json"]).exit = 0 ∧
      (run (painterWorld.under colourfulEnvironment) .brief ["--json", "--basic"]).output =
        (run painterWorld .brief ["--json"]).output ∧
      Exports painterWorld graphRequest graphSettings ∧
      (run (painterWorld.under colourfulEnvironment) .brief ("--basic" :: graphArguments)).tree =
        (run painterWorld .brief graphArguments).tree := by
  have hd : DrawsAlike painterWorld (pictureEnvironment "debug") pictureRequest := fun i _ => rfl
  have hpic : CommandLine.parse painterWorld.environment.root? pictureArguments =
      .ok pictureRequest := rfl
  have hjson : CommandLine.parse painterWorld.environment.root? ["--json"] =
      .ok { Request.empty with json := true } := rfl
  have hset : settings painterWorld { Request.empty with json := true } = .ok pictureSettings :=
    settings_pictureTree rfl rfl rfl rfl
  have hx : (run painterWorld .brief ["--json"]).exit = 0 := by
    rw [run_eq_carryOut hjson]
    exact exit_carryOut .brief rfl hset
  have hs : Exports painterWorld graphRequest graphSettings :=
    ⟨rfl, rfl, rfl, settings_pictureTree rfl rfl rfl rfl⟩
  obtain ⟨-, hsame⟩ := (log_and_colours_do_not_show painterWorld .brief
    (pictureEnvironment "debug") pictureArguments ("-v" :: pictureArguments)).1
    ⟨alikeBut_pictureEnvironment _ _, rfl⟩
  obtain ⟨hout, htree⟩ := hsame fun r hr => by
    cases hpic.symm.trans hr
    exact hd
  have hcolour := (log_and_colours_do_not_show painterWorld .brief colourfulEnvironment
    ["--json"] ["--json", "--basic"]).2 ⟨alikeBut_colourfulEnvironment, rfl⟩ _ hjson
  obtain ⟨-, hdot⟩ := (log_and_colours_do_not_show painterWorld .brief colourfulEnvironment
    graphArguments ("--basic" :: graphArguments)).2 ⟨alikeBut_colourfulEnvironment, rfl⟩ _ rfl
  obtain ⟨-, hsource, -, -, -, -, hsource'⟩ := hdot _ hs rfl
  exact ⟨hd, hout, htree, hx, (hcolour.1 rfl hx).2, hs, hsource'.trans hsource.symm⟩

end Run

end SecretAccess
