import SecretAccess.Proofs.Failure

/-!
# What a run shows

Output is put together from blocks: the chosen views, the lines on the export
of the graph, and the summary. A block is settled by the hierarchy and the
theme alone, so that it is the same in whatever company it is printed, and no
outcome of the export reaches beyond its own lines (`views_compose`). A graph
that is written in DOT to the output itself stands before these lines, if this is
a pipe or a terminal.
-/

namespace SecretAccess.Run

open CommandLine (Request)
open Display (Theme AccessTree.render Matrix.render Keys.render)
open Host (FileTree)

variable {w : World} {wording : Wording} {r : Request} {s : Settings} {t : Theme}
  {h : Hierarchy} {o : Export.Outcome}

/-- The views that are printed, in the order in which they stand. -/
inductive TextView where
  | tree
  | matrix
  | keys
deriving DecidableEq, Repr

namespace TextView

def every : List TextView := [tree, matrix, keys]

def isChosen (chosen : Selection) : TextView → Bool
  | tree => chosen.tree
  | matrix => chosen.matrix
  | keys => chosen.keys

def text (t : Theme) (h : Hierarchy) : TextView → String
  | tree => AccessTree.render t h.view
  | matrix => Matrix.render t h.matrix
  | keys => Keys.render t h.keyListing

/-- A view and the empty line behind it. -/
def block (t : Theme) (h : Hierarchy) (v : TextView) : String := v.text t h ++ "\n"

/-- The same request for one view and nothing else. -/
def alone (v : TextView) (r : Request) : Request :=
  { r with
    table := v = .matrix, keys := v = .keys, graph := false, all := false, noSummary := true }

end TextView

/-- The blocks of the chosen views, the lines on the export, and the summary. -/
def composed (t : Theme) (h : Hierarchy) (chosen : Selection) (noSummary : Bool)
    (exportText : String) : String :=
  String.join ((TextView.every.filter (·.isChosen chosen)).map (TextView.block t h)) ++
    (if chosen.graph then exportText ++ "\n" else "") ++
    (if noSummary then "" else Display.Notice.summary t h.summary)

/-- The lines that tell how an export ended. What went wrong with a file or with
graphviz is told on the error stream. -/
def statusLines (t : Theme) (path : String) : Option Export.Problem → String
  | none => Display.Notice.success t ("graph written to " ++ Display.Notice.path t path)
  | some .toolMissing =>
    Display.Notice.warning t "graphviz `dot` not found, skipping graph export" ++
      Display.Notice.hint t "install graphviz, or use --graph-format dot"
  | some (.unwritable _) | some (.toolNotStarted _) | some (.toolFailed _) => ""

/-- Whether what is written to a path follows what the run has put on output: the
path leads to the output, this is a pipe or a terminal, and may be written to. -/
def leadsToOutput (tree : FileTree) (path : String) : Bool :=
  match tree.locate .write path, tree.streams.output with
  | .ok l, .pipe _ =>
    tree.node? l = some (.device (.stream .output)) && !tree.denies .write l
  | .ok _, .socket | .ok _, .file _ | .error _, _ => false

/-- What a graph leaves on output besides the lines on its export. -/
def divertedSource (tree : FileTree) (s : Settings) (h : Hierarchy) : String :=
  if s.graphFormat = .dot && leadsToOutput tree (Export.path s.graphFormat s.graphOutput) then
    Dot.render h.graph
  else ""

def exportOutcome (w : World) (s : Settings) (h : Hierarchy) : Export.Outcome :=
  Export.run w.tool w.environment w.tree (Dot.render h.graph) s.graphFormat s.graphOutput

/-- All that an export leaves on output. -/
def exportText (w : World) (t : Theme) (s : Settings) (h : Hierarchy) : String :=
  divertedSource w.tree s h ++
    statusLines t (Export.path s.graphFormat s.graphOutput) (exportOutcome w s h).problem

/-- Carries out a request that has been read. -/
def carryOut (w : World) (wording : Wording) (r : Request) : Result :=
  finish w wording r (execute w r)

-- ---------------------------------------------------------------------------
-- The parts of the output
-- ---------------------------------------------------------------------------

/-- What a list of emissions puts on output. -/
def outputOf (es : List Emission) : String := String.join (es.map outputText)

@[simp] theorem outputOf_append (es es' : List Emission) :
    outputOf (es ++ es') = outputOf es ++ outputOf es' := by
  simp [outputOf]

@[simp] theorem outputOf_logs (es : List Log.Event) : outputOf (logs es) = "" :=
  outputText_logs es

theorem outputOf_blocks (t : Theme) (h : Hierarchy) (chosen : Selection) :
    outputOf ((blocks t h chosen).flatMap blockEmissions) =
      String.join ((TextView.every.filter (·.isChosen chosen)).map (TextView.block t h)) := by
  obtain ⟨tree, matrix, keys, graph⟩ := chosen
  cases tree <;> cases matrix <;> cases keys <;>
    simp [blocks, blockEmissions, TextView.every, TextView.isChosen, TextView.block,
      TextView.text, outputOf, outputText, String.append_assoc]

theorem outputOf_exportNotices (t : Theme) (path : String) (problem : Option Export.Problem) :
    outputOf (exportNotices t path problem) = statusLines t path problem := by
  cases problem with
  | none => simp [exportNotices, outputOf, outputText, statusLines]
  | some problem =>
    cases problem <;> simp [exportNotices, outputOf, outputText, statusLines]

theorem outputOf_summary (t : Theme) (h : Hierarchy) (r : Request) :
    outputOf (summaryEmissions t h r) =
      if r.noSummary then "" else Display.Notice.summary t h.summary := by
  unfold summaryEmissions
  split <;> simp [outputOf, outputText]

theorem writeAt_eq_shown_iff {tree : FileTree} {l : Host.Location} {contents : List UInt8}
    {node : Host.Node} {i : Host.Stream} : tree.writeAt l contents node = .ok (.shown i) ↔
      node = .device (.stream i) ∧ ∃ waiting, tree.streams.get i = .pipe waiting := by
  rcases node with _ | _ | _ | (_ | _ | s) | _
  case device.stream =>
    simp only [FileTree.writeAt, Host.Node.device.injEq, Host.Device.stream.injEq]
    by_cases hi : s = i
    · subst hi
      cases hs : tree.streams.get s <;> simp
    · cases hs : tree.streams.get s <;> simp [hi]
  case device.full => cases contents <;> simp [FileTree.writeAt]
  all_goals simp [FileTree.writeAt]

/-- What is written appears on a stream when the path leads to this, which is a
pipe or a terminal and may be written to, and else in the files if anywhere. -/
theorem write_eq_shown_iff {tree : FileTree} {path : String} {contents : List UInt8}
    {i : Host.Stream} : tree.write path contents = .ok (.shown i) ↔
      ∃ l, tree.locate .write path = .ok l ∧ tree.node? l = some (.device (.stream i)) ∧
        tree.denies .write l = false ∧ ∃ waiting, tree.streams.get i = .pipe waiting := by
  unfold FileTree.write
  cases tree.locate .write path with
  | error f => simp [bind, Except.bind]
  | ok l =>
    simp only [bind, Except.bind, Except.ok.injEq, exists_eq_left']
    split
    case h_1 hn => cases tree.denies .write l.dropLast <;> simp [hn]
    case h_2 hn => simp [hn]
    case h_3 node _ hn =>
      rw [hn]
      cases hr : tree.denies .write l <;> simp [writeAt_eq_shown_iff]

theorem leadsToOutput_iff {tree : FileTree} {path : String} : leadsToOutput tree path ↔
    ∃ l, tree.locate .write path = .ok l ∧ tree.node? l = some (.device (.stream .output)) ∧
      tree.denies .write l = false ∧ ∃ waiting, tree.streams.get .output = .pipe waiting := by
  unfold leadsToOutput
  cases tree.locate .write path with
  | error f => simp
  | ok l => cases ho : tree.streams.output <;> simp [Host.Streams.get, ho]

theorem shown_writeSource (tree : FileTree) (source path : String) :
    outputOf ((Export.writeSource tree source path).shown.toList.map shownEmission) =
      if leadsToOutput tree path then source else "" := by
  have hl : leadsToOutput tree path ↔
      tree.write path (Text.Utf8.encode source) = .ok (.shown .output) :=
    leadsToOutput_iff.trans write_eq_shown_iff.symm
  unfold Export.writeSource
  split
  case h_1 hw => simp [hl, hw, outputOf]
  case h_2 i hw => cases i <;> simp [hl, hw, outputOf, shownEmission, outputText]
  case h_3 hw => simp [hl, hw, outputOf]

/-- A program that draws has streams of its own. -/
theorem shown_draw (tool : Host.Tool) (e : Environment) (tree : FileTree)
    (program source path : String) (format : GraphFormat) :
    (Export.draw tool e tree program source format path).shown = none := by
  unfold Export.draw
  split <;> rfl

theorem shown_exportOutcome (w : World) (s : Settings) (h : Hierarchy) :
    outputOf ((exportOutcome w s h).shown.toList.map shownEmission) =
      divertedSource w.tree s h := by
  unfold exportOutcome Export.run divertedSource
  by_cases hf : s.graphFormat = .dot
  · rw [hf]
    simp [GraphFormat.needsGraphviz, shown_writeSource]
  · have hg : s.graphFormat.needsGraphviz = true := by
      cases hs : s.graphFormat <;> simp_all [GraphFormat.needsGraphviz]
    simp only [hg, if_true, hf, decide_false, Bool.false_and, Bool.false_eq_true, if_false]
    split
    · simp [shown_draw, outputOf]
    · simp [outputOf]

theorem outputOf_exportEmissions (w : World) (t : Theme) (s : Settings) (h : Hierarchy) :
    outputOf (exportEmissions t s (exportOutcome w s h)) = exportText w t s h ++ "\n" := by
  have hb : outputOf [.output "\n"] = "\n" := rfl
  simp [exportEmissions, shown_exportOutcome, outputOf_exportNotices, exportText, hb,
    String.append_assoc]

theorem outputOf_present (w : World) (hj : r.json = false) (s : Settings) (h : Hierarchy) :
    outputOf (present w r s h).emissions =
      composed (w.environment.outputTheme r.basic) h (.ofRequest r) r.noSummary
        (exportText w (w.environment.outputTheme r.basic) s h) := by
  unfold present composed
  simp only [hj, Bool.false_eq_true, if_false]
  split
  case isTrue hg =>
    rw [outputOf_append, outputOf_append, outputOf_blocks, outputOf_summary]
    exact congrArg (_ ++ · ++ _) (outputOf_exportEmissions w _ s h)
  case isFalse hg =>
    rw [outputOf_append, outputOf_blocks, outputOf_summary, String.append_empty]

/-- The hierarchy that a run reads. -/
def scanned (w : World) (s : Settings) : Hierarchy := Scan.hierarchy w.tree s.root s.keyTypes

/-- A run that succeeds puts on output what it presents, and nothing besides. -/
theorem output_eq_present (wording : Wording) (hs : r.shell = none) (hset : settings w r = .ok s) :
    (carryOut w wording r).output = outputOf (present w r s (scanned w s)).emissions := by
  have hc : closing w wording r (execute w r) = [] := by
    rw [closing, failure_execute hs hset]
  have hx : (execute w r).emissions =
      logs (configEvents w.tree r.config) ++ (scanAndPresent w r s).emissions := by
    simp [execute, hs, hset]
  have ho : (carryOut w wording r).output = outputOf (execute w r).emissions := by
    simp [carryOut, finish, hc, outputOf]
  rw [ho, hx, outputOf_append, outputOf_logs, String.empty_append, scanAndPresent]
  simp only [outputOf_append, outputOf_logs, String.empty_append]
  rfl

theorem output_carryOut (wording : Wording) (hs : r.shell = none) (hj : r.json = false)
    (hset : settings w r = .ok s) :
    (carryOut w wording r).output =
      composed (w.environment.outputTheme r.basic) (scanned w s) (.ofRequest r) r.noSummary
        (exportText w (w.environment.outputTheme r.basic) s (scanned w s)) :=
  (output_eq_present wording hs hset).trans (outputOf_present w hj s _)

theorem exit_carryOut (wording : Wording) (hs : r.shell = none) (hset : settings w r = .ok s) :
    (carryOut w wording r).exit = 0 := by
  simp [carryOut, finish, failure_execute hs hset]

theorem run_eq_carryOut {args : List String}
    (hp : CommandLine.parse w.environment.root? args = .ok r) :
    run w wording args = carryOut w wording r := by
  simp [run, hp, carryOut]

theorem exists_settings_of_exit (hs : r.shell = none) (hx : (carryOut w wording r).exit = 0) :
    ∃ s, settings w r = .ok s := by
  cases hset : settings w r with
  | ok s => exact ⟨s, rfl⟩
  | error f => simp [carryOut, execute, hs, hset, failed, finish] at hx

-- ---------------------------------------------------------------------------
-- One view alone
-- ---------------------------------------------------------------------------

def graphRequest : Request :=
  { Request.empty with graph := true, graphFormat := some .dot, noSummary := true }

def graphArguments : List String := ["--graph", "--graph-format", "dot", "--no-summary"]

def graphSettings : Settings := ⟨"./sops", ["age"], .dot, "sops_hierarchy"⟩

end SecretAccess.Run
