import SecretAccess.CommandLine.Completions
import SecretAccess.CommandLine.Reader
import SecretAccess.Display.Keys
import SecretAccess.Display.Matrix
import SecretAccess.Display.Notice
import SecretAccess.Dot
import SecretAccess.Export
import SecretAccess.Json.Printer
import SecretAccess.Log.Filter
import SecretAccess.Scan
import SecretAccess.Settings

/-!
# Running the program

A run reads the command line, the configuration and the repository, and gives
out views. What it does is laid down as a list of emissions: text for output,
text for the error stream, and events for the log. Only at the end are these
made into the two streams, and only there does the filter of the log count.
-/

namespace SecretAccess.Run

open CommandLine (Request)
open Display (Theme)
open Host
open Log (Event)

/-- What a run finds around it. The tree also says what the streams of the run are
connected to. That one of them is at the same time a file that the run reads is
left out: what a run prints does not change what it goes by. -/
structure World where
  tree : FileTree
  environment : Environment
  tool : Tool

/-- How defects of files are worded. -/
structure Wording where
  json : Json.Defect → String
  toml : String

namespace Wording

def brief : Wording where
  json
    | .malformed => "not a JSON text"
    | .truncated => "the text ends too early"
    | .mistyped => "a value of another type was wanted"
  toml := "not a TOML text with the sections that are wanted"

end Wording

inductive Emission where
  | output (text : String)
  | errors (text : String)
  | log (e : Event)
deriving DecidableEq, Repr

inductive Failure where
  | config (e : ConfigError)
  | rootMissing (root : String)
deriving DecidableEq, Repr

namespace Failure

def message (w : Wording) : Failure → String
  | config e => e.message w.toml
  | rootMissing root => "SOPS root directory '" ++ root ++ "' does not exist"

/-- What may help: a file that cannot be read at all needs no advice. -/
def hint? : Failure → Option String
  | config (.unreadable _) => none
  | config .unparsable | config (.invalid _) =>
    some "check .sops-acl.toml or the file given with --config"
  | rootMissing _ => some "pass --root <path> or set SOPS_ACL_ROOT"

end Failure

/-- What came of a request: emissions in order, the files afterwards, and the
failure that ended it, if one did. -/
structure Execution where
  emissions : List Emission
  tree : FileTree
  failure : Option Failure
deriving DecidableEq, Repr

def logs (es : List Event) : List Emission := es.map .log

/-- What reading the configuration reports, whether it succeeds or not. -/
def configEvents (tree : FileTree) (explicit : Option String) : List Event :=
  match Config.file? tree explicit with
  | none => [.noConfig]
  | some path =>
    match Config.read tree path with
    | .error (.unreadable _) => [.loadingConfig path]
    | .error .unparsable => [.loadingConfig path]
    | .error (.invalid _) => [.loadingConfig path, .validatingConfig]
    | .ok c => [.loadingConfig path, .validatingConfig, .configLoaded c.root c.keyTypes.length]

def resolvedEvent (h : Hierarchy) : Event :=
  .resolved h.catalog.size h.groups.size h.secrets.size h.resolve.size

/-- A view that is printed: its name and its text. -/
structure Block where
  view : String
  text : String
deriving DecidableEq, Repr

def blocks (t : Theme) (h : Hierarchy) (chosen : Selection) : List Block :=
  (if chosen.tree then [⟨"tree", Display.AccessTree.render t h.view⟩] else []) ++
    (if chosen.matrix then [⟨"matrix", Display.Matrix.render t h.matrix⟩] else []) ++
    (if chosen.keys then [⟨"keys", Display.Keys.render t h.keyListing⟩] else [])

/-- A view is followed by an empty line. -/
def blockEmissions (b : Block) : List Emission :=
  [.log (.rendering b.view), .output b.text, .output "\n"]

/-- The lines that tell how an export ended. -/
def exportNotices (t : Theme) (path : String) : Option Export.Problem → List Emission
  | none =>
    [.log (.graphExported path),
      .output (Display.Notice.success t ("graph written to " ++ Display.Notice.path t path))]
  | some .toolMissing =>
    [.output (Display.Notice.warning t "graphviz `dot` not found, skipping graph export"),
      .output (Display.Notice.hint t "install graphviz, or use --graph-format dot")]
  | some problem => [.errors (Display.Notice.failure t problem.message)]

/-- What an export put on a stream of the run that it opened by name. -/
def shownEmission : Stream × String → Emission
  | (.output, text) => .output text
  | (.errors, text) => .errors text
  | (.input, _) => .output ""

def exportEmissions (t : Theme) (s : Settings) (o : Export.Outcome) : List Emission :=
  o.shown.toList.map shownEmission ++ logs o.events ++
    exportNotices t (Export.path s.graphFormat s.graphOutput) o.problem ++ [.output "\n"]

def summaryEmissions (t : Theme) (h : Hierarchy) (r : Request) : List Emission :=
  if r.noSummary then [] else [.output (Display.Notice.summary t h.summary)]

def reportText (h : Hierarchy) (r : Request) : String :=
  (Report.build h (.ofRequest r) (!r.noSummary)).toJson.pretty ++ "\n"

/-- Shows what was asked for, after the repository has been read. -/
def present (w : World) (r : Request) (s : Settings) (h : Hierarchy) : Execution :=
  let t := w.environment.outputTheme r.basic
  let chosen := Selection.ofRequest r
  if r.json then ⟨[.output (reportText h r)], w.tree, none⟩
  else
    let views := (blocks t h chosen).flatMap blockEmissions
    if chosen.graph then
      let o := Export.run w.tool w.environment w.tree (Dot.render h.graph)
        s.graphFormat s.graphOutput
      ⟨views ++ exportEmissions t s o ++ summaryEmissions t h r, o.tree, none⟩
    else ⟨views ++ summaryEmissions t h r, w.tree, none⟩

def failed (w : World) (emissions : List Emission) (f : Failure) : Execution :=
  ⟨emissions, w.tree, some f⟩

/-- Scans the root and shows the hierarchy that is found there. -/
def scanAndPresent (w : World) (r : Request) (s : Settings) : Execution :=
  let scan := Scan.steps w.tree s.root s.keyTypes
  let h := Hierarchy.run scan.value
  let before := Event.scanning s.root (.ofRequest r) :: scan.events ++
    [Scan.completion s.root h, resolvedEvent h]
  let rest := present w r s h
  { rest with emissions := logs before ++ rest.emissions }

/-- Settles what to go by. The first of the things that can be wrong ends the
run: the configuration, the name for the graph, the root. -/
def settings (w : World) (r : Request) : Except Failure Settings :=
  match Config.load w.tree r.config with
  | .error e => .error (.config e)
  | .ok c =>
    match Settings.resolve r c with
    | .error v => .error (.config (.invalid v))
    | .ok s => if w.tree.isDirectory s.root then .ok s else .error (.rootMissing s.root)

def execute (w : World) (r : Request) : Execution :=
  match r.shell with
  | some shell => ⟨[.output (CommandLine.Completions.script shell)], w.tree, none⟩
  | none =>
    let before := logs (configEvents w.tree r.config)
    match settings w r with
    | .error f => failed w before f
    | .ok s =>
      let rest := scanAndPresent w r s
      { rest with emissions := before ++ rest.emissions }

/-- The end of a run, as it is seen from outside: all that it wrote to its two
streams, in order and whatever they are connected to, and the files as they are
without this. -/
structure Result where
  exit : Nat
  output : String
  errors : String
  tree : FileTree
deriving DecidableEq, Repr

def outputText : Emission → String
  | .output text => text
  | .errors _ | .log _ => ""

def errorText (w : Wording) (t : Theme) (filter : Log.Filter) : Emission → String
  | .output _ => ""
  | .errors text => text
  | .log e => if filter.passes e then Log.line w.json t e else ""

/-- The message for a failure goes to the error stream, the advice to output. -/
def failureEmissions (w : Wording) (t : Theme) (f : Failure) : List Emission :=
  .errors (Display.Notice.failure t (f.message w)) ::
    f.hint?.toList.map fun text => .output (Display.Notice.hint t text)

/-- The last words of a run that failed. -/
def closing (w : World) (wording : Wording) (r : Request) (x : Execution) : List Emission :=
  match x.failure with
  | none => []
  | some f => failureEmissions wording (w.environment.outputTheme r.basic) f

def finish (w : World) (wording : Wording) (r : Request) (x : Execution) : Result :=
  let emissions := x.emissions ++ closing w wording r x
  let filter := Log.Filter.ofRun (w.environment.get? Environment.logVariable) r.verbose
  { exit := if x.failure.isSome then 1 else 0
    output := String.join (emissions.map outputText)
    errors := String.join (emissions.map (errorText wording w.environment.logTheme filter))
    tree := x.tree }

def stopped (w : World) (stop : CommandLine.Stop) : Result :=
  let shown := w.environment.usageText
  let root := w.environment.root?
  match stop with
  | .usage e => ⟨2, "", shown (e.line ++ "\n"), w.tree⟩
  | .help l => ⟨0, shown (CommandLine.Help.ofLevel root l), "", w.tree⟩
  | .helpOnHelp => ⟨0, shown CommandLine.Help.ofHelp, "", w.tree⟩
  | .version => ⟨0, shown CommandLine.Help.versionLine, "", w.tree⟩

/-- The whole program. -/
def run (w : World) (wording : Wording) (args : List String) : Result :=
  match CommandLine.parse w.environment.root? args with
  | .error stop => stopped w stop
  | .ok r => finish w wording r (execute w r)

end SecretAccess.Run
