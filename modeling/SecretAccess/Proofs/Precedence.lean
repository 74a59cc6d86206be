import SecretAccess.Proofs.Configuration
import SecretAccess.Proofs.Json.Scalars

/-!
# What a run goes by

Each value is taken from the first place that gives it: the command line, for
the root then the environment, the configuration, the default. A configuration
that has passed its own checks leaves only one thing to refuse, a blank name for
the graph on the command line (`settings_exact`).
-/

namespace SecretAccess

open CommandLine (Request)
open Json.Reader (bind_eq_ok_iff)
open Text (isBlankText)

namespace CommandLine

variable {root : Option String} {args : List String} {r : Request}

theorem checkRoot_none (p : Progress) : p.checkRoot none = .ok () := by
  simp [Progress.checkRoot]

theorem completionsRequest_none (h : completionsRequest root args = .ok r) :
    completionsRequest none args = .ok r := by
  simp only [completionsRequest, bind_eq_ok_iff] at h
  obtain ⟨p, hp, q, hq, -, -, h⟩ := h
  simp only [completionsRequest, bind_eq_ok_iff]
  exact ⟨p, hp, q, hq, (), checkRoot_none q, h⟩

/-- The environment only has a say where the line gives no root. -/
theorem parse_none (h : parse root args = .ok r) :
    ∃ given, parse none args = .ok given ∧ r = { given with root := given.root.or root } := by
  simp only [parse, bind_eq_ok_iff, Prod.exists] at h
  obtain ⟨p, rest, hp, sub, hsub, q, hq, -, -, h⟩ := h
  have hsub' : rest.mapM (completionsRequest none) = .ok sub := by
    cases rest with
    | none => exact hsub
    | some args' =>
      obtain ⟨s, hs, hsub⟩ := bind_eq_ok_iff.mp hsub
      exact bind_eq_ok_iff.mpr ⟨s, completionsRequest_none hs, hsub⟩
  simp only [parse, bind_eq_ok_iff, Prod.exists]
  refine ⟨_, ⟨p, rest, hp, sub, hsub', q, hq, (), checkRoot_none q, rfl⟩, ?_⟩
  cases h
  cases sub <;> simp

end CommandLine

namespace Config

variable {c : Config}

/-- A configuration that a text or a file gives, or that is there by default. -/
inductive Obtained : Config → Prop
  | default : Obtained .default
  | parsed {contents c} : parse contents = .ok c → Obtained c
  | loaded {tree explicit c} : load tree explicit = .ok c → Obtained c

theorem usable_of_parse {contents : String} (h : parse contents = .ok c) : c.Usable := by
  unfold parse ofToml at h
  split at h
  · split at h
    · obtain ⟨rfl, hu⟩ := check_eq_ok_iff.mp h
      exact hu
    · cases h
  · cases h

theorem usable_default : default.Usable := validate_eq_ok_iff.mp validate_default

theorem Obtained.usable (h : c.Obtained) : c.Usable := by
  cases h with
  | default => exact usable_default
  | parsed h => exact usable_of_parse h
  | @loaded tree explicit _ h =>
    unfold load at h
    split at h
    · unfold read at h
      split at h
      · exact usable_of_parse h
      · cases h
    · cases h
      exact usable_default

end Config

namespace Settings

variable {c : Config} {r given : Request} {s : Settings} {v : InvalidValue}

/-- Each value from the first place that gives it: the line, what the
environment gives for the root, the configuration, the default. -/
structure GoesBy (given : Request) (root : Option String) (c : Config) (s : Settings) : Prop where
  root : s.root = ((given.root.or root).or c.root).getD "./sops"
  keyTypes : s.keyTypes = c.keyTypes
  chosenFormat : ∀ f, given.graphFormat = some f → s.graphFormat = f
  configuredFormat : given.graphFormat = none → GraphFormat.Denotes c.graphFormat s.graphFormat
  graphOutput : s.graphOutput = given.graphOutput.getD c.graphOutput

theorem isBlankText_outputName (hu : c.Usable) :
    isBlankText (outputName r c) ↔ ∃ output, r.graphOutput = some output ∧ Blank output := by
  cases ho : r.graphOutput with
  | none => simp [outputName, ho, isBlankText_iff, hu.output]
  | some output => simp [outputName, ho, isBlankText_iff]

theorem resolve_eq_error_iff (hu : c.Usable) : resolve r c = .error v ↔
    v = .blankChosenOutput ∧ ∃ output, r.graphOutput = some output ∧ Blank output := by
  obtain ⟨f, -, hr⟩ := resolve_of_validate (r := r) (Config.validate_of_usable hu)
  rw [hr, ← isBlankText_outputName hu]
  split
  case isTrue hb => simp [hb, eq_comm]
  case isFalse hb => simp [hb]

theorem chosenFormat_eq_ok {f : GraphFormat} (h : chosenFormat r c = .ok f) :
    r.graphFormat = some f ∨ r.graphFormat = none ∧ GraphFormat.Denotes c.graphFormat f := by
  unfold chosenFormat at h
  split at h
  case h_1 g hg =>
    cases h
    exact .inl hg
  case h_2 hn =>
    refine .inr ⟨hn, GraphFormat.parse?_eq_some_iff.mp ?_⟩
    unfold Config.format at h
    split at h
    · cases h
      assumption
    · cases h

theorem goesBy_of_resolve {root : Option String} (hu : c.Usable)
    (h : resolve { given with root := given.root.or root } c = .ok s) : GoesBy given root c s := by
  obtain ⟨f, hf, hr⟩ := resolve_of_validate (r := { given with root := given.root.or root })
    (Config.validate_of_usable hu)
  rw [hr] at h
  split at h
  · cases h
  · cases h
    refine ⟨rfl, rfl, fun g hg => ?_, fun hn => ?_, rfl⟩
    · rcases chosenFormat_eq_ok hf with hf | ⟨hn, -⟩
      · exact Option.some.inj (hf.symm.trans hg)
      · cases hn.symm.trans hg
    · rcases chosenFormat_eq_ok hf with hf | ⟨-, hd⟩
      · cases hn.symm.trans hf
      · exact hd

theorem not_blank_of_resolve (hu : c.Usable) (h : resolve r c = .ok s) : ¬ Blank s.graphOutput := by
  obtain ⟨f, -, hr⟩ := resolve_of_validate (r := r) (Config.validate_of_usable hu)
  rw [hr] at h
  split at h
  · cases h
  case isFalse hb =>
    cases h
    exact fun hblank => hb (isBlankText_iff.mpr hblank)

/-- What is given on a line, by itself, settles with the root of the environment
and the configuration what a run goes by. Only a name for the graph that the
line gives and that is blank is refused: a configuration that was accepted is
not refused for its format. What a run goes by is never blank. -/
theorem settings_exact {c : Config} (hc : c.Obtained) {root : Option String} {args : List String}
    {r : Request} (hp : CommandLine.parse root args = .ok r) :
    ∃ given, CommandLine.parse none args = .ok given ∧
      (∀ v, resolve r c = .error v ↔ v = .blankChosenOutput ∧ v.field = "graph-output" ∧
        ∃ output, given.graphOutput = some output ∧ Blank output) ∧
      ∀ s, resolve r c = .ok s → GoesBy given root c s ∧ ¬ Blank s.graphOutput ∧
        s.keyTypes ≠ [] ∧ ∀ t ∈ s.keyTypes, ¬ Blank t := by
  have hu := hc.usable
  obtain ⟨given, hgiven, rfl⟩ := CommandLine.parse_none hp
  refine ⟨given, hgiven, fun v => ?_, fun s hs => ?_⟩
  · rw [resolve_eq_error_iff hu]
    exact and_congr_right fun hv => ⟨fun h => ⟨hv ▸ rfl, h⟩, fun h => h.2⟩
  · have hgoes := goesBy_of_resolve hu hs
    refine ⟨hgoes, not_blank_of_resolve hu hs, ?_, ?_⟩
    · exact hgoes.keyTypes ▸ hu.someKeyType
    · exact hgoes.keyTypes ▸ hu.keyTypes

/-- The environment, the configuration and the line each have their say here. -/
def mixedConfig : Config := ⟨some "a", ["age"], "SVG", "b"⟩

def mixedConfigText : String := "root = \"a\"\n[graph]\nformat = \"SVG\"\noutput = \"b\"\n"

theorem mixedConfig_settings :
    mixedConfig.Obtained ∧
      CommandLine.parse (some "d") ["--graph-output", "c"] =
        .ok { Request.empty with root := some "d", graphOutput := some "c" } ∧
      ∃ given, CommandLine.parse none ["--graph-output", "c"] = .ok given ∧
        GoesBy given (some "d") mixedConfig ⟨"d", ["age"], .svg, "c"⟩ := by
  have hc : mixedConfig.Obtained := by
    have h : Config.parse mixedConfigText = .ok mixedConfig := by decide +kernel
    exact .parsed h
  have hp : CommandLine.parse (some "d") ["--graph-output", "c"] =
      .ok { Request.empty with root := some "d", graphOutput := some "c" } := rfl
  have hs : resolve { Request.empty with root := some "d", graphOutput := some "c" } mixedConfig =
      .ok ⟨"d", ["age"], .svg, "c"⟩ := by decide +kernel
  obtain ⟨given, hgiven, -, hsettings⟩ := settings_exact hc hp
  exact ⟨hc, hp, given, hgiven, (hsettings _ hs).1⟩

end Settings

end SecretAccess
