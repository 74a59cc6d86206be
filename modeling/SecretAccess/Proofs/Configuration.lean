import SecretAccess.Proofs.Failure

/-!
# What a configuration says

Each of the four values of a configuration is what its document gives for it,
or else the default, whatever the others are and whatever else the document
holds. The checks are made in a fixed order, and the first that fails is what a
refusal names; a configuration that passes them all is kept as it is
(`configuration_exact`).
-/

namespace SecretAccess

open Text (isBlank isBlankText)

/-- Nothing but white space, or nothing at all. -/
def Blank (text : String) : Prop := ∀ c ∈ text.toList, isBlank c

theorem isBlankText_iff {text : String} : isBlankText text ↔ Blank text := by
  simp [isBlankText, Blank]

namespace GraphFormat

/-- The same character, or a capital of ASCII and its small letter. -/
def SameLetter (c small : Char) : Prop :=
  c = small ∨ ('A' ≤ c ∧ c ≤ 'Z' ∧ small.toNat = c.toNat + 32)

/-- The text is the name of a format, with any of its letters as capitals. -/
def Denotes (text : String) (f : GraphFormat) : Prop :=
  List.Forall₂ SameLetter text.toList f.extension.toList

theorem toNat_toLower (c : Char) :
    c.toLower.toNat = if 'A' ≤ c ∧ c ≤ 'Z' then c.toNat + 32 else c.toNat := by
  split
  case isTrue h =>
    have hupper : c.isUpper := by simpa [Char.isUpper, Char.le_def] using h
    have hz : c.toNat ≤ 90 := h.2
    rw [Char.toLower_eq_of_isUpper hupper, Char.toNat_ofNat, if_pos (.inl (by omega))]
  case isFalse h => exact congrArg Char.toNat (dif_neg h)

theorem toLower_eq_iff {c small : Char} (h : ¬ ('A' ≤ small ∧ small ≤ 'Z')) :
    c.toLower = small ↔ SameLetter c small := by
  rw [← Char.toNat_inj, toNat_toLower, SameLetter]
  split
  case isTrue hc =>
    have hne : c ≠ small := fun he => h (he ▸ hc)
    simp [hne, hc, eq_comm]
  case isFalse hc =>
    rw [Char.toNat_inj]
    exact ⟨.inl, fun h => h.resolve_right fun hs => hc ⟨hs.1, hs.2.1⟩⟩

theorem map_toLower_eq_iff {cs smalls : List Char}
    (h : ∀ small ∈ smalls, ¬ ('A' ≤ small ∧ small ≤ 'Z')) :
    cs.map Char.toLower = smalls ↔ List.Forall₂ SameLetter cs smalls := by
  induction cs generalizing smalls with
  | nil => cases smalls <;> simp
  | cons c cs ih =>
    cases smalls with
    | nil => simp
    | cons small smalls =>
      rw [List.map_cons, List.cons.injEq, List.forall₂_cons, toLower_eq_iff (h small (by simp)),
        ih fun s hs => h s (by simp [hs])]

theorem named?_eq_some_iff {name : String} {f : GraphFormat} :
    named? name = some f ↔ name = f.extension := by
  constructor
  · intro h
    simpa [eq_comm] using List.find?_some h
  · rintro rfl
    cases f <;> rfl

theorem parse?_eq_some_iff {text : String} {f : GraphFormat} :
    parse? text = some f ↔ Denotes text f := by
  have hsmall : ∀ small ∈ f.extension.toList, ¬ ('A' ≤ small ∧ small ≤ 'Z') := by
    cases f <;> simp [extension]
  rw [parse?, named?_eq_some_iff, Denotes, ← map_toLower_eq_iff hsmall, lower,
    ← String.toList_inj, String.toList_ofList]

end GraphFormat

namespace Config

variable {c : Config} {v : InvalidValue} {o : Overlay} {contents : String}
  {document : List (String × Toml)}

-- ---------------------------------------------------------------------------
-- The checks
-- ---------------------------------------------------------------------------

/-- A configuration that a run can go by. -/
structure Usable (c : Config) : Prop where
  someKeyType : c.keyTypes ≠ []
  keyTypes : ∀ t ∈ c.keyTypes, ¬ Blank t
  format : ∃ f, GraphFormat.Denotes c.graphFormat f
  output : ¬ Blank c.graphOutput

/-- What is wrong with a configuration, and nothing that is looked at before. -/
inductive FirstFault (c : Config) : InvalidValue → Prop
  | noKeyTypes : c.keyTypes = [] → FirstFault c .noKeyTypes
  | blankKeyType {t} : t ∈ c.keyTypes → Blank t → FirstFault c .blankKeyType
  | unknownFormat : c.keyTypes ≠ [] → (∀ t ∈ c.keyTypes, ¬ Blank t) →
    (∀ f, ¬ GraphFormat.Denotes c.graphFormat f) → FirstFault c (.unknownFormat c.graphFormat)
  | blankOutput {f} : c.keyTypes ≠ [] → (∀ t ∈ c.keyTypes, ¬ Blank t) →
    GraphFormat.Denotes c.graphFormat f → Blank c.graphOutput →
    FirstFault c .blankConfiguredOutput

/-- The member that a refusal names is at fault. -/
theorem FirstFault.field (h : FirstFault c v) :
    v.field = "keys.types" ∧ (c.keyTypes = [] ∨ ∃ t ∈ c.keyTypes, Blank t) ∨
      v.field = "graph.format" ∧ (∀ f, ¬ GraphFormat.Denotes c.graphFormat f) ∨
      v.field = "graph.output" ∧ Blank c.graphOutput := by
  cases h with
  | noKeyTypes hs => exact .inl ⟨rfl, .inl hs⟩
  | blankKeyType ht hb => exact .inl ⟨rfl, .inr ⟨_, ht, hb⟩⟩
  | unknownFormat _ _ hf => exact .inr (.inl ⟨rfl, hf⟩)
  | blankOutput _ _ _ ho => exact .inr (.inr ⟨rfl, ho⟩)

theorem usable_or_firstFault (c : Config) : c.Usable ∨ ∃ v, FirstFault c v := by
  by_cases hs : c.keyTypes = []
  · exact .inr ⟨_, .noKeyTypes hs⟩
  by_cases hk : ∃ t ∈ c.keyTypes, Blank t
  · obtain ⟨t, ht, hb⟩ := hk
    exact .inr ⟨_, .blankKeyType ht hb⟩
  have hk : ∀ t ∈ c.keyTypes, ¬ Blank t := fun t ht hb => hk ⟨t, ht, hb⟩
  by_cases hf : ∃ f, GraphFormat.Denotes c.graphFormat f
  · by_cases ho : Blank c.graphOutput
    · exact .inr ⟨_, .blankOutput hs hk hf.choose_spec ho⟩
    · exact .inl ⟨hs, hk, hf, ho⟩
  · exact .inr ⟨_, .unknownFormat hs hk (not_exists.mp hf)⟩

theorem any_isBlankText_iff {texts : List String} :
    texts.any isBlankText ↔ ∃ t ∈ texts, Blank t := by
  simp [List.any_eq_true, isBlankText_iff]

theorem format_of_denotes {f : GraphFormat} (h : GraphFormat.Denotes c.graphFormat f) :
    c.format = .ok f := by
  rw [format, GraphFormat.parse?_eq_some_iff.mpr h]

theorem format_of_not_denotes (h : ∀ f, ¬ GraphFormat.Denotes c.graphFormat f) :
    c.format = .error (.unknownFormat c.graphFormat) := by
  have hn : GraphFormat.parse? c.graphFormat = none :=
    Option.eq_none_iff_forall_ne_some.mpr fun f hf => h f (GraphFormat.parse?_eq_some_iff.mp hf)
  rw [format, hn]

theorem validate_of_keyTypes (hs : c.keyTypes ≠ []) (hk : ∀ t ∈ c.keyTypes, ¬ Blank t) :
    c.validate = match c.format with
      | .error v => .error v
      | .ok _ => if isBlankText c.graphOutput then .error .blankConfiguredOutput else .ok () := by
  have hany : ¬ c.keyTypes.any isBlankText := fun h =>
    have ⟨t, ht, hb⟩ := any_isBlankText_iff.mp h
    hk t ht hb
  refine (validate_eq c).trans ((if_neg (by simpa using hs)).trans ((if_neg hany).trans ?_))
  cases c.format <;> rfl

theorem validate_of_usable (h : c.Usable) : c.validate = .ok () := by
  obtain ⟨f, hf⟩ := h.format
  rw [validate_of_keyTypes h.someKeyType h.keyTypes, format_of_denotes hf]
  exact if_neg fun hb => h.output (isBlankText_iff.mp hb)

theorem validate_of_firstFault (h : FirstFault c v) : c.validate = .error v := by
  cases h with
  | noKeyTypes hs => rw [validate_eq, hs]; rfl
  | blankKeyType ht hb =>
    have hs : ¬ c.keyTypes.isEmpty := by
      rw [List.isEmpty_iff]
      exact List.ne_nil_of_mem ht
    rw [validate_eq, if_neg hs, if_pos (any_isBlankText_iff.mpr ⟨_, ht, hb⟩)]
  | unknownFormat hs hk hf => rw [validate_of_keyTypes hs hk, format_of_not_denotes hf]
  | blankOutput hs hk hf ho =>
    rw [validate_of_keyTypes hs hk, format_of_denotes hf]
    exact if_pos (isBlankText_iff.mpr ho)

theorem validate_eq_ok_iff : c.validate = .ok () ↔ c.Usable := by
  refine ⟨fun h => ?_, validate_of_usable⟩
  rcases usable_or_firstFault c with hu | ⟨v, hv⟩
  · exact hu
  · rw [validate_of_firstFault hv] at h
    cases h

theorem validate_eq_error_iff : c.validate = .error v ↔ FirstFault c v := by
  refine ⟨fun h => ?_, validate_of_firstFault⟩
  rcases usable_or_firstFault c with hu | ⟨v', hv⟩
  · rw [validate_of_usable hu] at h
    cases h
  · rw [validate_of_firstFault hv] at h
    cases h
    exact hv

-- ---------------------------------------------------------------------------
-- What a document gives
-- ---------------------------------------------------------------------------

/-- What a section, if there is one, holds under a name, or at a position where
it is an array. A date holds nothing. -/
inductive Holds : Option Toml → String → Nat → Option Toml → Prop
  | missing {name i} : Holds none name i none
  | named {members name i} : Holds (some (.table members)) name i (members.lookup name)
  | placed {items : List Toml} {name i} : Holds (some (.array items)) name i items[i]?
  | date {d name i} : Holds (some (.date d)) name i none

/-- The document is of the expected shape and gives these values. -/
structure Gives (document : List (String × Toml)) (o : Overlay) : Prop where
  root : document.lookup "root" = o.root.map .string
  keyTypes : Holds (document.lookup "keys") "types" 0
    (o.keyTypes.map fun types => .array (types.map .string))
  graphFormat : Holds (document.lookup "graph") "format" 0 (o.graphFormat.map .string)
  graphOutput : Holds (document.lookup "graph") "output" 1 (o.graphOutput.map .string)

theorem Holds.unique {s : Option Toml} {name : String} {i : Nat} {v v' : Option Toml}
    (h : Holds s name i v) (h' : Holds s name i v') : v' = v := by
  cases h <;> cases h' <;> rfl

theorem Holds.section? {s : Option Toml} {name : String} {i : Nat} {v : Option Toml}
    (h : Holds s name i v) (names : List String) : ∃ values, section? names s = some values := by
  cases h <;> exact ⟨_, rfl⟩

theorem holds_member {s : Option Toml} {names : List String} {values : List (Option Toml)}
    (hs : section? names s = some values) {i : Nat} {name : String} (hn : names[i]? = some name) :
    Holds s name i (member values i) := by
  have hm : ∀ f : String → Option Toml, member (names.map f) i = f name := fun f => by
    simp [member, hn]
  unfold Config.section? at hs
  split at hs <;> cases hs
  · rw [hm]
    exact .missing
  · rw [hm]
    exact .named
  · simpa [member, hn] using Holds.placed
  · rw [hm]
    exact .date

theorem optional_eq_some_iff {α : Type} {read : Toml → Option α} {write : α → Toml}
    (h : ∀ v a, read v = some a ↔ v = write a) {v : Option Toml} {a : Option α} :
    optional read v = some a ↔ v = a.map write := by
  cases v with
  | none => cases a <;> simp [optional]
  | some v => cases a <;> simp [optional, h]

theorem text_eq_some_iff (v : Toml) (s : String) : text v = some s ↔ v = .string s := by
  cases v <;> simp [text]

theorem texts_eq_some_iff (v : Toml) (ts : List String) :
    texts v = some ts ↔ v = .array (ts.map .string) := by
  have hitems : ∀ items : List Toml, items.mapM text = some ts ↔ items = ts.map .string := by
    intro items
    induction items generalizing ts with
    | nil => cases ts <;> simp
    | cons item items ih =>
      cases ts with
      | nil => simp [List.mapM_cons, Option.bind_eq_some_iff]
      | cons t ts => simp [List.mapM_cons, Option.bind_eq_some_iff, text_eq_some_iff, ih]
  cases v <;> simp [texts, hitems]

theorem overlay_ofToml_eq_some_iff : Overlay.ofToml document = some o ↔ Gives document o := by
  constructor
  · intro h
    simp only [Overlay.ofToml, Option.bind_eq_bind, Option.bind_eq_some_iff] at h
    obtain ⟨root, hroot, keys, hkeys, keyTypes, htypes, graph, hgraph, format, hformat, output,
      houtput, h⟩ := h
    cases h
    rw [optional_eq_some_iff text_eq_some_iff] at hroot hformat houtput
    rw [optional_eq_some_iff texts_eq_some_iff] at htypes
    exact ⟨hroot, htypes ▸ holds_member hkeys rfl, hformat ▸ holds_member hgraph rfl,
      houtput ▸ holds_member hgraph rfl⟩
  · intro h
    obtain ⟨keys, hkeys⟩ := h.keyTypes.section? ["types"]
    obtain ⟨graph, hgraph⟩ := h.graphFormat.section? ["format", "output"]
    have htypes := h.keyTypes.unique (holds_member hkeys rfl)
    have hformat := h.graphFormat.unique (holds_member hgraph rfl)
    have houtput := h.graphOutput.unique (holds_member hgraph rfl)
    simp [Overlay.ofToml, hkeys, hgraph, (optional_eq_some_iff text_eq_some_iff).mpr h.root,
      (optional_eq_some_iff texts_eq_some_iff).mpr htypes,
      (optional_eq_some_iff text_eq_some_iff).mpr hformat,
      (optional_eq_some_iff text_eq_some_iff).mpr houtput]

-- ---------------------------------------------------------------------------
-- What a document holds besides
-- ---------------------------------------------------------------------------

def keep (names : List String) (members : List (String × Toml)) : List (String × Toml) :=
  members.filter fun m => m.1 ∈ names

def keepInTable (names : List String) : Toml → Toml
  | .table members => .table (keep names members)
  | v => v

/-- The document without the members that a configuration does not know. -/
def known (document : List (String × Toml)) : List (String × Toml) :=
  (keep ["root", "keys", "graph"] document).map fun m =>
    (m.1,
      if m.1 = "keys" then keepInTable ["types"] m.2
      else if m.1 = "graph" then keepInTable ["format", "output"] m.2
      else m.2)

theorem lookup_keep_map {names : List String} {name : String} (hn : name ∈ names)
    (f : String → Toml → Toml) (members : List (String × Toml)) :
    ((keep names members).map fun m => (m.1, f m.1 m.2)).lookup name =
      (members.lookup name).map (f name) := by
  induction members with
  | nil => rfl
  | cons m members ih =>
    obtain ⟨n, v⟩ := m
    by_cases hname : name = n
    · subst hname
      simp [keep, hn]
    · have hb : (name == n) = false := by simpa using hname
      rw [keep] at ih ⊢
      rw [List.filter_cons]
      split
      · simpa [List.lookup_cons, hb] using ih
      · simpa [List.lookup_cons, hb] using ih

theorem lookup_keep {names : List String} {name : String} (hn : name ∈ names)
    (members : List (String × Toml)) : (keep names members).lookup name = members.lookup name := by
  simpa using lookup_keep_map hn (fun _ v => v) members

theorem section?_keepInTable (names : List String) (s : Option Toml) : Config.section? names
    (s.map (keepInTable names)) = Config.section? names s := by
  rcases s with _ | v
  · rfl
  · cases v with
    | table members =>
      refine congrArg some (List.map_congr_left fun name hn => ?_)
      exact lookup_keep hn members
    | _ => rfl

theorem overlay_ofToml_known (document : List (String × Toml)) :
    Overlay.ofToml (known document) = Overlay.ofToml document := by
  have hlookup : ∀ name ∈ ["root", "keys", "graph"], (known document).lookup name = _ :=
    fun name hn => lookup_keep_map hn (fun name v =>
      if name = "keys" then keepInTable ["types"] v
      else if name = "graph" then keepInTable ["format", "output"] v
      else v) document
  have hroot : (known document).lookup "root" = document.lookup "root" := by
    simpa using hlookup "root" (by simp)
  have hkeys : (known document).lookup "keys" =
      (document.lookup "keys").map (keepInTable ["types"]) := hlookup "keys" (by simp)
  have hgraph : (known document).lookup "graph" =
      (document.lookup "graph").map (keepInTable ["format", "output"]) := by
    simpa using hlookup "graph" (by simp)
  simp only [Overlay.ofToml, hroot, hkeys, hgraph, section?_keepInTable]

-- ---------------------------------------------------------------------------
-- Reading a configuration
-- ---------------------------------------------------------------------------

/-- The defaults, with the values that are given in their place. -/
structure Candidate (o : Overlay) (c : Config) : Prop where
  root : c.root = o.root
  keyTypes : c.keyTypes = o.keyTypes.getD ["age"]
  graphFormat : c.graphFormat = o.graphFormat.getD "png"
  graphOutput : c.graphOutput = o.graphOutput.getD "sops_hierarchy"

theorem candidate_iff : Candidate o c ↔ c = default.overlay o := by
  constructor
  · rintro ⟨hroot, hkeys, hformat, houtput⟩
    obtain ⟨root, keyTypes, format, output⟩ := c
    simp only at hroot hkeys hformat houtput
    simp [overlay, default, hroot, hkeys, hformat, houtput]
  · rintro rfl
    exact ⟨by simp [overlay, default], rfl, rfl, rfl⟩

theorem check_eq_ok_iff {c' : Config} : c.check = .ok c' ↔ c' = c ∧ c.Usable := by
  unfold check
  rcases usable_or_firstFault c with hu | ⟨v, hv⟩
  · simp [validate_of_usable hu, hu, eq_comm]
  · have hn : ¬ c.Usable := fun hu => by
      have h := validate_of_firstFault hv
      rw [validate_of_usable hu] at h
      cases h
    simp [validate_of_firstFault hv, hn]

theorem check_eq_error_iff {e : ConfigError} :
    c.check = .error e ↔ ∃ v, FirstFault c v ∧ e = .invalid v := by
  unfold check
  simp only [← validate_eq_error_iff]
  cases c.validate with
  | ok => simp
  | error v => simp [eq_comm]

/-- A configuration is read from any text in TOML of the expected shape: the
defaults with the given values in their place, if that is usable, and else the
first fault that it has. A text of any other shape is refused. What a document
holds besides makes no difference. And of any configuration, wherever it comes
from, the checks say just whether it is usable, or else its first fault, by the
name of the member that is at fault. -/
theorem configuration_exact :
    (∀ contents document, Toml.parse? contents = some document → ∀ o, Gives document o →
      (∀ c, parse contents = .ok c ↔ Candidate o c ∧ c.Usable) ∧
        ∀ e, parse contents = .error e ↔
          ∃ c v, Candidate o c ∧ FirstFault c v ∧ e = .invalid v) ∧
    (∀ contents document, Toml.parse? contents = some document → (∀ o, ¬ Gives document o) →
      parse contents = .error .unparsable) ∧
    (∀ contents contents' document document', Toml.parse? contents = some document →
      Toml.parse? contents' = some document' → known document' = known document →
      parse contents' = parse contents) ∧
    ∀ c : Config, (c.validate = .ok () ↔ c.Usable) ∧ ∀ v,
      (c.validate = .error v ↔ FirstFault c v) ∧
        (FirstFault c v →
          v.field = "keys.types" ∧ (c.keyTypes = [] ∨ ∃ t ∈ c.keyTypes, Blank t) ∨
          v.field = "graph.format" ∧ (∀ f, ¬ GraphFormat.Denotes c.graphFormat f) ∨
          v.field = "graph.output" ∧ Blank c.graphOutput) := by
  refine ⟨?_, ?_, ?_, fun c =>
    ⟨validate_eq_ok_iff, fun v => ⟨validate_eq_error_iff, FirstFault.field⟩⟩⟩
  · intro contents document hd o ho
    have hparse : parse contents = (default.overlay o).check :=
      parse_of_sets ⟨document, hd, overlay_ofToml_eq_some_iff.mpr ho⟩
    rw [hparse]
    refine ⟨fun c => ?_, fun e => ?_⟩
    · rw [check_eq_ok_iff, candidate_iff]
      exact and_congr_right fun h => by rw [h]
    · simp only [check_eq_error_iff, candidate_iff]
      exact ⟨fun ⟨v, hv⟩ => ⟨_, v, rfl, hv⟩, fun ⟨_, v, hc, hv⟩ => ⟨v, hc ▸ hv⟩⟩
  · intro contents document hd hn
    refine parse_of_not_sets fun o ⟨document', hd', ho⟩ => hn o ?_
    cases hd.symm.trans hd'
    exact overlay_ofToml_eq_some_iff.mp ho
  · intro contents contents' document document' hd hd' hknown
    have ho : Overlay.ofToml document' = Overlay.ofToml document := by
      rw [← overlay_ofToml_known document', hknown, overlay_ofToml_known]
    simp only [parse, hd, hd', ofToml, ho]

/-- One value of a section is given, in capitals, beside unknown members. -/
def partialText : String := "extra = 1\n[keys]\nother = []\n[graph]\nformat = \"SVG\"\n"

theorem partialText_read :
    ∃ document, Toml.parse? partialText = some document ∧
      Gives document ⟨none, none, some "SVG", none⟩ ∧
      parse partialText = .ok ⟨none, ["age"], "SVG", "sops_hierarchy"⟩ := by
  have h : (Toml.parse? partialText).bind Overlay.ofToml = some ⟨none, none, some "SVG", none⟩ := by
    decide +kernel
  obtain ⟨document, hd, ho⟩ := Option.bind_eq_some_iff.mp h
  have hg := overlay_ofToml_eq_some_iff.mp ho
  have hu : Usable ⟨none, ["age"], "SVG", "sops_hierarchy"⟩ := validate_eq_ok_iff.mp (by decide +kernel)
  exact ⟨document, hd, hg, ((configuration_exact.1 _ _ hd _ hg).1 _).mpr ⟨⟨rfl, rfl, rfl, rfl⟩, hu⟩⟩

end Config

end SecretAccess
