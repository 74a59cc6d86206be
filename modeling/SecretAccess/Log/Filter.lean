import SecretAccess.Log
import SecretAccess.Log.Pattern

/-!
# Filters of the log

A filter is a list of directives between commas. A directive names a level,
and may say for which part of the program and for which value it counts; of
those that apply to an event the most specific one decides. A filter that
cannot be read in all its parts is no filter.
-/

namespace SecretAccess.Log

/-- The highest rank that is written: zero for nothing, five for everything. -/
abbrev Threshold := Nat

/-- What counts for the events from the parts of the program whose names start
with a target, or for all, if they carry a value of the given name. -/
structure Rule where
  target : Option String
  value : Option String
  threshold : Threshold
deriving DecidableEq, Repr

namespace Rule

def applies (r : Rule) (e : Event) : Bool :=
  (match r.target with
    | none => true
    | some target => target.toList.isPrefixOf e.origin.toList) &&
  (match r.value with
    | none => true
    | some name => e.names.contains name)

/-- A longer target is more specific, and then a value is. -/
def specificity (r : Rule) : Nat × Nat × String :=
  (match r.target with
    | none => 0
    | some target => target.length + 1,
   if r.value.isSome then 1 else 0,
   r.value.getD "")

def outranks (r other : Rule) : Bool :=
  let (target, valued, name) := r.specificity
  let (target', valued', name') := other.specificity
  target' < target ||
    (target' = target && (valued' < valued || (valued' = valued && name' < name)))

end Rule

abbrev Filter := List Rule

namespace Filter

/-- The rule that decides on an event. Of two alike the later one counts. -/
def deciding? (f : Filter) (e : Event) : Option Rule :=
  (f.filter (·.applies e)).foldl (fun (best : Option Rule) r =>
    match best with
    | none => some r
    | some best => if best.outranks r then some best else some r) none

def passes (f : Filter) (e : Event) : Bool :=
  match f.deciding? e with
  | some r => e.level.rank ≤ r.threshold
  | none => false

def upTo (threshold : Threshold) : Filter := [⟨none, none, threshold⟩]

end Filter

/-- A directive as it is written. One that asks for a span, or for what a value
is, says nothing about events. -/
structure Directive where
  rule : Rule
  ofEvents : Bool
deriving DecidableEq, Repr

namespace Directive

def lower (s : String) : String := String.ofList (s.toList.map Char.toLower)

/-- A number may have a plus sign and zeros in front. -/
def number? (cs : List Char) : Option Nat :=
  let digits := match cs with
    | '+' :: digits => digits
    | digits => digits
  if digits.isEmpty || !digits.all Char.isDigit then none
  else some (digits.foldl (fun n c => n * 10 + (c.toNat - 48)) 0)

def threshold? (text : String) : Option Threshold :=
  match number? text.toList with
  | some n => if n ≤ 5 then some n else none
  | none =>
    match lower text with
    | "off" => some 0
    | "error" => some 1
    | "warn" => some 2
    | "info" => some 3
    | "debug" => some 4
    | "trace" => some 5
    | _ => none

/-- The level behind an equals sign. Nothing there means everything. -/
def level? (text : String) : Option Threshold :=
  if text.isEmpty then some 5 else threshold? text

def startsName (c : Char) : Bool := c = '-' || c = ':' || c = '_' || Text.isAlphanumeric c

/-- The first place from `start` on where one of two characters stands. -/
def place? (a b : Char) (start : Nat) (cs : List Char) : Option Nat :=
  ((cs.drop start).findIdx? fun c => c = a || c = b).map (start + ·)

/-- A directive without the blanks around it, as far as its shape goes; its
pieces are cut from the text as it stands. -/
structure Source where
  text : List Char
  shape : List Char

namespace Source

def ofString (s : String) : Source := ⟨s.toList, Text.trimEnd (Text.trimStart s.toList)⟩

def piece (s : Source) (start stop : Nat) : String := String.ofList ((s.text.take stop).drop start)

def rest (s : Source) (start : Nat) : String := String.ofList (s.text.drop start)

end Source

/-- What follows the brackets: an equals sign and a level, or nothing. -/
def behindBrackets? (s : Source) (place : Nat) (target value : Option String) (ofEvents : Bool) :
    Option Directive :=
  match s.shape[place]? with
  | none => some ⟨⟨target, value, 5⟩, ofEvents⟩
  | some '=' => (level? (s.rest (place + 1))).map fun t => ⟨⟨target, value, t⟩, ofEvents⟩
  | some _ => none

/-- A value between braces: its name, and what it has to look like, up to a
second equals sign. -/
def valueTest (text : String) : String × Option String :=
  match text.toList.splitOn '=' with
  | name :: pattern :: _ => (String.ofList name, some (String.ofList pattern))
  | _ => (text, none)

/-- Brackets hold the name of a span, or a value between braces, or both. -/
def brackets? (s : Source) (start : Nat) (target : Option String) : Option Directive := do
  let stop ← place? ']' '\x7b' start s.shape
  if s.shape[stop]? = some ']' then behindBrackets? s (stop + 1) target none false
  else
    let close ← place? '\x7d' '\x7d' (stop + 1) s.shape
    let (name, pattern) := valueTest (s.piece (stop + 1) close)
    if close = stop + 1 || s.shape[close + 1]? ≠ some ']' || !pattern.all Pattern.isReadable then
      none
    else
      behindBrackets? s (close + 2) target (some name)
        (pattern.isNone && (s.piece start stop).isEmpty)

/-- A text without an equals sign or brackets is a level, or else a target. -/
def bare (text : String) : Directive :=
  match threshold? text with
  | some t => ⟨⟨none, none, t⟩, true⟩
  | none => ⟨⟨some text, none, 5⟩, true⟩

def parse? (text : String) : Option Directive :=
  let s := Source.ofString text
  match s.shape with
  | [] => none
  | '[' :: _ => brackets? s 1 none
  | c :: _ =>
    if !startsName c then none
    else
      match place? '=' '[' 0 s.shape with
      | none => some (bare text)
      | some place =>
        let target := s.piece 0 place
        if s.shape[place]? = some '[' then brackets? s (place + 1) (some target)
        else (level? (s.rest (place + 1))).map fun t => ⟨⟨some target, none, t⟩, true⟩

end Directive

namespace Filter

/-- Reads a filter. One without directives lets errors through. -/
def parse? (text : String) : Option Filter :=
  let pieces := (text.toList.splitOn ',').filter (!·.isEmpty)
  if pieces.isEmpty then some (upTo 1)
  else
    (pieces.mapM fun piece => Directive.parse? (String.ofList piece)).map fun ds =>
      (ds.filter Directive.ofEvents).map Directive.rule

/-- The filter of a run: what the environment says if that can be read, or else
warnings, or everything but traces if the run is verbose. -/
def ofRun (setting : Option String) (verbose : Bool) : Filter :=
  (setting.bind parse?).getD (upTo (if verbose then 4 else 2))

end Filter

end SecretAccess.Log
