import SecretAccess.Host.Utility.Expression
import SecretAccess.Host.Utility.Job

/-!
# Instructions for editing

An editor goes by a list of instructions. Each counts for the lines that its
addresses choose; groups and jumps point to places in the list.
-/

namespace SecretAccess.Host.Utility

open Text (Octets)

namespace Editor

/-- An expression; without one, the last that was used. -/
abbrev Pattern := Option (Expression × Bool)

inductive Address where
  | line (n : Nat)
  /-- Every so many lines from one on. -/
  | every (first step : Nat)
  | last
  | fits (p : Pattern)
  /-- So many lines further. -/
  | further (n : Nat)
  /-- Up to a multiple. -/
  | multiple (n : Nat)
deriving DecidableEq, Repr

/-- How the letters of a replacement are changed. -/
inductive Casing where
  | keep
  | upper
  | lower
deriving DecidableEq, Repr

/-- What takes the place of a match. -/
inductive Substitute where
  | text (o : Octets)
  | group (number : Nat)
  /-- Changes all letters from here on. -/
  | casing (c : Casing)
  /-- Changes the next letter. -/
  | next (c : Casing)
deriving DecidableEq, Repr

structure Substitution where
  pattern : Pattern
  parts : List Substitute
  every : Bool
  from_ : Nat
  prints : Bool
  file : Option Octets
deriving DecidableEq, Repr

inductive Action where
  | substitute (s : Substitution)
  | transliterate (set image : List Char)
  | delete
  | deleteFirst
  | print
  | printFirst
  | show
  | next
  | appendNext
  | hold
  | holdMore
  | fetch
  | fetchMore
  | exchange
  | quit (prints : Bool) (status : Nat)
  | lineNumber
  | append (text : Octets)
  | insert (text : Octets)
  | change (text : Octets)
  | readFile (path : Octets)
  | writeFile (path : Octets)
  | label (name : Octets)
  /-- Goes to a label, or to the end; in some cases only after a replacement, or
  only without one. -/
  | jump (name : Octets) (wanted : Option Bool)
  | opening
  | closing
deriving DecidableEq, Repr

structure Instruction where
  start : Option Address
  stop : Option Address
  inverted : Bool
  action : Action
deriving DecidableEq, Repr

/-- What is wrong with a script, and how much of it was left then. -/
structure Mistake where
  left : Option Nat
  message : String
deriving DecidableEq, Repr

abbrev Reading (α : Type) := Except Mistake α

def wrong {α : Type} (rest : Octets) (message : String) : Reading α :=
  .error ⟨some rest.length, message⟩

/-- The text up to a delimiter that is not guarded, and what follows it. Guarded
delimiters stand for themselves, and in expressions an escape for a newline does
too. -/
def delimited (d : Char) (isExpression : Bool) : Octets → Option (Octets × Octets)
  | [] => none
  | '\\' :: c :: rest =>
    (delimited d isExpression rest).map fun (text, rest) =>
      (if isExpression && c = 'n' && d ≠ 'n' then '\n' :: text
        else if c = d && (isExpression || c ≠ '&') then c :: text
        else '\\' :: c :: text, rest)
  | c :: rest =>
    if c = d then some ([], rest)
    else if c = '\n' then none
    else (delimited d isExpression rest).map fun (text, rest) => (c :: text, rest)

def substitutes : Octets → List Substitute
  | [] => []
  | '\\' :: c :: rest =>
    let part : Substitute :=
      if c.isDigit then .group (c.toNat - 48)
      else
        match c with
        | 'n' => .text ['\n']
        | 't' => .text ['\t']
        | 'r' => .text ['\r']
        | 'U' => .casing .upper
        | 'L' => .casing .lower
        | 'E' => .casing .keep
        | 'u' => .next .upper
        | 'l' => .next .lower
        | c => .text [c]
    part :: substitutes rest
  | '&' :: rest => .group 0 :: substitutes rest
  | c :: rest => .text [c] :: substitutes rest

def skipBlanks (cs : Octets) : Octets := cs.dropWhile fun c => c = ' ' || c = '\t'

def number (cs : Octets) : Nat × Octets :=
  ((natural? (cs.takeWhile Char.isDigit)).getD 0, cs.dropWhile Char.isDigit)

/-- The expression that a text is. -/
def pattern (s : Expression.Style) (text rest : Octets) : Reading Pattern :=
  if text.isEmpty then .ok none
  else
    match Expression.parse? s text with
    | some e => .ok (some (e, s.folded))
    | none => wrong rest (Expression.complaint s text)

/-- An address between delimiters, with letters behind it. -/
def expressionAddress (s : Expression.Style) (d : Char) (cs : Octets) :
    Reading (Option Address × Octets) :=
  match delimited d true cs with
  | none => wrong (cs.dropWhile (· ≠ '\n')) "unterminated address regex"
  | some (text, rest) => do
    let flags := rest.takeWhile fun c => c = 'I' || c = 'M'
    let rest := rest.drop flags.length
    let s := { s with folded := s.folded || flags.contains 'I' }
    .ok (some (.fits (← pattern s text rest)), rest)

def address (s : Expression.Style) (cs : Octets) : Reading (Option Address × Octets) :=
  match cs with
  | '$' :: rest => .ok (some .last, rest)
  | '/' :: rest => expressionAddress s '/' rest
  | '\\' :: d :: rest => expressionAddress s d rest
  | c :: _ =>
    if c.isDigit then
      let (first, rest) := number cs
      match rest with
      | '~' :: rest =>
        let (step, rest) := number rest
        .ok (some (.every first step), rest)
      | rest => .ok (some (.line first), rest)
    else .ok (none, cs)
  | [] => .ok (none, [])

/-- The address that ends a range. -/
def secondAddress (s : Expression.Style) (cs : Octets) : Reading (Option Address × Octets) :=
  match cs with
  | '+' :: rest =>
    let (n, rest) := number rest
    .ok (some (.further n), rest)
  | '~' :: rest =>
    let (n, rest) := number rest
    .ok (some (.multiple n), rest)
  | cs => do
    match ← address s cs with
    | (none, rest) => wrong (rest.drop 1) "unexpected `,'"
    | found => .ok found

/-- A text up to the end of its line, which a backslash puts off. -/
def textLines : Octets → Octets × Octets
  | [] => (['\n'], [])
  | '\n' :: rest => (['\n'], rest)
  | '\\' :: 't' :: rest => let (text, rest) := textLines rest; ('\t' :: text, rest)
  | '\\' :: c :: rest => let (text, rest) := textLines rest; (c :: text, rest)
  | c :: rest => let (text, rest) := textLines rest; (c :: text, rest)

/-- The text behind a command that takes one. -/
def textArgument (cs : Octets) : Reading (Octets × Octets) :=
  match skipBlanks cs with
  | [] => wrong [] "expected \\ after `a', `c' or `i'"
  | '\\' :: rest =>
    match skipBlanks rest with
    | [] => wrong [] "expected \\ after `a', `c' or `i'"
    | '\n' :: rest => .ok (textLines rest)
    | _ => .ok (textLines rest)
  | cs => .ok (textLines cs)

/-- What a command must end with. -/
def endOfCommand (cs : Octets) : Reading Octets :=
  match skipBlanks cs with
  | [] => .ok []
  | c :: rest =>
    if c = ';' || c = '\n' then .ok rest
    else if c = '\x7d' || c = '#' then .ok (c :: rest)
    else wrong rest "extra characters after command"

/-- The letters behind a substitution. -/
def substitutionFlags : Nat → Substitution × Bool × Option Nat → Octets →
    Reading (Substitution × Bool × Option Nat × Octets)
  | 0, (s, folded, n), cs => .ok (s, folded, n, cs)
  | fuel + 1, (s, folded, n), cs =>
    match skipBlanks cs with
    | [] => .ok (s, folded, n, [])
    | c :: rest =>
      if c = 'i' || c = 'I' then substitutionFlags fuel (s, true, n) rest
      else if c = 'm' || c = 'M' then substitutionFlags fuel (s, folded, n) rest
      else if c = 'g' then
        if s.every then wrong rest "multiple `g' options to `s' command"
        else substitutionFlags fuel ({ s with every := true }, folded, n) rest
      else if c = 'p' then
        if s.prints then wrong rest "multiple `p' options to `s' command"
        else substitutionFlags fuel ({ s with prints := true }, folded, n) rest
      else if c = 'w' then
        let path := (skipBlanks rest).takeWhile (· ≠ '\n')
        .ok ({ s with file := some path }, folded, n, rest.dropWhile (· ≠ '\n'))
      else if c.isDigit then
        let (value, rest) := number (c :: rest)
        if n.isSome then wrong rest "multiple number options to `s' command"
        else if value = 0 then wrong rest "number option to `s' command may not be zero"
        else substitutionFlags fuel (s, folded, some value) rest
      else if c = ';' || c = '\n' || c = '\x7d' || c = '#' then .ok (s, folded, n, c :: rest)
      else wrong rest "unknown option to `s'"

def highestGroup (parts : List Substitute) : Nat :=
  parts.foldl (fun n p =>
    match p with
    | .group m => max m n
    | _ => n) 0

def substitution (style : Expression.Style) (cs : Octets) : Reading (Action × Octets) :=
  let unterminated : Reading (Action × Octets) :=
    wrong (cs.dropWhile (· ≠ '\n')) "unterminated `s' command"
  match cs with
  | [] => unterminated
  | d :: rest =>
    match delimited d true rest with
    | none => unterminated
    | some (text, rest) =>
      match delimited d false rest with
      | none => unterminated
      | some (replacement, rest) => do
        let parts := substitutes replacement
        let start : Substitution := ⟨none, parts, false, 1, false, none⟩
        let (s, folded, n, rest) ←
          substitutionFlags (rest.length + 1) (start, style.folded, none) rest
        let p ← pattern { style with folded } text rest
        let groups := p.elim 9 fun p => p.1.groupCount
        if groups < highestGroup parts then
          wrong rest ("invalid reference \\" ++ (highestGroup parts).repr ++
            " on `s' command's RHS")
        else .ok (.substitute { s with pattern := p, from_ := n.getD 1 }, ← endOfCommand rest)

/-- A set of characters with its backslashes taken out. -/
def plainCharacters : Octets → List Char
  | '\\' :: '\\' :: rest => '\\' :: plainCharacters rest
  | '\\' :: 't' :: rest => '\t' :: plainCharacters rest
  | c :: rest => c :: plainCharacters rest
  | [] => []

def transliteration (cs : Octets) : Reading (Action × Octets) :=
  let unterminated : Reading (Action × Octets) := wrong [] "unterminated `y' command"
  match cs with
  | [] => unterminated
  | d :: rest =>
    match delimited d true rest with
    | none => unterminated
    | some (set, rest) =>
      match delimited d true rest with
      | none => unterminated
      | some (image, rest) => do
        let set := plainCharacters set
        let image := plainCharacters image
        if set.length ≠ image.length then
          wrong rest "strings for `y' command are different lengths"
        else .ok (.transliterate set image, ← endOfCommand rest)

/-- A name up to a blank or the end of a command. -/
def labelName (cs : Octets) : Octets × Octets :=
  let cs := skipBlanks cs
  let isPart (c : Char) : Bool := !(c = ';' || c = ' ' || c = '\t' || c = '\n' || c = '\x7d')
  (cs.takeWhile isPart, cs.dropWhile isPart)

def fileName (cs : Octets) : Octets × Octets :=
  ((skipBlanks cs).takeWhile (· ≠ '\n'), cs.dropWhile (· ≠ '\n'))

def jumpAction (wanted : Option Bool) (cs : Octets) : Reading (Action × Octets) := do
  let (name, rest) := labelName cs
  .ok (.jump name wanted, ← endOfCommand rest)

def action (style : Expression.Style) (addressed : Bool) (cs : Octets) :
    Reading (Action × Octets) := do
  match cs with
  | [] => wrong [] "missing command"
  | c :: rest =>
    let simple (a : Action) : Reading (Action × Octets) := do .ok (a, ← endOfCommand rest)
    match c with
    | 's' => substitution style rest
    | 'y' => transliteration rest
    | 'd' => simple .delete
    | 'D' => simple .deleteFirst
    | 'p' => simple .print
    | 'P' => simple .printFirst
    | 'n' => simple .next
    | 'N' => simple .appendNext
    | 'h' => simple .hold
    | 'H' => simple .holdMore
    | 'g' => simple .fetch
    | 'G' => simple .fetchMore
    | 'x' => simple .exchange
    | '=' => simple .lineNumber
    | 'l' => simple .show
    | 'q' | 'Q' =>
      let (status, rest) := number (skipBlanks rest)
      .ok (.quit (c = 'q') status, ← endOfCommand rest)
    | 'a' => let (text, rest) ← textArgument rest; .ok (.append text, rest)
    | 'i' => let (text, rest) ← textArgument rest; .ok (.insert text, rest)
    | 'c' => let (text, rest) ← textArgument rest; .ok (.change text, rest)
    | 'r' =>
      let (path, rest) := fileName rest
      if path.isEmpty then wrong rest "missing filename in r/R/w/W commands"
      else .ok (.readFile path, rest)
    | 'w' =>
      let (path, rest) := fileName rest
      if path.isEmpty then wrong rest "missing filename in r/R/w/W commands"
      else .ok (.writeFile path, rest)
    | 'b' => jumpAction none rest
    | 't' => jumpAction (some true) rest
    | 'T' => jumpAction (some false) rest
    | ':' =>
      let (name, rest) := labelName rest
      if addressed then wrong rest ": doesn't want any addresses"
      else if name.isEmpty then wrong rest "\":\" lacks a label"
      else .ok (.label name, rest)
    | '\x7b' => .ok (.opening, rest)
    | '\x7d' => simple .closing
    | '#' =>
      if addressed then wrong rest "comments don't accept any addresses"
      else wrong rest "unknown command: `#'"
    | c => wrong rest ("unknown command: `" ++ c.toString ++ "'")

def separates (c : Char) : Bool := c = ';' || c = '\n' || c = ' ' || c = '\t'

/-- The instructions of a script; so many groups are open in front of it. -/
def instructions (s : Expression.Style) : Nat → Nat → Octets → Reading (List Instruction × Nat)
  | 0, open_, _ => .ok ([], open_)
  | fuel + 1, open_, cs => do
    let cs := cs.dropWhile separates
    if cs.isEmpty then .ok ([], open_)
    else if cs.head? = some '#' then instructions s fuel open_ (cs.dropWhile (· ≠ '\n'))
    else
      let (start, cs) ← address s cs
      let (stop, cs) ←
        match skipBlanks cs with
        | ',' :: rest =>
          if start.isNone then wrong rest "unexpected `,'" else secondAddress s (skipBlanks rest)
        | rest => .ok (none, rest)
      let cs := skipBlanks cs
      let inverted := cs.head? = some '!'
      let cs := if inverted then skipBlanks (cs.drop 1) else cs
      if inverted && cs.head? = some '!' then wrong (cs.drop 1) "multiple `!'s"
      else
        let (a, rest) ← action s start.isSome cs
        let count : Nat := if a = .opening then open_ + 1 else open_
        if a = .closing && open_ = 0 then wrong (cs.drop 1) "unexpected `\x7d'"
        else if a = .closing && start.isSome then
          wrong (cs.drop 1) "\x7d doesn't want any addresses"
        else
          let count := if a = .closing then count - 1 else count
          let (more, count) ← instructions s fuel count rest
          .ok (⟨start, stop, inverted, a⟩ :: more, count)

/-- The place behind the end of the group that opens at a place. -/
def behindGroup (program : Array Instruction) : Nat → Nat → Nat → Nat
  | 0, _, place => place
  | fuel + 1, depth, place =>
    match (program[place]?).map Instruction.action with
    | none => place
    | some .opening => behindGroup program fuel (depth + 1) (place + 1)
    | some .closing =>
      if depth ≤ 1 then place + 1 else behindGroup program fuel (depth - 1) (place + 1)
    | some _ => behindGroup program fuel depth (place + 1)

/-- The place of a label; without a name, the end. -/
def placeOf? (program : Array Instruction) (name : Octets) : Option Nat :=
  if name.isEmpty then some program.size
  else program.findIdx? fun i => i.action = .label name

/-- A name that is gone to and is no label. -/
def missingLabel? (program : Array Instruction) : Option Octets :=
  program.toList.findSome? fun i =>
    match i.action with
    | .jump name _ => if (placeOf? program name).isNone then some name else none
    | _ => none

end Editor

end SecretAccess.Host.Utility
