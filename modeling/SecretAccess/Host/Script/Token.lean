import SecretAccess.Host.Script.Syntax

/-!
# The tokens of a script

Splits the text of a script into words and operators. What cannot be split, for
want of a closing quote or brace, ends the tokens with a complaint, so that the
lines before it can still be run.
-/

namespace SecretAccess.Host.Script

open Text (Octets)

/-- What a text is part of. -/
inductive Setting where
  | bare
  | quotes
  | document
  /-- The word or pattern inside a parameter, outside and inside quotes. -/
  | operand
  | quotedOperand
deriving DecidableEq, Repr

namespace Setting

def isQuoted : Setting → Bool
  | bare | operand => false
  | quotes | document | quotedOperand => true

/-- Characters that a backslash takes the meaning from. -/
def guards (s : Setting) (c : Char) : Bool :=
  match s with
  | bare | operand => true
  | document => c = '\\' || c = '$' || c.toNat = 0x60
  | quotes => c = '\\' || c = '$' || c.toNat = 0x60 || c = '"'
  | quotedOperand => c = '\\' || c = '$' || c.toNat = 0x60 || c = '"' || c = '\x7d'

end Setting

def unterminated : String := "Unterminated quoted string"

def unclosed (closer : Char) : String :=
  if closer = '\x7d' then "Missing '\x7d'"
  else if closer = ')' then "end of file unexpected (expecting \")\")"
  else if closer.toNat = 0x60 then "EOF in backquote substitution"
  else unterminated

def unclosedNumber : String := "Missing '))'"

def isBackquote (c : Char) : Bool := c.toNat = 0x60

/-- The text up to the character that closes, and what follows it. Quotes and
whatever else opens inside have to be closed first. -/
def enclosed : Nat → Char → Bool → Octets → Except String (Octets × Octets)
  | 0, closer, _, _ => .error (unclosed closer)
  | fuel + 1, closer, quoted, cs =>
    let among (opened : Octets) (inner : Char) (innerQuoted : Bool) (rest : Octets) := do
      let (body, rest) ← enclosed fuel inner innerQuoted rest
      let (after, rest) ← enclosed fuel closer quoted rest
      .ok (opened ++ body ++ inner :: after, rest)
    match cs with
    | [] => .error (unclosed closer)
    | '\\' :: c :: rest => do
      let (body, rest) ← enclosed fuel closer quoted rest
      .ok ('\\' :: c :: body, rest)
    | c :: rest =>
      if c = closer then .ok ([], rest)
      else if c = '$' && rest.head? = some '(' then among ['$', '('] ')' false (rest.drop 1)
      else if c = '$' && rest.head? = some '\x7b' then
        among ['$', '\x7b'] '\x7d' quoted (rest.drop 1)
      else if c = '"' then among ['"'] '"' true rest
      else if isBackquote c then among [c] c false rest
      else if c = '(' && closer = ')' then among ['('] ')' false rest
      else if c = '\'' && !quoted then
        match rest.dropWhile (· ≠ '\'') with
        | [] => .error unterminated
        | _ :: after => do
          let (body, last) ← enclosed fuel closer quoted after
          .ok (('\'' :: rest.takeWhile (· ≠ '\'')) ++ '\'' :: body, last)
      else do
        let (body, rest) ← enclosed fuel closer quoted rest
        .ok (c :: body, rest)

def isSpecial (c : Char) : Bool :=
  c = '#' || c = '@' || c = '*' || c = '?' || c = '$' || c = '!' || c = '-'

/-- The name of a parameter at the head of a text. -/
def parameterName? (braces : Bool) (cs : Octets) : Option (String × Octets) :=
  match cs with
  | [] => none
  | c :: rest =>
    if isNameStart c then
      some (String.ofList (cs.takeWhile isNamePart), cs.dropWhile isNamePart)
    else if c.isDigit then
      if braces then some (String.ofList (cs.takeWhile Char.isDigit), cs.dropWhile Char.isDigit)
      else some (c.toString, rest)
    else if isSpecial c then some (c.toString, rest)
    else none

/-- What stands behind the name of a parameter between braces. -/
def change? (cs : Octets) : Option Change :=
  let remedy? : Char → Option Remedy
    | '-' => some .useWord
    | '=' => some .assignWord
    | '?' => some .refuse
    | '+' => some .replace
    | _ => none
  match cs with
  | [] => some .asIs
  | '%' :: '%' :: pattern => some (.cut true true pattern)
  | '%' :: pattern => some (.cut true false pattern)
  | '#' :: '#' :: pattern => some (.cut false true pattern)
  | '#' :: pattern => some (.cut false false pattern)
  | ':' :: c :: word => (remedy? c).map (.unless · true word)
  | c :: word => (remedy? c).map (.unless · false word)

/-- A parameter between braces. A number sign in front asks for its length. -/
def braced (body : Octets) : Part :=
  let changed (name : String) (rest : Octets) : Part :=
    (change? rest).elim .malformed (.parameter name)
  match body with
  | '#' :: name@(_ :: _) =>
    match parameterName? true name with
    | some (name, []) => .parameter name .length
    | _ => changed "#" name
  | _ =>
    match parameterName? true body with
    | none => .malformed
    | some (name, rest) => changed name rest

/-- Takes the backslashes from what backquotes enclose. -/
def unguard (quoted : Bool) : Octets → Octets
  | '\\' :: c :: rest =>
    if Setting.document.guards c || (quoted && c = '"') then c :: unguard quoted rest
    else '\\' :: c :: unguard quoted rest
  | c :: rest => c :: unguard quoted rest
  | [] => []

def isBlank (c : Char) : Bool := c = ' ' || c = '\t'

/-- Characters that end a word. -/
def endsWord (c : Char) : Bool :=
  isBlank c || c = '\n' || c = ';' || c = '&' || c = '|' || c = '<' || c = '>' || c = '(' ||
    c = ')'

inductive Token where
  | word (w : Word)
  /-- A number is opened on the file named next. -/
  | open (number : Nat) (d : Direction)
  /-- A number stands for what the next word names. -/
  | duplicate (number : Nat)
  /-- A number reads the document with this key. -/
  | document (number key : Nat)
  | pipe
  | andThen
  | orElse
  | semicolon
  | doubleSemicolon
  | background
  | newline
  | opening
  | closing
  | broken (message : String)
deriving DecidableEq, Repr

structure Lexeme where
  token : Token
  line : Nat
  /-- The aliases that the token comes from. -/
  aliases : List String
deriving DecidableEq, Repr

/-- An operator, and what follows it. A number belongs to a redirection. -/
def operator? (number : Option Nat) (cs : Octets) : Option (Token × Octets) :=
  let input := number.getD 0
  let output := number.getD 1
  match cs with
  | '>' :: '>' :: rest => some (.open output .append, rest)
  | '>' :: '&' :: rest => some (.duplicate output, rest)
  | '>' :: '|' :: rest => some (.open output .replace, rest)
  | '>' :: rest => some (.open output .write, rest)
  | '<' :: '>' :: rest => some (.open input .both, rest)
  | '<' :: '&' :: rest => some (.duplicate input, rest)
  | '<' :: rest => some (.open input .read, rest)
  | '&' :: '&' :: rest => some (.andThen, rest)
  | '&' :: rest => some (.background, rest)
  | '|' :: '|' :: rest => some (.orElse, rest)
  | '|' :: rest => some (.pipe, rest)
  | ';' :: ';' :: rest => some (.doubleSemicolon, rest)
  | ';' :: rest => some (.semicolon, rest)
  | '(' :: rest => some (.opening, rest)
  | ')' :: rest => some (.closing, rest)
  | _ => none

/-- A number directly in front of a redirection. -/
def redirectedNumber? : Octets → Option (Nat × Octets)
  | c :: d :: rest =>
    if c.isDigit && (d = '<' || d = '>') then some (c.toNat - 48, d :: rest) else none
  | _ => none

/-- A document that is still to be read: the line that ends it, whether tabs in
front of lines are dropped, and whether its parameters are expanded. -/
structure Awaited where
  key : Nat
  stop : Octets
  dropsTabs : Bool
  expands : Bool
deriving DecidableEq, Repr

/-- The lines of a document, and what follows the line that ends it. -/
def Awaited.lines (a : Awaited) : Nat → Octets → Octets × Octets
  | 0, cs => ([], cs)
  | _ + 1, [] => ([], [])
  | fuel + 1, cs =>
    let line := cs.takeWhile (· ≠ '\n')
    let rest := (cs.dropWhile (· ≠ '\n')).drop 1
    let line := if a.dropsTabs then line.dropWhile (· = '\t') else line
    if line = a.stop then ([], rest)
    else
      let (body, rest) := a.lines fuel rest
      (line ++ '\n' :: body, rest)

def countLines (cs : Octets) : Nat := cs.count '\n'

/-- The newlines of a text up to where its rest begins. -/
def passedLines (cs rest : Octets) : Nat := countLines (cs.take (cs.length - rest.length))

/-- What keeps the parenthesis that would end a script inside another one from
doing so. -/
inductive Frame where
  | parenthesis
  | choice
deriving DecidableEq, Repr

/-- How far the reading of tokens is. -/
structure Scanning where
  line : Nat
  awaited : List Awaited
  /-- Present in a script inside another one. -/
  frames : Option (List Frame)
  /-- Whether a command may begin. -/
  fresh : Bool

/-- What was read, and what is left of the text. -/
structure Scanned where
  lexemes : List Lexeme
  documents : List (Nat × Word)
  rest : Octets

namespace Scanned

def cons (token : Token) (line : Nat) (s : Scanned) : Scanned :=
  { s with lexemes := ⟨token, line, []⟩ :: s.lexemes }

def addDocuments (documents : List (Nat × Word)) (s : Scanned) : Scanned :=
  { s with documents := documents ++ s.documents }

end Scanned

/-- Words behind which a command begins. -/
def leadingWords : List String :=
  ["!", "do", "elif", "else", "if", "then", "until", "while", "\x7b"]

namespace Scanning

/-- The state behind a word. A choice goes up to the word that closes it. -/
def passWord (s : Scanning) (w : Word) (line : Nat) : Scanning :=
  let name := w.bare?.getD ""
  let frames := s.frames.map fun fs =>
    if s.fresh && name = "case" then .choice :: fs
    else if name = "esac" && s.fresh && fs.head? = some .choice then fs.drop 1
    else fs
  { s with line, frames, fresh := s.fresh && leadingWords.contains name }

/-- The state behind an operator; there is none behind the parenthesis that ends
a script inside another one. -/
def passOperator? (s : Scanning) (token : Token) : Option Scanning :=
  let s := { s with fresh := true }
  match token, s.frames with
  | .opening, some fs => some { s with frames := some (.parenthesis :: fs) }
  | .closing, some [] => none
  | .closing, some (.choice :: _) => some s
  | .closing, some (.parenthesis :: fs) => some { s with frames := some fs }
  | .open .., _ | .duplicate _, _ | .document .., _ => some { s with fresh := false }
  | _, _ => some s

end Scanning

mutual

/-- The pieces of a text up to its end: a word ends in front of an operator or a
blank, what is quoted behind the quote, all else with the text. -/
def pieces : Nat → Setting → Nat → Octets → Except String (Word × Octets)
  | 0, _, _, _ => .error unterminated
  | fuel + 1, s, line, cs =>
    let further (c : Char) (quoted : Bool) (rest : Octets) := do
      let (w, rest) ← pieces fuel s (if c = '\n' then line + 1 else line) rest
      .ok (Word.cons c quoted w, rest)
    let behind (front : Word) (rest : Octets) := do
      let (w, rest) ← pieces fuel s (line + passedLines cs rest) rest
      .ok (front ++ w, rest)
    match cs with
    | [] => if s = .quotes then .error unterminated else .ok ([], [])
    | '\\' :: '\n' :: rest => pieces fuel s (line + 1) rest
    | '\\' :: c :: rest =>
      if s.guards c then further c true rest
      else do
        let (w, rest) ← pieces fuel s line rest
        .ok (Word.cons '\\' true (Word.cons c true w), rest)
    | '$' :: rest => do
      let (part, rest) ← dollar fuel s line rest
      behind [⟨part, s.isQuoted⟩] rest
    | c :: rest =>
      if isBackquote c then do
        let (script, rest) ← enclosed fuel c false rest
        behind [⟨.output (unguard s.isQuoted script) 1, s.isQuoted⟩] rest
      else if c = '"' then
        match s with
        | .quotes => .ok ([], rest)
        | .document => further c true rest
        | .quotedOperand => pieces fuel s line rest
        | .bare | .operand => do
          let (w, rest) ← pieces fuel .quotes line rest
          behind (if w.isEmpty then [⟨.text [], true⟩] else w) rest
      else if c = '\'' && !s.isQuoted then
        match rest.dropWhile (· ≠ '\'') with
        | [] => .error unterminated
        | _ :: after => behind [⟨.text (rest.takeWhile (· ≠ '\'')), true⟩] after
      else if s = .bare && endsWord c then .ok ([], cs)
      else further c s.isQuoted rest

/-- What a dollar sign stands for, and what follows it. -/
def dollar : Nat → Setting → Nat → Octets → Except String (Part × Octets)
  | 0, _, _, _ => .error unterminated
  | fuel + 1, s, line, cs =>
    match cs with
    | '(' :: '(' :: rest =>
      match enclosed fuel ')' false rest with
      | .ok (expression, ')' :: rest) => .ok (.number expression, rest)
      | _ => .error unclosedNumber
    | '(' :: rest =>
      let inner := scan fuel ⟨line, [], some [], true⟩ rest
      match inner.rest, inner.lexemes.getLast? with
      | _, some ⟨.broken message, _, _⟩ => .error message
      | ')' :: after, _ =>
        .ok (.output (rest.take (rest.length - inner.rest.length)) line, after)
      | _, _ => .error (unclosed ')')
    | '\x7b' :: rest =>
      match enclosed fuel '\x7d' s.isQuoted rest with
      | .ok (body, rest) => .ok (braced body, rest)
      | .error message => .error (if s = .quotes then unterminated else message)
    | _ =>
      match parameterName? false cs with
      | some (name, rest) => .ok (.parameter name .asIs, rest)
      | none => .ok (.text ['$'], cs)

/-- The bodies of documents, one after the other, and what follows them. -/
def documents : Nat → Nat → Octets → List Awaited → List (Nat × Word) × Octets
  | 0, _, cs, _ | _ + 1, _, cs, [] => ([], cs)
  | fuel + 1, line, cs, a :: more =>
    let (body, after) := a.lines (cs.length + 1) cs
    let word : Word :=
      if a.expands then
        match pieces fuel .document line body with
        | .ok (w, _) => w
        | .error _ => [⟨.text body, true⟩]
      else [⟨.text body, true⟩]
    let (ds, rest) := documents fuel (line + passedLines cs after) after more
    ((a.key, word) :: ds, rest)

/-- The lexemes of a text, and the documents among them. -/
def scan : Nat → Scanning → Octets → Scanned
  | 0, _, cs => ⟨[], [], cs⟩
  | fuel + 1, s, cs =>
    let broken (message : String) : Scanned :=
      ⟨[⟨.broken message, s.line + countLines cs, []⟩], [], []⟩
    match cs with
    | [] => ⟨[], [], []⟩
    | '\\' :: '\n' :: rest => scan fuel { s with line := s.line + 1 } rest
    | '#' :: rest => scan fuel s (rest.dropWhile (· ≠ '\n'))
    | '\n' :: rest =>
      let (ds, after) := documents fuel (s.line + 1) rest s.awaited
      let line := s.line + 1 + passedLines rest after
      ((scan fuel { s with line, awaited := [], fresh := true } after).addDocuments ds).cons
        .newline s.line
    | c :: rest =>
      if isBlank c then scan fuel s rest
      else
        let (number, front) :=
          match redirectedNumber? cs with
          | some (n, front) => (some n, front)
          | none => (none, cs)
        match front with
        | '<' :: '<' :: rest =>
          let dropsTabs := rest.head? = some '-'
          let rest := (if dropsTabs then rest.drop 1 else rest).dropWhile isBlank
          match pieces fuel .bare s.line rest with
          | .error message => broken message
          | .ok (stop, after) =>
            if after.length = rest.length then
              (scan fuel s rest).cons (.duplicate (number.getD 0)) s.line
            else
              let awaited := s.awaited ++ [⟨cs.length, stop.plain, dropsTabs, !stop.hasQuotes⟩]
              (scan fuel { s with awaited, fresh := false } after).cons
                (.document (number.getD 0) cs.length) s.line
        | _ =>
          match operator? number front with
          | some (token, rest) =>
            match s.passOperator? token with
            | some s => (scan fuel s rest).cons token s.line
            | none => ⟨[], [], cs⟩
          | none =>
            match pieces fuel .bare s.line cs with
            | .error message => broken message
            | .ok (w, rest) =>
              (scan fuel (s.passWord w (s.line + passedLines cs rest)) rest).cons (.word w) s.line

end

/-- Enough for every character to be looked at three times. -/
def scanFuel (cs : Octets) : Nat := 3 * cs.length + 8

/-- The pieces of a whole text; one that cannot be taken apart stands for itself. -/
def wordOf (s : Setting) (line : Nat) (cs : Octets) : Word :=
  match pieces (scanFuel cs) s line cs with
  | .ok (w, _) => w
  | .error _ => [⟨.text cs, true⟩]

/-- The lexemes of a text whose first line has a number. -/
def lexemes (line : Nat) (cs : Octets) : Scanned := scan (scanFuel cs) ⟨line, [], none, true⟩ cs

end SecretAccess.Host.Script
