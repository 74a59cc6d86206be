import SecretAccess.Host.Script.Token

/-!
# The grammar of scripts

Reads commands from tokens, one line of the script at a time: a mistake in a
line does not keep the lines before it from being run.
-/

namespace SecretAccess.Host.Script

open Text (Octets)

/-- Where a script cannot be read on, and why. -/
structure Mistake where
  line : Nat
  message : String
deriving DecidableEq, Repr

def reservedWords : List String :=
  ["!", "case", "do", "done", "elif", "else", "esac", "fi", "for", "if", "in", "then", "until",
    "while", "\x7b", "\x7d"]

/-- Commands whose names cannot be given to anything else, and whose failures end
a script. -/
def specialCommands : List String :=
  [".", ":", "break", "continue", "eval", "exec", "exit", "export", "local", "readonly", "return",
    "set", "shift", "times", "trap", "unset"]

def inQuotes (s : String) : String := "\"" ++ s ++ "\""

/-- A token in a complaint. Only where commands are read are words reserved. -/
def Token.description (reserves : Bool) : Token → String
  | .word w =>
    match w.bare? with
    | some name => if reserves && reservedWords.contains name then inQuotes name else "word"
    | none => "word"
  | .open .. | .duplicate _ | .document .. => "redirection"
  | .pipe => inQuotes "|"
  | .andThen => inQuotes "&&"
  | .orElse => inQuotes "||"
  | .semicolon => inQuotes ";"
  | .doubleSemicolon => inQuotes ";;"
  | .background => inQuotes "&"
  | .newline => "newline"
  | .opening => inQuotes "("
  | .closing => inQuotes ")"
  | .broken message => message

/-- The line that the reader is at behind a token. -/
def Lexeme.reached (l : Lexeme) : Nat := if l.token = .newline then l.line + 1 else l.line

/-- The mistake of the next token, with what should have stood there. -/
def unexpected (reserves : Bool) (last : Nat) (wanted : Option String) : List Lexeme → Mistake
  | [] => ⟨last, "end of file unexpected" ++ expecting⟩
  | l :: _ =>
    match l.token with
    | .broken message => ⟨l.line, message⟩
    | token => ⟨l.reached, token.description reserves ++ " unexpected" ++ expecting⟩
where
  expecting : String := wanted.elim "" fun name => " (expecting " ++ name ++ ")"

/-- What a reader needs besides the tokens: the documents, the last line, and the
texts that aliases stand for. -/
structure Sheet where
  documents : List (Nat × Word)
  last : Nat
  aliases : List (String × Octets)

def refuse {α : Type} (sheet : Sheet) (wanted : Option String) (ls : List Lexeme) :
    Except Mistake (α × List Lexeme) :=
  .error (unexpected true sheet.last wanted ls)

/-- The reserved word at the head. -/
def reserved? : List Lexeme → Option String
  | ⟨.word w, _, _⟩ :: _ => w.bare?.filter reservedWords.contains
  | _ => none

def skipNewlines : List Lexeme → List Lexeme
  | ⟨.newline, _, _⟩ :: rest => skipNewlines rest
  | ls => ls

/-- The text of aliases in place of their names. A text that ends in a blank lets
the next word be an alias too. -/
def expandAliases (sheet : Sheet) : Nat → List Lexeme → List Lexeme
  | fuel + 1, ⟨.word w, line, used⟩ :: rest =>
    let isFree (name : String) : Bool := !(used.contains name || reservedWords.contains name)
    match w.bare?.filter isFree with
    | none => ⟨.word w, line, used⟩ :: rest
    | some name =>
      match sheet.aliases.lookup name with
      | none => ⟨.word w, line, used⟩ :: rest
      | some text =>
        let rest := if text.getLast?.any isBlank then expandAliases sheet fuel rest else rest
        let inner := (lexemes line text).lexemes.map fun l =>
          { l with line, aliases := name :: used }
        expandAliases sheet fuel (inner ++ rest)
  | _, ls => ls

/-- The tokens from where a command may begin. -/
def start (sheet : Sheet) (ls : List Lexeme) : List Lexeme :=
  if sheet.aliases.isEmpty then ls else expandAliases sheet (2 * sheet.aliases.length + 8) ls

def startLine (sheet : Sheet) (ls : List Lexeme) : List Lexeme := start sheet (skipNewlines ls)

def expect (sheet : Sheet) (name : String) (ls : List Lexeme) : Except Mistake (List Lexeme) :=
  if reserved? ls = some name then .ok (ls.drop 1)
  else .error (unexpected true sheet.last (some (inQuotes name)) ls)

def closers : List String := ["do", "done", "elif", "else", "esac", "fi", "then", "\x7d"]

def endsList (ls : List Lexeme) : Bool :=
  match ls with
  | [] | ⟨.closing, _, _⟩ :: _ | ⟨.doubleSemicolon, _, _⟩ :: _ => true
  | _ => (reserved? ls).any closers.contains

def lineOf (sheet : Sheet) : List Lexeme → Nat
  | [] => sheet.last
  | l :: _ => l.line

/-- One redirection at the head, if there is one. -/
def redirection? (sheet : Sheet) :
    List Lexeme → Except Mistake (Option (Redirection × List Lexeme))
  | ⟨.open number d, _, _⟩ :: rest =>
    match rest with
    | ⟨.word path, _, _⟩ :: rest => .ok (some (.file number d path, rest))
    | rest => .error (unexpected false sheet.last none rest)
  | ⟨.duplicate number, _, _⟩ :: rest =>
    match rest with
    | ⟨.word source, _, _⟩ :: rest => .ok (some (.duplicate number source, rest))
    | rest => .error (unexpected false sheet.last none rest)
  | ⟨.document number key, _, _⟩ :: rest =>
    .ok (some (.document number ((sheet.documents.lookup key).getD []), rest))
  | _ => .ok none

def redirections (sheet : Sheet) :
    Nat → List Lexeme → Except Mistake (List Redirection × List Lexeme)
  | 0, ls => .ok ([], ls)
  | fuel + 1, ls => do
    match ← redirection? sheet ls with
    | none => .ok ([], ls)
    | some (r, rest) =>
      let (rs, rest) ← redirections sheet fuel rest
      .ok (r :: rs, rest)

/-- A compound command with the redirections behind it. -/
def redirect (sheet : Sheet) (line : Nat) (c : Command) (ls : List Lexeme) :
    Except Mistake (Command × List Lexeme) := do
  match ← redirections sheet ls.length ls with
  | ([], rest) => .ok (c, rest)
  | (rs, rest) => .ok (.redirected line c rs, rest)

/-- The parts of a simple command. -/
structure Simple where
  assignments : List (String × Word)
  words : List Word
  redirections : List Redirection

namespace Simple

def isEmpty (s : Simple) : Bool :=
  s.assignments.isEmpty && s.words.isEmpty && s.redirections.isEmpty

def add (s : Simple) (w : Word) : Simple :=
  match s.words, w.assignment? with
  | [], some binding => { s with assignments := s.assignments ++ [binding] }
  | _, _ => { s with words := s.words ++ [w] }

end Simple

def simple (sheet : Sheet) :
    Nat → Simple → List Lexeme → Except Mistake (Simple × List Lexeme)
  | 0, s, ls => .ok (s, ls)
  | fuel + 1, s, ls => do
    match if s.words.isEmpty then start sheet ls else ls with
    | ⟨.word w, _, _⟩ :: rest => simple sheet fuel (s.add w) rest
    | ls =>
      match ← redirection? sheet ls with
      | some (r, rest) =>
        simple sheet fuel { s with redirections := s.redirections ++ [r] } rest
      | none => .ok (s, ls)

/-- The words up to the end of a line or a command. -/
def wordsOf : List Lexeme → List Word × List Lexeme
  | ⟨.word w, _, _⟩ :: rest =>
    let (ws, rest) := wordsOf rest
    (w :: ws, rest)
  | ls => ([], ls)

/-- The patterns of a case, up to its parenthesis. -/
def patterns (sheet : Sheet) : List Lexeme → Except Mistake (List Word × List Lexeme)
  | [] => .error (unexpected false sheet.last (some (inQuotes ")")) [])
  | first :: rest =>
    let w : Word :=
      match first.token with
      | .word w => w
      | _ => []
    match rest with
    | ⟨.closing, _, _⟩ :: rest => .ok ([w], rest)
    | ⟨.pipe, _, _⟩ :: rest => do
      let (ws, rest) ← patterns sheet rest
      .ok (w :: ws, rest)
    | rest => .error (unexpected false sheet.last (some (inQuotes ")")) rest)

/-- Whether a token can begin a command. -/
def beginsCommand (ls : List Lexeme) : Bool :=
  match ls with
  | ⟨.word _, _, _⟩ :: _ =>
    (reserved? ls).all fun name => !(closers.contains name || name = "!" || name = "in")
  | ⟨.open .., _, _⟩ :: _ | ⟨.duplicate _, _, _⟩ :: _ | ⟨.document .., _, _⟩ :: _
  | ⟨.opening, _, _⟩ :: _ => true
  | _ => false

/-- A command that does nothing. -/
def nothing : Command := .simple 0 [] [] []

mutual

/-- Commands up to a word that closes a list. -/
def list (sheet : Sheet) : Nat → List Lexeme → Except Mistake (Command × List Lexeme)
  | 0, ls => refuse sheet none ls
  | fuel + 1, ls => do
    match startLine sheet ls with
    | [] => .ok (nothing, [])
    | ls =>
      let (first, rest) ← conditional sheet fuel ls
      let further (c : Command) (rest : List Lexeme) : Except Mistake (Command × List Lexeme) :=
        let rest := startLine sheet rest
        if endsList rest then .ok (c, rest)
        else do
          let (more, rest) ← list sheet fuel rest
          .ok (.sequence c more, rest)
      match rest with
      | ⟨.background, _, _⟩ :: rest => further (.background first) rest
      | ⟨.semicolon, _, _⟩ :: rest | ⟨.newline, _, _⟩ :: rest => further first rest
      | rest => .ok (first, rest)

/-- Pipelines that depend on how the one before them ended. -/
def conditional (sheet : Sheet) : Nat → List Lexeme → Except Mistake (Command × List Lexeme)
  | 0, ls => refuse sheet none ls
  | fuel + 1, ls => do
    let (first, rest) ← pipeline sheet fuel ls
    conditions sheet fuel first rest

def conditions (sheet : Sheet) :
    Nat → Command → List Lexeme → Except Mistake (Command × List Lexeme)
  | 0, _, ls => refuse sheet none ls
  | fuel + 1, first, ls =>
    match ls with
    | ⟨.andThen, _, _⟩ :: rest => do
      let (second, rest) ← pipeline sheet fuel (startLine sheet rest)
      conditions sheet fuel (.both first second) rest
    | ⟨.orElse, _, _⟩ :: rest => do
      let (second, rest) ← pipeline sheet fuel (startLine sheet rest)
      conditions sheet fuel (.either first second) rest
    | rest => .ok (first, rest)

def pipeline (sheet : Sheet) : Nat → List Lexeme → Except Mistake (Command × List Lexeme)
  | 0, ls => refuse sheet none ls
  | fuel + 1, ls => do
    if reserved? ls = some "!" then
      let (c, rest) ← pipes sheet fuel (start sheet (ls.drop 1))
      .ok (.negation (joined c), rest)
    else
      let (c, rest) ← pipes sheet fuel ls
      .ok (joined c, rest)
where
  joined : List Command → Command
    | [c] => c
    | cs => .pipeline cs

def pipes (sheet : Sheet) : Nat → List Lexeme → Except Mistake (List Command × List Lexeme)
  | 0, ls => refuse sheet none ls
  | fuel + 1, ls => do
    let (c, rest) ← command sheet fuel ls
    match rest with
    | ⟨.pipe, _, _⟩ :: rest =>
      let (cs, rest) ← pipes sheet fuel (startLine sheet rest)
      .ok (c :: cs, rest)
    | rest => .ok ([c], rest)

def command (sheet : Sheet) : Nat → List Lexeme → Except Mistake (Command × List Lexeme)
  | 0, ls => refuse sheet none ls
  | fuel + 1, ls => do
    let line := lineOf sheet ls
    if !beginsCommand ls then refuse sheet none ls
    else
      match ls with
      | ⟨.opening, _, _⟩ :: rest =>
        let (c, rest) ← list sheet fuel rest
        match rest with
        | ⟨.closing, _, _⟩ :: rest => redirect sheet line (.subshell c) rest
        | rest => refuse sheet (some (inQuotes ")")) rest
      | ⟨.word w, _, _⟩ :: ⟨.opening, _, _⟩ :: rest =>
        if w.assignment?.isSome then refuse sheet none (ls.drop 1)
        else
          match rest with
          | ⟨.closing, wordLine, _⟩ :: rest =>
            let name := w.bare?.getD ""
            if !isName name.toList || specialCommands.contains name then
              .error ⟨wordLine, "Bad function name"⟩
            else
              let (body, rest) ← command sheet fuel (startLine sheet rest)
              .ok (.definition name body, rest)
          | rest => .error (unexpected false sheet.last (some (inQuotes ")")) rest)
      | _ =>
        match reserved? ls with
        | some "\x7b" =>
          let (c, rest) ← list sheet fuel (ls.drop 1)
          redirect sheet line c (← expect sheet "\x7d" rest)
        | some "if" =>
          let (c, rest) ← branch sheet fuel (ls.drop 1)
          redirect sheet line c rest
        | some "while" => loop sheet fuel line true (ls.drop 1)
        | some "until" => loop sheet fuel line false (ls.drop 1)
        | some "for" => each sheet fuel line (ls.drop 1)
        | some "case" => choice sheet fuel line (ls.drop 1)
        | _ =>
          let (s, rest) ← simple sheet (fuel + ls.length) ⟨[], [], []⟩ ls
          if s.isEmpty then refuse sheet none rest
          else .ok (.simple line s.assignments s.words s.redirections, rest)

/-- A choice behind its first word. -/
def branch (sheet : Sheet) : Nat → List Lexeme → Except Mistake (Command × List Lexeme)
  | 0, ls => refuse sheet none ls
  | fuel + 1, ls => do
    let (test, rest) ← list sheet fuel ls
    let (yes, rest) ← list sheet fuel (← expect sheet "then" rest)
    match reserved? rest with
    | some "elif" =>
      let (no, rest) ← branch sheet fuel (rest.drop 1)
      .ok (.branch test yes (some no), rest)
    | some "else" =>
      let (no, rest) ← list sheet fuel (rest.drop 1)
      .ok (.branch test yes (some no), ← expect sheet "fi" rest)
    | _ => .ok (.branch test yes none, ← expect sheet "fi" rest)

/-- A loop behind its first word. -/
def loop (sheet : Sheet) :
    Nat → Nat → Bool → List Lexeme → Except Mistake (Command × List Lexeme)
  | 0, _, _, ls => refuse sheet none ls
  | fuel + 1, line, wanted, ls => do
    let (test, rest) ← list sheet fuel ls
    let (body, rest) ← list sheet fuel (← expect sheet "do" rest)
    redirect sheet line (.loop wanted test body) (← expect sheet "done" rest)

def each (sheet : Sheet) : Nat → Nat → List Lexeme → Except Mistake (Command × List Lexeme)
  | 0, _, ls => refuse sheet none ls
  | fuel + 1, line, ls => do
    match ls with
    | ⟨.word w, _, _⟩ :: rest =>
      let name := w.bare?.getD ""
      if !isName name.toList then .error ⟨line, badVariable⟩
      else
        let rest := skipNewlines rest
        let (words, rest) ←
          if reserved? rest = some "in" then
            match wordsOf (rest.drop 1) with
            | (words, ⟨.newline, _, _⟩ :: rest) | (words, ⟨.semicolon, _, _⟩ :: rest) =>
              .ok (some words, rest)
            | (_, rest) => refuse sheet none rest
          else
            match rest with
            | ⟨.semicolon, _, _⟩ :: rest => .ok (none, rest)
            | rest => .ok (none, rest)
        let (body, rest) ← list sheet fuel (← expect sheet "do" (startLine sheet rest))
        redirect sheet line (.each line name words body) (← expect sheet "done" rest)
    | ls => .error ⟨(ls.head?.map Lexeme.reached).getD sheet.last, badVariable⟩
where
  badVariable : String := "Bad for loop variable"

def choice (sheet : Sheet) : Nat → Nat → List Lexeme → Except Mistake (Command × List Lexeme)
  | 0, _, ls => refuse sheet none ls
  | fuel + 1, line, ls => do
    match ls with
    | ⟨.word subject, _, _⟩ :: rest =>
      let (cases, rest) ← caseList sheet fuel (← expect sheet "in" (skipNewlines rest))
      redirect sheet line (.choice line subject cases) rest
    | ls => .error (unexpected false sheet.last (some "word") ls)

/-- The cases of a choice, up to the word that closes it. -/
def caseList (sheet : Sheet) :
    Nat → List Lexeme → Except Mistake (List (List Word × Option Command) × List Lexeme)
  | 0, ls => refuse sheet none ls
  | fuel + 1, ls => do
    let ls := skipNewlines ls
    if reserved? ls = some "esac" then .ok ([], ls.drop 1)
    else
      let ls :=
        match ls with
        | ⟨.opening, _, _⟩ :: rest => rest
        | ls => ls
      let (ps, rest) ← patterns sheet ls
      let rest := startLine sheet rest
      let (body, rest) ←
        if endsList rest then .ok (none, rest)
        else do
          let (c, rest) ← list sheet fuel rest
          .ok (some c, rest)
      match rest with
      | ⟨.doubleSemicolon, _, _⟩ :: rest =>
        let (more, rest) ← caseList sheet fuel rest
        .ok ((ps, body) :: more, rest)
      | rest =>
        if reserved? rest = some "esac" then .ok ([(ps, body)], rest.drop 1)
        else refuse sheet (some (inQuotes ";;")) rest

end

/-- Every sixth call at the latest takes a token, of which aliases may make more. -/
def fuelOf (sheet : Sheet) (ls : List Lexeme) : Nat :=
  let longest := sheet.aliases.foldl (fun n e => n + e.2.length) 0
  6 * (ls.length + 10 * longest) + 6

/-- The commands of the next line. -/
def line (sheet : Sheet) : Nat → List Lexeme → Except Mistake (Command × List Lexeme)
  | 0, ls => refuse sheet none ls
  | fuel + 1, ls => do
    let (first, rest) ← conditional sheet (fuelOf sheet ls) (start sheet ls)
    let further (c : Command) (rest : List Lexeme) : Except Mistake (Command × List Lexeme) :=
      match rest with
      | [] => .ok (c, [])
      | ⟨.newline, _, _⟩ :: rest => .ok (c, rest)
      | rest => do
        let (more, rest) ← line sheet fuel rest
        .ok (.sequence c more, rest)
    match rest with
    | [] => .ok (first, [])
    | ⟨.newline, _, _⟩ :: rest => .ok (first, rest)
    | ⟨.semicolon, _, _⟩ :: rest => further first rest
    | ⟨.background, _, _⟩ :: rest => further (.background first) rest
    | rest => refuse sheet none rest

/-- The first mistake in the scripts inside words. -/
def innerMistake? : Nat → List (String × Octets) → List Lexeme → Option Mistake
  | 0, _, _ => none
  | fuel + 1, aliases, ls =>
    ls.findSome? fun l =>
      match l.token with
      | .word w =>
        w.findSome? fun p =>
          match p.part with
          | .output script line => ofScript fuel aliases line script
          | _ => none
      | _ => none
where
  ofScript (fuel : Nat) (aliases : List (String × Octets)) (first : Nat) (script : Octets) :
      Option Mistake :=
    let scanned := lexemes first script
    let last := first + countLines script
    let sheet : Sheet := ⟨scanned.documents, last, aliases⟩
    (innerMistake? fuel aliases scanned.lexemes).or
      (whole sheet (scanned.lexemes ++ [⟨.closing, last, []⟩]))
  whole (sheet : Sheet) (ls : List Lexeme) : Option Mistake :=
    match skipNewlines ls with
    | [⟨.closing, _, _⟩] => none
    | ls =>
      match list sheet (fuelOf sheet ls) ls with
      | .ok (_, [_]) => none
      | .ok (_, rest) => some (unexpected true sheet.last (some (inQuotes ")")) rest)
      | .error m => some m

end SecretAccess.Host.Script
