import SecretAccess.Host.Utility.Job

/-!
# Utilities for octets

Copying in blocks, cutting to a size, and showing octets in other ways: as numbers,
in a code of letters, or as a sum that checks them.
-/

namespace SecretAccess.Host.Utility

open Text (Octets)

/-- What a letter behind a number multiplies it with. -/
def multiple? (o : Octets) : Option Nat :=
  [("", 1), ("c", 1), ("w", 2), ("b", 512), ("kB", 1000), ("k", 1024), ("K", 1024),
    ("KiB", 1024), ("MB", 1000000), ("M", 1048576), ("MiB", 1048576), ("GB", 1000000000),
    ("G", 1073741824)].lookup (String.ofList o)

/-- A number of octets. -/
def amountOf? (o : Octets) : Option Nat := do
  let n ← natural? (o.takeWhile Char.isDigit)
  let m ← multiple? (o.dropWhile Char.isDigit)
  some (n * m)

/-- The pieces of a text, each of a size but for the last. -/
def blocksOf (size : Nat) : Nat → Octets → List Octets
  | 0, _ | _, [] => []
  | fuel + 1, o => o.take size :: blocksOf size fuel (o.drop size)

/-- What is to be copied, from where, and to where. -/
structure Copying where
  source : Option Octets
  target : Option Octets
  inputSize : Nat
  outputSize : Nat
  /-- Blocks are written as they were read. -/
  keepsBlocks : Bool
  count : Option Nat
  skip : Nat
  seek : Nat
  status : Octets
  conversions : List Octets

namespace Copying

def standard : Copying := ⟨none, none, 512, 512, false, none, 0, 0, [], []⟩

/-- Takes in one setting; or says what is wrong with it, and whether the names of
settings are meant. -/
def set (c : Copying) (argument : Octets) : Except (Octets × Bool) Copying :=
  let value := (argument.dropWhile (· ≠ '=')).drop 1
  let number (use : Nat → Copying) : Except (Octets × Bool) Copying :=
    match amountOf? value with
    | some n => .ok (use n)
    | none => .error (octets "invalid number: " ++ quoted value, false)
  let size (use : Nat → Copying) : Except (Octets × Bool) Copying :=
    if amountOf? value = some 0 then .error (octets "invalid number: " ++ quoted value, false)
    else number use
  match if argument.contains '=' then String.ofList (argument.takeWhile (· ≠ '=')) else "" with
  | "if" => .ok { c with source := some value }
  | "of" => .ok { c with target := some value }
  | "bs" => size fun n => { c with inputSize := n, outputSize := n, keepsBlocks := true }
  | "ibs" => size fun n => if c.keepsBlocks then c else { c with inputSize := n }
  | "obs" => size fun n => if c.keepsBlocks then c else { c with outputSize := n }
  | "count" => number fun n => { c with count := some n }
  | "skip" | "iseek" => number fun n => { c with skip := n }
  | "seek" | "oseek" => number fun n => { c with seek := n }
  | "status" => .ok { c with status := value }
  | "conv" => .ok { c with conversions := value.splitOn ',' }
  | _ => .error (octets "unrecognized operand " ++ quoted argument, true)

def converts (c : Copying) (name : String) : Bool := c.conversions.contains (octets name)

def convert (c : Copying) (o : Octets) : Octets :=
  if c.converts "ucase" then o.map Char.toUpper
  else if c.converts "lcase" then o.map Char.toLower
  else o

/-- How many blocks are whole, and how many are not. -/
def tally (size : Nat) (blocks : List Octets) : Octets :=
  let whole := (blocks.filter (·.length = size)).length
  ofNat whole ++ '+' :: ofNat (blocks.length - whole)

/-- What is said about a copy that was made. -/
def report (c : Copying) (blocks : List Octets) : Octets :=
  let length := (blocks.map List.length).foldl (· + ·) 0
  let written := if c.keepsBlocks then blocks else blocksOf c.outputSize (length + 1) blocks.flatten
  if c.status = octets "none" then []
  else
    tally c.inputSize blocks ++ octets " records in\n" ++ tally c.outputSize written ++
      octets " records out\n" ++
      if c.status = octets "noxfer" then []
      else ofNat length ++ octets " bytes copied, 0 s, Infinity B/s\n"

/-- What a target holds when a text has been written into it. -/
def filled (c : Copying) (before : List UInt8) (o : Octets) : List UInt8 :=
  let start := c.seek * c.outputSize
  let before := if c.converts "notrunc" then before else before.take start
  Process.overwrite before start (Octets.toBytes o)

def write (c : Copying) (j : Job) (o : Octets) : Job :=
  match c.target with
  | none => j.deliver o (fun f => octets ("error writing 'standard output': " ++ f.reason)) 1
  | some path =>
    match j.process.openFile .both path with
    | .error f => j.blame ⟨"failed to open ", true, ""⟩ path f 1
    | .ok (opened, channel) =>
      match opened.channels[channel]? with
      | some (.file place ..) =>
        let process := opened.setContentAt place (c.filled (opened.contentAt place) o)
        { j with process := { process with descriptors := j.process.descriptors } }
      | _ =>
        match (opened.bind 1 channel).write 1 o with
        | .ok process =>
          { j with process := { process with descriptors := j.process.descriptors } }
        | .error f => j.blame ⟨"error writing ", true, ""⟩ path f 1

/-- Copies the blocks that are asked for, and leaves the others to be read. -/
def run (c : Copying) (j : Job) : Job :=
  let wanted := c.count.map fun n => (c.skip + n) * c.inputSize
  let source : Except Fault (Octets × Process) :=
    match c.source with
    | some path => j.process.readFile path
    | none => do
      let content ← j.process.pending 0
      .ok (content, j.process.consume 0 (wanted.elim content.length (min content.length)))
  match source with
  | .error f =>
    match c.source with
    | some path => j.blame ⟨"failed to open ", true, ""⟩ path f 1
    | none => j.blame ⟨"error reading ", true, ""⟩ (octets "standard input") f 1
  | .ok (content, process) =>
    let content := (wanted.elim content content.take).drop (c.skip * c.inputSize)
    let blocks := blocksOf c.inputSize (content.length + 1) content
    let j := c.write { j with process } (c.convert content)
    match j.process.write 2 (if j.status = 0 then c.report blocks else []) with
    | .ok process => { j with process }
    | .error _ => j

end Copying

def dd : Behaviour := fun j arguments =>
  match arguments.foldlM Copying.set Copying.standard with
  | .ok c => c.run j
  | .error (message, true) => j.misuse message 1
  | .error (message, false) => j.complain message 1

/-- How a file is to be cut or lengthened. -/
def sizeAfter? (o : Octets) (before : Nat) : Option Nat :=
  match o with
  | '+' :: n => (amountOf? n).map (before + ·)
  | '-' :: n => (amountOf? n).map (before - ·)
  | '<' :: n => (amountOf? n).map (min before ·)
  | '>' :: n => (amountOf? n).map (max before ·)
  | n => amountOf? n

def truncate : Behaviour := fun j arguments =>
  withOptions "co" "s" 1 (fun j o =>
    match o.value? 's', o.operands with
    | none, _ =>
      j.misuse (octets "you must specify either '--size' or '--reference'") 1
    | some _, [] => j.misuse (octets "missing file operand") 1
    | some size, paths =>
      if (sizeAfter? size 0).isNone then
        j.complain (octets "Invalid number: " ++ quoted size) 1
      else
        paths.foldl (fun j path =>
          if o.has 'c' && !j.process.tree.pathExists (Octets.toText path) then j
          else
            match j.process.openFile .both path with
            | .error f => j.blame ⟨"cannot open ", true, " for writing"⟩ path f 1
            | .ok (opened, channel) =>
              match opened.channels[channel]? with
              | some (.file place ..) =>
                let before := opened.contentAt place
                let length := (sizeAfter? size before.length).getD before.length
                let after := before.take length ++ List.replicate (length - before.length) 0
                { j with process := { opened.setContentAt place after with
                    descriptors := j.process.descriptors } }
              | _ => j) j) j (shorten [("size", 's'), ("no-create", 'c')] arguments)

/-- The signs of the code in which three octets are four letters. -/
def codeSigns : List Char :=
  "ABCDEFGHIJKLMNOPQRSTUVWXYZabcdefghijklmnopqrstuvwxyz0123456789+/".toList

def codeSign (n : Nat) : Char := (codeSigns[n % 64]?).getD '='

def encoded : Octets → Octets
  | a :: b :: c :: rest =>
    let n := (a.toNat * 256 + b.toNat) * 256 + c.toNat
    codeSign (n / 262144) :: codeSign (n / 4096) :: codeSign (n / 64) :: codeSign n :: encoded rest
  | [a, b] =>
    let n := a.toNat * 256 + b.toNat
    [codeSign (n / 1024), codeSign (n / 16), codeSign (n * 4), '=']
  | [a] => [codeSign (a.toNat / 4), codeSign (a.toNat * 16), '=', '=']
  | [] => []

def octetAt (n place : Nat) : Char := Char.ofNat (n / place % 256)

/-- The text of a code, and whether all of it was one. -/
def decoded : Octets → Octets × Bool
  | a :: b :: c :: d :: rest =>
    let sign (c : Char) : Option Nat := codeSigns.findIdx? (· = c)
    match sign a, sign b, sign c, sign d with
    | some i, some k, some l, some m =>
      let n := ((i * 64 + k) * 64 + l) * 64 + m
      let (text, isCode) := decoded rest
      (octetAt n 65536 :: octetAt n 256 :: octetAt n 1 :: text, isCode)
    | some i, some k, some l, none =>
      let n := (i * 64 + k) * 64 + l
      ([octetAt n 1024, octetAt n 4], d = '=' && rest.isEmpty)
    | some i, some k, none, _ => ([octetAt (i * 64 + k) 16], c = '=' && d = '=' && rest.isEmpty)
    | _, _, _, _ => ([], false)
  | [] => ([], true)
  | _ => ([], false)

def base64 : Behaviour := fun j arguments =>
  withOptions "di" "w" 1 (fun j o =>
    let (j, content) := j.concatenated Job.plain 1 (o.operands.take 1)
    let width := ((o.value? 'w').bind natural?).getD 76
    if o.operands.length = 1 && 0 < j.status then j
    else if o.has 'd' then
      let signs := content.filter fun c =>
        c ≠ '\n' && (!o.has 'i' || c = '=' || codeSigns.contains c)
      let (text, isCode) := decoded signs
      let j := j.print text
      if isCode then j else j.complain (octets "invalid input") 1
    else
      let code := encoded content
      j.print (if width = 0 then code
        else Octets.unlines (blocksOf width (code.length + 1) code))) j
    (shorten [("decode", 'd'), ("ignore-garbage", 'i'), ("wrap", 'w')] arguments)

/-- One octet more in a sum that checks octets: a remainder of polynomials. -/
def checkOctet (sum : UInt32) (octet : UInt32) : UInt32 :=
  (List.range 8).foldl (fun (sum : UInt32) _ =>
    if sum &&& 0x80000000 = 0 then sum <<< 1 else (sum <<< 1) ^^^ 0x04C11DB7)
    (sum ^^^ (octet <<< 24))

/-- The octets of a length, the lowest first. -/
def lengthOctets : Nat → Nat → List UInt32
  | 0, _ | _, 0 => []
  | fuel + 1, n => UInt32.ofNat (n % 256) :: lengthOctets fuel (n / 256)

/-- The sum that checks a text and its length. -/
def checkSum (o : Octets) : Nat :=
  let octets := o.map fun c => UInt32.ofNat c.toNat
  ((octets ++ lengthOctets 8 o.length).foldl checkOctet 0 ^^^ 0xFFFFFFFF).toNat

def cksum : Behaviour := withOptions "" "" 1 fun j o =>
  let (j, found) := j.sources Job.plain 1 o.operands
  j.print (found.flatMap fun (path, content) =>
    ofNat (checkSum content) ++ ' ' :: ofNat content.length ++
      (if o.operands.isEmpty then [] else ' ' :: path) ++ ['\n'])

namespace Dump

/-- How octets are shown: the base of the numbers or none for characters, how many
octets make one of them, how wide they are, whether they have a sign, and whether
the octets are shown as text beside them. -/
structure Form where
  base : Option Nat
  isSigned : Bool
  size : Nat
  width : Nat
  isBesideText : Bool

/-- A form by its letter and size. -/
def form? (letter : Char) (size : Nat) (isBesideText : Bool) : Option Form :=
  let widths (base : Nat) (isSigned : Bool) (w1 w2 w4 w8 : Nat) : Option Form :=
    ([(1, w1), (2, w2), (4, w4), (8, w8)].lookup size).map fun width =>
      ⟨some base, isSigned, size, width, isBesideText⟩
  match letter with
  | 'o' => widths 8 false 3 6 11 22
  | 'x' => widths 16 false 2 4 8 16
  | 'u' => widths 10 false 3 5 10 20
  | 'd' => widths 10 true 4 6 11 20
  | 'c' => some ⟨none, false, 1, 3, isBesideText⟩
  | _ => none

/-- A form as it is asked for: a letter, a size, and a sign for text beside it. -/
def named? (o : Octets) : Option Form :=
  let letter := o.head?.getD ' '
  let rest := o.drop 1
  let digits := rest.takeWhile Char.isDigit
  let rest := rest.dropWhile Char.isDigit
  let (size, rest) : Option Nat × Octets :=
    match digits, rest with
    | [], 'C' :: rest => (some 1, rest)
    | [], 'S' :: rest => (some 2, rest)
    | [], 'I' :: rest => (some 4, rest)
    | [], 'L' :: rest => (some 8, rest)
    | [], rest => (some (if letter = 'c' then 1 else 4), rest)
    | ds, rest => (natural? ds, rest)
  if rest.isEmpty || rest = ['z'] then size.bind fun n => form? letter n (rest = ['z']) else none

def padded (width : Nat) (fill : Char) (o : Octets) : Octets :=
  List.replicate (width - o.length) fill ++ o

def character (c : Char) : Octets :=
  match c with
  | '\x00' => ['\\', '0']
  | '\x07' => ['\\', 'a']
  | '\x08' => ['\\', 'b']
  | '\x0c' => ['\\', 'f']
  | '\n' => ['\\', 'n']
  | '\r' => ['\\', 'r']
  | '\t' => ['\\', 't']
  | '\x0b' => ['\\', 'v']
  | c => if ' ' ≤ c && c < '\x7f' then [c] else padded 3 '0' (Nat.toDigits 8 c.toNat)

/-- The number that octets are, the lowest first. -/
def valueOf (o : Octets) : Nat := o.foldr (fun c n => n * 256 + c.toNat) 0

def item (f : Form) (o : Octets) : Octets :=
  match f.base with
  | none => character (o.head?.getD ' ')
  | some 10 =>
    let n := valueOf o
    let range := Nat.pow 256 f.size
    if f.isSigned && range ≤ 2 * n then '-' :: ofNat (range - n) else ofNat n
  | some base => padded f.width '0' (Nat.toDigits base (valueOf o))

/-- A line of at most sixteen octets. -/
def line (f : Form) (o : Octets) : Octets :=
  let items := blocksOf f.size 17 o
  let text := items.flatMap fun o => ' ' :: padLeft f.width (item f o)
  let width := 16 / f.size * (f.width + 1)
  let beside := o.map fun c => if ' ' ≤ c && c < '\x7f' then c else '.'
  if f.isBesideText then
    text ++ List.replicate (width - text.length) ' ' ++ octets "  >" ++ beside ++ ['<']
  else text

/-- An address in a base, or nothing. -/
def address (base : Option Nat) (n : Nat) : Octets :=
  base.elim [] fun base => padded (if base = 16 then 6 else 7) '0' (Nat.toDigits base n)

/-- The lines of a dump. One star stands for lines that are like the one before. -/
def lines (forms : List Form) (base : Option Nat) (all : Bool) (start : Nat) (o : Octets) :
    List Octets :=
  let blocks := (blocksOf 16 (o.length + 1) o).zipIdx
  let (shown, _, _) := blocks.foldl (fun (done, before, starred) (block, i) =>
    if !all && before = some block && block.length = 16 then
      (if starred then (done, before, true) else (['*'] :: done, before, true))
    else
      let at' := address base (start + 16 * i)
      let rows := forms.zipIdx.map fun (f, k) =>
        (if k = 0 then at' else List.replicate at'.length ' ') ++ line f block
      (rows.reverse ++ done, some block, false))
    (([] : List Octets), (none : Option Octets), false)
  shown.reverse ++ base.elim [] fun base => [address (some base) (start + o.length)]

end Dump

def od : Behaviour := withOptions "cbxdosv" "AtNjw" 1 fun j o =>
  let plain : List (Char × Char × Nat) :=
    [('c', 'c', 1), ('b', 'o', 1), ('x', 'x', 2), ('d', 'u', 2), ('o', 'o', 2), ('s', 'd', 2)]
  let asked : List (Option Dump.Form) := o.letters.filterMap fun (letter, value) =>
    if letter = 't' then some (Dump.named? value)
    else (plain.lookup letter).map fun (kind, size) => Dump.form? kind size false
  let base : Option Nat :=
    match o.value? 'A' with
    | some ['n'] => none
    | some ['d'] => some 10
    | some ['x'] => some 16
    | _ => some 8
  let number (letter : Char) : Option Nat := (o.value? letter).bind amountOf?
  match asked.mapM id with
  | none =>
    let wrong := ((o.letters.find? fun e => e.1 = 't' && (Dump.named? e.2).isNone).map
      Prod.snd).getD []
    j.misuse (octets "invalid type string " ++ quoted wrong) 1
  | some forms =>
    let (j, content) := j.concatenated Job.plain 1 o.operands
    let skipped := (number 'j').getD 0
    if content.length < skipped then j.complain (octets "cannot skip past end of combined input") 1
    else
      let content := content.drop skipped
      let content := (number 'N').elim content content.take
      let forms := if forms.isEmpty then (Dump.form? 'o' 2 false).toList else forms
      j.print (Octets.unlines (Dump.lines forms base (o.has 'v') skipped content))

end SecretAccess.Host.Utility
