import SecretAccess.Host.Utility.Job

/-!
# Utilities for files

Making, removing, copying and listing files and directories.
-/

namespace SecretAccess.Host.Utility

open Text (Octets)

/-- The place that a path names, without following a link at its end. -/
def placeOf (t : FileTree) (path : Octets) : Except Fault Location := do
  let bytes := Octets.toBytes path
  if path.isEmpty then .error .notFound
  else
    match (Path.names bytes).getLast? with
    | none => t.locate .use (Octets.toText path)
    | some name =>
      if name = Path.here || name = Path.parent then t.locate .use (Octets.toText path)
      else
        let l ← t.walk .use FileTree.maxLinks (t.startOf bytes) (Path.names bytes).dropLast
        match t.node? l with
        | some .directory => .ok (l ++ [name])
        | some _ => .error .notADirectory
        | none => .error .notFound

/-- What is at a path, where a link counts as itself. -/
def entryAt (t : FileTree) (path : Octets) : Except Fault (Location × Node) := do
  let l ← placeOf t path
  match t.node? l with
  | some n => .ok (l, n)
  | none => .error .notFound

/-- What a path leads to. -/
def targetOf (t : FileTree) (path : Octets) : Except Fault (Location × Node) :=
  t.find (Octets.toText path)

def setTree (j : Job) (tree : FileTree) : Job := { j with process := { j.process with tree } }

/-- Says that not enough was given to work on. -/
def missingOperand (j : Job) : Job := j.misuse (octets "missing operand") 1

/-- A directory for each path, with those above it if that is asked for. -/
def mkdir : Behaviour := withOptions "pv" "m" 1 fun j o =>
  if o.operands.isEmpty then missingOperand j
  else
    let wording : Job.Wording := ⟨"cannot create directory ", true, ""⟩
    o.operands.foldl (fun j path =>
      let t := j.process.tree
      if o.has 'p' then
        let made := t.makeDirectory (Octets.toBytes path)
        if made.isDirectory (Octets.toText path) then setTree j made
        else j.blame wording path .notADirectory 1
      else
        match placeOf t path with
        | .error f => j.blame wording path f 1
        | .ok l =>
          if (t.node? l).isSome then j.blame wording path .alreadyExists 1
          else setTree j (t.put l .directory)) j

def isBelow (l above : Location) : Bool := above.isPrefixOf l

/-- Takes a place away with all that is below it. -/
def removeAll (t : FileTree) (l : Location) : FileTree :=
  { t with
    entries := t.entries.filter fun e => !isBelow e.1 l
    denied := t.denied.filter fun d => !isBelow d.1 l }

def rm : Behaviour := withOptions "rRfvid" "" 1 fun j o =>
  if o.operands.isEmpty then (if o.has 'f' then j else missingOperand j)
  else
    let wording : Job.Wording := ⟨"cannot remove ", true, ""⟩
    o.operands.foldl (fun j path =>
      let t := j.process.tree
      match entryAt t path with
      | .error f =>
        if o.has 'f' && (f = .notFound || f = .notADirectory) then j else j.blame wording path f 1
      | .ok (l, .directory) =>
        if o.has 'r' || o.has 'R' then setTree j (removeAll t l)
        else if o.has 'd' && (t.childrenAt l).isEmpty then setTree j (t.remove l)
        else j.blame wording path (if o.has 'd' then .notEmpty else .isADirectory) 1
      | .ok (l, _) => setTree j (t.remove l)) j

def rmdir : Behaviour := withOptions "pv" "" 1 fun j o =>
  if o.operands.isEmpty then missingOperand j
  else
    let wording : Job.Wording := ⟨"failed to remove ", true, ""⟩
    o.operands.foldl (fun j path =>
      let t := j.process.tree
      match entryAt t path with
      | .error f => j.blame wording path f 1
      | .ok (l, .directory) =>
        if (t.childrenAt l).isEmpty then setTree j (t.remove l) else j.blame wording path .notEmpty 1
      | .ok _ => j.blame wording path .notADirectory 1) j

def sortedNames (names : List Octets) : List Octets := names.mergeSort Octets.le

/-- What is put behind a name to show what kind of entry it is. -/
def mark (o : Options) : Node → Octets
  | .directory => if o.has 'p' || o.has 'F' then ['/'] else []
  | .link _ => if o.has 'F' then ['@'] else []
  | .file _ executable => if o.has 'F' && executable then ['*'] else []
  | .program _ => if o.has 'F' then ['*'] else []
  | .device _ => []

def inOrder (o : Options) (names : List Octets) : List Octets :=
  if o.has 'r' then (sortedNames names).reverse else sortedNames names

/-- The names in a directory, in order, with the hidden ones if they are wanted. -/
def namesAt (o : Options) (t : FileTree) (l : Location) : List Octets :=
  let names := (t.childrenAt l).map Octets.ofBytes
  inOrder o (if o.has 'a' then ['.'] :: ['.', '.'] :: names
    else if o.has 'A' then names
    else names.filter fun name => name.head? ≠ some '.')

/-- The directories to be shown below one, and itself. -/
def directoriesFrom (o : Options) (t : FileTree) : Nat → Octets × Location → List (Octets × Location)
  | 0, start => [start]
  | depth + 1, (path, l) =>
    let inside := (namesAt o t l).filterMap fun name =>
      let place := l ++ [Octets.toBytes name]
      let slash : Octets := if path.getLast? = some '/' then [] else ['/']
      if t.node? place = some .directory then some (path ++ slash ++ name, place) else none
    (path, l) :: inside.flatMap (directoriesFrom o t depth)

def ls : Behaviour := fun j arguments =>
  let long := [("all", 'a'), ("almost-all", 'A'), ("directory", 'd'), ("recursive", 'R'),
    ("reverse", 'r'), ("classify", 'F')]
  withOptions "1aArdFURplh" "" 2 (fun j o =>
    let paths := if o.operands.isEmpty then [['.']] else o.operands
    let wording : Job.Wording := ⟨"cannot access ", true, ""⟩
    let keepsLinks := o.has 'd' || o.has 'F' || o.has 'l'
    let (j, files, directories) := paths.foldl
      (fun (j, files, directories) path =>
        let t := j.process.tree
        let own := entryAt t path
        match if keepsLinks then own else (targetOf t path).toOption.elim own Except.ok with
        | .ok (l, .directory) =>
          if o.has 'd' then (j, files ++ [(path, Node.directory)], directories)
          else (j, files, directories ++ [(path, l)])
        | .ok (_, n) => (j, files ++ [(path, n)], directories)
        | .error f => (j.blame wording path f 2, files, directories))
      (j, ([] : List (Octets × Node)), ([] : List (Octets × Location)))
    let t := j.process.tree
    let titled := 1 < paths.length || o.has 'R'
    let shown := (inOrder o (files.map Prod.fst)).map fun path =>
      path ++ ((files.lookup path).elim [] (mark o))
    let ordered := (inOrder o (directories.map Prod.fst)).map fun path =>
      (path, (directories.lookup path).getD [])
    let sections := (if o.has 'R' then ordered.flatMap (directoriesFrom o t t.entries.length)
      else ordered).map fun (path, l) =>
        (if titled then path ++ [':', '\n'] else []) ++
          Octets.unlines ((namesAt o t l).map fun name =>
            let place := if name = ['.'] || name = ['.', '.'] then some Node.directory
              else t.node? (l ++ [Octets.toBytes name])
            name ++ place.elim [] (mark o))
    let blocks := (if shown.isEmpty then [] else [Octets.unlines shown]) ++ sections
    j.deliver ((['\n'] : Octets).intercalate blocks)
      (fun f => octets ("write error: " ++ f.reason)) 2) j (shorten long arguments)

/-- Where something goes: into a directory under its own name, or to the path itself. -/
def destination (t : FileTree) (source target : Octets) : Octets :=
  if t.isDirectory (Octets.toText target) then
    let name := ((Path.names (Octets.toBytes source)).getLast?).getD []
    target ++ (if target.getLast? = some '/' then [] else ['/']) ++ Octets.ofBytes name
  else target

/-- Copies a node and what is below it to another place. -/
def copyAll (t : FileTree) (l place : Location) : FileTree :=
  let copies := t.entries.filter fun e => isBelow e.1 l
  copies.foldl (fun t e => t.put (place ++ e.1.drop l.length) e.2) t

/-- Copies a file, or a directory if that is asked for. -/
def copyTo (o : Options) (j : Job) (source target : Octets) : Job :=
  let t := j.process.tree
  match targetOf t source with
  | .error f => j.blame ⟨"cannot stat ", true, ""⟩ source f 1
  | .ok (l, .directory) =>
    if !(o.has 'r' || o.has 'R' || o.has 'a') then
      j.complain (octets "-r not specified; omitting directory " ++ quoted source) 1
    else
      match placeOf t (destination t source target) with
      | .error f => j.blame ⟨"cannot create directory ", true, ""⟩ target f 1
      | .ok place => setTree j (copyAll t l place)
  | .ok (l, n) =>
    let path := destination t source target
    let content : Except Fault (List UInt8 × Process) := match n with
      | .file contents _ => .ok (contents, j.process)
      | .device _ => (j.process.readFile source).map fun (o, p) => (Octets.toBytes o, p)
      | _ => .ok (j.process.contentAt l, j.process)
    let executable := match n with
      | .file _ executable => executable
      | .program _ => true
      | _ => false
    match content, t.locate .write (Octets.toText path) with
    | .error f, _ => j.blame ⟨"error reading ", true, ""⟩ source f 1
    | _, .error f => j.blame ⟨"cannot create regular file ", true, ""⟩ path f 1
    | .ok (content, process), .ok place =>
      let j := { j with process }
      match t.node? place with
      | none => setTree j (t.put place (.file content executable))
      | some (.file _ before) =>
        if place = l then
          j.complain (quoted source ++ octets " and " ++ quoted path ++ octets " are the same file") 1
        else setTree j (t.put place (.file content before))
      | some (.device _) =>
        let written := do
          let (opened, channel) ← process.openAt .write place
          (opened.bind 1 channel).write 1 (Octets.ofBytes content)
        match written with
        | .ok after => { j with process := { after with descriptors := process.descriptors } }
        | .error f => j.blame ⟨"error writing ", true, ""⟩ path f 1
      | some _ => j

/-- The sources and the target of a transfer. -/
def transfer (j : Job) (operands : List Octets) (act : Job → Octets → Octets → Job) : Job :=
  match operands.reverse with
  | [] => j.misuse (octets "missing file operand") 1
  | [source] => j.misuse (octets "missing destination file operand after " ++ quoted source) 1
  | [target, source] => act j source target
  | target :: sources =>
    if j.process.tree.isDirectory (Octets.toText target) then
      sources.reverse.foldl (fun j source => act j source target) j
    else j.complain (octets "target " ++ quoted target ++ octets ": Not a directory") 1

def cp : Behaviour := withOptions "rRfpaLPdiv" "" 1 fun j o => transfer j o.operands (copyTo o)

def moveTo (j : Job) (source target : Octets) : Job :=
  let t := j.process.tree
  match entryAt t source with
  | .error f => j.blame ⟨"cannot stat ", true, ""⟩ source f 1
  | .ok (l, _) =>
    let path := destination t source target
    match placeOf t path with
    | .error f =>
      j.complain (octets "cannot move " ++ quoted source ++ octets " to " ++ quoted path ++
        octets (": " ++ f.reason)) 1
    | .ok place =>
      if place = l then
        j.complain (quoted source ++ octets " and " ++ quoted path ++ octets " are the same file") 1
      else setTree j (removeAll (copyAll (removeAll t place) l place) l)

def mv : Behaviour := withOptions "fivn" "" 1 fun j o => transfer j o.operands moveTo

/-- A symbolic link, or a second copy where a second name is asked for. -/
def linkTo (o : Options) (j : Job) (source target : Octets) : Job :=
  let t := j.process.tree
  let path := destination t source target
  let wording : Job.Wording :=
    ⟨if o.has 's' then "failed to create symbolic link " else "failed to create hard link ", true,
      ""⟩
  match placeOf t path with
  | .error f => j.blame wording path f 1
  | .ok l =>
    if (t.node? l).isSome && !o.has 'f' then j.blame wording path .alreadyExists 1
    else if o.has 's' then setTree j ((removeAll t l).put l (.link (Octets.toBytes source)))
    else
      match entryAt t source with
      | .ok (_, n) => setTree j ((removeAll t l).put l n)
      | .error f => j.blame ⟨"failed to access ", true, ""⟩ source f 1

def ln : Behaviour := withOptions "sfnv" "" 1 fun j o =>
  match o.operands with
  | [source] =>
    let name := ((Path.names (Octets.toBytes source)).getLast?).getD []
    linkTo o j source (Octets.ofBytes name)
  | operands => transfer j operands (linkTo o)

def touch : Behaviour := withOptions "acm" "rtd" 1 fun j o =>
  if o.operands.isEmpty then j.misuse (octets "missing file operand") 1
  else
    o.operands.foldl (fun j path =>
      let t := j.process.tree
      match t.locate .use (Octets.toText path) with
      | .error f => j.blame ⟨"cannot touch ", true, ""⟩ path f 1
      | .ok l =>
        if (t.node? l).isSome || o.has 'c' then j
        else if path.getLast? = some '/' then j.blame ⟨"cannot touch ", true, ""⟩ path .notFound 1
        else setTree j (t.put l (.file [] false))) j

/-- Whether a mode lets a file be run, if it says so at all. -/
def runs? (mode : Octets) : Option Bool :=
  if mode.all Char.isDigit then
    some (mode.foldl (fun n c => n * 8 + (c.toNat - 48)) 0 / 64 % 2 = 1)
  else if !mode.contains 'x' then if mode.contains '=' then some false else none
  else some (!mode.contains '-')

def chmod : Behaviour := fun j arguments =>
  match arguments.filter (· ≠ ['-', 'R']) with
  | [] => missingOperand j
  | [mode] => j.misuse (octets "missing operand after " ++ quoted mode) 1
  | mode :: paths =>
    paths.foldl (fun j path =>
      let t := j.process.tree
      match targetOf t path with
      | .error f => j.blame ⟨"cannot access ", true, ""⟩ path f 1
      | .ok (l, .file contents executable) =>
        setTree j (t.put l (.file contents ((runs? mode).getD executable)))
      | .ok _ => j) j

/-- A location as a path from the root. -/
def pathOf (l : Location) : Octets := '/' :: (['/'] : Octets).intercalate (l.map Octets.ofBytes)

/-- Where links lead to: what they hold, or the place behind all of them. -/
def readlink : Behaviour := withOptions "fenmqsvz" "" 1 fun j o =>
  if o.operands.isEmpty then missingOperand j
  else
    let t := j.process.tree
    o.operands.foldl (fun j path =>
      let answer : Option Octets :=
        if o.has 'f' || o.has 'e' || o.has 'm' then
          ((t.locate .use (Octets.toText path)).toOption.filter fun l =>
            !o.has 'e' || (t.node? l).isSome).map pathOf
        else
          match entryAt t path with
          | .ok (_, .link target) => some (Octets.ofBytes target)
          | _ => none
      match answer with
      | some text => j.print (text ++ if o.has 'n' && o.operands.length = 1 then [] else ['\n'])
      | none => j.fails 1) j

def realpath : Behaviour := withOptions "emqsz" "" 1 fun j o =>
  if o.operands.isEmpty then missingOperand j
  else
    let t := j.process.tree
    o.operands.foldl (fun j path =>
      match t.locate .use (Octets.toText path) with
      | .error f => j.blame Job.plain path f 1
      | .ok l =>
        if o.has 'e' && (t.node? l).isNone then j.blame Job.plain path .notFound 1
        else j.print (pathOf l ++ ['\n'])) j

/-- Takes one name away. -/
def unlink : Behaviour := withOptions "" "" 1 fun j o =>
  match o.operands with
  | [] => missingOperand j
  | [path] =>
    match entryAt j.process.tree path with
    | .error f => j.blame ⟨"cannot unlink ", true, ""⟩ path f 1
    | .ok (_, .directory) => j.blame ⟨"cannot unlink ", true, ""⟩ path .isADirectory 1
    | .ok (l, _) => setTree j (j.process.tree.remove l)
  | _ :: other :: _ => j.misuse (octets "extra operand " ++ quoted other) 1

/-- A name in the place of the signs at the end of a template. -/
def filledTemplate (template : Octets) (count n : Nat) : Octets :=
  let digits := n.repr.toList
  template.take (template.length - count) ++ List.replicate (count - digits.length) 'a' ++ digits

/-- Makes a file or a directory under a name that is not taken. -/
def mktemp : Behaviour := fun j arguments =>
  withOptions "dqtu" "p" 1 (fun j o =>
    let given := o.operands.head?
    let above : Option Octets :=
      (o.value? 'p').or (if o.has 't' || given.isNone then
        some ((j.process.environment.lookup "TMPDIR").getD (octets "/tmp")) else none)
    let name := given.getD (octets "tmp.XXXXXXXXXX")
    let template := above.elim name fun d => d ++ '/' :: name
    let count := (template.reverse.takeWhile (· = 'X')).length
    let kind := if o.has 'd' then "directory" else "file"
    if count < 3 then
      j.complain (octets "too few X's in template " ++ quoted name) 1
    else
      let t := j.process.tree
      let paths := (List.range (t.entries.length + 1)).map (filledTemplate template count)
      match paths.find? fun path => (entryAt t path).toOption.isNone with
      | none => j.fails 1
      | some path =>
        match placeOf t path with
        | .error f =>
          j.complain (octets ("failed to create " ++ kind ++ " via template ") ++ quoted template ++
            octets (": " ++ f.reason)) 1
        | .ok l =>
          let j := if o.has 'u' then j
            else setTree j (t.put l (if o.has 'd' then .directory else .file [] false))
          j.print (path ++ ['\n'])) j
    (shorten [("directory", 'd'), ("quiet", 'q'), ("dry-run", 'u'), ("tmpdir", 'p')] arguments)

/-- The last name of a path, without a suffix if one is given. -/
def basename : Behaviour := fun j arguments =>
  match arguments with
  | [] => missingOperand j
  | path :: suffixes =>
    let name := ((Path.names (Octets.toBytes path)).getLast?).elim
      (if path.isEmpty then [] else ['/']) Octets.ofBytes
    let suffix := suffixes.head?.getD []
    let name := if suffix.length < name.length && suffix.isSuffixOf name then
        name.take (name.length - suffix.length)
      else name
    j.print (name ++ ['\n'])

/-- A path without its last name. -/
def dirname : Behaviour := fun j arguments =>
  if arguments.isEmpty then missingOperand j
  else
    arguments.foldl (fun j path =>
      let trimmed := (path.reverse.dropWhile (· = '/')).dropWhile (· ≠ '/')
      let above := (trimmed.dropWhile (· = '/')).reverse
      let answer := if !above.isEmpty then above else if path.head? = some '/' then ['/'] else ['.']
      j.print (answer ++ ['\n'])) j

def pwd : Behaviour := fun j _ =>
  j.print (pathOf j.process.tree.working ++ ['\n'])

end SecretAccess.Host.Utility
