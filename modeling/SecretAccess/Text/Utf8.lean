/-!
# Reading bytes as text

`decode?` takes valid UTF-8 only. `decodeLossy` takes any bytes and puts the
replacement character in place of each longest run that begins a character but
does not complete it, and of each byte that begins none.
-/

namespace SecretAccess.Text.Utf8

def decode? (bytes : List UInt8) : Option String := String.fromUTF8? ⟨bytes.toArray⟩

def encode (s : String) : List UInt8 := s.toUTF8.toList

/-- A character that has begun: its bits so far, how many bytes are owed, and
the bounds of the next one. -/
structure Pending where
  bits : Nat
  owed : Nat
  low : UInt8
  high : UInt8
deriving DecidableEq, Repr

def replacement : Char := '\ufffd'

inductive Lead where
  | whole (c : Char)
  | begun (p : Pending)
  | invalid
deriving DecidableEq, Repr

def lead (b : UInt8) : Lead :=
  if b < 0x80 then .whole (Char.ofNat b.toNat)
  else if b < 0xC2 then .invalid
  else if b < 0xE0 then .begun ⟨b.toNat - 0xC0, 1, 0x80, 0xBF⟩
  else if b = 0xE0 then .begun ⟨0, 2, 0xA0, 0xBF⟩
  else if b = 0xED then .begun ⟨0xD, 2, 0x80, 0x9F⟩
  else if b < 0xF0 then .begun ⟨b.toNat - 0xE0, 2, 0x80, 0xBF⟩
  else if b = 0xF0 then .begun ⟨0, 3, 0x90, 0xBF⟩
  else if b < 0xF4 then .begun ⟨b.toNat - 0xF0, 3, 0x80, 0xBF⟩
  else if b = 0xF4 then .begun ⟨4, 3, 0x80, 0x8F⟩
  else .invalid

/-- What the first byte of a character gives at once, and what it leaves open. -/
def start (b : UInt8) : List Char × Option Pending :=
  match lead b with
  | .whole c => ([c], none)
  | .begun p => ([], some p)
  | .invalid => ([replacement], none)

def resume (p : Pending) (b : UInt8) : List Char × Option Pending :=
  if p.low ≤ b && b ≤ p.high then
    let bits := p.bits * 64 + (b.toNat - 0x80)
    if p.owed = 1 then ([Char.ofNat bits], none)
    else ([], some ⟨bits, p.owed - 1, 0x80, 0xBF⟩)
  else
    let (written, next) := start b
    (replacement :: written, next)

def decodeFrom : Option Pending → List UInt8 → List Char
  | none, [] => []
  | some _, [] => [replacement]
  | pending, b :: bytes =>
    let (written, next) :=
      match pending with
      | none => start b
      | some p => resume p b
    written ++ decodeFrom next bytes

def decodeLossy (bytes : List UInt8) : String := String.ofList (decodeFrom none bytes)

end SecretAccess.Text.Utf8
