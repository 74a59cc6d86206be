/-!
# Faults of the file system

The reasons for which the host refuses to read, to write or to start something,
with the words it gives for them.
-/

namespace SecretAccess.Host

inductive Fault where
  | notFound
  | noSuchDevice
  | badExecutable
  | badDescriptor
  | permissionDenied
  | alreadyExists
  | notADirectory
  | isADirectory
  | invalidArgument
  | noSpace
  | nameTooLong
  | notEmpty
  | brokenPipe
  | tooManyLinks
  | nulInPath
  | nulInArgument
  | outOfMemory
  | notText
deriving DecidableEq, Repr

namespace Fault

/-- The reason in words. -/
def reason : Fault → String
  | notFound => "No such file or directory"
  | noSuchDevice => "No such device or address"
  | badExecutable => "Exec format error"
  | badDescriptor => "Bad file descriptor"
  | permissionDenied => "Permission denied"
  | alreadyExists => "File exists"
  | notADirectory => "Not a directory"
  | isADirectory => "Is a directory"
  | invalidArgument => "Invalid argument"
  | noSpace => "No space left on device"
  | nameTooLong => "File name too long"
  | notEmpty => "Directory not empty"
  | brokenPipe => "Broken pipe"
  | tooManyLinks => "Too many levels of symbolic links"
  | nulInPath => "file name contained an unexpected NUL byte"
  | nulInArgument => "nul byte found in provided data"
  | outOfMemory => "out of memory"
  | notText => "stream did not contain valid UTF-8"

/-- The number by which the system knows a reason. What is found out without the
system has none. -/
def number? : Fault → Option Nat
  | notFound => some 2
  | noSuchDevice => some 6
  | badExecutable => some 8
  | badDescriptor => some 9
  | permissionDenied => some 13
  | alreadyExists => some 17
  | notADirectory => some 20
  | isADirectory => some 21
  | invalidArgument => some 22
  | noSpace => some 28
  | brokenPipe => some 32
  | nameTooLong => some 36
  | notEmpty => some 39
  | tooManyLinks => some 40
  | nulInPath | nulInArgument | outOfMemory | notText => none

def message (f : Fault) : String :=
  match f.number? with
  | some n => f.reason ++ " (os error " ++ n.repr ++ ")"
  | none => f.reason

end Fault

end SecretAccess.Host
