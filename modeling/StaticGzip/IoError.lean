import StaticGzip.Errno
import StaticGzip.Text.Quoted

/-! # Input and output errors

An error is known by its kind alone, by a kind and words of its own, or by a number of the
operating system, which has both. The kind decides how a request is answered; the words appear in
the log, and an inner form where a failure is shown with its cause. -/

namespace StaticGzip

/-- The **kind** of an input or output error. -/
inductive IoErrorKind where
  | notFound
  | permissionDenied
  | connectionReset
  | connectionAborted
  | notConnected
  | brokenPipe
  | addressInUse
  | addressNotAvailable
  | notADirectory
  | isADirectory
  | invalidInput
  | invalidData
  | timedOut
  | interrupted
  | unexpectedEof
  | wouldBlock
  | alreadyExists
  | outOfMemory
  | invalidFilename
  | filesystemLoop
  | other
  | uncategorized
deriving DecidableEq, Repr

namespace IoErrorKind

/-- The words of an error that is known by its kind alone. -/
def text : IoErrorKind → String
  | .notFound => "entity not found"
  | .permissionDenied => "permission denied"
  | .connectionReset => "connection reset"
  | .connectionAborted => "connection aborted"
  | .notConnected => "not connected"
  | .brokenPipe => "broken pipe"
  | .addressInUse => "address in use"
  | .addressNotAvailable => "address not available"
  | .notADirectory => "not a directory"
  | .isADirectory => "is a directory"
  | .invalidInput => "invalid input parameter"
  | .invalidData => "invalid data"
  | .timedOut => "timed out"
  | .interrupted => "operation interrupted"
  | .unexpectedEof => "unexpected end of file"
  | .wouldBlock => "operation would block"
  | .alreadyExists => "entity already exists"
  | .outOfMemory => "out of memory"
  | .invalidFilename => "invalid filename"
  | .filesystemLoop => "filesystem loop or indirection limit (e.g. symlink loop)"
  | .other => "other error"
  | .uncategorized => "uncategorized error"

/-- The name of a kind. -/
def name : IoErrorKind → String
  | .notFound => "NotFound"
  | .permissionDenied => "PermissionDenied"
  | .connectionReset => "ConnectionReset"
  | .connectionAborted => "ConnectionAborted"
  | .notConnected => "NotConnected"
  | .brokenPipe => "BrokenPipe"
  | .addressInUse => "AddrInUse"
  | .addressNotAvailable => "AddrNotAvailable"
  | .notADirectory => "NotADirectory"
  | .isADirectory => "IsADirectory"
  | .invalidInput => "InvalidInput"
  | .invalidData => "InvalidData"
  | .timedOut => "TimedOut"
  | .interrupted => "Interrupted"
  | .unexpectedEof => "UnexpectedEof"
  | .wouldBlock => "WouldBlock"
  | .alreadyExists => "AlreadyExists"
  | .outOfMemory => "OutOfMemory"
  | .invalidFilename => "InvalidFilename"
  | .filesystemLoop => "FilesystemLoop"
  | .other => "Other"
  | .uncategorized => "Uncategorized"

/-- The kind of a system error number. -/
def ofErrno : Nat → IoErrorKind
  | 1 | 13 => .permissionDenied
  | 2 => .notFound
  | 4 => .interrupted
  | 11 => .wouldBlock
  | 12 => .outOfMemory
  | 17 => .alreadyExists
  | 20 => .notADirectory
  | 21 => .isADirectory
  | 22 => .invalidInput
  | 32 => .brokenPipe
  | 36 => .invalidFilename
  | 40 => .filesystemLoop
  | 98 => .addressInUse
  | 99 => .addressNotAvailable
  | 103 => .connectionAborted
  | 104 => .connectionReset
  | 107 => .notConnected
  | 110 => .timedOut
  | _ => .uncategorized

end IoErrorKind

/-- An **input or output error**. -/
inductive IoError where
  | simple (kind : IoErrorKind)
  | custom (kind : IoErrorKind) (words : String)
  | system (errno : Nat)
deriving DecidableEq, Repr

namespace IoError

/-- The kind of an error. -/
def kind : IoError → IoErrorKind
  | .simple k => k
  | .custom k _ => k
  | .system n => .ofErrno n

/-- The wording of an error; a system error shows its number. -/
def message : IoError → String
  | .simple k => k.text
  | .custom _ words => words
  | .system n => s!"{Errno.text n} (os error {n})"

/-- The inner form of an error. -/
def form : IoError → String
  | .simple k => s!"Kind({k.name})"
  | .custom k words => s!"Custom \x7b kind: {k.name}, error: {Text.quotedString words} \x7d"
  | .system n =>
    s!"Os \x7b code: {n}, kind: {(IoErrorKind.ofErrno n).name}, message: "
      ++ s!"{Text.quotedString (Errno.text n)} \x7d"

/-- A missing file is the error number 2, and no other number. -/
theorem kind_system_eq_notFound_iff (n : Nat) : (system n).kind = .notFound ↔ n = 2 := by
  constructor
  · intro h
    simp only [kind, IoErrorKind.ofErrno] at h
    split at h <;> simp_all
  · rintro rfl; rfl

end IoError

end StaticGzip
