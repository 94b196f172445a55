import StaticGzip.IoError
import StaticGzip.Path

/-! # File systems

The server asks two questions about files: what is at a path, and what it contains. A file system
is how they are answered. -/

namespace StaticGzip

/-- What is known of a file without reading it. -/
structure FileMeta where
  isFile : Bool
  size : Nat
deriving DecidableEq, Repr

/-- A **file system**: an answer to each question about each path. -/
structure FileSystem where
  stat : Path → Except IoError FileMeta
  read : Path → Except IoError ByteArray

/-- A **question** that was asked of a file system. -/
inductive FileCall where
  | stat (path : Path)
  | read (path : Path)
deriving DecidableEq, Repr

/-- The path that a question is about. -/
def FileCall.path : FileCall → Path
  | stat p => p
  | read p => p

end StaticGzip
