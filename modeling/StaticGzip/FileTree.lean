import StaticGzip.FileSystem

/-! # Trees of files

A tree of directories, files and symbolic links, and how a path is followed in it. Links are
followed wherever they stand, at most forty of them. A relative path starts from the working
directory.

* **`FileTree.locate`** — what is at a path, or why nothing is found.
* **`FileTree.toFileSystem`** — the answers of the tree to the server's questions. -/

namespace StaticGzip

/-- What an entry of a tree is. A device is no regular file; a file may be broken, so that it looks
empty and cannot be read. -/
inductive FileEntry where
  | file (content : ByteArray)
  | directory
  | link (target : Text)
  | device
  | broken (errno : Nat)

/-- A **tree of files**: entries by the names that lead to them from the root. -/
structure FileTree where
  entries : List (List Text × FileEntry)
  workingDirectory : List Text

namespace FileTree

/-! ## Entries -/

/-- The entry at some names from the root; the root is a directory. -/
def entry? (t : FileTree) (names : List Text) : Option FileEntry :=
  if names.isEmpty then some .directory else t.entries.lookup names

/-- The tree with one more entry, unless there is one already. -/
def add (t : FileTree) (names : List Text) (e : FileEntry) : FileTree :=
  match t.entry? names with
  | some _ => t
  | none => { t with entries := (names, e) :: t.entries }

/-- The tree without an entry and all that is below it. -/
def remove (t : FileTree) (names : List Text) : FileTree :=
  { t with entries := t.entries.filter fun (other, _) => !names.isPrefixOf other }

/-- The proper starts of some names. -/
def parents (names : List Text) : List (List Text) :=
  (List.range names.length).tail.map names.take

/-- The tree with an entry in place of whatever was there, and with directories that lead to it. -/
def write (t : FileTree) (names : List Text) (e : FileEntry) : FileTree :=
  let t := (parents names).foldl (fun t names => t.add names .directory) t
  match e, t.entry? names with
  | .directory, some .directory => t
  | _, _ =>
    { t with entries := (names, e) :: t.entries.filter fun (other, _) => other != names }

/-- The names of a path from the working directory. -/
def namesOf (t : FileTree) (path : Text) : List Text :=
  t.workingDirectory ++ (path.splitOn '/').filter fun s => !Path.isBlank s

/-- The tree of a system without any files of its own: a working directory, the null device, and a
file whose reading fails. -/
def empty : FileTree :=
  let errno := 5
  let t : FileTree := ⟨[], ["work".toList]⟩
  let t := t.write ["work".toList] .directory
  let t := t.write ["dev".toList, "null".toList] .device
  t.write ["proc".toList, "self".toList, "mem".toList] (.broken errno)

/-! ## Following a path -/

/-- The longest name, in bytes. -/
def maxName : Nat := 255

/-- The least length of a path that is too long, in bytes. -/
def pathLimit : Nat := 4096

/-- The most links that are followed. -/
def maxLinks : Nat := 40

/-- Missing. -/
def missing : IoError := .system 2

/-- Not a directory. -/
def notDirectory : IoError := .system 20

/-- Too long. -/
def tooLong : IoError := .system 36

/-- Too many links. -/
def tooManyLinks : IoError := .system 40

/-- The entry reached from a place by some segments, while so many links may be followed. The place
is given by its names, the last one first. -/
def follow (t : FileTree) (links : Nat) (place segments : List Text) :
    Except IoError FileEntry :=
  match segments with
  | [] =>
    match t.entry? place.reverse with
    | some e => .ok e
    | none => .error missing
  | segment :: rest =>
    match t.entry? place.reverse with
    | some .directory =>
      if Path.isBlank segment then t.follow links place rest
      else if segment = ['.', '.'] then t.follow links place.tail rest
      else if maxName < Text.byteLength segment then .error tooLong
      else match t.entry? (segment :: place).reverse with
        | none => .error missing
        | some (.link target) =>
          match links with
          | 0 => .error tooManyLinks
          | links + 1 =>
            let start := if target.head? = some '/' then [] else place
            t.follow links start (target.splitOn '/' ++ rest)
        | some _ => t.follow links (segment :: place) rest
    | some _ => .error notDirectory
    | none => .error missing
termination_by (links, segments.length)

/-- What is **at a path**. -/
def locate (t : FileTree) (p : Path) : Except IoError FileEntry :=
  if p.text.any (·.toNat == 0) then
    .error (.custom .invalidInput "file name contained an unexpected NUL byte")
  else if p.text.isEmpty then .error missing
  else if pathLimit ≤ Text.byteLength p.text then .error tooLong
  else
    let start := if p.text.head? = some '/' then [] else t.workingDirectory.reverse
    t.follow maxLinks start (p.text.splitOn '/')

/-- What is known of an entry. -/
def FileEntry.info : FileEntry → FileMeta
  | .file content => ⟨true, content.size⟩
  | .broken _ => ⟨true, 0⟩
  | _ => ⟨false, 0⟩

/-- The content of an entry. -/
def FileEntry.content : FileEntry → Except IoError ByteArray
  | .file content => .ok content
  | .broken errno => .error (.system errno)
  | .device => .ok .empty
  | _ => .error (.system 21)

/-- The **file system** of a tree. -/
def toFileSystem (t : FileTree) : FileSystem where
  stat p := (t.locate p).map FileEntry.info
  read p := (t.locate p).bind FileEntry.content

end FileTree

end StaticGzip
