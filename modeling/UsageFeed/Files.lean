/-!
# `UsageFeed.Files` — reading files by path

## Contents
- `Files.Error`, why a file cannot be read, and its message.
- `Tree`, files and directories below one directory; `Tree.usual` below the root.
- `Directory`, where the program works, and `Directory.read`, which follows a path step by step.
-/

namespace UsageFeed

/-- Why a file cannot be read. -/
inductive Files.Error where
  | missing
  | isDirectory
  | notDirectory
  | nameTooLong
  | nulInName
  /-- Any other reason, in the words of the system. -/
  | other (reason : String)
  deriving DecidableEq, Repr

/-- The text of an error. -/
def Files.Error.message : Files.Error → String
  | missing => "No such file or directory (os error 2)"
  | isDirectory => "Is a directory (os error 21)"
  | notDirectory => "Not a directory (os error 20)"
  | nameTooLong => "File name too long (os error 36)"
  | nulInName => "file name contained an unexpected NUL byte"
  | other reason => reason

/-- Who gives the contents of files. -/
abbrev Files := String → Except Files.Error (List UInt8)

/-- What lies below a directory. Paths are given as their steps. -/
structure Tree where
  files : List (List String × List UInt8) := []
  directories : List (List String) := []
  deriving Repr

namespace Tree

/-- The steps of a path. -/
def stepsOf (path : String) : List String :=
  (path.toList.splitOnP (· == '/')).map String.ofList

/-- A tree with files and directories given by their paths. -/
def ofPaths (files : List (String × List UInt8)) (directories : List String) : Tree :=
  ⟨files.map fun (path, contents) => (stepsOf path, contents), directories.map stepsOf⟩

/-- The tree with another file. -/
def withFile (t : Tree) (path : String) (contents : List UInt8) : Tree :=
  { t with files := (stepsOf path, contents) :: t.files }

/-- What every system has below its root: the usual directories, and a file in which nothing is. -/
def usual : Tree :=
  ofPaths [("dev/null", [])]
    [ "bin", "boot", "dev", "dev/fd", "dev/pts", "dev/shm", "etc", "home", "lib", "media", "mnt",
      "opt", "proc", "proc/self", "proc/self/fd", "root", "run", "sbin", "srv", "sys", "tmp", "usr",
      "usr/bin", "usr/lib", "usr/local", "usr/local/bin", "usr/sbin", "usr/share", "var",
      "var/cache", "var/lib", "var/log", "var/tmp" ]

end Tree

/-- The directory in which the program works, and what is known of the rest of the system. -/
structure Directory where
  below : Tree := {}
  root : Tree := .usual
  deriving Repr

namespace Directory

/-- Where a path has led. -/
inductive Place where
  /-- A directory below. -/
  | inside (steps : List String)
  /-- So many directories above, of which nothing is known but their names. -/
  | above (levels : Nat)
  /-- A directory below the root. -/
  | fromRoot (steps : List String)
  | file (contents : List UInt8)
  deriving Repr

/-- Goes one step down a tree, from a directory at some steps to a file or another directory. -/
def descend (t : Tree) (steps : List String) (name : String) (place : List String → Place) :
    Except Files.Error Place :=
  let target := steps ++ [name]
  match t.files.lookup target with
  | some contents => .ok (.file contents)
  | none => if target ∈ t.directories then .ok (place target) else .error .missing

/-- The place that two points lead up to. Nothing is above the root. -/
def Place.parent : Place → Place
  | .inside [] => .above 1
  | .inside steps => .inside steps.dropLast
  | .above levels => .above (levels + 1)
  | .fromRoot steps => .fromRoot steps.dropLast
  | .file contents => .file contents

/-- Goes one step. An empty step or a point stays in the same directory, two points lead up. -/
def step (d : Directory) (place : Place) (name : String) : Except Files.Error Place :=
  match place with
  | .file _ => .error .notDirectory
  | _ =>
    if name = "" || name = "." then .ok place
    else if name = ".." then .ok place.parent
    else if 255 < name.utf8ByteSize then .error .nameTooLong
    else
      match place with
      | .inside steps => descend d.below steps name .inside
      | .fromRoot steps => descend d.root steps name .fromRoot
      | _ => .error .missing

/-- The contents of the file at a path. -/
def read (d : Directory) : Files := fun path =>
  if path.toList.contains '\x00' then .error .nulInName
  else if path.isEmpty then .error .missing
  else if 4096 ≤ path.utf8ByteSize then .error .nameTooLong
  else
    let start := if path.startsWith "/" then .fromRoot [] else .inside []
    match (Tree.stepsOf path).foldlM d.step start with
    | .ok (.file contents) => .ok contents
    | .ok _ => .error .isDirectory
    | .error e => .error e

end Directory
end UsageFeed
