import PlatformOperator.Manifest

/-! Manifests in files: a tree of files by their paths, and how single files and whole directories of it
    are loaded. -/

namespace PlatformOperator

/-- The names on the way from the root to a file or directory. -/
abbrev FilePath := List String

namespace FilePath

def text (p : FilePath) : String := String.intercalate "/" p

/-- The names between slashes; empty ones and dots do not count. -/
def ofText (s : String) : FilePath :=
  ((s.toList.splitOn '/').map String.ofList).filter fun n => n != "" && n != "."

/-- The order by names, one after another. -/
def le : FilePath → FilePath → Bool
  | [], _ => true
  | _ :: _, [] => false
  | a :: p, b :: q => a < b || (a == b && le p q)

end FilePath

/-- Files with their bytes, and directories, which may be empty. -/
structure FileTree where
  files : List (FilePath × List UInt8)
  directories : List FilePath
  deriving Repr, Inhabited

namespace FileTree

/-- Whether there is a directory at `p`: the root, one of its own, or one that something lies in. -/
def isDirectory (t : FileTree) (p : FilePath) : Bool :=
  p.isEmpty || t.directories.any (p.isPrefixOf ·) || t.files.any fun f => p.isPrefixOf f.1 && p != f.1

/-- Why nothing is found at `p`: one of the directories on the way may be a file. -/
def missing (t : FileTree) (p : FilePath) : FileError :=
  if t.files.any fun f => f.1.isPrefixOf p && f.1 != p then .notADirectory else .notFound

/-- The text of a file. -/
def read (t : FileTree) (p : FilePath) : Except FileError String :=
  match t.files.lookup p with
  | some bytes =>
    match String.fromUTF8? ⟨bytes.toArray⟩ with
    | some s => .ok s
    | none => .error .invalidData
  | none => .error (if t.isDirectory p then .isADirectory else t.missing p)

/-- The paths of all files below a directory, in order. -/
def filesBelow (t : FileTree) (p : FilePath) : Except FileError (List FilePath) :=
  if t.isDirectory p then .ok (((t.files.map (·.1)).filter (p.isPrefixOf ·)).mergeSort FilePath.le)
  else .error (if (t.files.lookup p).isSome then .notADirectory else t.missing p)

end FileTree

namespace Manifest

/-- The manifest in a file, named by its path. -/
def ofFile (t : FileTree) (p : FilePath) : Except ManifestError Manifest :=
  match t.read p with
  | .ok content => .ok ⟨p.text, content⟩
  | .error e => .error (.readManifest p.text e)

/-- The manifests in all files below a directory. -/
def ofDirectory (t : FileTree) (p : FilePath) : Except ManifestError (List Manifest) := do
  let paths ← (t.filesBelow p).mapError (.readManifest p.text)
  paths.mapM (ofFile t)

end Manifest
end PlatformOperator
