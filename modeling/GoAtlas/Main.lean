import GoAtlas.CommandLine.Run

/-!
The program: it looks up the paths that a request names, works out what the request comes to, and
prints or writes that.
-/

namespace GoAtlas.CommandLine

/-- The reason in an error of the system. -/
def reasonOf (error : IO.Error) : String :=
  match error with
  | .noFileOrDirectory _ number description
  | .inappropriateType _ number description
  | .permissionDenied _ number description
  | .alreadyExists _ number description
  | .invalidArgument _ number description
  | .resourceExhausted _ number description
  | .noSuchThing _ number description
  | .resourceBusy number description
  | .otherError number description => systemReason number description
  | other => toString other

/-- What lies at a path. Below it links stay links. -/
partial def snapshot (entry : IO.FS.DirEntry) : IO FileTree := do
  if ← entry.path.isDir then
    let trees ← (← entry.path.readDir).toList.mapM fun inner => do
      let kind ← inner.path.symlinkMetadata
      let tree ← if kind.type == .symlink then pure (FileTree.link "") else snapshot inner
      return (inner.fileName, tree)
    return .directory (trees.foldl (fun sorted (name, tree) => insertEntry name tree sorted) [])
  else
    try return .file (← IO.FS.readBinFile entry.path).toList
    catch error => return .unreadable (reasonOf error)

/-- What lies at a path, or why it leads nowhere, which an attempt to open it tells. -/
def look (path : String) : IO (Except String FileTree) := do
  let entry : IO.FS.DirEntry := ⟨".", path⟩
  if ← entry.path.pathExists then return .ok (← snapshot entry)
  try
    let _ ← IO.FS.Handle.mk entry.path .read
    return .error noSuchFile
  catch error => return .error (reasonOf error)

/-- Ends a run that failed. -/
def stop (failure : Failure) : IO UInt32 := do
  IO.eprintln failure.report
  return 1

/-- Runs a request. -/
def Request.perform (request : Request) : IO UInt32 := do
  let found ← request.paths.mapM fun path => return (path, ← look path)
  match request.run fun path => (lookupValue? path found).getD (.error noSuchFile) with
  | .shown text =>
      IO.println text
      return 0
  | .written path content =>
      try
        IO.FS.writeFile path content
        return 0
      catch error => stop (.ofOutput path (reasonOf error))
  | .failed failure => stop failure
  | .misused =>
      IO.eprintln usage
      return 2

end GoAtlas.CommandLine

def main (arguments : List String) : IO UInt32 :=
  (GoAtlas.CommandLine.Request.ofArguments arguments).perform
