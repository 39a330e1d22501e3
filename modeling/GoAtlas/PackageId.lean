import GoAtlas.Text.Pieces

/-! How a source directory becomes the identifier of its package. -/

namespace GoAtlas

/-- How much of a directory its package's identifier keeps. -/
inductive PackageIds where
  | full
  /-- The last so many segments: short, but the identifiers of two deep directories can agree. -/
  | truncated (segments : Nat)
  deriving DecidableEq, Repr

namespace PackageIds

/-- The depth zero keeps every segment. -/
def ofDepth : Nat → PackageIds
  | 0 => full
  | depth + 1 => truncated (depth + 1)

/-- The names along a path. Empty pieces and dots say nothing about where it leads. -/
def segments (directory : String) : List String :=
  (Text.split '/' directory).filter fun segment => segment != "" && segment != "."

/-- The segments that the identifier keeps. -/
def kept (scheme : PackageIds) (segments : List String) : List String :=
  match scheme with
  | full => segments
  | truncated count => segments.drop (segments.length - count)

/-- The identifier of the package in a directory; a dot where there are no segments. -/
def packageId (scheme : PackageIds) (directory : String) : String :=
  match segments directory with
  | [] => "."
  | names => Text.join "/" (scheme.kept names)

end PackageIds

end GoAtlas
