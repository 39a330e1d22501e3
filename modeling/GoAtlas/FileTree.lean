import GoAtlas.Text.Pieces
import GoAtlas.Table
import GoAtlas.Text.Utf8

/-!
Files, directories and symbolic links as a value. Paths lead from the root of a tree; links are
followed from the directory that holds them.
-/

namespace GoAtlas

inductive FileTree where
  | file (content : List UInt8)
  /-- A file that cannot be read, and why. -/
  | unreadable (reason : String)
  | directory (entries : List (String × FileTree))
  | link (target : String)
  deriving Inhabited

namespace FileTree

def isDirectory : FileTree → Bool
  | directory _ => true
  | _ => false

def entries : FileTree → List (String × FileTree)
  | directory entries => entries
  | _ => []

/-- What lies at the end of a list of names, without following links. -/
def at? (tree : FileTree) : List String → Option FileTree
  | [] => some tree
  | name :: rest => do (← lookupValue? name tree.entries).at? rest

/-- A tree with something put at the end of a list of names; missing directories are made. -/
def put (tree : FileTree) (content : FileTree) : List String → FileTree
  | [] => content
  | name :: rest =>
      let inner := (lookupValue? name tree.entries).getD (directory [])
      directory (insertEntry name (inner.put content rest) tree.entries)

end FileTree

/-! ### Reasons why a path leads nowhere -/

/-- A reason of the system, by its description and its number. -/
def systemReason (number : UInt32) (description : String) : String :=
  description ++ " (os error " ++ toString number ++ ")"

def noSuchFile : String := systemReason 2 "No such file or directory"

def notADirectory : String := systemReason 20 "Not a directory"

def isADirectory : String := systemReason 21 "Is a directory"

def tooManyLinks : String := systemReason 40 "Too many levels of symbolic links"

namespace FileTree

/-! ### Paths -/

/-- Follows the pieces of a path from a place in the tree, with so many links on the way at most. A
link puts its own pieces in front of those that are left. The last name may be one that is not
there yet, if it is to be made. -/
def follow (root : FileTree) (toMake : Bool) (links : Nat) (place pieces : List String) :
    Except String (List String) :=
  match pieces with
  | [] => .ok place
  | piece :: rest =>
      match root.at? place with
      | none => .error noSuchFile
      | some here =>
          if !here.isDirectory then .error notADirectory
          else if piece == "" || piece == "." then root.follow toMake links place rest
          else if piece == ".." then root.follow toMake links place.dropLast rest
          else
            match lookupValue? piece here.entries with
            | some (link target) =>
                if links = 0 then .error tooManyLinks
                else root.follow toMake (links - 1) place (Text.split '/' target ++ rest)
            | some _ => root.follow toMake links (place ++ [piece]) rest
            | none =>
                if toMake && rest.isEmpty then .ok (place ++ [piece]) else .error noSuchFile
termination_by (links, pieces.length)

/-- So many links the way of a path may have. -/
def mostLinks : Nat := 40

/-- The names to which a relative path leads. -/
def resolve (root : FileTree) (toMake : Bool) (path : String) : Except String (List String) :=
  match Text.split '/' path with
  | [""] => .error noSuchFile
  | "" :: _ => .error noSuchFile
  | pieces => root.follow toMake mostLinks [] pieces

/-- What a path leads to, or why it leads nowhere. -/
def find (root : FileTree) (path : String) : Except String FileTree := do
  match root.at? (← root.resolve false path) with
  | some tree => .ok tree
  | none => .error noSuchFile

/-- A path without the slashes at its end. -/
def withoutEndSlashes (path : String) : String :=
  String.ofList (path.toList.reverse.dropWhile (· == '/')).reverse

/-- The tree with a file written, or why it cannot be. A path with a slash at its end is one of a
directory. -/
def write (root : FileTree) (path : String) (content : List UInt8) : Except String FileTree := do
  let place ← root.resolve true (withoutEndSlashes path)
  if Text.endsWith path "/" || (root.at? place).any (·.isDirectory) then .error isADirectory
  else .ok (root.put (.file content) place)

end FileTree

/-- How paths are looked up, with links followed: the one thing the program asks of a disk. A path
that leads nowhere does so for a reason. -/
abbrev PathLookup := String → Except String FileTree

/-- The text in a file, or why there is none. -/
def readText (lookup : PathLookup) (path : String) : Except String String := do
  match ← lookup path with
  | .file content =>
      match Text.Utf8.read? content with
      | some text => .ok text
      | none => .error "stream did not contain valid UTF-8"
  | .unreadable reason => .error reason
  | .directory _ => .error isADirectory
  | .link _ => .error noSuchFile

namespace Path

/-- The path without the pieces at its end that say nothing about where it leads. -/
def trimmed : List String → List String
  | [] => []
  | first :: rest =>
      first :: (rest.reverse.dropWhile fun piece => piece == "" || piece == ".").reverse

/-- The path of the directory in which a file lies, by the file's path; empty where that is a single
name. -/
def parent (path : String) : String :=
  match trimmed (trimmed (Text.split '/' path)).dropLast with
  | [""] => "/"
  | pieces => Text.join "/" pieces

/-- The last name of a path. -/
def fileName (path : String) : String :=
  (trimmed (Text.split '/' path)).getLastD ""

/-- A name in a directory; a directory written with a slash at its end needs no other. -/
def within (directory name : String) : String :=
  if Text.endsWith directory "/" then directory ++ name else directory ++ "/" ++ name

/-- The letters after the last dot of a file's name, if the dot does not begin the name. -/
def extension? (path : String) : Option String :=
  match Text.splitAtLast? "." (fileName path) with
  | some (stem, letters) => if stem == "" then none else some letters
  | none => none

end Path

end GoAtlas
