import GoAtlas.Yaml.Token

/-!
YAML documents as trees. Anchors are numbered, and a reference holds the number of the anchor to
which it leads; so a tree may lead back into itself.
-/

namespace GoAtlas.Yaml

inductive Node where
  | scalar (tag : Option (List UInt8)) (style : ScalarStyle) (text : List Char)
  | sequence (tag : Option (List UInt8)) (items : List Node)
  | mapping (tag : Option (List UInt8)) (entries : List (Node × Node))
  | anchored (anchor : Nat) (node : Node)
  | reference (anchor : Nat)
  deriving Inhabited

namespace Node

/-- What stands where nothing stands. -/
def missing : Node := scalar none .plain []

mutual

/-- The anchored nodes in a tree, in the order in which they begin. -/
def anchors : Node → List (Nat × Node)
  | scalar _ _ _ => []
  | sequence _ items => anchorsOfItems items
  | mapping _ entries => anchorsOfEntries entries
  | anchored anchor node => (anchor, node) :: node.anchors
  | reference _ => []

def anchorsOfItems : List Node → List (Nat × Node)
  | [] => []
  | item :: rest => item.anchors ++ anchorsOfItems rest

def anchorsOfEntries : List (Node × Node) → List (Nat × Node)
  | [] => []
  | (key, value) :: rest => key.anchors ++ value.anchors ++ anchorsOfEntries rest

end

end Node

end GoAtlas.Yaml
