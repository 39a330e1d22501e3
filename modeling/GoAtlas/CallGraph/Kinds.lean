/-! The kinds of nodes in a call graph and the ways in which calls are made. -/

namespace GoAtlas

inductive NodeKind where
  | function | method | interfaceMethod | closure | external
  deriving DecidableEq, Repr

namespace NodeKind

def all : List NodeKind := [function, method, interfaceMethod, closure, external]

def label : NodeKind → String
  | function => "function"
  | method => "method"
  | interfaceMethod => "interface_method"
  | closure => "closure"
  | external => "external"

/-- Leaves are never expanded, and no edge to one closes a cycle. -/
def isLeaf : NodeKind → Bool
  | closure => true
  | external => true
  | _ => false

end NodeKind

inductive CallType where
  | direct | interface | goroutine | closure | deferred
  deriving DecidableEq, Repr

namespace CallType

def all : List CallType := [direct, interface, goroutine, closure, deferred]

def label : CallType → String
  | direct => "direct"
  | interface => "interface"
  | goroutine => "goroutine"
  | closure => "closure"
  | deferred => "deferred"

end CallType

end GoAtlas
