/-!
What the program writes, apart from how it is written: texts, numbers, flags, lists, and records
whose fields keep their order.
-/

namespace GoAtlas

inductive Document where
  | text (value : String)
  | number (value : Nat)
  | flag (value : Bool)
  | list (items : List Document)
  | record (fields : List (String × Document))
  deriving Inhabited

namespace Document

/-- A list of texts. -/
def texts (values : List String) : Document :=
  list (values.map text)

/-- A field that is written only where there is a value. -/
def optional {Value : Type} (name : String) (write : Value → Document) :
    Option Value → List (String × Document)
  | none => []
  | some value => [(name, write value)]

/-- A flag that is written only where it is set. -/
def whenSet (name : String) : Bool → List (String × Document)
  | false => []
  | true => [(name, flag true)]

/-- A list of texts that is written only where it has some. -/
def whenSome (name : String) (values : List String) : List (String × Document) :=
  if values.isEmpty then [] else [(name, texts values)]

end Document

end GoAtlas
