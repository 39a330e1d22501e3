import GoAtlas.Go.Names
import GoAtlas.Index

/-! Which type of the index a written type name refers to. -/

namespace GoAtlas

/-- `pkg.Name` as `pkg` and `Name`; a plain name has no package. -/
def splitQualified (typeName : String) : Option String × String :=
  match Text.splitAtLast? "." typeName with
  | some (package, name) => (some package, name)
  | none => (none, typeName)

namespace Index

/-- The first type, in the order of identifiers, that ends in a name and contains a hint. -/
def firstTypeNamed? (index : Index) (hint name : String) : Option String :=
  (index.types.find? fun id _ => Text.contains id hint && Text.endsWith id ("." ++ name)).map (·.1)

/-- The type to which a name in a package refers. With a hint, which is the package token of a
qualified name, this is a match of texts and not of imports; without one, the package itself comes
before all others. -/
def typeOfName? (index : Index) (typeName : String) (hint : Option String) (package : String) :
    Option String :=
  if Go.isPrimitiveType typeName then none
  else
    match hint.filter (· != "") with
    | some hint => index.firstTypeNamed? hint (splitQualified typeName).2
    | none =>
        let own := memberId package typeName
        if index.types.contains own then some own else index.firstTypeNamed? "" typeName

/-- The type that a field of a type in this package has. -/
def typeOfField? (index : Index) (field : Field) (package : String) : Option String :=
  index.typeOfName? field.typeName field.typePackage package

/-- The type that a type in this package embeds under a written name. -/
def typeOfEmbed? (index : Index) (embed package : String) : Option String :=
  index.typeOfName? embed (splitQualified embed).1 package

end Index

end GoAtlas
