import GoAtlas.Resolver.TypeNames
import GoAtlas.Unseen

/-!
Which structures implement an interface: by the weak sign of a field of the interface's type, or by
their method sets, in which methods are compared by name.
-/

namespace GoAtlas.Index

/-- Structures with a field whose type is the interface. Holding an interface is not implementing
it, so this is a weak stand-in for the method sets. -/
def implementationsByField (index : Index) (interfaceId : String) : List String :=
  if (index.types.get? interfaceId).any (·.isInterface) then
    (index.types.entries.filter fun (id, type) =>
      type.kind == .struct && id != interfaceId &&
        type.fields.any fun field =>
          index.typeOfField? field type.package == some interfaceId).map (·.1)
  else []

/-- The type that a type embeds under a written name, if it may pass methods on to it: a structure
gets those of structures and interfaces, an interface those of interfaces. -/
def methodSource? (index : Index) (type : TypeSymbol) (embed : String) : Option String := do
  let id ← index.typeOfEmbed? embed type.package
  let inner ← index.types.get? id
  match type.kind, inner.kind with
  | .struct, .struct => some id
  | .struct, .interface => some id
  | .interface, .interface => some id
  | _, _ => none

/-- The types that may pass methods on to a type which embeds them. -/
def methodSources (index : Index) (type : TypeSymbol) : List String :=
  type.embeds.filterMap (index.methodSource? type)

/-- The types seen, and all that can be reached from the pending ones through what they embed. -/
def gather (index : Index) (pending seen : List String) : List String :=
  match pending with
  | [] => seen
  | id :: rest =>
      if seen.contains id then index.gather rest seen
      else
        match _found : index.types.get? id with
        | none => index.gather rest seen
        | some type => index.gather (index.methodSources type ++ rest) (id :: seen)
termination_by ((unseen index.types.keys seen).length, pending.length)
decreasing_by
  · exact Prod.Lex.right _ (Nat.lt_succ_self _)
  · exact Prod.Lex.right _ (Nat.lt_succ_self _)
  · exact Prod.Lex.left _ _ (unseen_cons_length_lt (Table.mem_keys_of_get? _found) (by simp_all))

/-- The names of the methods with a type as their receiver. -/
def methodsOn (index : Index) (type : TypeSymbol) : List String :=
  (index.methods.values.filter fun method =>
    method.package == type.package && method.receiver == type.name).map (·.name)

/-- The methods that a type has by itself: those with it as receiver, or those it declares. -/
def ownMethods (index : Index) (type : TypeSymbol) : List String :=
  match type.kind with
  | .struct => index.methodsOn type
  | .interface => type.methods
  | .other => []

/-- The names of a type's methods, those that it gets from embedded types included. -/
def methodSet (index : Index) (typeId : String) : List String :=
  (index.gather [typeId] []).flatMap fun id =>
    match index.types.get? id with
    | some type => index.ownMethods type
    | none => []

/-- Structures whose method set covers that of the interface. -/
def implementationsByMethodSet (index : Index) (interfaceId : String) : List String :=
  if (index.types.get? interfaceId).any (·.isInterface) then
    let required := index.methodSet interfaceId
    (index.types.entries.filter fun (id, type) =>
      type.kind == .struct && required.all (index.methodSet id).contains).map (·.1)
  else []

end GoAtlas.Index
