import GoAtlas.Proofs.Calls.Capture
import GoAtlas.Proofs.Names.Units
import GoAtlas.Proofs.Text.Separators

/-!
The call sites of a source unit. Whatever source is read, a site has a receiver exactly if its
target is dotted, what stands after the last dot is the selector that is called, and the receiver
has the path of an import exactly if it is the name of that import alone.
-/

namespace GoAtlas

open Go (isName)

namespace Go

/-! ### The import that a name stands for -/

/-- Calls of the file can refer to the import by the name: the source gives it, or gives none. -/
inductive Import.Binds (imported : Import) (name : String) : Prop where
  | given (written : imported.givenName = some name) (notBlank : name ≠ "_") (notDot : name ≠ ".")
  | default (unwritten : imported.givenName = none)
      (named : defaultImportName imported.path = name)

/-- Among the imports to which calls can refer by the name, the last one has the path. -/
def LastBinds (imports : List Import) (name path : String) : Prop :=
  ∃ before imported after, imports = before ++ imported :: after ∧ imported.Binds name ∧
    imported.path = path ∧ ∀ later ∈ after, ¬later.Binds name

variable {imported : Import} {imports : List Import} {name path : String}

theorem Import.name?_given (given path : String) : Import.name? ⟨some given, path⟩ =
    if given = "_" ∨ given = "." then none else some given := by
  unfold name?
  split
  · rename_i unwritten
    cases unwritten
  · rename_i blank
    rw [if_pos (.inl (Option.some.inj blank))]
  · rename_i dot
    rw [if_pos (.inr (Option.some.inj dot))]
  · rename_i name notBlank notDot written
    cases written
    exact (if_neg (not_or.mpr ⟨notBlank, notDot⟩)).symm

theorem Import.name?_eq_some_iff : imported.name? = some name ↔ imported.Binds name := by
  obtain ⟨_ | given, path⟩ := imported
  · constructor
    · intro named
      exact .default rfl (Option.some.inj named)
    · rintro (⟨written, -, -⟩ | ⟨-, named⟩)
      · cases written
      · exact congrArg some named
  · rw [Import.name?_given]
    constructor
    · intro named
      split at named
      · cases named
      · rename_i refers
        cases named
        exact .given rfl (fun blank => refers (.inl blank)) fun dot => refers (.inr dot)
    · rintro (⟨written, notBlank, notDot⟩ | ⟨unwritten, -⟩)
      · cases written
        exact if_neg (not_or.mpr ⟨notBlank, notDot⟩)
      · cases unwritten

theorem path?_importNames (imports : List Import) (name : String) :
    (importNames imports).path? name =
      (imports.reverse.find? fun imported => imported.name? == some name).map (·.path) := by
  induction imports using List.reverseRecOn with
  | nil => rfl
  | append_singleton before last inductionHypothesis =>
      rw [ImportNames.path?, importNames] at inductionHypothesis ⊢
      rw [List.filterMap_append, List.reverse_append, List.find?_append, List.reverse_append,
        List.find?_append, Option.map_or, Option.map_or, inductionHypothesis]
      congr 1
      cases named : last.name? with
      | none => simp [named]
      | some lastName => by_cases same : lastName = name <;> simp [named, same]

/-- A name stands for the import that binds it last. -/
theorem path?_eq_some_iff :
    (importNames imports).path? name = some path ↔ LastBinds imports name path := by
  have binds (imported : Import) :
      (imported.name? == some name) = true ↔ imported.Binds name := by
    rw [beq_iff_eq, Import.name?_eq_some_iff]
  simp only [path?_importNames, Option.map_eq_some_iff, List.find?_eq_some_iff_append, binds,
    Bool.not_eq_true', ← Bool.not_eq_true]
  constructor
  · rintro ⟨imported, ⟨bound, after, before, same, others⟩, rfl⟩
    refine ⟨before.reverse, imported, after.reverse, ?_, bound, rfl, ?_⟩
    · rw [← List.reverse_reverse imports, same]
      simp
    · intro later member
      exact others later (List.mem_reverse.mp member)
  · rintro ⟨before, imported, after, rfl, bound, rfl, others⟩
    refine ⟨imported, ⟨bound, after.reverse, before.reverse, by simp, ?_⟩, rfl⟩
    intro later member
    exact others later (List.mem_reverse.mp member)

end Go

/-! ### The shape of a site -/

namespace CallSite

/-- The parts of a site agree with each other, with the call of which it is the record, and with the
imports of the file. -/
structure WellFormed (imports : List Go.Import) (call : Go.Node) (site : CallSite) : Prop where
  isMethod_iff : site.isMethod = true ↔ ∃ receiver, site.receiver = some receiver
  dotted_iff : '.' ∈ site.target.toList ↔ ∃ receiver, site.receiver = some receiver
  receiver : ∀ receiver, site.receiver = some receiver →
    ReceiverText receiver ∧ site.target = memberId receiver site.selector
  selected : ∀ receiver, site.receiver = some receiver →
    ∃ written callee field, call.child? .function = some written ∧ written.Unwraps callee ∧
      callee.child? .field = some field ∧ site.selector = field.text
  launch : ¬(site.isGoroutine = true ∧ site.isDeferred = true)
  closure : site.isClosure = true → site.receiver = none ∧ site.importPath = none
  importPath_iff : ∀ path, site.importPath = some path ↔
    ∃ name, site.receiver = some name ∧ isName name = true ∧ Go.LastBinds imports name path

/-- Without a receiver it is enough that the target has no dot. -/
theorem WellFormed.of_undotted {imports : List Go.Import} {call : Go.Node} {site : CallSite}
    (undotted : '.' ∉ site.target.toList) (noMethod : site.isMethod = false)
    (noReceiver : site.receiver = none) (noPath : site.importPath = none)
    (launch : ¬(site.isGoroutine = true ∧ site.isDeferred = true)) :
    site.WellFormed imports call where
  isMethod_iff := by simp [noMethod, noReceiver]
  dotted_iff := by simp [undotted, noReceiver]
  receiver := by simp [noReceiver]
  selected := by simp [noReceiver]
  launch := launch
  closure _ := ⟨noReceiver, noPath⟩
  importPath_iff := by simp [noReceiver, noPath]

end CallSite

namespace Go

open Named (namesOnly)

variable {imports : List Import} {launch : Launch} {call callee operand : Node} {site : CallSite}
  {receiver : String} {importPath : Option String}

/-- A receiver is spelled with names, and a path of an import goes with a single one. -/
theorem SpellsReceiver.wellFormed (names : namesOnly operand)
    (spells : SpellsReceiver (importNames imports) operand receiver importPath) :
    ReceiverText receiver ∧ ∀ path, importPath = some path ↔
      isName receiver = true ∧ LastBinds imports receiver path := by
  refine ⟨receiverText_of_receiverText? names (spellsReceiver_iff.mp spells).1, fun path => ?_⟩
  cases spells with
  | name identifier =>
      rw [path?_eq_some_iff]
      exact (and_iff_right (Node.isName_identifier names identifier)).symm
  | path =>
      refine iff_of_false nofun ?_
      rintro ⟨single, -⟩
      exact isName.not_mem single continuesName_dot (dot_mem_memberId _ _)

theorem Records.wellFormed (names : namesOnly call)
    (records : Records (importNames imports) launch call site) : site.WellFormed imports call := by
  obtain ⟨target, isMethod, receiver, importPath, line, isGoroutine, isDeferred⟩ := site
  obtain ⟨-, isGoroutine_eq, isDeferred_eq, written, callee, found, unwraps, spells⟩ := records
  have calleeNames : namesOnly callee := by
    rw [← Node.unwraps_iff.mp unwraps]
    exact namesOnly_unparenthesize (Node.namesOnly_of_child? names found)
  have notBoth : ¬(isGoroutine = true ∧ isDeferred = true) := by
    rintro ⟨rfl, rfl⟩
    rw [eq_comm, beq_iff_eq] at isGoroutine_eq isDeferred_eq
    rw [isGoroutine_eq] at isDeferred_eq
    cases isDeferred_eq
  have plain {name : String} (spelled : isName name = true) : '.' ∉ name.toList :=
    isName.not_mem spelled continuesName_dot
  dsimp only at spells
  cases spells with
  | name identifier =>
      exact .of_undotted (plain (Node.isName_identifier calleeNames identifier)) rfl rfl rfl notBoth
  | literal =>
      have undotted : '.' ∉ closureTarget.toList := by decide
      exact .of_undotted undotted rfl rfl rfl notBoth
  | @selector written operand field receiver _ _ under operandUnwraps spells selected =>
      have operandNames : namesOnly operand := by
        rw [← Node.unwraps_iff.mp operandUnwraps]
        exact namesOnly_unparenthesize (Node.namesOnly_of_child? calleeNames under)
      obtain ⟨receiverText, importPath_iff⟩ := spells.wellFormed operandNames
      have selector : Text.lastPiece "." (memberId receiver field.text) = field.text :=
        lastPiece_memberId receiver (plain (Node.isName_child? calleeNames selected rfl))
      constructor
      · exact iff_of_true rfl ⟨receiver, rfl⟩
      · exact iff_of_true (dot_mem_memberId _ _) ⟨receiver, rfl⟩
      · rintro _ ⟨⟩
        exact ⟨receiverText, congrArg (memberId receiver) selector.symm⟩
      · rintro _ ⟨⟩
        exact ⟨_, callee, field, found, unwraps, selected, selector⟩
      · exact notBoth
      · intro isClosure
        have same : memberId receiver field.text = closureTarget := beq_iff_eq.mp isClosure
        have dotted := dot_mem_memberId receiver field.text
        rw [same] at dotted
        exact absurd dotted (by decide)
      · intro path
        rw [importPath_iff]
        constructor
        · rintro ⟨single, bound⟩
          exact ⟨receiver, rfl, single, bound⟩
        · rintro ⟨_, ⟨⟩, single, bound⟩
          exact ⟨single, bound⟩

/-! ### The sites of a unit -/

theorem Node.namesOnly_of_descend? {node reached : Node} {path : Path} (names : namesOnly node)
    (found : node.descend? path = some reached) : namesOnly reached := by
  induction path generalizing node with
  | nil =>
      rw [Node.descend?_nil, Option.some.injEq] at found
      exact found ▸ names
  | cons rank rest inductionHypothesis =>
      obtain ⟨child, isChild, found⟩ := Node.descend?_cons_eq_some_iff.mp found
      exact inductionHypothesis
        (Node.namesOnly_children names child (List.mem_of_getElem? isChild)) found

namespace SourceUnit

/-- The site is one of a function or a method of the unit. -/
inductive HasSite (unit : SourceUnit) (site : CallSite) : Prop where
  | function {symbol : FunctionSymbol} (declared : symbol ∈ unit.functions)
      (called : site ∈ symbol.calls)
  | method {symbol : MethodSymbol} (declared : symbol ∈ unit.methods)
      (called : site ∈ symbol.calls)

variable {package file : String} {declaration root : Node}

theorem exists_call_of_mem_bodyCalls {names : ImportNames}
    (member : site ∈ bodyCalls names declaration) :
    ∃ path launch call, declaration.descend? path = some call ∧ call.kind = .callExpression ∧
      Records names launch call site := by
  unfold bodyCalls at member
  split at member
  · cases member
  · rename_i body found
    obtain ⟨path, launch, call, makes, records⟩ := Node.exists_recordsAt_of_mem member
    obtain ⟨rank, isBody⟩ := List.mem_iff_getElem?.mp (List.mem_of_find?_eq_some found)
    exact ⟨rank :: path, launch, call,
      Node.descend?_cons_eq_some_iff.mpr ⟨body, isBody, makes.descend?⟩, makes.isCall, records⟩

/-- Methods of interfaces have no sites: every site is one of a declaration with a body. -/
theorem exists_declaration_of_hasSite (has : (ofTree package file root).HasSite site) :
    ∃ declaration ∈ root.children,
      site ∈ bodyCalls (importNames (importsOf root)) declaration := by
  obtain ⟨declared, called⟩ | ⟨declared, called⟩ := has <;>
    obtain ⟨declaration, inRoot, declared⟩ := List.mem_flatMap.mp declared <;>
    refine ⟨declaration, inRoot, ?_⟩
  · unfold functionsOf at declared
    split at declared
    · rw [Option.mem_toList, functionSymbol?] at declared
      obtain ⟨name, -, same⟩ := Option.bind_eq_some_iff.mp declared
      cases same
      exact called
    · cases declared
  · unfold methodsOf at declared
    split at declared
    · obtain ⟨spec, -, declared⟩ := List.mem_flatMap.mp declared
      unfold interfaceMethods at declared
      split at declared
      · split at declared
        · obtain ⟨element, -, named⟩ := List.mem_filterMap.mp declared
          obtain ⟨name, -, rfl⟩ := Option.map_eq_some_iff.mp named
          cases called
        · cases declared
      · cases declared
    · rw [Option.mem_toList, methodSymbol?] at declared
      obtain ⟨name, -, same⟩ := Option.bind_eq_some_iff.mp declared
      cases same
      exact called
    · cases declared

/-- Every site of a unit records a call that stands in the source, and is well formed. -/
theorem wellFormed_of_read {source : List UInt8} {unit : SourceUnit}
    (found : read source package file = .ok unit) (has : unit.HasSite site) :
    ∃ root path launch call, parse source = .ok root ∧ root.descend? path = some call ∧
      call.kind = .callExpression ∧ Records (importNames unit.imports) launch call site ∧
      site.WellFormed unit.imports call := by
  obtain ⟨root, parsed, rfl⟩ := read_eq_ok_iff.mp found
  obtain ⟨declaration, inRoot, member⟩ := exists_declaration_of_hasSite has
  obtain ⟨path, launch, call, reached, isCall, records⟩ := exists_call_of_mem_bodyCalls member
  obtain ⟨rank, isDeclaration⟩ := List.mem_iff_getElem?.mp inRoot
  have inTree : root.descend? (rank :: path) = some call :=
    Node.descend?_cons_eq_some_iff.mpr ⟨declaration, isDeclaration, reached⟩
  have names : namesOnly call := Node.namesOnly_of_descend? (namesOnly_of_parse parsed) inTree
  exact ⟨root, rank :: path, launch, call, parsed, inTree, isCall, records,
    records.wellFormed names⟩

/-- Two imports of one name, of which calls reach the second. -/
def shadowing : List UInt8 :=
  ("package p\nimport a \"x/one\"\nimport a \"x/two\"\n" ++
    "func Run() \x7b\ngo (a).Open()\na.b.Close()\n\x7d\n").toUTF8.toList

def shadowingUnit : SourceUnit where
  packageName := "p"
  imports := [⟨some "a", "x/one"⟩, ⟨some "a", "x/two"⟩]
  types := []
  functions :=
    [⟨"Run", "p", "p.go", 4,
      [{ CallSite.method "a" "Open" 5 with importPath := some "x/two", isGoroutine := true },
        CallSite.method "a.b" "Close" 6]⟩]
  methods := []

theorem wellFormed_shadowing :
    read shadowing "p" "p.go" = .ok shadowingUnit ∧
      ∃ site, shadowingUnit.HasSite site ∧ site.receiver = some "a" ∧
        LastBinds shadowingUnit.imports "a" "x/two" := by
  have found : read shadowing "p" "p.go" = .ok shadowingUnit := by decide +kernel
  have has : shadowingUnit.HasSite
      { CallSite.method "a" "Open" 5 with importPath := some "x/two", isGoroutine := true } :=
    .function List.mem_cons_self List.mem_cons_self
  obtain ⟨root, path, launch, call, -, -, -, -, formed⟩ := wellFormed_of_read found has
  obtain ⟨name, same, -, bound⟩ := (formed.importPath_iff "x/two").mp rfl
  cases same
  exact ⟨found, _, has, rfl, bound⟩

end SourceUnit

end Go

end GoAtlas
