import GoAtlas.Proofs.CallGraph.Agreement
import GoAtlas.Proofs.Index.Reordering
import GoAtlas.Proofs.Resolver.MethodSets

/-!
Graphs of the same sources in another order. Resolution reads packages through their identifiers
only, and breaks ties by the order of the tables, so it cannot tell interchangeable indexes apart.
-/

namespace GoAtlas

namespace Index

/-! ### Other packages, same symbols -/

def withPackages (index : Index) (packages : Table Package) (units : Nat) : Index :=
  { index with packages, units }

variable {index other : Index} {packages : Table Package} {units : Nat}

theorem SameSymbols.eq_withPackages (symbols : index.SameSymbols other) :
    other = index.withPackages other.packages other.units := by
  obtain ⟨types, functions, methods⟩ := symbols
  cases other
  simp_all [withPackages]

theorem packageOfImport?_withPackages (keys : packages.keys = index.packages.keys)
    (path : String) :
    (index.withPackages packages units).packageOfImport? path = index.packageOfImport? path := by
  unfold packageOfImport?
  simp only [withPackages, Table.contains_eq_of_keys keys, keys]

theorem gather_withPackages (pending seen : List String) :
    (index.withPackages packages units).gather pending seen = index.gather pending seen := by
  induction pending, seen using Index.gather.induct index with
  | case1 seen => rw [gather, gather]
  | case2 seen id rest known inductionHypothesis =>
      rw [gather, gather, if_pos known, if_pos known]
      exact inductionHypothesis
  | case3 seen id rest fresh missing inductionHypothesis =>
      rw [gather_of_missing fresh missing, ← inductionHypothesis]
      exact gather_of_missing fresh missing
  | case4 seen id rest fresh type found inductionHypothesis =>
      rw [gather_of_found fresh found, ← inductionHypothesis]
      exact gather_of_found fresh found

theorem implementationsByMethodSet_withPackages (interfaceId : String) :
    (index.withPackages packages units).implementationsByMethodSet interfaceId =
      index.implementationsByMethodSet interfaceId := by
  have methodSet : ∀ id, (index.withPackages packages units).methodSet id = index.methodSet id := by
    intro id
    unfold methodSet
    rw [gather_withPackages]
    rfl
  unfold implementationsByMethodSet
  simp only [methodSet]
  rfl

end Index

namespace Resolver

variable {index : Index} {packages : Table Package} {units : Nat} {options : ResolverOptions}

theorem resolve_withPackages (keys : packages.keys = index.packages.keys) (site : CallSite)
    (caller : Caller) :
    resolve ⟨index.withPackages packages units, options⟩ site caller =
      resolve ⟨index, options⟩ site caller := by
  have sameImport : matchImport ⟨index.withPackages packages units, options⟩ site =
      matchImport ⟨index, options⟩ site := by
    unfold matchImport
    simp only [Index.packageOfImport?_withPackages keys]
    rfl
  unfold resolve resolveSymbol
  rw [sameImport]
  rfl

theorem alike_withPackages (keys : packages.keys = index.packages.keys) :
    Alike ⟨index, options⟩ ⟨index.withPackages packages units, options⟩ where
  functions := rfl
  methods := rfl
  methodKind := rfl
  resolve := fun _ site _ => resolve_withPackages keys site _

end Resolver

namespace Index

variable {index other : Index}

theorem Interchangeable.callGraph (same : index.Interchangeable other) (options : BuildOptions)
    (entry : String) : other.callGraph options entry = index.callGraph options entry := by
  rw [same.symbols.eq_withPackages]
  exact callGraph_of_alike options (Resolver.alike_withPackages same.packages) entry

theorem Interchangeable.implementationsByMethodSet (same : index.Interchangeable other)
    (interfaceId : String) :
    other.implementationsByMethodSet interfaceId =
      index.implementationsByMethodSet interfaceId := by
  rw [same.symbols.eq_withPackages, implementationsByMethodSet_withPackages]

/-- Where nothing is declared twice, the order of the sources changes neither the symbols nor any
answer that is drawn from them. -/
theorem answers_of_perm {options : IndexOptions} {sources others : List Source}
    (permuted : sources.Perm others) (once : DeclaresOnce (enteredBy options sources)) :
    (ofSources options sources).Interchangeable (ofSources options others) ∧
      (∀ (buildOptions : BuildOptions) (entry : String),
        (ofSources options others).callGraph buildOptions entry =
          (ofSources options sources).callGraph buildOptions entry) ∧
      ∀ interfaceId : String,
        (ofSources options others).implementationsByMethodSet interfaceId =
          (ofSources options sources).implementationsByMethodSet interfaceId := by
  have same := interchangeable_of_perm permuted once
  exact ⟨same, same.callGraph, same.implementationsByMethodSet⟩

end Index

/-! ### A package in two files -/

/-- Calls a function of the first draft, but gives their package another name. -/
def workshop : Source where
  directory := "./p"
  file := "d.go"
  content :=
    ("package main\nimport \"example.com/other\"\n" ++
      "type Runner interface \x7b\nRun()\n\x7d\ntype Job struct \x7b\n\x7d\n" ++
      "func (j Job) Run() \x7b\nA()\n\x7d\n").toUTF8.toList

def workshopUnit : Go.SourceUnit where
  packageName := "main"
  imports := [⟨none, "example.com/other"⟩]
  types :=
    [⟨"Runner", "p", .interface, "d.go", 3, [], [], ["Run"]⟩,
      ⟨"Job", "p", .struct, "d.go", 6, [], [], []⟩]
  functions := []
  methods :=
    [⟨"Run", "Runner", none, "p", "d.go", 4, []⟩,
      ⟨"Run", "Job", some "j", "p", "d.go", 8, [.function "A" 9]⟩]

theorem entered_workshop : workshop.entered? .standard = some ⟨"p", "./p", workshopUnit⟩ := by
  decide +kernel

theorem Index.answers_of_perm_workshop :
    [firstDraft, workshop].Perm [workshop, firstDraft] ∧
      DeclaresOnce (enteredBy .standard [firstDraft, workshop]) ∧
      (ofSources .standard [workshop, firstDraft]).packages.get? "p" ≠
        (ofSources .standard [firstDraft, workshop]).packages.get? "p" ∧
      (ofSources .standard [workshop, firstDraft]).callGraph .standard "p.Job.Run" =
        (ofSources .standard [firstDraft, workshop]).callGraph .standard "p.Job.Run" ∧
      (ofSources .standard [workshop, firstDraft]).implementationsByMethodSet "p.Runner" =
        (ofSources .standard [firstDraft, workshop]).implementationsByMethodSet "p.Runner" := by
  have swapped : [firstDraft, workshop].Perm [workshop, firstDraft] := .swap _ _ _
  have units : enteredBy .standard [firstDraft, workshop] =
      [⟨"p", "p", firstDraftUnit⟩, ⟨"p", "./p", workshopUnit⟩] := by
    simp [enteredBy, entered_firstDraft, entered_workshop]
  have swappedUnits : enteredBy .standard [workshop, firstDraft] =
      [⟨"p", "./p", workshopUnit⟩, ⟨"p", "p", firstDraftUnit⟩] := by
    simp [enteredBy, entered_firstDraft, entered_workshop]
  have once : DeclaresOnce (enteredBy .standard [firstDraft, workshop]) := by
    rw [units]
    exact ⟨by decide +kernel, by decide +kernel, by decide +kernel⟩
  obtain ⟨-, sameGraph, sameImplementations⟩ := answers_of_perm swapped once
  refine ⟨swapped, once, ?_, sameGraph .standard "p.Job.Run", sameImplementations "p.Runner"⟩
  rw [(holds_ofSources _ _).packages, (holds_ofSources _ _).packages, units, swappedUnits]
  decide +kernel

end GoAtlas
