import GoAtlas.Proofs.Calls.Records
import Mathlib.Data.List.Induction
import Mathlib.Data.List.Lex

/-!
Which calls of a body are recorded. They are the calls with no function literal and no `go` or
`defer` statement above them, and the calls that such statements launch where nothing of the kind
stands above these. The sites come in the order in which the source spells the calls.
-/

namespace GoAtlas.Go

/-- The way in which a statement of this kind launches a call. -/
def Kind.launch? : Kind → Option Launch
  | .goStatement => some .goroutine
  | .deferStatement => some .deferred
  | _ => none

/-- Are calls inside such a node left out? -/
def Kind.encloses (kind : Kind) : Bool :=
  kind == .funcLiteral || kind.launch?.isSome

namespace Node

/-- Nothing that the path passes on its way encloses calls. -/
def Exposed (body : Node) (path : Path) : Prop :=
  ∀ above below : Path, path = above ++ below → below ≠ [] →
    ∀ ancestor, body.descend? above = some ancestor → ancestor.kind.encloses = false

/-- The first child of the statement that is no comment is, without its parentheses, this call, and
the path leads to it. -/
inductive LaunchesAt (statement : Node) : Path → Node → Prop where
  | intro {written call : Node} {rank : Nat} {path : Path}
      (found : statement.children[rank]? = some written) (notComment : written.kind ≠ .comment)
      (comments : ∀ earlier < rank, ∀ child, statement.children[earlier]? = some child →
        child.kind = .comment)
      (unwraps : written.UnwrapsAt path call) (isCall : call.kind = .callExpression) :
      LaunchesAt statement (rank :: path) call

/-- The body itself makes the call to which the path leads, either directly or by a statement that
launches it. -/
inductive MakesCall (body : Node) : Path → Launch → Node → Prop where
  | direct {path : Path} {call : Node} (found : body.descend? path = some call)
      (exposed : body.Exposed path) (isCall : call.kind = .callExpression) :
      MakesCall body path .direct call
  | launched {path further : Path} {launch : Launch} {statement call : Node}
      (found : body.descend? path = some statement) (exposed : body.Exposed path)
      (launches : statement.kind.launch? = some launch)
      (launched : statement.LaunchesAt further call) :
      MakesCall body (path ++ further) launch call

/-- The site records a call that the body makes there. -/
def RecordsAt (body : Node) (imports : ImportNames) (path : Path) (site : CallSite) : Prop :=
  ∃ launch call, body.MakesCall path launch call ∧ Records imports launch call site

variable {node body statement call : Node} {imports : ImportNames} {path : Path} {site : CallSite}
  {launch : Launch}

/-! ### The call of a statement -/

theorem LaunchesAt.descend? (launches : statement.LaunchesAt path call) :
    statement.descend? path = some call := by
  obtain ⟨found, -, -, unwraps, -⟩ := launches
  exact descend?_cons_eq_some_iff.mpr ⟨_, found, unwraps.descend?⟩

theorem LaunchesAt.unique {other : Node} {otherPath : Path}
    (launches : statement.LaunchesAt path call)
    (otherLaunches : statement.LaunchesAt otherPath other) : path = otherPath ∧ call = other := by
  obtain @⟨written, _, rank, _, found, notComment, comments, unwraps, -⟩ := launches
  obtain @⟨otherWritten, _, otherRank, _, otherFound, otherNotComment, otherComments,
    otherUnwraps, -⟩ := otherLaunches
  rcases Nat.lt_trichotomy rank otherRank with before | rfl | after
  · exact absurd (otherComments rank before written found) notComment
  · rw [found, Option.some.injEq] at otherFound
    subst otherFound
    obtain ⟨rfl, rfl⟩ := unwrapsAt_unique unwraps otherUnwraps
    exact ⟨rfl, rfl⟩
  · exact absurd (comments otherRank after otherWritten otherFound) otherNotComment

theorem launchedCall?_eq_some_iff :
    launchedCall? statement = some call ↔ ∃ path, statement.LaunchesAt path call := by
  simp only [launchedCall?, Option.bind_eq_bind, Option.bind_eq_some_iff,
    List.find?_eq_some_iff_getElem]
  constructor
  · rintro ⟨written, ⟨notComment, rank, inside, found, comments⟩, isCall⟩
    split at isCall
    · rename_i same
      cases isCall
      obtain ⟨path, unwraps⟩ := exists_unwrapsAt written
      refine ⟨rank :: path, .intro (List.getElem?_eq_some_iff.mpr ⟨inside, found⟩)
        (bne_iff_ne.mp notComment) ?_ unwraps (beq_iff_eq.mp same)⟩
      intro earlier before child childFound
      obtain ⟨childInside, rfl⟩ := List.getElem?_eq_some_iff.mp childFound
      simpa using comments earlier before
    · cases isCall
  · rintro ⟨_, @⟨written, _, rank, path, found, notComment, comments, unwraps, isCall⟩⟩
    obtain ⟨inside, same⟩ := List.getElem?_eq_some_iff.mp found
    obtain rfl := unwraps_iff.mp ⟨path, unwraps⟩
    refine ⟨written, ⟨bne_iff_ne.mpr notComment, rank, inside, same, ?_⟩, ?_⟩
    · intro earlier before
      have isComment := comments earlier before _ (List.getElem?_eq_getElem (by omega))
      simp [isComment]
    · rw [isCall]
      rfl

theorem isCall_of_launchedCall? (launched : launchedCall? statement = some call) :
    call.kind = .callExpression := by
  obtain ⟨path, -, -, -, -, isCall⟩ := launchedCall?_eq_some_iff.mp launched
  exact isCall

/-! ### The calls of a node and of its children -/

theorem exposed_nil (body : Node) : body.Exposed [] := by
  intro above below same nonempty
  exact absurd (List.append_eq_nil_iff.mp same.symm).2 nonempty

theorem exposed_cons_iff {rank : Nat} {child : Node} (found : node.children[rank]? = some child) :
    node.Exposed (rank :: path) ↔ node.kind.encloses = false ∧ child.Exposed path := by
  constructor
  · intro exposed
    refine ⟨exposed [] _ rfl (List.cons_ne_nil _ _) node (descend?_nil node), ?_⟩
    rintro above below rfl nonempty ancestor reached
    exact exposed (rank :: above) below rfl nonempty ancestor
      (descend?_cons_eq_some_iff.mpr ⟨child, found, reached⟩)
  · rintro ⟨isOpen, exposed⟩ above below same nonempty ancestor reached
    cases above with
    | nil =>
        rw [descend?_nil, Option.some.injEq] at reached
        exact reached ▸ isOpen
    | cons first above =>
        obtain ⟨rfl, rfl⟩ := List.cons_eq_cons.mp same
        obtain ⟨other, otherFound, reached⟩ := descend?_cons_eq_some_iff.mp reached
        rw [found, Option.some.injEq] at otherFound
        subst otherFound
        exact exposed above below rfl nonempty ancestor reached

theorem MakesCall.descend? (makes : body.MakesCall path launch call) :
    body.descend? path = some call := by
  cases makes with
  | direct found => exact found
  | launched found _ _ launched => rw [descend?_append, found, Option.bind_some, launched.descend?]

theorem MakesCall.isCall (makes : body.MakesCall path launch call) :
    call.kind = .callExpression := by
  cases makes with
  | direct _ _ isCall => exact isCall
  | launched _ _ _ launched =>
      obtain ⟨-, -, -, -, isCall⟩ := launched
      exact isCall

/-- A call is made by the node itself or inside one of its children. -/
theorem makesCall_iff : node.MakesCall path launch call ↔
    (path = [] ∧ launch = .direct ∧ node = call ∧ node.kind = .callExpression) ∨
    (node.kind.launch? = some launch ∧ node.LaunchesAt path call) ∨
    (node.kind.encloses = false ∧ ∃ rank rest child, path = rank :: rest ∧
      node.children[rank]? = some child ∧ child.MakesCall rest launch call) := by
  constructor
  · rintro (⟨found, exposed, isCall⟩ |
      @⟨path, further, _, _, _, found, exposed, launches, launched⟩)
    · cases path with
      | nil =>
          rw [descend?_nil, Option.some.injEq] at found
          exact .inl ⟨rfl, rfl, found, found ▸ isCall⟩
      | cons rank rest =>
          obtain ⟨child, isChild, found⟩ := descend?_cons_eq_some_iff.mp found
          obtain ⟨isOpen, exposed⟩ := (exposed_cons_iff isChild).mp exposed
          exact .inr (.inr ⟨isOpen, rank, rest, child, rfl, isChild, .direct found exposed isCall⟩)
    · cases path with
      | nil =>
          rw [descend?_nil, Option.some.injEq] at found
          subst found
          exact .inr (.inl ⟨launches, launched⟩)
      | cons rank rest =>
          obtain ⟨child, isChild, found⟩ := descend?_cons_eq_some_iff.mp found
          obtain ⟨isOpen, exposed⟩ := (exposed_cons_iff isChild).mp exposed
          exact .inr (.inr ⟨isOpen, rank, rest ++ further, child, rfl, isChild,
            .launched found exposed launches launched⟩)
  · rintro (⟨rfl, rfl, rfl, isCall⟩ | ⟨launches, launched⟩ |
      ⟨isOpen, rank, rest, child, rfl, isChild, made⟩)
    · exact .direct (descend?_nil node) (exposed_nil node) isCall
    · exact @MakesCall.launched node [] path launch node call (descend?_nil node)
        (exposed_nil node) launches launched
    · cases made with
      | direct found exposed isCall =>
          exact .direct (descend?_cons_eq_some_iff.mpr ⟨child, isChild, found⟩)
            ((exposed_cons_iff isChild).mpr ⟨isOpen, exposed⟩) isCall
      | @launched path further _ _ _ found exposed launches launched =>
          have found : node.descend? (rank :: path) = some _ :=
            descend?_cons_eq_some_iff.mpr ⟨child, isChild, found⟩
          exact .launched found ((exposed_cons_iff isChild).mpr ⟨isOpen, exposed⟩) launches launched

/-- A record is the node's own, of its call or of the one it launches, or one of a child. -/
theorem recordsAt_iff : node.RecordsAt imports path site ↔
    (path = [] ∧ node.kind = .callExpression ∧ Records imports .direct node site) ∨
    (∃ launch call, node.kind.launch? = some launch ∧ node.LaunchesAt path call ∧
      Records imports launch call site) ∨
    (node.kind.encloses = false ∧ ∃ rank rest child, path = rank :: rest ∧
      node.children[rank]? = some child ∧ child.RecordsAt imports rest site) := by
  constructor
  · rintro ⟨launch, call, makes, recorded⟩
    rcases makesCall_iff.mp makes with ⟨rfl, rfl, rfl, isCall⟩ | ⟨launches, launched⟩ |
      ⟨isOpen, rank, rest, child, rfl, isChild, made⟩
    · exact .inl ⟨rfl, isCall, recorded⟩
    · exact .inr (.inl ⟨launch, call, launches, launched, recorded⟩)
    · exact .inr (.inr ⟨isOpen, rank, rest, child, rfl, isChild, launch, call, made, recorded⟩)
  · rintro (⟨rfl, isCall, recorded⟩ | ⟨launch, call, launches, launched, recorded⟩ |
      ⟨isOpen, rank, rest, child, rfl, isChild, launch, call, made, recorded⟩)
    · exact ⟨.direct, node, makesCall_iff.mpr (.inl ⟨rfl, rfl, rfl, isCall⟩), recorded⟩
    · exact ⟨launch, call, makesCall_iff.mpr (.inr (.inl ⟨launches, launched⟩)), recorded⟩
    · exact ⟨launch, call,
        makesCall_iff.mpr (.inr (.inr ⟨isOpen, rank, rest, child, rfl, isChild, made⟩)), recorded⟩

/-! ### The sites in order -/

/-- These are all records of a kind, each with its path, in the order of their paths. -/
structure Lists (records : List (Path × CallSite)) (isRecord : Path → CallSite → Prop) : Prop where
  ordered : records.Pairwise fun record later => record.1 < later.1
  mem_iff : ∀ path site, (path, site) ∈ records ↔ isRecord path site

/-- The site is recorded of one of the nodes, to which the path begins with its rank. -/
def RecordsIn (nodes : List Node) (imports : ImportNames) (path : Path) (site : CallSite) : Prop :=
  ∃ rank rest child, path = rank :: rest ∧ nodes[rank]? = some child ∧
    child.RecordsAt imports rest site

theorem recordsIn_concat {nodes : List Node} : RecordsIn (nodes ++ [node]) imports path site ↔
    RecordsIn nodes imports path site ∨
      ∃ rest, path = nodes.length :: rest ∧ node.RecordsAt imports rest site := by
  constructor
  · rintro ⟨rank, rest, child, rfl, found, recorded⟩
    by_cases earlier : rank < nodes.length
    · rw [List.getElem?_append_left earlier] at found
      exact .inl ⟨rank, rest, child, rfl, found, recorded⟩
    · rw [List.getElem?_append_right (Nat.le_of_not_lt earlier),
        List.getElem?_singleton] at found
      split at found
      · cases found
        obtain rfl : rank = nodes.length := by omega
        exact .inr ⟨rest, rfl, recorded⟩
      · cases found
  · rintro (⟨rank, rest, child, rfl, found, recorded⟩ | ⟨rest, rfl, recorded⟩)
    · have earlier := (List.getElem?_eq_some_iff.mp found).1
      exact ⟨rank, rest, child, rfl, (List.getElem?_append_left earlier).trans found, recorded⟩
    · exact ⟨nodes.length, rest, node, rfl, List.getElem?_concat_length, recorded⟩

/-- The records of some nodes, one node after the other. -/
theorem exists_lists_recordsIn (imports : ImportNames) {nodes : List Node}
    (each : ∀ child ∈ nodes, ∃ records, Lists records (child.RecordsAt imports) ∧
      records.map (·.2) = callSites imports child) :
    ∃ records, Lists records (RecordsIn nodes imports) ∧
      records.map (·.2) = nodes.flatMap (callSites imports) := by
  induction nodes using List.reverseRecOn with
  | nil =>
      refine ⟨[], ⟨.nil, fun path site => ?_⟩, rfl⟩
      simp [RecordsIn]
  | append_singleton nodes node inductionHypothesis =>
      obtain ⟨own, ⟨ownOrdered, own_iff⟩, ownSites⟩ := each node (by simp)
      obtain ⟨records, ⟨ordered, mem_iff⟩, sites⟩ :=
        inductionHypothesis fun child member => each child (List.mem_append_left _ member)
      refine ⟨records ++ own.map fun record => (nodes.length :: record.1, record.2), ⟨?_, ?_⟩, ?_⟩
      · refine List.pairwise_append.mpr ⟨ordered, ?_, ?_⟩
        · exact List.pairwise_map.mpr (ownOrdered.imp fun before => List.Lex.cons before)
        · rintro ⟨path, site⟩ member later laterMember
          obtain ⟨record, -, rfl⟩ := List.mem_map.mp laterMember
          obtain ⟨rank, rest, child, rfl, found, -⟩ := (mem_iff path site).mp member
          exact List.Lex.rel (List.getElem?_eq_some_iff.mp found).1
      · intro path site
        rw [recordsIn_concat, List.mem_append, mem_iff]
        refine or_congr_right ?_
        simp only [List.mem_map, Prod.exists, Prod.mk.injEq, own_iff]
        constructor
        · rintro ⟨rest, _, recorded, rfl, rfl⟩
          exact ⟨rest, rfl, recorded⟩
        · rintro ⟨rest, rfl, recorded⟩
          exact ⟨rest, site, recorded, rfl, rfl⟩
      · simp [sites, ← ownSites]

theorem lists_nil {isRecord : Path → CallSite → Prop} (no : ∀ path site, ¬isRecord path site) :
    Lists [] isRecord where
  ordered := .nil
  mem_iff path site := by simp [no path site]

theorem lists_singleton {isRecord : Path → CallSite → Prop} (own : isRecord path site)
    (unique : ∀ other otherSite, isRecord other otherSite → other = path ∧ otherSite = site) :
    Lists [(path, site)] isRecord where
  ordered := List.pairwise_singleton _ _
  mem_iff other otherSite := by
    rw [List.mem_singleton, Prod.mk.injEq]
    constructor
    · rintro ⟨rfl, rfl⟩
      exact own
    · exact unique other otherSite

theorem records_unique {other : CallSite} (recorded : Records imports launch call site)
    (otherRecorded : Records imports launch call other) : other = site := by
  have same := (callSite?_eq_some_iff.mpr otherRecorded).symm.trans
    (callSite?_eq_some_iff.mpr recorded)
  exact Option.some.inj same

/-! ### One node -/

theorem recordsAt_of_launch (launches : node.kind.launch? = some launch) :
    node.RecordsAt imports path site ↔
      ∃ call, node.LaunchesAt path call ∧ Records imports launch call site := by
  rw [recordsAt_iff]
  constructor
  · rintro (⟨-, isCall, -⟩ | ⟨other, call, otherLaunches, launched, recorded⟩ | ⟨isOpen, -⟩)
    · simp [isCall, Kind.launch?] at launches
    · rw [launches, Option.some.injEq] at otherLaunches
      exact ⟨call, launched, otherLaunches ▸ recorded⟩
    · simp [Kind.encloses, launches] at isOpen
  · rintro ⟨call, launched, recorded⟩
    exact .inr (.inl ⟨launch, call, launches, launched, recorded⟩)

theorem not_recordsAt_of_literal (literal : node.kind = .funcLiteral) :
    ¬node.RecordsAt imports path site := by
  rw [recordsAt_iff]
  rintro (⟨-, isCall, -⟩ | ⟨launch, -, launches, -⟩ | ⟨isOpen, -⟩)
  · simp [literal] at isCall
  · simp [literal, Kind.launch?] at launches
  · simp [literal, Kind.encloses] at isOpen

theorem recordsAt_of_isOpen (isOpen : node.kind.encloses = false) :
    node.RecordsAt imports path site ↔
      (path = [] ∧ node.kind = .callExpression ∧ Records imports .direct node site) ∨
        RecordsIn node.children imports path site := by
  rw [recordsAt_iff]
  refine or_congr_right ?_
  constructor
  · rintro (⟨launch, -, launches, -⟩ | ⟨-, inside⟩)
    · simp [Kind.encloses, launches] at isOpen
    · exact inside
  · intro inside
    exact .inr ⟨isOpen, inside⟩

theorem callSites_of_launch (launches : node.kind.launch? = some launch) :
    callSites imports node = (launchedCall? node >>= callSite? imports launch).toList := by
  obtain ⟨kind, role, line, text, children⟩ := node
  rw [kind_mk] at launches
  unfold Kind.launch? at launches
  split at launches <;> cases launches <;> rw [callSites]

theorem callSites_of_literal (literal : node.kind = .funcLiteral) :
    callSites imports node = [] := by
  obtain ⟨kind, role, line, text, children⟩ := node
  obtain rfl : kind = .funcLiteral := literal
  rw [callSites]

theorem callSites_of_isOpen (isOpen : node.kind.encloses = false) :
    callSites imports node =
      (if node.kind = .callExpression then (callSite? imports .direct node).toList else []) ++
        node.children.flatMap (callSites imports) := by
  obtain ⟨kind, role, line, text, children⟩ := node
  rw [kind_mk] at isOpen ⊢
  unfold callSites
  dsimp only
  split
  · cases isOpen
  · cases isOpen
  · cases isOpen
  · simp
  · rename_i other
    rw [if_neg other, callSitesIn_eq_flatMap]
    rfl

theorem exists_lists_of_launch (imports : ImportNames)
    (launches : node.kind.launch? = some launch) :
    ∃ records, Lists records (node.RecordsAt imports) ∧
      records.map (·.2) = callSites imports node := by
  rw [callSites_of_launch launches]
  cases launched : launchedCall? node with
  | none =>
      refine ⟨[], lists_nil fun path site => ?_, rfl⟩
      rw [recordsAt_of_launch launches]
      rintro ⟨call, launchesAt, -⟩
      rw [launchedCall?_eq_some_iff.mpr ⟨path, launchesAt⟩] at launched
      cases launched
  | some call =>
      obtain ⟨path, launchesAt⟩ := launchedCall?_eq_some_iff.mp launched
      cases found : callSite? imports launch call with
      | none =>
          refine ⟨[], lists_nil fun otherPath site => ?_, by simp [found]⟩
          rw [recordsAt_of_launch launches]
          rintro ⟨other, otherLaunchesAt, recorded⟩
          obtain ⟨-, rfl⟩ := launchesAt.unique otherLaunchesAt
          rw [callSite?_eq_some_iff.mpr recorded] at found
          cases found
      | some site =>
          have recorded := callSite?_eq_some_iff.mp found
          refine ⟨[(path, site)], lists_singleton ?_ ?_, by simp [found]⟩
          · exact (recordsAt_of_launch launches).mpr ⟨call, launchesAt, recorded⟩
          · intro otherPath otherSite otherRecords
            obtain ⟨other, otherLaunchesAt, otherRecorded⟩ :=
              (recordsAt_of_launch launches).mp otherRecords
            obtain ⟨rfl, rfl⟩ := launchesAt.unique otherLaunchesAt
            exact ⟨rfl, records_unique recorded otherRecorded⟩

/-- A call's own record comes before those of its children. -/
theorem exists_lists_of_isOpen (isOpen : node.kind.encloses = false)
    {inner : List (Path × CallSite)} (lists : Lists inner (RecordsIn node.children imports))
    (sites : inner.map (·.2) = node.children.flatMap (callSites imports)) :
    ∃ records, Lists records (node.RecordsAt imports) ∧
      records.map (·.2) = callSites imports node := by
  rw [callSites_of_isOpen isOpen]
  by_cases recorded : ∃ site, node.kind = .callExpression ∧ Records imports .direct node site
  · obtain ⟨site, isCall, recorded⟩ := recorded
    refine ⟨([], site) :: inner, ⟨?_, fun path other => ?_⟩, ?_⟩
    · refine List.pairwise_cons.mpr ⟨?_, lists.ordered⟩
      rintro ⟨path, other⟩ member
      obtain ⟨rank, rest, child, rfl, -⟩ := (lists.mem_iff path other).mp member
      exact List.Lex.nil
    · rw [recordsAt_of_isOpen isOpen, List.mem_cons, lists.mem_iff, Prod.mk.injEq]
      refine or_congr_left ⟨?_, ?_⟩
      · rintro ⟨rfl, rfl⟩
        exact ⟨rfl, isCall, recorded⟩
      · rintro ⟨rfl, -, otherRecorded⟩
        exact ⟨rfl, records_unique recorded otherRecorded⟩
    · simp [isCall, callSite?_eq_some_iff.mpr recorded, sites]
  · refine ⟨inner, ⟨lists.ordered, fun path other => ?_⟩, ?_⟩
    · rw [recordsAt_of_isOpen isOpen, lists.mem_iff]
      refine (or_iff_right ?_).symm
      rintro ⟨-, isCall, otherRecorded⟩
      exact recorded ⟨other, isCall, otherRecorded⟩
    · have silent : (if node.kind = .callExpression then
          (callSite? imports .direct node).toList else []) = [] := by
        split
        · rename_i isCall
          rw [Option.toList_eq_nil_iff, Option.eq_none_iff_forall_ne_some]
          intro site found
          exact recorded ⟨site, isCall, callSite?_eq_some_iff.mp found⟩
        · rfl
      rw [silent, List.nil_append, sites]

/-- The sites of a body are those of its records, in the order of their paths. -/
theorem exists_lists_recordsAt (imports : ImportNames) (body : Node) :
    ∃ records, Lists records (body.RecordsAt imports) ∧
      records.map (·.2) = callSites imports body := by
  induction body using inductionOnChildren with
  | step node inductionHypothesis =>
      cases launches : node.kind.launch? with
      | some launch => exact exists_lists_of_launch imports launches
      | none =>
          by_cases literal : node.kind = .funcLiteral
          · rw [callSites_of_literal literal]
            exact ⟨[], lists_nil fun _ _ => not_recordsAt_of_literal literal, rfl⟩
          · have isOpen : node.kind.encloses = false := by
              simp [Kind.encloses, literal, launches]
            obtain ⟨inner, lists, sites⟩ := exists_lists_recordsIn imports inductionHypothesis
            exact exists_lists_of_isOpen isOpen lists sites

theorem exists_recordsAt_of_mem (member : site ∈ callSites imports body) :
    ∃ path, body.RecordsAt imports path site := by
  obtain ⟨records, lists, sites⟩ := exists_lists_recordsAt imports body
  rw [← sites] at member
  obtain ⟨⟨path, _⟩, inRecords, rfl⟩ := List.mem_map.mp member
  exact ⟨path, (lists.mem_iff path _).mp inRecords⟩

/-- Where lines never fall back, those of the sites do not either. -/
theorem lines_ordered (ascends : body.Ascends) {records : List (Path × CallSite)}
    (lists : Lists records (body.RecordsAt imports)) :
    (records.map (·.2)).Pairwise fun site later => site.line ≤ later.line := by
  rw [List.pairwise_map]
  refine lists.ordered.imp_of_mem ?_
  rintro ⟨path, site⟩ ⟨laterPath, later⟩ member laterMember before
  obtain ⟨_, call, makes, recorded⟩ := (lists.mem_iff path site).mp member
  obtain ⟨_, laterCall, laterMakes, laterRecorded⟩ := (lists.mem_iff laterPath later).mp laterMember
  have lines := ascends.line_le before makes.descend? laterMakes.descend?
  rwa [← recorded.line, ← laterRecorded.line] at lines

end Node

end GoAtlas.Go
