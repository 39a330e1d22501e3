import GoAtlas.Go.Calls
import GoAtlas.Proofs.Names.Parsers

/-!
The shapes of recorded call sites: a bare name, a function literal, or a selector on one name or
two. Sites read off a well-named tree have one of these shapes.
-/

namespace GoAtlas

open Go (isName)

/-- What can stand before a recorded selector: `x` or `x.y`. -/
inductive ReceiverText : String → Prop where
  | name {text : String} (spelled : isName text = true) : ReceiverText text
  | path {first second : String} (firstSpelled : isName first = true)
      (secondSpelled : isName second = true) : ReceiverText (memberId first second)

namespace CallSite

/-- The ways in which a call can be recorded. -/
inductive Recorded : CallSite → Prop where
  | function {name : String} {line : Nat} {isGoroutine isDeferred : Bool}
      (spelled : isName name = true) :
      Recorded { CallSite.function name line with isGoroutine, isDeferred }
  | closure {line : Nat} {isGoroutine isDeferred : Bool} :
      Recorded { CallSite.closure line with isGoroutine, isDeferred }
  | method {receiver selector : String} {line : Nat} {importPath : Option String}
      {isGoroutine isDeferred : Bool} (receiverSpelled : ReceiverText receiver)
      (selectorSpelled : isName selector = true) :
      Recorded { CallSite.method receiver selector line with importPath, isGoroutine, isDeferred }

/-- How a call is launched is no matter of its shape. -/
theorem Recorded.launched {site : CallSite} (recorded : site.Recorded)
    (isGoroutine isDeferred : Bool) : Recorded { site with isGoroutine, isDeferred } := by
  cases recorded with
  | function spelled => exact .function spelled
  | closure => exact .closure
  | method receiverSpelled selectorSpelled => exact .method receiverSpelled selectorSpelled

/-- A call goes through a selector exactly if it has a receiver. -/
theorem Recorded.isMethod_iff {site : CallSite} (recorded : site.Recorded) :
    site.isMethod = true ↔ ∃ receiver, site.receiver = some receiver := by
  cases recorded with
  | function => exact iff_of_false Bool.false_ne_true nofun
  | closure => exact iff_of_false Bool.false_ne_true nofun
  | @method receiver => exact iff_of_true rfl ⟨receiver, rfl⟩

end CallSite

namespace Go

open Named (namesOnly)

namespace Node

theorem namesOnly_of_child? {node child : Node} {role : Role} (names : namesOnly node)
    (found : node.child? role = some child) : namesOnly child :=
  namesOnly_children names child (List.mem_of_find?_eq_some found)

theorem isName_child? {node child : Node} {role : Role} (names : namesOnly node)
    (found : node.child? role = some child) (spells : role.spellsName = true) :
    isName child.text = true := by
  have inRole := List.find?_some found
  apply isName_text (namesOnly_of_child? names found)
  simp only [beq_iff_eq] at inRole
  simp [spellsName, inRole, spells]

theorem isName_identifier {node : Node} (names : namesOnly node)
    (identifier : node.kind = .identifier) : isName node.text = true :=
  isName_text names (by simp [spellsName, identifier, Kind.spellsName])

end Node

theorem namesOnly_unparenthesize {node : Node} (names : namesOnly node) :
    namesOnly (unparenthesize node) := by
  fun_induction unparenthesize node with
  | case1 role line text first rest inductionHypothesis =>
      exact inductionHypothesis (Node.namesOnly_children names first List.mem_cons_self)
  | case2 node _ => exact names

theorem receiverText_of_receiverText? {operand : Node} {receiver : String}
    (names : namesOnly operand) (found : receiverText? operand = some receiver) :
    ReceiverText receiver := by
  unfold receiverText? at found
  split at found
  · rename_i identifier
    cases found
    exact .name (Node.isName_identifier names identifier)
  · simp only [Option.bind_eq_bind, Option.bind_eq_some_iff] at found
    obtain ⟨base, baseFound, found⟩ := found
    split at found
    · rename_i identifier
      obtain ⟨field, fieldFound, same⟩ := Option.bind_eq_some_iff.mp found
      cases same
      have baseNames := namesOnly_unparenthesize (Node.namesOnly_of_child? names baseFound)
      exact .path (Node.isName_identifier baseNames (beq_iff_eq.mp identifier))
        (Node.isName_child? names fieldFound rfl)
    · cases found
  · cases found

theorem recorded_of_selectorSite? {imports : ImportNames} {selector : Node} {line : Nat}
    {site : CallSite} (names : namesOnly selector)
    (found : selectorSite? imports selector line = some site) : site.Recorded := by
  simp only [selectorSite?, Option.bind_eq_bind, Option.bind_eq_some_iff] at found
  obtain ⟨field, fieldFound, operand, operandFound, receiver, receiverFound, same⟩ := found
  cases same
  have operandNames := namesOnly_unparenthesize (Node.namesOnly_of_child? names operandFound)
  exact .method (receiverText_of_receiverText? operandNames receiverFound)
    (Node.isName_child? names fieldFound rfl)

theorem recorded_of_callSite? {imports : ImportNames} {launch : Launch} {call : Node}
    {site : CallSite} (names : namesOnly call)
    (found : callSite? imports launch call = some site) : site.Recorded := by
  simp only [callSite?, Option.bind_eq_bind, Option.bind_eq_some_iff] at found
  obtain ⟨written, writtenFound, found⟩ := found
  have calleeNames := namesOnly_unparenthesize (Node.namesOnly_of_child? names writtenFound)
  split at found <;> obtain ⟨plain, plainFound, same⟩ := Option.bind_eq_some_iff.mp found <;>
    cases same <;> refine CallSite.Recorded.launched ?_ _ _
  · rename_i identifier
    cases plainFound
    exact .function (Node.isName_identifier calleeNames identifier)
  · exact recorded_of_selectorSite? calleeNames plainFound
  · cases plainFound
    exact .closure
  · cases plainFound

theorem namesOnly_of_launchedCall? {statement call : Node} (names : namesOnly statement)
    (found : launchedCall? statement = some call) : namesOnly call := by
  simp only [launchedCall?, Option.bind_eq_bind, Option.bind_eq_some_iff] at found
  obtain ⟨launched, launchedFound, found⟩ := found
  split at found
  · cases found
    exact namesOnly_unparenthesize
      (Node.namesOnly_children names launched (List.mem_of_find?_eq_some launchedFound))
  · cases found

theorem recorded_of_launched {imports : ImportNames} {launch : Launch} {statement : Node}
    {site : CallSite} (names : namesOnly statement)
    (member : site ∈ (launchedCall? statement >>= callSite? imports launch).toList) :
    site.Recorded := by
  simp only [Option.mem_toList, Option.bind_eq_bind,
    Option.bind_eq_some_iff] at member
  obtain ⟨call, launched, found⟩ := member
  exact recorded_of_callSite? (namesOnly_of_launchedCall? names launched) found

/-- Every site of a well-named body has the shape of a recorded call. -/
theorem recorded_of_mem_callSites {imports : ImportNames} {node : Node} {site : CallSite}
    (names : node.NamesOnly) (member : site ∈ callSites imports node) : site.Recorded := by
  induction names with
  | @intro node own inner inductionHypothesis =>
      have names : node.NamesOnly := .intro own inner
      obtain ⟨kind, role, line, text, children⟩ := node
      have below : site ∈ callSitesIn imports children → site.Recorded := by
        intro member
        rw [callSitesIn_eq_flatMap] at member
        obtain ⟨child, childMember, member⟩ := List.mem_flatMap.mp member
        exact inductionHypothesis child childMember member
      unfold callSites at member
      dsimp only at member
      split at member
      · exact recorded_of_launched names member
      · exact recorded_of_launched names member
      · cases member
      · rcases List.mem_append.mp member with own | inner
        · exact recorded_of_callSite? names (by simpa using own)
        · exact below inner
      · exact below member

end Go

end GoAtlas
