import GoAtlas.Contexts
import GoAtlas.Proofs.Index.Tables

/-!
The check of contexts. Contexts are accepted if they are well formed, which is a matter of each
context alone; otherwise the fault reported is that of the first violation. All violations together
form a list whose order is that of names, positions and rules, and the check finds its head.
-/

namespace GoAtlas

/-! ### Well-formed contexts -/

structure EventMapping.IsComplete (event : EventMapping) : Prop where
  eventId : event.eventId ≠ ""
  package : event.entryPoint.package ≠ ""
  function : event.entryPoint.function ≠ ""

structure ProcessContext.WellFormed (context : ProcessContext) : Prop where
  filled : context.events ≠ []
  complete : ∀ event ∈ context.events, event.IsComplete
  distinct : (context.events.map (·.eventId)).Nodup

structure ProcessContexts.WellFormed (contexts : ProcessContexts) : Prop where
  filled : contexts.isEmpty = false
  each : ∀ {name context}, contexts.get? name = some context → context.WellFormed

/-! ### Violations -/

/-- The order in which the rules are checked at one place. -/
def ContextError.rank : ContextError → Nat
  | noEvents _ => 0
  | missingEventId .. => 1
  | duplicateEventId .. => 2
  | missingPackage .. => 3
  | missingFunction .. => 4
  | _ => 5

/-- A broken rule and its place. The events of a context are counted from one, and the context as a
whole stands before them. -/
structure Violation where
  context : String
  position : Nat
  fault : ContextError
  deriving DecidableEq, Repr

/-- By the names of contexts, then by positions, then by rules. -/
def Violation.Before (first second : Violation) : Prop :=
  first.context < second.context ∨ first.context = second.context ∧
    (first.position < second.position ∨ first.position = second.position ∧
      first.fault.rank < second.fault.rank)

theorem Violation.Before.asymm {first second : Violation} (isBefore : first.Before second) :
    ¬second.Before first := by
  intro isAfter
  rcases isBefore with less | ⟨same, less⟩ <;> rcases isAfter with greater | ⟨back, greater⟩
  · exact String.lt_asymm less greater
  · exact String.lt_irrefl _ (back ▸ less)
  · exact String.lt_irrefl _ (same ▸ greater)
  · omega

/-- The faults of an event behind others. -/
inductive EventMapping.Breaks (name : String) (earlier : List EventMapping) (event : EventMapping) :
    ContextError → Prop
  | missingEventId (missing : event.eventId = "") :
      event.Breaks name earlier (.missingEventId name (earlier.length + 1))
  | duplicateEventId {other : EventMapping} (known : other ∈ earlier)
      (same : other.eventId = event.eventId) :
      event.Breaks name earlier (.duplicateEventId name event.eventId)
  | missingPackage (missing : event.entryPoint.package = "") :
      event.Breaks name earlier (.missingPackage name event.eventId)
  | missingFunction (missing : event.entryPoint.function = "") :
      event.Breaks name earlier (.missingFunction name event.eventId)

namespace ProcessContexts

inductive Violates (contexts : ProcessContexts) : Violation → Prop
  | noEvents {name : String} {context : ProcessContext}
      (found : contexts.get? name = some context) (bare : context.events = []) :
      contexts.Violates ⟨name, 0, .noEvents name⟩
  | event {name : String} {context : ProcessContext} {before after : List EventMapping}
      {event : EventMapping} {fault : ContextError} (found : contexts.get? name = some context)
      (split : context.events = before ++ event :: after)
      (breaks : event.Breaks name before fault) :
      contexts.Violates ⟨name, before.length + 1, fault⟩

def IsFirstViolation (contexts : ProcessContexts) (first : Violation) : Prop :=
  contexts.Violates first ∧ ∀ other, contexts.Violates other → other ≠ first → first.Before other

end ProcessContexts

/-! ### The list of all violations -/

section Events

variable {name : String} {earlier events : List EventMapping} {event : EventMapping}
  {violation : Violation} {fault : ContextError}

/-- The faults that an event could have, each with whether it has it, in the order in which they are
looked for. -/
def EventMapping.checks (name : String) (earlier : List EventMapping) (event : EventMapping) :
    List (Bool × ContextError) :=
  [(event.eventId == "", .missingEventId name (earlier.length + 1)),
    ((earlier.map (·.eventId)).contains event.eventId, .duplicateEventId name event.eventId),
    (event.entryPoint.package == "", .missingPackage name event.eventId),
    (event.entryPoint.function == "", .missingFunction name event.eventId)]

def EventMapping.violations (name : String) (earlier : List EventMapping) (event : EventMapping) :
    List Violation :=
  ((event.checks name earlier).filter (·.1)).map fun check => ⟨name, earlier.length + 1, check.2⟩

def eventViolations (name : String) (earlier : List EventMapping) :
    List EventMapping → List Violation
  | [] => []
  | event :: rest =>
      event.violations name earlier ++ eventViolations name (earlier ++ [event]) rest

theorem EventMapping.fault?_eq (name : String) (earlier : List EventMapping)
    (event : EventMapping) : event.fault? name (earlier.map (·.eventId)) =
      (event.violations name earlier).head?.map (·.fault) := by
  rw [violations, List.head?_map, List.head?_filter, Option.map_map]
  unfold fault? checks
  rw [List.length_map]
  generalize (earlier.map (·.eventId)).contains event.eventId = known
  cases event.eventId == "" <;> cases known <;> cases event.entryPoint.package == "" <;>
    cases event.entryPoint.function == "" <;> rfl

theorem firstEventFault?_eq (name : String) (earlier events : List EventMapping) :
    firstEventFault? name (earlier.map (·.eventId)) events =
      (eventViolations name earlier events).head?.map (·.fault) := by
  induction events generalizing earlier with
  | nil => rfl
  | cons event rest inductionHypothesis =>
      rw [firstEventFault?, eventViolations, List.head?_append, EventMapping.fault?_eq]
      cases (event.violations name earlier).head? with
      | none => simpa using inductionHypothesis (earlier ++ [event])
      | some first => rfl

theorem EventMapping.breaks_iff : event.Breaks name earlier fault ↔
    (true, fault) ∈ event.checks name earlier := by
  constructor
  · intro breaks
    cases breaks with
    | missingEventId missing => simp [checks, missing]
    | @duplicateEventId other known same =>
        have shared : ∃ other ∈ earlier, other.eventId = event.eventId := ⟨other, known, same⟩
        simpa [checks] using shared
    | missingPackage missing => simp [checks, missing]
    | missingFunction missing => simp [checks, missing]
  · intro checked
    simp only [checks, List.mem_cons, Prod.mk.injEq, List.not_mem_nil, or_false] at checked
    rcases checked with ⟨broken, rfl⟩ | ⟨broken, rfl⟩ | ⟨broken, rfl⟩ | ⟨broken, rfl⟩
    · exact .missingEventId (by simpa using broken.symm)
    · obtain ⟨other, known, same⟩ := List.mem_map.mp (List.contains_iff_mem.mp broken.symm)
      exact .duplicateEventId known same
    · exact .missingPackage (by simpa using broken.symm)
    · exact .missingFunction (by simpa using broken.symm)

theorem EventMapping.mem_violations_iff : violation ∈ event.violations name earlier ↔
    ∃ fault, event.Breaks name earlier fault ∧ ⟨name, earlier.length + 1, fault⟩ = violation := by
  simp [violations, breaks_iff]

theorem mem_eventViolations_iff : violation ∈ eventViolations name earlier events ↔
    ∃ before event after fault, events = before ++ event :: after ∧
      event.Breaks name (earlier ++ before) fault ∧
        ⟨name, (earlier ++ before).length + 1, fault⟩ = violation := by
  induction events generalizing earlier with
  | nil => simp [eventViolations]
  | cons first rest inductionHypothesis =>
      rw [eventViolations, List.mem_append, EventMapping.mem_violations_iff, inductionHypothesis]
      constructor
      · rintro (⟨fault, breaks, same⟩ | ⟨before, event, after, fault, rfl, breaks, same⟩)
        · exact ⟨[], first, rest, fault, rfl, by simpa using breaks, by simpa using same⟩
        · exact ⟨first :: before, event, after, fault, rfl, by simpa using breaks,
            by simpa using same⟩
      · rintro ⟨before, event, after, fault, split, breaks, same⟩
        cases before with
        | nil =>
            obtain ⟨rfl, rfl⟩ := List.cons.inj split
            exact .inl ⟨fault, by simpa using breaks, by simpa using same⟩
        | cons _ before =>
            obtain ⟨rfl, rfl⟩ := List.cons.inj split
            exact .inr ⟨before, event, after, fault, rfl, by simpa using breaks,
              by simpa using same⟩

/-! ### Its order -/

theorem EventMapping.pairwise_violations (name : String) (earlier : List EventMapping)
    (event : EventMapping) : (event.violations name earlier).Pairwise Violation.Before := by
  have ranked : (event.checks name earlier).Pairwise fun first second =>
      first.2.rank < second.2.rank := by
    simp [checks, ContextError.rank]
  refine List.pairwise_map.mpr ((ranked.filter _).imp fun less => ?_)
  exact .inr ⟨rfl, .inr ⟨rfl, less⟩⟩

theorem pairwise_eventViolations (name : String) (earlier events : List EventMapping) :
    (eventViolations name earlier events).Pairwise Violation.Before := by
  induction events generalizing earlier with
  | nil => exact List.Pairwise.nil
  | cons first rest inductionHypothesis =>
      refine List.pairwise_append.mpr
        ⟨first.pairwise_violations name earlier, inductionHypothesis _, ?_⟩
      intro violation member other otherMember
      obtain ⟨_, -, rfl⟩ := EventMapping.mem_violations_iff.mp member
      obtain ⟨before, _, _, _, -, -, rfl⟩ := mem_eventViolations_iff.mp otherMember
      exact .inr ⟨rfl, .inl (by simp)⟩

end Events

namespace ProcessContext

variable {name : String} {context : ProcessContext} {violation : Violation}

def violations (name : String) (context : ProcessContext) : List Violation :=
  if context.events.isEmpty then [⟨name, 0, .noEvents name⟩]
  else eventViolations name [] context.events

theorem fault?_eq (name : String) (context : ProcessContext) :
    context.fault? name = (context.violations name).head?.map (·.fault) := by
  unfold fault? violations
  split
  · rfl
  · exact firstEventFault?_eq name [] context.events

theorem pairwise_violations (name : String) (context : ProcessContext) :
    (context.violations name).Pairwise Violation.Before := by
  unfold violations
  split
  · exact List.pairwise_singleton _ _
  · exact pairwise_eventViolations name [] context.events

theorem mem_violations_iff : violation ∈ context.violations name ↔
    (context.events = [] ∧ violation = ⟨name, 0, .noEvents name⟩) ∨
      ∃ before event after fault, context.events = before ++ event :: after ∧
        event.Breaks name before fault ∧ ⟨name, before.length + 1, fault⟩ = violation := by
  unfold violations
  cases empty : context.events with
  | nil => simp
  | cons first rest =>
      rw [if_neg (by simp), mem_eventViolations_iff]
      simp

theorem context_of_mem_violations (member : violation ∈ context.violations name) :
    violation.context = name := by
  rcases mem_violations_iff.mp member with ⟨-, rfl⟩ | ⟨_, _, _, _, -, -, rfl⟩ <;> rfl

end ProcessContext

namespace ProcessContexts

variable {contexts : ProcessContexts} {violation first : Violation} {fault : ContextError}

/-- All violations of contexts, the first one first. -/
def violations (contexts : ProcessContexts) : List Violation :=
  contexts.entries.flatMap fun entry => entry.2.violations entry.1

theorem fault?_eq (contexts : ProcessContexts) : contexts.fault? =
    if contexts.isEmpty then some .empty else contexts.violations.head?.map (·.fault) := by
  unfold fault? violations
  rw [List.head?_flatMap, List.map_findSome?]
  simp only [ProcessContext.fault?_eq]
  rfl

theorem mem_violations_iff : violation ∈ contexts.violations ↔ contexts.Violates violation := by
  simp only [violations, List.mem_flatMap, Prod.exists, ProcessContext.mem_violations_iff,
    ← Table.get?_eq_some_iff]
  constructor
  · rintro ⟨name, context, found, ⟨bare, rfl⟩ | ⟨before, event, after, fault, split, breaks, rfl⟩⟩
    · exact .noEvents found bare
    · exact .event found split breaks
  · rintro (⟨found, bare⟩ | ⟨found, split, breaks⟩)
    · exact ⟨_, _, found, .inl ⟨bare, rfl⟩⟩
    · exact ⟨_, _, found, .inr ⟨_, _, _, _, split, breaks, rfl⟩⟩

theorem pairwise_violations (contexts : ProcessContexts) :
    contexts.violations.Pairwise Violation.Before := by
  refine List.pairwise_flatMap.mpr ⟨fun entry _ => entry.2.pairwise_violations entry.1, ?_⟩
  refine contexts.sorted.imp fun less violation member other otherMember => ?_
  rw [← ProcessContext.context_of_mem_violations member,
    ← ProcessContext.context_of_mem_violations otherMember] at less
  exact .inl less

theorem head?_violations_eq_some_iff :
    contexts.violations.head? = some first ↔ contexts.IsFirstViolation first := by
  have ordered := contexts.pairwise_violations
  simp only [IsFirstViolation, ← mem_violations_iff]
  generalize contexts.violations = violations at ordered
  cases violations with
  | nil => simp
  | cons head rest =>
      obtain ⟨headFirst, -⟩ := List.pairwise_cons.mp ordered
      rw [List.head?_cons, Option.some.injEq]
      constructor
      · rintro rfl
        refine ⟨List.mem_cons_self, fun other member different => ?_⟩
        exact headFirst other ((List.mem_cons.mp member).resolve_left different)
      · rintro ⟨member, isFirst⟩
        by_contra different
        have later := (List.mem_cons.mp member).resolve_left (Ne.symm different)
        exact (headFirst first later).asymm (isFirst head List.mem_cons_self different)

end ProcessContexts

/-! ### Nothing to violate -/

theorem EventMapping.violations_eq_nil_iff {name : String} {earlier : List EventMapping}
    {event : EventMapping} : event.violations name earlier = [] ↔
      event.IsComplete ∧ event.eventId ∉ earlier.map (·.eventId) := by
  simp only [violations, List.map_eq_nil_iff, List.filter_eq_nil_iff, checks, List.forall_mem_cons,
    beq_iff_eq, List.contains_iff_mem]
  constructor
  · rintro ⟨eventId, fresh, package, function, -⟩
    exact ⟨⟨eventId, package, function⟩, fresh⟩
  · rintro ⟨⟨eventId, package, function⟩, fresh⟩
    exact ⟨eventId, fresh, package, function, by simp⟩

theorem eventViolations_eq_nil_iff {name : String} {earlier events : List EventMapping} :
    eventViolations name earlier events = [] ↔
      (∀ event ∈ events, event.IsComplete ∧ event.eventId ∉ earlier.map (·.eventId)) ∧
        (events.map (·.eventId)).Nodup := by
  induction events generalizing earlier with
  | nil => simp [eventViolations]
  | cons first rest inductionHypothesis =>
      rw [eventViolations, List.append_eq_nil_iff, EventMapping.violations_eq_nil_iff,
        inductionHypothesis, List.forall_mem_cons, List.map_cons, List.nodup_cons, List.map_append]
      grind

theorem ProcessContext.violations_eq_nil_iff {name : String} {context : ProcessContext} :
    context.violations name = [] ↔ context.WellFormed := by
  unfold violations
  split
  · rename_i empty
    refine iff_of_false (List.cons_ne_nil _ _) fun wellFormed => wellFormed.filled ?_
    exact List.isEmpty_iff.mp empty
  · rename_i filled
    rw [eventViolations_eq_nil_iff]
    constructor
    · rintro ⟨complete, distinct⟩
      refine ⟨mt List.isEmpty_iff.mpr filled, fun event member => ?_, distinct⟩
      exact (complete event member).1
    · intro wellFormed
      exact ⟨fun event member => ⟨wellFormed.complete event member, by simp⟩, wellFormed.distinct⟩

namespace ProcessContexts

variable {contexts : ProcessContexts} {fault : ContextError}

theorem validate_eq_ok_iff : contexts.validate = .ok contexts ↔ contexts.fault? = none := by
  unfold validate
  cases contexts.fault? <;> simp

theorem validate_eq_error_iff : contexts.validate = .error fault ↔
    contexts.fault? = some fault := by
  unfold validate
  cases contexts.fault? <;> simp

theorem fault?_eq_none_iff : contexts.fault? = none ↔ contexts.WellFormed := by
  have sound : contexts.violations = [] ↔
      ∀ {name context}, contexts.get? name = some context → context.WellFormed := by
    simp only [violations, List.flatMap_eq_nil_iff, ProcessContext.violations_eq_nil_iff,
      Prod.forall, ← Table.get?_eq_some_iff]
  rw [fault?_eq]
  split
  · rename_i empty
    exact iff_of_false (by simp) fun wellFormed => by simp [wellFormed.filled] at empty
  · rename_i filled
    rw [Option.map_eq_none_iff, List.head?_eq_none_iff, sound]
    exact ⟨fun each => ⟨Bool.eq_false_iff.mpr filled, each⟩, fun wellFormed => wellFormed.each⟩

theorem fault?_eq_some_iff : contexts.fault? = some fault ↔
    contexts.isEmpty = true ∧ fault = .empty ∨
      ∃ first, contexts.IsFirstViolation first ∧ first.fault = fault := by
  simp only [fault?_eq, ← head?_violations_eq_some_iff]
  split
  · rename_i empty
    have none : contexts.violations = [] := by
      simp [violations, List.isEmpty_iff.mp empty]
    simp [empty, none, eq_comm]
  · rename_i filled
    simp [filled, Option.map_eq_some_iff]

/-! ### One context -/

def single (name : String) (context : ProcessContext) : ProcessContexts :=
  Table.empty.insert name context

theorem wellFormed_single_iff {name : String} {context : ProcessContext} :
    (single name context).WellFormed ↔ context.WellFormed := by
  constructor
  · intro wellFormed
    have found : (single name context).get? name = some context := by simp [single]
    exact wellFormed.each found
  · intro wellFormed
    refine ⟨rfl, fun {other _} found => ?_⟩
    by_cases own : name = other
    · obtain rfl : context = _ := by simpa [single, own] using found
      exact wellFormed
    · simp [single, own] at found

theorem validate_single_iff {name : String} {context : ProcessContext} :
    (single name context).validate = .ok (single name context) ↔ context.WellFormed := by
  rw [validate_eq_ok_iff, fault?_eq_none_iff, wellFormed_single_iff]

/-- Contexts are accepted exactly if they are well formed. If they are not, the fault reported is
that of the first violation, or that there are none; no context has a fault because of another. -/
theorem validate_decides (contexts : ProcessContexts) :
    (contexts.validate = .ok contexts ↔ contexts.WellFormed) ∧
    (¬contexts.WellFormed → ∃ fault, contexts.validate = .error fault) ∧
    (∀ fault, contexts.validate = .error fault ↔
      contexts.isEmpty = true ∧ fault = .empty ∨
        ∃ first, contexts.IsFirstViolation first ∧ first.fault = fault) ∧
    (contexts.validate = .ok contexts ↔ contexts.isEmpty = false ∧
      ∀ name context, contexts.get? name = some context →
        (single name context).validate = .ok (single name context)) := by
  refine ⟨validate_eq_ok_iff.trans fault?_eq_none_iff, fun illFormed => ?_,
    fun _ => validate_eq_error_iff.trans fault?_eq_some_iff, ?_⟩
  · obtain ⟨fault, found⟩ := Option.ne_none_iff_exists'.mp (mt fault?_eq_none_iff.mp illFormed)
    exact ⟨fault, validate_eq_error_iff.mpr found⟩
  · rw [validate_eq_ok_iff, fault?_eq_none_iff]
    simp only [validate_single_iff]
    exact ⟨fun wellFormed => ⟨wellFormed.filled, fun _ _ => wellFormed.each⟩,
      fun ⟨filled, each⟩ => ⟨filled, each _ _⟩⟩

/-- Two contexts with one event in common; in the second, an event has no function, and a later one
has the identifier of the first. -/
def orders : ProcessContexts :=
  (single "first" ⟨none, [⟨"paid", "", ⟨"p", "A", .custom⟩⟩]⟩).insert "second"
    ⟨none, [⟨"paid", "", ⟨"p", "B", .custom⟩⟩, ⟨"sent", "", ⟨"p", "", .custom⟩⟩,
      ⟨"paid", "", ⟨"p", "C", .custom⟩⟩]⟩

theorem validate_decides_orders :
    orders.validate = .error (.missingFunction "second" "sent") ∧
      (∃ first, orders.IsFirstViolation first ∧
        first.fault = .missingFunction "second" "sent") ∧ ¬orders.WellFormed := by
  have found : orders.fault? = some (.missingFunction "second" "sent") := by decide
  have reported := validate_eq_error_iff.mpr found
  obtain ⟨accepts, -, reports, -⟩ := validate_decides orders
  refine ⟨reported, ?_, fun wellFormed => ?_⟩
  · exact ((reports _).mp reported).resolve_left (by decide)
  · rw [accepts.mpr wellFormed] at reported
    cases reported

end ProcessContexts

end GoAtlas
