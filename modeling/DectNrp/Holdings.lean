import Mathlib.Logic.Function.Basic

/-!
# Holdings

Every agent holds at most one resource, and every resource is held by at most
one agent.  An agent knows something about the resource that it holds.
-/

namespace Holdings

variable {Agent Resource Knowledge : Type}

/-- Agents and resources agree on who holds what. -/
def Agree
    (holds : Agent → Option (Resource × Knowledge))
    (holder : Resource → Option (Agent × Knowledge)) :
    Prop :=
  ∀ agent resource knowledge,
    holds agent = some (resource, knowledge) ↔
      holder resource = some (agent, knowledge)

namespace Agree

variable
    {holds : Agent → Option (Resource × Knowledge)}
    {holder : Resource → Option (Agent × Knowledge)}

variable {resource : Resource}

/-- Two agents do not hold the same resource. -/
theorem unique
    (agree : Agree holds holder)
    {agent other : Agent}
    {knowledge otherKnowledge : Knowledge}
    (first : holds agent = some (resource, knowledge))
    (second : holds other = some (resource, otherKnowledge)) :
    agent = other := by
  have same :=
    ((agree agent resource knowledge).mp first).symm.trans
      ((agree other resource otherKnowledge).mp second)
  exact congrArg Prod.fst (Option.some.inj same)

/-- Nobody holds a resource without a holder. -/
theorem nobody
    (agree : Agree holds holder)
    (free : holder resource = none)
    (agent : Agent)
    (knowledge : Knowledge) :
    holds agent ≠ some (resource, knowledge) := by
  intro held
  rw [agree agent resource knowledge, free] at held
  cases held

variable [DecidableEq Agent] [DecidableEq Resource]

/--
An agent takes a resource, learns something about it or puts it down.  It does
not hold another one, and nobody else holds this one.
-/
theorem update
    (agree : Agree holds holder)
    {agent : Agent}
    (onlyThis :
      ∀ other knowledge,
        holds agent = some (other, knowledge) → other = resource)
    (onlyBy :
      ∀ other knowledge,
        holder resource = some (other, knowledge) → other = agent)
    (knowledge : Option Knowledge) :
    Agree
      (Function.update holds agent
        (knowledge.map fun known => (resource, known)))
      (Function.update holder resource
        (knowledge.map fun known => (agent, known))) := by
  intro otherAgent otherResource known
  by_cases sameAgent : otherAgent = agent
  · subst sameAgent
    rw [Function.update_self]
    by_cases sameResource : otherResource = resource
    · subst sameResource
      rw [Function.update_self]
      cases knowledge with
      | none => simp
      | some value => simp
    · rw [Function.update_of_ne sameResource,
        ← agree otherAgent otherResource known]
      constructor
      · intro held
        cases knowledge with
        | none => cases held
        | some value =>
            cases held
            exact absurd rfl sameResource
      · intro held
        exact absurd (onlyThis otherResource known held) sameResource
  · rw [Function.update_of_ne sameAgent]
    by_cases sameResource : otherResource = resource
    · subst sameResource
      rw [Function.update_self, agree otherAgent otherResource known]
      constructor
      · intro held
        exact absurd (onlyBy otherAgent known held) sameAgent
      · intro held
        cases knowledge with
        | none => cases held
        | some value =>
            cases held
            exact absurd rfl sameAgent
    · rw [Function.update_of_ne sameResource]
      exact agree otherAgent otherResource known

/-- An agent with empty hands takes a resource that nobody holds. -/
theorem take
    (agree : Agree holds holder)
    {agent : Agent}
    {resource : Resource}
    (emptyHanded : holds agent = none)
    (free : holder resource = none)
    (knowledge : Knowledge) :
    Agree
      (Function.update holds agent (some (resource, knowledge)))
      (Function.update holder resource (some (agent, knowledge))) := by
  refine agree.update ?_ ?_ (some knowledge)
  · intro other known held
    rw [emptyHanded] at held
    cases held
  · intro other known held
    rw [free] at held
    cases held

/-- An agent changes what it knows about its resource, or puts it down. -/
theorem change
    (agree : Agree holds holder)
    {agent : Agent}
    {before : Knowledge}
    (held : holds agent = some (resource, before))
    (knowledge : Option Knowledge) :
    Agree
      (Function.update holds agent
        (knowledge.map fun known => (resource, known)))
      (Function.update holder resource
        (knowledge.map fun known => (agent, known))) := by
  refine agree.update ?_ ?_ knowledge
  · intro other known alsoHeld
    rw [held] at alsoHeld
    cases alsoHeld
    rfl
  · intro other known alsoHeld
    rw [(agree agent resource before).mp held] at alsoHeld
    cases alsoHeld
    rfl

end Agree

end Holdings
