import Mathlib.Data.Nat.Basic
import Mathlib.Logic.Function.Basic

namespace TurnTaking

/-!
# Blocks that are published in turns

Agents take turns in a fixed order, and in each turn the block of this turn is
published item by item.  An agent prepares the block of its next turn while
other agents still publish.  Only the agent whose turn it is publishes, and it
ends its turn once nothing is left of its block.

The published items are always those of the turns that have ended and some of
the block of the current turn, each one once and in the order of the turns.
-/

variable {Item : Type} {n : Nat}

/-- The first turn of an agent that has not ended. -/
def nextTurn (n turn agent : Nat) : Nat :=
  turn + (agent + n - turn % n) % n

/-- Turns that have ended, what was published and what agents hold ready. -/
structure Turns (n : Nat) (Item : Type) where
  turn : Nat
  published : List Item
  pending : Fin n → List Item

/-- Items of the blocks before a turn. -/
def before (block : Nat → List Item) (turn : Nat) : List Item :=
  (List.range turn).flatMap block

/-- Every agent holds the block of its first turn ready. -/
def start (block : Nat → List Item) : Turns n Item where
  turn := 0
  published := []
  pending agent := block agent

/-- The agent whose turn it is publishes an item or ends its turn. -/
inductive Step
    (block : Nat → List Item) :
    Turns n Item → Turns n Item → Prop where
  | publish
      (turns : Turns n Item)
      (agent : Fin n)
      (item : Item)
      (rest : List Item)
      (isTurn : turns.turn % n = agent)
      (isNext : turns.pending agent = item :: rest) :
      Step block turns { turns with
        published := turns.published ++ [item]
        pending := Function.update turns.pending agent rest }
  | pass
      (turns : Turns n Item)
      (agent : Fin n)
      (isTurn : turns.turn % n = agent)
      (isDone : turns.pending agent = []) :
      Step block turns { turns with
        turn := turns.turn + 1
        pending :=
          Function.update turns.pending agent (block (turns.turn + n)) }

/-- Others hold their next block ready, and what is left is not published. -/
structure Invariant
    (block : Nat → List Item)
    (turns : Turns n Item) :
    Prop where
  waiting :
    ∀ agent : Fin n,
      turns.turn % n ≠ agent →
        turns.pending agent = block (nextTurn n turns.turn agent)
  publishing :
    ∀ agent : Fin n,
      turns.turn % n = agent →
        ∃ done,
          turns.published = before block turns.turn ++ done ∧
            done ++ turns.pending agent = block turns.turn

/-- The turn of an agent within a round is determined. -/
theorem nextTurn_eq
    {turn agent next : Nat}
    (isTurn : next % n = agent)
    (isLater : turn ≤ next)
    (isFirst : next < turn + n) :
    nextTurn n turn agent = next := by
  obtain ⟨ahead, rfl⟩ := Nat.exists_eq_add_of_le isLater
  have isLess : ahead < n := by omega
  have turn_lt := Nat.mod_lt turn (show 0 < n by omega)
  have agent_lt : agent < n := by
    rw [← isTurn]
    exact Nat.mod_lt _ (by omega)
  have isSum : (turn % n + ahead) % n = agent := by
    rw [Nat.mod_add_mod]
    exact isTurn
  have isAhead : (agent + n - turn % n) % n = ahead := by
    by_cases wraps : turn % n + ahead < n
    · rw [Nat.mod_eq_of_lt wraps] at isSum
      have isDistance : agent + n - turn % n = ahead + n := by omega
      rw [isDistance, Nat.add_mod_right, Nat.mod_eq_of_lt isLess]
    · rw [Nat.mod_eq_sub_mod (by omega), Nat.mod_eq_of_lt (by omega)] at isSum
      have isDistance : agent + n - turn % n = ahead := by omega
      rw [isDistance, Nat.mod_eq_of_lt isLess]
  rw [nextTurn, isAhead]

/-- The agent whose turn it is has no turn to wait for. -/
theorem nextTurn_self
    {turn agent : Nat}
    (notEmpty : 0 < n)
    (isTurn : turn % n = agent) :
    nextTurn n turn agent = turn :=
  nextTurn_eq isTurn le_rfl (by omega)

theorem nextTurn_spec
    (turn : Nat)
    (agent : Fin n) :
    nextTurn n turn agent % n = agent ∧
      turn ≤ nextTurn n turn agent ∧
      nextTurn n turn agent < turn + n := by
  have agent_lt := agent.isLt
  have turn_lt := Nat.mod_lt turn (show 0 < n by omega)
  refine ⟨?_, Nat.le_add_right _ _, ?_⟩
  · have isSum :
        turn % n + (agent + n - turn % n) = agent + n := by
      omega
    rw [nextTurn, Nat.add_mod_mod, ← Nat.mod_add_mod, isSum,
      Nat.add_mod_right, Nat.mod_eq_of_lt agent_lt]
  · have := Nat.mod_lt (agent + n - turn % n) (show 0 < n by omega)
    rw [nextTurn]
    omega

/-- The next turn of other agents stays when a turn ends. -/
theorem nextTurn_succ_of_ne
    {turn : Nat}
    {agent : Fin n}
    (notTurn : turn % n ≠ agent) :
    nextTurn n (turn + 1) agent = nextTurn n turn agent := by
  obtain ⟨isTurn, isLater, isFirst⟩ := nextTurn_spec turn agent
  have notNow : turn ≠ nextTurn n turn agent := by
    intro isNow
    rw [← isNow] at isTurn
    exact notTurn isTurn
  exact nextTurn_eq isTurn (by omega) (by omega)

/-- The agent whose turn ends has its next turn a round later. -/
theorem nextTurn_succ_of_eq
    {turn : Nat}
    {agent : Fin n}
    (isTurn : turn % n = agent) :
    nextTurn n (turn + 1) agent = turn + n := by
  have agent_lt := agent.isLt
  exact nextTurn_eq (by rw [Nat.add_mod_right, isTurn]) (by omega) (by omega)

theorem before_succ
    (block : Nat → List Item)
    (turn : Nat) :
    before block (turn + 1) = before block turn ++ block turn := by
  rw [before, List.range_succ, List.flatMap_append, List.flatMap_singleton]
  rfl

theorem Invariant.start (block : Nat → List Item) :
    Invariant block (@TurnTaking.start Item n block) := by
  constructor
  · intro agent notTurn
    have isNext : nextTurn n 0 agent = agent :=
      nextTurn_eq (Nat.mod_eq_of_lt agent.isLt) (Nat.zero_le _) (by omega)
    rw [show (@TurnTaking.start Item n block).turn = 0 from rfl, isNext]
    rfl
  · intro agent isTurn
    have isFirst : (agent : Nat) = 0 := by
      rw [← isTurn]
      exact Nat.zero_mod n
    refine ⟨[], rfl, ?_⟩
    change block agent = block 0
    rw [isFirst]

variable {block : Nat → List Item}

/-- A step keeps what others hold ready and publishes what is left. -/
theorem Invariant.step
    {turns after : Turns n Item}
    (invariant : Invariant block turns)
    (isStep : Step block turns after) :
    Invariant block after := by
  cases isStep with
  | publish agent item rest isTurn isNext =>
      obtain ⟨done, isPublished, isBlock⟩ := invariant.publishing agent isTurn
      constructor <;> dsimp only
      · intro other notTurn
        have notAgent : other ≠ agent := by
          rintro rfl
          exact notTurn isTurn
        rw [Function.update_of_ne notAgent]
        exact invariant.waiting other notTurn
      · intro other otherTurn
        obtain rfl : other = agent := Fin.ext (otherTurn.symm.trans isTurn)
        refine ⟨done ++ [item], ?_, ?_⟩
        · rw [isPublished, List.append_assoc]
        · rw [Function.update_self, List.append_assoc,
            List.singleton_append, ← isNext]
          exact isBlock
  | pass agent isTurn isDone =>
      obtain ⟨done, isPublished, isBlock⟩ := invariant.publishing agent isTurn
      rw [isDone, List.append_nil] at isBlock
      have allPublished : turns.published = before block (turns.turn + 1) := by
        rw [isPublished, isBlock, before_succ]
      constructor <;> dsimp only
      · intro other notTurn
        by_cases isAgent : other = agent
        · subst isAgent
          rw [Function.update_self, nextTurn_succ_of_eq isTurn]
        · have notBefore : turns.turn % n ≠ other := by
            intro isOther
            exact isAgent (Fin.ext (isOther.symm.trans isTurn))
          rw [Function.update_of_ne isAgent, nextTurn_succ_of_ne notBefore]
          exact invariant.waiting other notBefore
      · intro other otherTurn
        have isNext : nextTurn n (turns.turn + 1) other = turns.turn + 1 :=
          nextTurn_self (by have := other.isLt; omega) otherTurn
        refine ⟨[], ?_, ?_⟩
        · rw [List.append_nil]
          exact allPublished
        · by_cases isAgent : other = agent
          · subst isAgent
            have isRound := nextTurn_succ_of_eq isTurn
            rw [isNext] at isRound
            rw [Function.update_self, List.nil_append, isRound]
          · have notBefore : turns.turn % n ≠ other := by
              intro isOther
              exact isAgent (Fin.ext (isOther.symm.trans isTurn))
            rw [Function.update_of_ne isAgent, List.nil_append,
              invariant.waiting other notBefore,
              ← nextTurn_succ_of_ne notBefore, isNext]

/-- What was published lies between the blocks before and after this turn. -/
theorem Invariant.between
    {turns : Turns n Item}
    (invariant : Invariant block turns)
    (notEmpty : 0 < n) :
    before block turns.turn <+: turns.published ∧
      turns.published <+: before block (turns.turn + 1) := by
  obtain ⟨done, isPublished, isBlock⟩ :=
    invariant.publishing ⟨turns.turn % n, Nat.mod_lt _ notEmpty⟩ rfl
  refine ⟨⟨done, isPublished.symm⟩, ?_⟩
  rw [isPublished, before_succ, ← isBlock]
  exact (List.prefix_append_right_inj _).mpr (List.prefix_append _ _)

end TurnTaking
