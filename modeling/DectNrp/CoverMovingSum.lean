import DectNrp.MovingSum
import DectNrp.Octets
import Mathlib.Algebra.BigOperators.Intervals
import Mathlib.Algebra.BigOperators.GroupWithZero.Action
import Mathlib.Algebra.Module.Basic

namespace DectNrp

/-!
# Moving sums with a cover sequence

A cover sequence gives each position of the window a weight of plus or minus one,
where each weight holds for some positions in a row.  Pushing a value moves all
others by one position, so that only those at a change of the sign contribute to
the sum in another way.
-/

section Blocks

variable {Value : Type} [AddCommGroup Value]

/-- A sum over all positions is a sum over blocks of the same size. -/
theorem sum_blocks
    (value : Nat → Value)
    (nBlocks size : Nat) :
    ∑ j ∈ Finset.range (nBlocks * size), value j =
      ∑ i ∈ Finset.range nBlocks,
        ∑ k ∈ Finset.range size, value (i * size + k) := by
  induction nBlocks with
  | zero => rw [Nat.zero_mul, Finset.sum_range_zero, Finset.sum_range_zero]
  | succ nBlocks hypothesis =>
      rw [Nat.succ_mul, Finset.sum_range_add, hypothesis,
        Finset.sum_range_succ]

/-- Inside of a block the weight does not change. -/
theorem block_index
    {size i k : Nat}
    (inside : k < size) :
    (i * size + k) / size = i := by
  rw [Nat.mul_comm, Nat.mul_add_div (by omega), Nat.div_eq_of_lt inside,
    Nat.add_zero]

theorem sum_changes
    (weight : Nat → Int)
    (value : Nat → Value)
    (nBlocks size : Nat) :
    ∑ j ∈ Finset.range (nBlocks * (size + 1) + size),
        (weight (j / (size + 1)) - weight ((j + 1) / (size + 1))) •
          value (j + 1) =
      ∑ i ∈ Finset.range nBlocks,
        (weight i - weight (i + 1)) • value ((i + 1) * (size + 1)) := by
  -- nothing changes inside of a block
  have insideBlock (i : Nat) : ∑ k ∈ Finset.range size,
      (weight ((i * (size + 1) + k) / (size + 1)) -
        weight ((i * (size + 1) + k + 1) / (size + 1))) •
        value (i * (size + 1) + k + 1) =
        0 := by
    apply Finset.sum_eq_zero
    intro k member
    have inside : k < size := Finset.mem_range.mp member
    rw [block_index (by omega), Nat.add_assoc, block_index (by omega),
      sub_self, zero_smul]
  rw [Finset.sum_range_add, insideBlock, add_zero, sum_blocks]
  apply Finset.sum_congr rfl
  intro i _
  rw [Finset.sum_range_succ, insideBlock, zero_add,
    block_index (Nat.lt_succ_self size)]
  have atEnd : i * (size + 1) + size + 1 = (i + 1) * (size + 1) := by
    rw [Nat.succ_mul]
    omega
  rw [atEnd, Nat.mul_div_cancel _ (Nat.succ_pos size)]

end Blocks

/-- A moving sum with the weights of a cover sequence. -/
structure MovsumUw (Value : Type) where
  length : Nat
  movsum : Movsum Value length
  uw : List Int
  nRepelem : Nat
  prefactorPush : Int
  prefactorPop : Int
  uwPosNegIdx : List Nat
  uwNegPosIdx : List Nat

namespace MovsumUw

variable {Value : Type}

/-- Distances of sign changes from the end of the window. -/
def getUwChangesIdx
    (uw : List Int)
    (nRepelem : Nat)
    (posNeg : Bool) :
    Checked (List Nat) := do
  let second : Int := if posNeg then 1 else -1
  let first := -second
  let nElem := uw.length * nRepelem
  -- go over the entire cover sequence and find sign changes
  let changes :=
    (List.range' 1 (uw.length - 1)).filterMap fun i =>
      if uw.getD (i - 1) 0 = first ∧ uw.getD i 0 = second then
        some (nElem - i * nRepelem)
      else
        none
  dectnrpAssert
    (! (uw.all (fun x => x = uw.headD 0) && 0 < changes.length))
    "uw values are all the same, yet there are sign changes"
  pure changes

section Sums

variable [AddCommGroup Value]

/-- The length of the register is a number of 32 bits. -/
def construct
    (uw : List Int)
    (nRepelem : Nat) :
    Checked (MovsumUw Value) := do
  let length := uw.length * nRepelem % 2 ^ 32
  let prefactorPush := uw.getLastD 0
  let prefactorPop := uw.headD 0
  let uwPosNegIdx ← getUwChangesIdx uw nRepelem true
  let uwNegPosIdx ← getUwChangesIdx uw nRepelem false
  dectnrpAssert (uw.length * nRepelem = length) "length incorrect"
  dectnrpAssert (prefactorPush = 1) "prefactor for push incorrect"
  dectnrpAssert (prefactorPop.natAbs = 1) "prefactor for pop incorrect"
  if positive : 0 < length then
    pure {
      length := length
      movsum := Movsum.reset positive
      uw := uw
      nRepelem := nRepelem
      prefactorPush := prefactorPush
      prefactorPop := prefactorPop
      uwPosNegIdx := uwPosNegIdx
      uwNegPosIdx := uwNegPosIdx
    }
  else
    -- no index of an empty register is defined
    .error (.readBeyond 0)

def reset (movsumUw : MovsumUw Value) : MovsumUw Value :=
  { movsumUw with
    movsum :=
      Movsum.reset (Nat.zero_lt_of_lt movsumUw.movsum.inside)
  }

/-- The register is filled directly, and the pointer is reset. -/
def fill
    (movsumUw : MovsumUw Value)
    (values : Nat → Value) :
    MovsumUw Value :=
  { movsumUw with
    movsum :=
      { movsumUw.movsum with
        shiftreg := values
        ptr := 0
        inside := Nat.zero_lt_of_lt movsumUw.movsum.inside
      }
  }

/-- The sum of contiguous values. -/
def accumulator
    (values : Nat → Value)
    (start count : Nat) :
    Value :=
  ((List.range count).map fun k => values (start + k)).sum

/-- The sum of the values that have the same weight. -/
def sumPartial
    (movsumUw : MovsumUw Value)
    (i : Nat) :
    Value :=
  let nBackward := movsumUw.length - i * movsumUw.nRepelem
  let B := movsumUw.movsum.getFrontIdx nBackward
  let shiftreg := movsumUw.movsum.shiftreg
  -- we don't need to wrap
  if B + movsumUw.nRepelem ≤ movsumUw.length then
    accumulator shiftreg B movsumUw.nRepelem
  else
    let firstHalf := accumulator shiftreg B (movsumUw.length - B)
    let secHalf :=
      accumulator shiftreg 0
        (movsumUw.nRepelem - (movsumUw.length - B))
    firstHalf + secHalf

def resum (movsumUw : MovsumUw Value) : MovsumUw Value :=
  let sum :=
    (List.range movsumUw.uw.length).foldl
      (fun sum i =>
        sum + movsumUw.uw.getD i 0 • movsumUw.sumPartial i)
      0
  { movsumUw with movsum := { movsumUw.movsum with sum := sum } }

def popPush
    (movsumUw : MovsumUw Value)
    (val : Value) :
    MovsumUw Value :=
  let movsum := movsumUw.movsum
  let sum := movsum.sum - movsumUw.prefactorPop • movsum.shiftreg movsum.ptr
  let shiftreg :=
    Function.update movsum.shiftreg movsum.ptr
      (movsumUw.prefactorPush • val)
  let sum := sum + shiftreg movsum.ptr
  -- phase changes within the accumulator
  let sum :=
    movsumUw.uwPosNegIdx.foldl
      (fun sum nBackward =>
        sum - (2 : Int) • shiftreg (movsum.getFrontIdx nBackward))
      sum
  let sum :=
    movsumUw.uwNegPosIdx.foldl
      (fun sum nBackward =>
        sum + (2 : Int) • shiftreg (movsum.getFrontIdx nBackward))
      sum
  { movsumUw with
    movsum :=
      { shiftreg := shiftreg
        ptr := (movsum.ptr + 1) % movsumUw.length
        sum := sum
        inside :=
          Nat.mod_lt _ (Nat.zero_lt_of_lt movsumUw.movsum.inside) }
  }

/-- What is done to a moving sum; a fill is followed by a resum. -/
inductive Call (Value : Type) where
  | reset
  | fill (values : Nat → Value)
  | resum
  | popPush (val : Value)

def step (movsumUw : MovsumUw Value) : Call Value → MovsumUw Value
  | .reset => movsumUw.reset
  | .fill values => (movsumUw.fill values).resum
  | .resum => movsumUw.resum
  | .popPush val => movsumUw.popPush val

def run
    (movsumUw : MovsumUw Value)
    (calls : List (Call Value)) :
    MovsumUw Value :=
  calls.foldl step movsumUw

/-- What a call does to the window, which starts with the oldest value. -/
def Call.window
    (length : Nat)
    (window : List Value) :
    Call Value → List Value
  | .reset => List.replicate length 0
  | .fill values => (List.range length).map values
  | .resum => window
  | .popPush val => window.tail ++ [val]

/-- The window behind some calls, as the values of the calls say. -/
def windowAfter
    (length : Nat)
    (calls : List (Call Value)) :
    List Value :=
  calls.foldl (Call.window length) (List.replicate length 0)

/-- The sum of all values of the window with their weights. -/
def fullSum (movsumUw : MovsumUw Value) : Value :=
  ∑ j ∈ Finset.range movsumUw.length,
    movsumUw.uw.getD (j / movsumUw.nRepelem) 0 •
      movsumUw.movsum.entry j

/-- Weights of plus or minus one, of which the last one is one. -/
structure IsCover (uw : List Int) : Prop where
  isUnit : ∀ weight ∈ uw, weight = 1 ∨ weight = -1
  last : uw.getLast? = some 1

/-- What a constructed object keeps of its cover sequence. -/
structure Covers (movsumUw : MovsumUw Value) : Prop where
  isCover : IsCover movsumUw.uw
  repeats : 0 < movsumUw.nRepelem
  length : movsumUw.uw.length * movsumUw.nRepelem = movsumUw.length
  push : movsumUw.prefactorPush = 1
  pop : movsumUw.prefactorPop = movsumUw.uw.getD 0 0
  posNeg :
    getUwChangesIdx movsumUw.uw movsumUw.nRepelem true =
      .ok movsumUw.uwPosNegIdx
  negPos :
    getUwChangesIdx movsumUw.uw movsumUw.nRepelem false =
      .ok movsumUw.uwNegPosIdx

theorem accumulator_eq
    (values : Nat → Value)
    (start count : Nat) :
    accumulator values start count =
      ∑ k ∈ Finset.range count, values (start + k) := by
  unfold accumulator
  induction count with
  | zero => rfl
  | succ count hypothesis =>
      rw [List.sum_range_succ, Finset.sum_range_succ, hypothesis]

variable {movsumUw : MovsumUw Value}

theorem sumPartial_eq
    (covers : Covers movsumUw)
    {i : Nat}
    (inside : i < movsumUw.uw.length) :
    movsumUw.sumPartial i =
      ∑ k ∈ Finset.range movsumUw.nRepelem,
        movsumUw.movsum.entry (i * movsumUw.nRepelem + k) := by
  have repeats := covers.repeats
  have wholeLength := covers.length
  have blockEnd :
      (i + 1) * movsumUw.nRepelem ≤ movsumUw.uw.length * movsumUw.nRepelem :=
    Nat.mul_le_mul_right _ inside
  rw [Nat.succ_mul, wholeLength] at blockEnd
  have start := movsumUw.movsum.getFrontIdx_back
    (show i * movsumUw.nRepelem < movsumUw.length by omega)
  have inRegister : movsumUw.movsum.getFrontIdx
      (movsumUw.length - i * movsumUw.nRepelem) < movsumUw.length := by
    rw [start]
    exact Nat.mod_lt _ (by omega)
  -- the values of the block are behind the start, cyclically
  have isEntry (k : Nat) : movsumUw.movsum.entry (i * movsumUw.nRepelem + k) =
      movsumUw.movsum.shiftreg ((movsumUw.movsum.getFrontIdx
          (movsumUw.length - i * movsumUw.nRepelem) + k) %
            movsumUw.length) := by
    rw [start, Nat.mod_add_mod, Nat.add_assoc]
    rfl
  unfold sumPartial
  simp only [isEntry, accumulator_eq]
  generalize movsumUw.movsum.getFrontIdx
      (movsumUw.length - i * movsumUw.nRepelem) = B at *
  split
  · apply Finset.sum_congr rfl
    intro k member
    have inBlock := Finset.mem_range.mp member
    rw [Nat.mod_eq_of_lt (by omega)]
  · have halves : movsumUw.nRepelem = (movsumUw.length - B) +
        (movsumUw.nRepelem - (movsumUw.length - B)) := by
      omega
    conv_rhs => rw [halves]
    rw [Finset.sum_range_add]
    congr 1
    · apply Finset.sum_congr rfl
      intro k member
      have inHalf := Finset.mem_range.mp member
      rw [Nat.mod_eq_of_lt (by omega)]
    · apply Finset.sum_congr rfl
      intro k member
      have inHalf := Finset.mem_range.mp member
      have once : B + (movsumUw.length - B + k) = k + movsumUw.length := by
        omega
      rw [once, Nat.add_mod_right, Nat.mod_eq_of_lt (by omega), Nat.zero_add]

theorem foldl_add_range
    (value : Nat → Value)
    (start : Value)
    (count : Nat) :
    (List.range count).foldl (fun sum i => sum + value i) start =
      start + ∑ i ∈ Finset.range count, value i := by
  induction count with
  | zero =>
      rw [Finset.sum_range_zero, add_zero]
      rfl
  | succ count hypothesis =>
      rw [List.range_succ, List.foldl_append, hypothesis,
        Finset.sum_range_succ, ← add_assoc]
      rfl

/-- Adding anew gives the full sum. -/
theorem sum_resum (covers : Covers movsumUw) :
    movsumUw.resum.movsum.sum = movsumUw.fullSum := by
  have isSum : movsumUw.resum.movsum.sum =
      ∑ i ∈ Finset.range movsumUw.uw.length,
        movsumUw.uw.getD i 0 • movsumUw.sumPartial i := by
    unfold resum
    rw [foldl_add_range, zero_add]
  have sameRange : Finset.range movsumUw.length =
      Finset.range (movsumUw.uw.length * movsumUw.nRepelem) := by
    rw [covers.length]
  rw [isSum, fullSum, sameRange, sum_blocks]
  apply Finset.sum_congr rfl
  intro i member
  rw [sumPartial_eq covers (Finset.mem_range.mp member), Finset.smul_sum]
  apply Finset.sum_congr rfl
  intro k inBlock
  rw [block_index (Finset.mem_range.mp inBlock)]

theorem foldl_add_changes
    (isChange : Nat → Prop)
    [DecidablePred isChange]
    (position : Nat → Nat)
    (value : Nat → Value)
    (start : Value)
    (count : Nat) :
    ((List.range' 1 count).filterMap fun i =>
        if isChange i then some (position i) else none).foldl
        (fun sum nBackward => sum + value nBackward) start =
      start +
        ∑ i ∈ Finset.range count,
          if isChange (i + 1) then value (position (i + 1)) else 0 := by
  induction count with
  | zero =>
      rw [Finset.sum_range_zero, add_zero]
      rfl
  | succ count hypothesis =>
      rw [List.range'_1_concat, List.filterMap_append,
        List.foldl_append, hypothesis, Finset.sum_range_succ,
        ← add_assoc, Nat.add_comm 1 count]
      by_cases changes : isChange (count + 1)
      · rw [if_pos changes]
        simp [changes]
      · rw [if_neg changes]
        simp [changes]

theorem getUwChangesIdx_eq
    {uw : List Int}
    {nRepelem : Nat}
    {posNeg : Bool}
    {changes : List Nat}
    (returned : getUwChangesIdx uw nRepelem posNeg = .ok changes) :
    changes =
      (List.range' 1 (uw.length - 1)).filterMap fun i =>
        if uw.getD (i - 1) 0 = -(if posNeg then 1 else -1) ∧
            uw.getD i 0 = (if posNeg then 1 else -1) then
          some (uw.length * nRepelem - i * nRepelem)
        else none := by
  obtain ⟨_, -, returned⟩ := Checked.bind_eq_ok.mp returned
  exact (Except.ok.inj returned).symm

/-- All values of the window get older by one position. -/
theorem entry_popPush
    (covers : Covers movsumUw)
    (val : Value)
    {index : Nat}
    (inside : index < movsumUw.length) :
    (movsumUw.popPush val).movsum.entry index =
      if index + 1 < movsumUw.length then movsumUw.movsum.entry (index + 1)
      else val := by
  have pointer := movsumUw.movsum.inside
  have isEntry : (movsumUw.popPush val).movsum.entry index =
      Function.update movsumUw.movsum.shiftreg movsumUw.movsum.ptr val
        ((movsumUw.movsum.ptr + (index + 1)) % movsumUw.length) := by
    unfold Movsum.entry popPush
    rw [covers.push, one_smul]
    dsimp only
    rw [Nat.mod_add_mod, Nat.add_assoc, Nat.add_comm 1 index]
  rw [isEntry]
  by_cases older : index + 1 < movsumUw.length
  · have elsewhere : (movsumUw.movsum.ptr + (index + 1)) % movsumUw.length ≠
        movsumUw.movsum.ptr := by
      have apart := RingBuffer.slot_ne pointer (Nat.succ_pos index) older
      rw [Nat.add_zero, Nat.mod_eq_of_lt pointer] at apart
      exact apart.symm
    rw [if_pos older, Function.update_of_ne elsewhere]
    rfl
  · have isLast : index + 1 = movsumUw.length := by omega
    rw [if_neg older, isLast, Nat.add_mod_right,
      Nat.mod_eq_of_lt pointer, Function.update_self]

/-- What a loop over the sign changes adds. -/
theorem foldl_changes
    (covers : Covers movsumUw)
    {posNeg : Bool}
    {changes : List Nat}
    (isChanges :
      getUwChangesIdx movsumUw.uw movsumUw.nRepelem posNeg = .ok changes)
    (val start : Value)
    (factor : Int) :
    changes.foldl
        (fun sum nBackward =>
          sum + factor •
            Function.update movsumUw.movsum.shiftreg
              movsumUw.movsum.ptr val
              (movsumUw.movsum.getFrontIdx nBackward))
        start =
      start +
        ∑ i ∈ Finset.range (movsumUw.uw.length - 1),
          if movsumUw.uw.getD i 0 = -(if posNeg then 1 else -1) ∧
              movsumUw.uw.getD (i + 1) 0 = (if posNeg then 1 else -1) then
            factor • movsumUw.movsum.entry ((i + 1) * movsumUw.nRepelem)
          else 0 := by
  rw [getUwChangesIdx_eq isChanges, foldl_add_changes (fun i =>
      movsumUw.uw.getD (i - 1) 0 = -(if posNeg then 1 else -1) ∧
        movsumUw.uw.getD i 0 = (if posNeg then 1 else -1))
      (fun i => movsumUw.uw.length * movsumUw.nRepelem - i * movsumUw.nRepelem)
      (fun nBackward =>
        factor • Function.update movsumUw.movsum.shiftreg
            movsumUw.movsum.ptr val
            (movsumUw.movsum.getFrontIdx nBackward))]
  congr 1
  apply Finset.sum_congr rfl
  intro i member
  have inside : i + 1 < movsumUw.uw.length := by
    have bound := Finset.mem_range.mp member
    omega
  have pointer := movsumUw.movsum.inside
  have blockPositive : 0 < (i + 1) * movsumUw.nRepelem :=
    Nat.mul_pos (Nat.succ_pos i) covers.repeats
  have blockInside : (i + 1) * movsumUw.nRepelem < movsumUw.length := by
    rw [← covers.length]
    exact Nat.mul_lt_mul_of_pos_right inside covers.repeats
  -- a change is not where the new value is written
  have elsewhere : (movsumUw.movsum.ptr + (i + 1) * movsumUw.nRepelem) %
      movsumUw.length ≠ movsumUw.movsum.ptr := by
    have apart := RingBuffer.slot_ne pointer blockPositive blockInside
    rw [Nat.add_zero, Nat.mod_eq_of_lt pointer] at apart
    exact apart.symm
  rw [covers.length, movsumUw.movsum.getFrontIdx_back blockInside,
    Function.update_of_ne elsewhere]
  rfl

theorem change_smul
    {before behind : Int}
    (isUnitBefore : before = 1 ∨ before = -1)
    (isUnitBehind : behind = 1 ∨ behind = -1)
    (value : Value) :
    ((if before = -1 ∧ behind = 1 then (-2 : Int) • value else 0) +
        if before = 1 ∧ behind = -1 then (2 : Int) • value else 0) =
      (before - behind) • value := by
  rcases isUnitBefore with rfl | rfl <;> rcases isUnitBehind with rfl | rfl <;>
    simp

/-- The weights of a cover are units. -/
theorem IsCover.isUnit_getD
    {uw : List Int}
    (isCover : IsCover uw)
    {i : Nat}
    (inside : i < uw.length) :
    uw.getD i 0 = 1 ∨ uw.getD i 0 = -1 := by
  rw [List.getD_eq_getElem _ _ inside]
  exact isCover.isUnit _ (List.getElem_mem inside)

theorem sum_popPush_eq
    (covers : Covers movsumUw)
    (val : Value) :
    (movsumUw.popPush val).movsum.sum =
      movsumUw.movsum.sum -
          movsumUw.uw.getD 0 0 • movsumUw.movsum.entry 0 +
        val +
        ∑ i ∈ Finset.range (movsumUw.uw.length - 1),
          (movsumUw.uw.getD i 0 - movsumUw.uw.getD (i + 1) 0) •
            movsumUw.movsum.entry ((i + 1) * movsumUw.nRepelem) := by
  have isOldest : movsumUw.movsum.shiftreg movsumUw.movsum.ptr =
      movsumUw.movsum.entry 0 := by
    unfold Movsum.entry
    rw [Nat.add_zero, Nat.mod_eq_of_lt movsumUw.movsum.inside]
  have subtracts (shiftreg : Nat → Value) : (fun (sum : Value) nBackward =>
      sum - (2 : Int) • shiftreg (movsumUw.movsum.getFrontIdx nBackward)) =
        fun sum nBackward =>
          sum + (-2 : Int) •
            shiftreg (movsumUw.movsum.getFrontIdx nBackward) := by
    funext sum nBackward
    rw [neg_smul, sub_eq_add_neg]
  unfold popPush
  dsimp only
  rw [subtracts, covers.push, one_smul, covers.pop, isOldest,
    Function.update_self, foldl_changes covers covers.posNeg,
    foldl_changes covers covers.negPos, add_assoc _ (Finset.sum _ _),
    ← Finset.sum_add_distrib]
  congr 1
  apply Finset.sum_congr rfl
  intro i member
  have bound := Finset.mem_range.mp member
  have changes :=
    change_smul (covers.isCover.isUnit_getD (show i < _ by omega))
      (covers.isCover.isUnit_getD (show i + 1 < _ by omega))
      (movsumUw.movsum.entry ((i + 1) * movsumUw.nRepelem))
  simpa using changes

theorem fullSum_popPush_eq
    (covers : Covers movsumUw)
    (val : Value) :
    (movsumUw.popPush val).fullSum =
      movsumUw.fullSum -
          movsumUw.uw.getD 0 0 • movsumUw.movsum.entry 0 +
        val +
        ∑ i ∈ Finset.range (movsumUw.uw.length - 1),
          (movsumUw.uw.getD i 0 - movsumUw.uw.getD (i + 1) 0) •
            movsumUw.movsum.entry ((i + 1) * movsumUw.nRepelem) := by
  obtain ⟨others, isLength⟩ :
      ∃ others, movsumUw.uw.length = others + 1 := by
    have last := covers.isCover.last
    rcases weights : movsumUw.uw with _ | ⟨first, rest⟩
    · rw [weights] at last
      cases last
    · exact ⟨rest.length, rfl⟩
  obtain ⟨size, isSize⟩ : ∃ size, movsumUw.nRepelem = size + 1 :=
    ⟨movsumUw.nRepelem - 1, by have := covers.repeats; omega⟩
  have wholeLength : movsumUw.length = others * (size + 1) + size + 1 := by
    rw [← covers.length, isLength, isSize, Nat.succ_mul]
    omega
  have lastWeight : movsumUw.uw.getD others 0 = 1 := by
    have last := covers.isCover.last
    rw [List.getLast?_eq_getElem?, isLength, Nat.add_sub_cancel] at last
    rw [List.getD_eq_getElem?_getD, last]
    rfl
  -- the last value of the new window is the pushed one
  have newSum : (movsumUw.popPush val).fullSum =
      ∑ j ∈ Finset.range (others * (size + 1) + size),
          movsumUw.uw.getD (j / (size + 1)) 0 • movsumUw.movsum.entry (j + 1) +
        val := by
    have sameRange : Finset.range (movsumUw.popPush val).length =
        Finset.range (others * (size + 1) + size + 1) := by
      rw [← wholeLength]
      rfl
    unfold fullSum
    rw [sameRange, Finset.sum_range_succ]
    congr 1
    · apply Finset.sum_congr rfl
      intro j member
      have bound := Finset.mem_range.mp member
      rw [entry_popPush covers val (by omega), if_pos (by omega), ← isSize]
      rfl
    · rw [entry_popPush covers val (by omega), if_neg (by omega)]
      show movsumUw.uw.getD (_ / movsumUw.nRepelem) 0 • val = val
      rw [isSize, block_index (Nat.lt_succ_self size), lastWeight, one_smul]
  have oldSum : movsumUw.fullSum =
      ∑ j ∈ Finset.range (others * (size + 1) + size),
          movsumUw.uw.getD ((j + 1) / (size + 1)) 0 •
            movsumUw.movsum.entry (j + 1) +
        movsumUw.uw.getD 0 0 • movsumUw.movsum.entry 0 := by
    have sameRange : Finset.range movsumUw.length =
        Finset.range (others * (size + 1) + size + 1) := by
      rw [← wholeLength]
    unfold fullSum
    rw [sameRange, Finset.sum_range_succ', isSize, Nat.zero_div]
  have changes :=
    sum_changes (fun i => movsumUw.uw.getD i 0) movsumUw.movsum.entry
      others size
  simp only [sub_smul, Finset.sum_sub_distrib] at changes
  rw [newSum, oldSum, isLength, Nat.add_sub_cancel, isSize]
  simp only [sub_smul, Finset.sum_sub_distrib]
  rw [← changes]
  abel

/-- Pushing a value keeps the sum full. -/
theorem sum_popPush
    (covers : Covers movsumUw)
    (isSum : movsumUw.movsum.sum = movsumUw.fullSum)
    (val : Value) :
    (movsumUw.popPush val).movsum.sum = (movsumUw.popPush val).fullSum := by
  rw [sum_popPush_eq covers, fullSum_popPush_eq covers, isSum]

/-- A register of zeros has a full sum of zero. -/
theorem fullSum_zeros (zeros : ∀ index, movsumUw.movsum.shiftreg index = 0) :
    movsumUw.fullSum = 0 := by
  unfold fullSum
  apply Finset.sum_eq_zero
  intro j _
  unfold Movsum.entry
  rw [zeros, smul_zero]

/-- No call changes the cover sequence. -/
theorem Covers.step
    (covers : Covers movsumUw)
    (call : Call Value) :
    Covers (movsumUw.step call) ∧
      (movsumUw.step call).uw = movsumUw.uw ∧
      (movsumUw.step call).nRepelem = movsumUw.nRepelem := by
  obtain ⟨isCover, repeats, length, push, pop, posNeg, negPos⟩ := covers
  cases call with
  | reset =>
      exact ⟨⟨isCover, repeats, length, push, pop, posNeg, negPos⟩, rfl, rfl⟩
  | fill values =>
      exact ⟨⟨isCover, repeats, length, push, pop, posNeg, negPos⟩, rfl, rfl⟩
  | resum =>
      exact ⟨⟨isCover, repeats, length, push, pop, posNeg, negPos⟩, rfl, rfl⟩
  | popPush val =>
      exact ⟨⟨isCover, repeats, length, push, pop, posNeg, negPos⟩, rfl, rfl⟩

theorem sum_step
    (covers : Covers movsumUw)
    (isSum : movsumUw.movsum.sum = movsumUw.fullSum)
    (call : Call Value) :
    (movsumUw.step call).movsum.sum = (movsumUw.step call).fullSum := by
  cases call with
  | reset => exact (fullSum_zeros fun _ => rfl).symm
  | fill values =>
      obtain ⟨isCover, repeats, length, push, pop, posNeg, negPos⟩ := covers
      have coversFilled : Covers (movsumUw.fill values) :=
        ⟨isCover, repeats, length, push, pop, posNeg, negPos⟩
      exact sum_resum coversFilled
  | resum => exact sum_resum covers
  | popPush val => exact sum_popPush covers isSum val

theorem sum_run
    (covers : Covers movsumUw)
    (isSum : movsumUw.movsum.sum = movsumUw.fullSum)
    (calls : List (Call Value)) :
    Covers (movsumUw.run calls) ∧
      (movsumUw.run calls).uw = movsumUw.uw ∧
      (movsumUw.run calls).nRepelem = movsumUw.nRepelem ∧
      (movsumUw.run calls).movsum.sum = (movsumUw.run calls).fullSum := by
  induction calls generalizing movsumUw with
  | nil => exact ⟨covers, rfl, rfl, isSum⟩
  | cons call calls hypothesis =>
      obtain ⟨coversStep, sameUw, sameRepelem⟩ := covers.step call
      obtain ⟨coversRun, runUw, runRepelem, isSumRun⟩ :=
        hypothesis coversStep (sum_step covers isSum call)
      exact
        ⟨coversRun, runUw.trans sameUw, runRepelem.trans sameRepelem, isSumRun⟩

/-- Adding anew changes nothing if the sum is full. -/
theorem resum_eq
    (covers : Covers movsumUw)
    (isSum : movsumUw.movsum.sum = movsumUw.fullSum) :
    movsumUw.resum = movsumUw := by
  have isResum := sum_resum covers
  rw [← isSum] at isResum
  unfold resum at isResum ⊢
  dsimp only at isResum ⊢
  rw [isResum]

/-- Values that are all the same have no sign change. -/
theorem getUwChangesIdx_returns
    (uw : List Int)
    (nRepelem : Nat)
    (posNeg : Bool) :
    ∃ changes, getUwChangesIdx uw nRepelem posNeg = .ok changes := by
  have noChange : uw.all (fun x => x = uw.headD 0) = true →
      ∀ i ∈ List.range' 1 (uw.length - 1),
        ¬ (uw.getD (i - 1) 0 = -(if posNeg then 1 else -1) ∧
          uw.getD i 0 = (if posNeg then 1 else -1)) := by
    intro allSame i member
    obtain ⟨lower, upper⟩ := List.mem_range'_1.mp member
    have isHead (index : Nat) (inside : index < uw.length) :
        uw.getD index 0 = uw.headD 0 := by
      rw [List.getD_eq_getElem _ _ inside]
      exact of_decide_eq_true
          (List.all_eq_true.mp allSame _ (List.getElem_mem inside))
    rw [isHead _ (by omega), isHead _ (by omega)]
    cases posNeg <;> simp <;> omega
  unfold getUwChangesIdx
  by_cases allSame : uw.all (fun x => x = uw.headD 0) = true
  · have isEmpty : ((List.range' 1 (uw.length - 1)).filterMap fun i =>
        if uw.getD (i - 1) 0 = -(if posNeg then 1 else -1) ∧
            uw.getD i 0 = (if posNeg then 1 else -1) then
          some (uw.length * nRepelem - i * nRepelem)
        else none) = [] := by
      apply List.filterMap_eq_nil_iff.mpr
      intro i member
      rw [if_neg (noChange allSame i member)]
    dsimp only
    rw [isEmpty]
    simp
  · have notSame : uw.all (fun x => x = uw.headD 0) = false :=
      Bool.eq_false_iff.mpr allSame
    dsimp only
    rw [notSame, Bool.false_and, Bool.not_false, dectnrpAssert_true]
    exact ⟨_, rfl⟩

theorem construct_covers
    {uw : List Int}
    {nRepelem : Nat}
    (isCover : IsCover uw)
    (repeats : 0 < nRepelem)
    (fits : uw.length * nRepelem < 2 ^ 32) :
    ∃ movsumUw : MovsumUw Value,
      construct uw nRepelem = .ok movsumUw ∧
        Covers movsumUw ∧
        movsumUw.uw = uw ∧
        movsumUw.nRepelem = nRepelem ∧
        movsumUw.movsum.sum = movsumUw.fullSum ∧
        movsumUw.movsum.window = List.replicate movsumUw.length 0 := by
  obtain ⟨posNegIdx, posNeg⟩ := getUwChangesIdx_returns uw nRepelem true
  obtain ⟨negPosIdx, negPos⟩ := getUwChangesIdx_returns uw nRepelem false
  have notEmpty : 0 < uw.length := by
    rcases uw with _ | ⟨first, rest⟩
    · cases isCover.last
    · exact Nat.succ_pos rest.length
  have positive : 0 < uw.length * nRepelem := Nat.mul_pos notEmpty repeats
  have isFront : uw.headD 0 = uw.getD 0 0 := by
    rcases uw with _ | ⟨first, rest⟩ <;> rfl
  have isBack : uw.getLastD 0 = 1 := by
    rw [List.getLastD_eq_getLast?, isCover.last]
    rfl
  have unitFront : (uw.headD 0).natAbs = 1 := by
    rw [isFront]
    rcases isCover.isUnit_getD notEmpty with isOne | isMinusOne
    · rw [isOne]
      rfl
    · rw [isMinusOne]
      rfl
  unfold construct
  dsimp only
  rw [posNeg, negPos, isBack, unitFront, Nat.mod_eq_of_lt fits]
  simp only [Checked.ok_bind, decide_true, dectnrpAssert_true,
    Checked.pure_eq_ok]
  rw [dif_pos positive]
  exact ⟨_, rfl, ⟨isCover, repeats, rfl, rfl, isFront, posNeg, negPos⟩, rfl,
      rfl, (fullSum_zeros fun _ => rfl).symm, Movsum.window_reset positive⟩

/-- The window of the register is the one that the call asks for. -/
theorem window_step
    (covers : Covers movsumUw)
    (call : Call Value) :
    (movsumUw.step call).movsum.window =
      call.window movsumUw.length movsumUw.movsum.window := by
  cases call with
  | reset => exact Movsum.window_reset _
  | resum => rfl
  | fill values =>
      change Movsum.window _ = (List.range movsumUw.length).map values
      rw [Movsum.window_eq]
      refine List.map_congr_left fun index isIndex => ?_
      change values ((0 + index) % movsumUw.length) = values index
      have inside : index < movsumUw.length := List.mem_range.mp isIndex
      rw [Nat.zero_add, Nat.mod_eq_of_lt inside]
  | popPush val =>
      have same : (movsumUw.popPush val).movsum.window =
          (movsumUw.movsum.popPush val).window := by
        unfold Movsum.window popPush Movsum.popPush
        rw [covers.push, one_smul]
      exact same.trans (movsumUw.movsum.window_popPush val).2

/-- Along a run the window is the one that the calls ask for. -/
theorem window_run
    (covers : Covers movsumUw)
    (calls : List (Call Value)) :
    (movsumUw.run calls).movsum.window =
      calls.foldl (Call.window movsumUw.length) movsumUw.movsum.window := by
  induction calls generalizing movsumUw with
  | nil => rfl
  | cons call calls hypothesis =>
      obtain ⟨coversStep, sameUw, sameRepelem⟩ := covers.step call
      have sameLength : (movsumUw.step call).length = movsumUw.length := by
        rw [← coversStep.length, sameUw, sameRepelem, covers.length]
      rw [List.foldl_cons, ← window_step covers call, ← sameLength]
      exact hypothesis coversStep

/--
Whatever is done to a moving sum with a cover sequence, its window has the
values that were filled in or pushed last, and its sum is the one of this window
with the weights, so that adding anew changes nothing.
-/
theorem slidingCorrelation
    {uw : List Int}
    {nRepelem : Nat}
    (isCover : IsCover uw)
    (repeats : 0 < nRepelem)
    (fits : uw.length * nRepelem < 2 ^ 32) :
    ∃ movsumUw : MovsumUw Value,
      construct uw nRepelem = .ok movsumUw ∧
        ∀ calls : List (Call Value),
          (movsumUw.run calls).length = uw.length * nRepelem ∧
          (movsumUw.run calls).movsum.window =
            windowAfter (uw.length * nRepelem) calls ∧
          (movsumUw.run calls).movsum.sum =
            ∑ j ∈ Finset.range (uw.length * nRepelem),
              uw.getD (j / nRepelem) 0 •
                (windowAfter (uw.length * nRepelem) calls).getD j 0 ∧
          (movsumUw.run calls).resum = movsumUw.run calls := by
  obtain ⟨movsumUw, constructed, covers, isUw, isRepelem, isSum, isZero⟩ :=
    @construct_covers Value _ uw nRepelem isCover repeats fits
  refine ⟨movsumUw, constructed, ?_⟩
  intro calls
  obtain ⟨coversRun, runUw, runRepelem, isSumRun⟩ := sum_run covers isSum calls
  have isLength := coversRun.length
  have isFirst := covers.length
  rw [isUw, isRepelem] at isFirst
  rw [runUw, runRepelem, isUw, isRepelem] at isLength
  have isWindow : (movsumUw.run calls).movsum.window =
      windowAfter (uw.length * nRepelem) calls := by
    rw [window_run covers calls, isZero, ← isFirst]
    rfl
  refine ⟨isLength.symm, isWindow, ?_, resum_eq coversRun isSumRun⟩
  have sameRange : Finset.range (movsumUw.run calls).length =
      Finset.range (uw.length * nRepelem) := by
    rw [isLength]
  rw [isSumRun]
  unfold fullSum
  rw [sameRange, runUw, runRepelem, isUw, isRepelem]
  refine Finset.sum_congr rfl fun j isIndex => ?_
  have inside := Finset.mem_range.mp isIndex
  rw [isLength] at inside
  have isEntry := Movsum.getElem?_window (movsumUw.run calls).movsum inside
  rw [isWindow] at isEntry
  rw [@List.getD_eq_getElem?_getD _ (windowAfter _ _), isEntry]
  rfl

/-- The cover sequence with two repetitions, over the integers. -/
theorem slidingCorrelation_twice :
    ∃ movsumUw : MovsumUw Int,
      construct [1, -1, 1, 1, -1, -1, 1] 2 = .ok movsumUw ∧
        (movsumUw.run ((List.range 15).map fun k =>
            .popPush (k + 1))).movsum.sum =
          2 + 3 - 4 - 5 + 6 + 7 + 8 + 9 - 10 - 11 - 12 - 13 + 14 + 15 := by
  obtain ⟨movsumUw, constructed, sums⟩ :=
    @slidingCorrelation Int _ [1, -1, 1, 1, -1, -1, 1] 2 ⟨by decide, rfl⟩
      (by decide) (by decide)
  refine ⟨movsumUw, constructed, ?_⟩
  rw [(sums _).2.2.1]
  rfl

end Sums

end MovsumUw

end DectNrp
