import DectNrp.ClusterBeacon

namespace DectNrp

/-!
# Coding of the transmit power

A network beacon announces the transmit power of its clusters by a code.  The
functions that convert between a power and its code share a table of powers,
and the first code of the table is three.

An enumeration holds any value of its underlying type, so that a code is a word
here.
-/

namespace NetworkBeaconMessage

open CodedEnumeration (toUnderlying codes)

/-- The powers in dBm in the order of their codes. -/
def txPowerTable : List Int32 :=
  [-13, -6, -3, 0, 3, 6, 10, 14, 19, 23, 26, 29, 32]

/-- `std::lower_bound`: the first power that is not below. -/
def lowerBound (txPowerDBm : Int32) : Option Int32 :=
  txPowerTable.find? fun entry => decide (txPowerDBm ≤ entry)

/-- The conversion takes the power itself for its code. -/
def clustersMaxTxPowerFromDBm (txPowerDBm : Int32) : UInt32 :=
  match lowerBound txPowerDBm with
  | none => (txPowerTable.getLastD 0).toUInt32
  | some lower => lower.toUInt32

/-- The table is indexed with a check. -/
def clustersMaxTxPowerToDBm (txPowerCoded : UInt32) : Checked Int32 :=
  let i := txPowerCoded - 3
  match txPowerTable[i.toNat]? with
  | some txPowerDBm => .ok txPowerDBm
  | none => .error (.readBeyond i.toNat)

/-- The smallest power of the table that is not below, or the largest one. -/
def RoundedUp
    (txPowerDBm rounded : Int32) :
    Prop :=
  rounded ∈ txPowerTable ∧
    ((txPowerDBm ≤ rounded ∧
        ∀ entry ∈ txPowerTable, txPowerDBm ≤ entry → rounded ≤ entry) ∨
      ((∀ entry ∈ txPowerTable, entry < txPowerDBm) ∧
        ∀ entry ∈ txPowerTable, entry ≤ rounded))

/-- A power is rounded up by its code. -/
def CodesRoundedUp (txPowerDBm : Int32) : Prop :=
  ∃ rounded,
    clustersMaxTxPowerToDBm (clustersMaxTxPowerFromDBm txPowerDBm) =
        .ok rounded ∧
      RoundedUp txPowerDBm rounded

/-- A code is that of its power. -/
def RecoversCode (code : ClustersMaxTxPower) : Prop :=
  ∃ txPowerDBm,
    clustersMaxTxPowerToDBm (toUnderlying code) = .ok txPowerDBm ∧
      clustersMaxTxPowerFromDBm txPowerDBm = toUnderlying code

/-- A power is rounded up in one way only. -/
theorem RoundedUp.unique
    {txPowerDBm first second : Int32}
    (roundedFirst : RoundedUp txPowerDBm first)
    (roundedSecond : RoundedUp txPowerDBm second) :
    first = second := by
  obtain ⟨firstMember, roundedFirst⟩ := roundedFirst
  obtain ⟨secondMember, roundedSecond⟩ := roundedSecond
  rcases roundedFirst with ⟨notBelow, least⟩ | ⟨above, largest⟩
  · rcases roundedSecond with ⟨secondNotBelow, secondLeast⟩ | ⟨above, -⟩
    · exact Int32.le_antisymm (least second secondMember secondNotBelow)
          (secondLeast first firstMember notBelow)
    · exact absurd notBelow (Int32.not_le.mpr (above first firstMember))
  · rcases roundedSecond with ⟨secondNotBelow, -⟩ | ⟨-, secondLargest⟩
    · exact
        absurd secondNotBelow (Int32.not_le.mpr (above second secondMember))
    · exact Int32.le_antisymm (secondLargest first firstMember)
          (largest second secondMember)

theorem txPowerTable_ascending :
    txPowerTable.Pairwise (· ≤ ·) := by
  decide +kernel

theorem clustersMaxTxPowerFromDBm_eq (txPowerDBm : Int32) :
    ∃ rounded,
      RoundedUp txPowerDBm rounded ∧
        clustersMaxTxPowerFromDBm txPowerDBm = rounded.toUInt32 := by
  unfold clustersMaxTxPowerFromDBm
  cases found : lowerBound txPowerDBm with
  | none =>
      have above : ∀ entry ∈ txPowerTable, entry < txPowerDBm := by
        intro entry member
        have notFound := List.find?_eq_none.mp found entry member
        exact Int32.not_le.mp fun notBelow =>
          notFound (decide_eq_true notBelow)
      have largest : ∀ entry ∈ txPowerTable, entry ≤ 32 := by
        intro entry member
        have all : txPowerTable.all fun power => decide (power ≤ 32) := by
          decide +kernel
        exact of_decide_eq_true (List.all_eq_true.mp all entry member)
      exact ⟨32, ⟨by decide +kernel, .inr ⟨above, largest⟩⟩, rfl⟩
  | some lower =>
      obtain ⟨notBelow, before, after, isTable, earlier⟩ :=
        List.find?_eq_some_iff_append.mp found
      have notBelow := of_decide_eq_true notBelow
      have ascending := txPowerTable_ascending
      rw [isTable] at ascending
      refine ⟨lower, ⟨List.mem_of_find?_eq_some found, .inl ⟨notBelow, ?_⟩⟩,
        rfl⟩
      intro entry member above
      rw [isTable] at member
      rcases List.mem_append.mp member with inFront | behind
      · have isEarlier := earlier entry inFront
        rw [decide_eq_true above] at isEarlier
        cases isEarlier
      · rcases List.mem_cons.mp behind with isLower | later
        · exact isLower ▸ Int32.le_refl lower
        · exact
            List.rel_of_pairwise_cons (List.pairwise_append.mp ascending).2.1
              later

theorem clustersMaxTxPowerToDBm_ne
    (txPowerDBm : Int32)
    (isPower : txPowerDBm ∈ txPowerTable) :
    clustersMaxTxPowerToDBm txPowerDBm.toUInt32 ≠ .ok txPowerDBm := by
  have others : txPowerTable.all fun power =>
      decide (clustersMaxTxPowerToDBm power.toUInt32 ≠ .ok power) := by
    decide +kernel
  exact of_decide_eq_true (List.all_eq_true.mp others txPowerDBm isPower)

/-- No power is rounded up. -/
theorem not_codesRoundedUp (txPowerDBm : Int32) :
    ¬CodesRoundedUp txPowerDBm := by
  rintro ⟨rounded, isRounded, roundedUp⟩
  obtain ⟨lower, roundedLower, isCode⟩ :=
    clustersMaxTxPowerFromDBm_eq txPowerDBm
  obtain rfl := roundedUp.unique roundedLower
  rw [isCode] at isRounded
  exact clustersMaxTxPowerToDBm_ne rounded roundedUp.1 isRounded

theorem not_recoversCode (code : ClustersMaxTxPower) :
    ¬RecoversCode code := by
  rintro ⟨txPowerDBm, isPower, isCode⟩
  have member : txPowerDBm ∈ txPowerTable := by
    unfold clustersMaxTxPowerToDBm at isPower
    dsimp only at isPower
    split at isPower
    · rename_i entry found
      cases isPower
      exact List.mem_of_getElem? found
    · cases isPower
  have others : txPowerTable.all fun entry =>
      decide (clustersMaxTxPowerToDBm (clustersMaxTxPowerFromDBm entry) ≠
          .ok entry) := by
    decide +kernel
  rw [← isCode] at isPower
  exact
    of_decide_eq_true (List.all_eq_true.mp others txPowerDBm member) isPower

/--
The power is cast where its code is asked for, so that no power is rounded up
and no code is recovered.
-/
theorem clustersMaxTxPower_neverCodes
    (txPowerDBm : Int32)
    (code : ClustersMaxTxPower) :
    ¬CodesRoundedUp txPowerDBm ∧ ¬RecoversCode code :=
  ⟨not_codesRoundedUp txPowerDBm, not_recoversCode code⟩

/-- The code of the power of 19 dBm has no power. -/
theorem not_clustersMaxTxPower_codes :
    ¬((∀ txPowerDBm, CodesRoundedUp txPowerDBm) ∧
        ∀ code ∈ (codes : List ClustersMaxTxPower), RecoversCode code) :=
  fun codes => not_codesRoundedUp 19 (codes.1 19)

end NetworkBeaconMessage

end DectNrp
