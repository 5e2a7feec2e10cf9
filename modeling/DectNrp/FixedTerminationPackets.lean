import DectNrp.FixedTermination

namespace DectNrp

/-!
# Packets of the fixed termination point

Every beacon fits into its transport block, and the datagrams of a unicast
packet are attached as long as they fit.  No assertion fails on the way.
-/

open Checked (ok_bind)

namespace P2p

/-- Octets of a beacon that are not padding, with the announced time. -/
def Settings.beaconSize (settings : Settings) : Nat :=
  28 +
    settings.nPt.toNat *
      (if settings.radioDeviceClass.uMin ≤ 4 then 11 else 13)

/-- The elements of the beacon fit into its transport block. -/
def Settings.BeaconFits (settings : Settings) : Prop :=
  ∃ packetSizes,
    Sp3.getPacketSizes settings.psdefBeacon = .ok (some packetSizes) ∧
    settings.beaconSize ≤ packetSizes.nTbByte

/-- An element that is valid and fits is attached. -/
theorem attach_eq_ok
    {nTbByte aCntW size : Nat}
    {mmie : Mmie}
    (isSize : mmie.getPackedSizeOfMmhSdu = .ok size)
    (fits : aCntW + size ≤ nTbByte)
    (valid : mmie.body.contentsValid = true) :
    attach nTbByte mmie aCntW = .ok (aCntW + size) := by
  unfold attach
  rw [isSize, ok_bind, decide_eq_true fits, dectnrpAssert_true,
    ok_bind, valid, dectnrpAssert_true, ok_bind]
  rfl

theorem clusterBeacon_valid
    (settings : Settings)
    (beaconCnt : UInt64) :
    (clusterBeacon settings beaconCnt).body.contentsValid = true := by
  have small : ((beaconCnt % 256).toUInt32).toNat ≤ 255 := by
    rw [UInt64.toNat_toUInt32, UInt64.toNat_mod]
    have bound : beaconCnt.toNat % UInt64.toNat 256 < 256 :=
      Nat.mod_lt _ (by decide)
    have same : beaconCnt.toNat % UInt64.toNat 256 % 2 ^ 32 =
        beaconCnt.toNat % UInt64.toNat 256 :=
      Nat.mod_eq_of_lt (lt_trans bound (by decide))
    omega
  have notLarge : ¬ 255 < (beaconCnt % 256).toUInt32 := by
    rw [UInt32.lt_iff_toNat_lt]
    exact not_lt.mpr small
  unfold clusterBeacon MmieBody.contentsValid ClusterBeaconMessage.isValid
  dsimp only
  rw [if_neg notLarge]
  rfl

theorem clusterBeacon_size
    (settings : Settings)
    (beaconCnt : UInt64) :
    (clusterBeacon settings beaconCnt).getPackedSizeOfMmhSdu = .ok 6 := by
  unfold clusterBeacon Mmie.getPackedSizeOfMmhSdu
  simp [Mmie.construct, MacMultiplexingHeader.getPackedSize,
    Mmie.getPackedSizeOfSdu, ClusterBeaconMessage.getPackedSize,
    ClusterBeaconMessage.construct]
  rfl

theorem translate_size
    {mu : Nat}
    {srdid : UInt32}
    (isShort : srdid.toNat ≤ 65535) :
    (ResourceAllocationIe.translate mu srdid).getPackedSizeOfMmhSdu =
      .ok (if mu ≤ 4 then 11 else 13) := by
  have notLong : decide (0xffff < srdid) = false := by
    rw [decide_eq_false_iff_not, UInt32.lt_iff_toNat_lt]
    exact not_lt.mpr isShort
  have valid :
      (ResourceAllocationIe.translate mu srdid).isValid = .ok true := by
    unfold ResourceAllocationIe.isValid ResourceAllocationIe.translate
    by_cases small : mu ≤ 4
    · simp [ResourceAllocationIe.value,
        ResourceAllocationIe.isAllocationValid, small, notLong,
        Option.any_some]
    · simp [ResourceAllocationIe.value,
        ResourceAllocationIe.isAllocationValid, small, notLong,
        Option.any_some]
  unfold ResourceAllocationIe.getPackedSizeOfMmhSdu
    ResourceAllocationIe.getPackedSize
  rw [valid]
  by_cases small : mu ≤ 4
  · rw [if_pos small]
    simp [ResourceAllocationIe.translate, small]
    rfl
  · rw [if_neg small]
    simp [ResourceAllocationIe.translate, small]
    rfl

theorem attachAllocations_eq_ok
    {settings : Settings}
    {nTbByte aCntW : Nat}
    {contactsVec : List ContactP2p}
    (isShort :
      ∀ contact ∈ contactsVec, contact.shortRadioDeviceId.toNat ≤ 65535)
    (fits :
      aCntW +
          contactsVec.length *
            (if settings.radioDeviceClass.uMin ≤ 4 then 11 else 13) ≤
        nTbByte) :
    contactsVec.foldlM (attachAllocation settings nTbByte) aCntW =
      .ok
        (aCntW +
          contactsVec.length *
            (if settings.radioDeviceClass.uMin ≤ 4 then 11 else 13)) := by
  generalize isSize :
    (if settings.radioDeviceClass.uMin ≤ 4 then 11 else 13) = size
  rw [isSize] at fits
  induction contactsVec generalizing aCntW with
  | nil => simp [pure, Except.pure]
  | cons contact contacts hypothesis =>
      rw [List.length_cons, Nat.succ_mul] at fits ⊢
      rw [List.foldlM_cons]
      have attached : attachAllocation settings nTbByte aCntW contact =
            .ok (aCntW + size) := by
        unfold attachAllocation
        dsimp only
        rw [translate_size (isShort contact List.mem_cons_self), isSize,
          ok_bind, decide_eq_true (by omega), dectnrpAssert_true,
          ok_bind]
        rfl
      rw [attached, ok_bind, hypothesis
          (fun other member => isShort other (List.mem_cons_of_mem _ member))
          (by omega)]
      congr 1
      omega

/-- All elements of the beacon are attached. -/
theorem worksubTxBeaconMacPdu_eq_ok
    {settings : Settings}
    {allocationFt : AllocationFt}
    {contactsVec : List ContactP2p}
    {nTbByte : Nat}
    (target : (⟨settings.powerTargetDBmCoded⟩ : PowerTargetIe).isValid = true)
    (isShort :
      ∀ contact ∈ contactsVec, contact.shortRadioDeviceId.toNat ≤ 65535)
    (isLength : contactsVec.length = settings.nPt.toNat)
    (fits : settings.beaconSize ≤ nTbByte) :
    ∃ aCntW,
      worksubTxBeaconMacPdu settings allocationFt contactsVec nTbByte =
        .ok aCntW := by
  unfold Settings.beaconSize at fits
  unfold worksubTxBeaconMacPdu
  dsimp only
  rw [@attach_eq_ok nTbByte (1 + 7) 6 _
      (clusterBeacon_size settings allocationFt.beaconCnt) (by omega)
      (clusterBeacon_valid settings allocationFt.beaconCnt),
    ok_bind,
    @attach_eq_ok nTbByte (1 + 7 + 6) 2 (powerTarget settings) rfl
      (by omega) target,
    ok_bind]
  have announced : ∀ aCntW ≤ 28, (do
            let aCntW ←
              contactsVec.foldlM (attachAllocation settings nTbByte) aCntW
            dectnrpAssert (aCntW ≤ nTbByte) "transport block too small"
            pure aCntW) =
          (.ok (aCntW + settings.nPt.toNat *
                  (if settings.radioDeviceClass.uMin ≤ 4 then 11 else 13)) :
            Checked Nat) := by
    intro aCntW few
    rw [attachAllocations_eq_ok isShort (by rw [isLength]; omega),
      ok_bind, isLength, decide_eq_true (by omega),
      dectnrpAssert_true]
    rfl
  by_cases full : (allocationFt.beaconCnt %
          allocationFt.nBeaconsPerSecond.toUInt64 == 0) = true
  · rw [if_pos full,
      @attach_eq_ok nTbByte (1 + 7 + 6 + 2) 12 timeAnnounce rfl (by omega) rfl,
      ok_bind]
    exact ⟨_, announced _ (le_refl 28)⟩
  · rw [if_neg full]
    exact ⟨_, announced _ (by omega)⟩

/-- The transport block of a beacon in every class. -/
theorem psdefBeacon_sizes
    {settings : Settings}
    {name : String}
    (isClass : Sp3.getRadioDeviceClass name = .ok settings.radioDeviceClass) :
    ∃ packetSizes,
      Sp3.getPacketSizes settings.psdefBeacon = .ok (some packetSizes) ∧
      157 ≤ packetSizes.nTbByte ∧ packetSizes.nTbByte ≤ 60000 := by
  have listed : ∀ entry ∈ Sp3.radioDeviceClasses, (Sp3.getPacketSizes
            ⟨entry.2.uMin, entry.2.bMin, 1, 2, 0, 2,
              entry.2.zMin⟩).toOption.join.any
          (fun packetSizes =>
            decide (157 ≤ packetSizes.nTbByte ∧
                packetSizes.nTbByte ≤ 60000)) = true := by
    decide +kernel
  unfold Sp3.getRadioDeviceClass at isClass
  split at isClass
  · rename_i found
    cases isClass
    obtain ⟨before, after, split_, -⟩ := List.lookup_eq_some_iff.mp found
    have sized :=
      listed (name, settings.radioDeviceClass)
        (split_ ▸ List.mem_append_right before List.mem_cons_self)
    obtain ⟨packetSizes, isSizes, large⟩ := (Option.any_eq_true _ _).mp sized
    exact ⟨packetSizes,
        Checked.eq_ok_of_toOption (Option.join_eq_some_iff.mp isSizes),
        of_decide_eq_true large⟩
  · cases isClass

theorem userPlaneData_size
    {level : Nat}
    (positive : 0 < level)
    (small : level ≤ 1600) :
    ∃ flow upd headerSize,
      UserPlaneData.setFlowId (.construct .userPlaneData) 1 = .ok flow ∧
      UserPlaneData.setDataSize flow level = .ok upd ∧
      upd.macMultiplexingHeader.getPackedSize = .ok headerSize ∧
      upd.getPackedSizeOfMmhSdu = .ok (headerSize + level) := by
  have isLength : (UInt32.ofNat level).toNat = level :=
    UInt32.toNat_ofNat_of_lt' (lt_of_le_of_lt small (by decide))
  have supported : (decide (0 < level) && decide (level ≤ 65535)) = true := by
    simp only [Bool.and_eq_true, decide_eq_true_eq]
    omega
  have isData (flow : Mmie) : UserPlaneData.setDataSize flow level = .ok
          { flow with
            macMultiplexingHeader :=
              { flow.macMultiplexingHeader with
                macExt :=
                  if level ≤ 255 then .lengthField8Bit
                  else .lengthField16Bit
                length := UInt32.ofNat level } } := by
    unfold UserPlaneData.setDataSize
    rw [supported, dectnrpAssert_true, ok_bind]
    rfl
  by_cases few : level ≤ 255
  · refine ⟨_, _, 2, rfl, isData _, ?_, ?_⟩
    · dsimp only
      rw [if_pos few]
      rfl
    · unfold Mmie.getPackedSizeOfMmhSdu Mmie.getPackedSizeOfSdu
      dsimp only [Mmie.construct]
      rw [if_pos few, isLength]
      rfl
  · refine ⟨_, _, 3, rfl, isData _, ?_, ?_⟩
    · dsimp only
      rw [if_neg few]
      rfl
    · unfold Mmie.getPackedSizeOfMmhSdu Mmie.getPackedSizeOfSdu
      dsimp only [Mmie.construct]
      rw [if_neg few, isLength]
      rfl

theorem packUserPlaneData_eq_ok
    {nTbByte : Nat}
    {readNto : Nat → Bool}
    {levels : List Nat}
    (written : ∀ level ∈ levels, 0 < level ∧ level ≤ 1600)
    (i aCntW : Nat) :
    ∃ behind,
      packUserPlaneData nTbByte readNto i levels aCntW = .ok behind := by
  induction levels generalizing i aCntW with
  | nil => exact ⟨aCntW, rfl⟩
  | cons level levels hypothesis =>
      obtain ⟨positive, small⟩ := written level List.mem_cons_self
      obtain ⟨flow, upd, headerSize, isFlow, isData, isHeader, isSize⟩ :=
        userPlaneData_size positive small
      unfold packUserPlaneData
      rw [isFlow, ok_bind, isData, ok_bind, isSize, ok_bind]
      by_cases full : nTbByte ≤ aCntW + (headerSize + level)
      · rw [if_pos full]
        exact ⟨aCntW, rfl⟩
      · rw [if_neg full, isHeader, ok_bind,
          decide_eq_true (by omega), dectnrpAssert_true, ok_bind]
        by_cases present : readNto i = true
        · rw [if_pos present]
          exact hypothesis (fun other member =>
                written other (List.mem_cons_of_mem _ member))
              (i + 1) _
        · rw [if_neg present]
          exact ⟨aCntW, rfl⟩

theorem getNSamplesFromDuration_bounds
    (sampRate : UInt32)
    (durationEc : DurationEc)
    (mult : UInt32) :
    0 ≤ getNSamplesFromDuration sampRate durationEc mult ∧
      getNSamplesFromDuration sampRate durationEc mult ≤
        2 ^ 32 * mult.toNat := by
  unfold getNSamplesFromDuration
  have few : (sampRate / durationEc.sampRateDivisor).toNat ≤ 2 ^ 32 :=
    le_of_lt (UInt32.toNat_lt _)
  constructor
  · positivity
  · exact_mod_cast Nat.mul_le_mul_right mult.toNat few

/-- A packet is defined in full or not at all. -/
theorem define_eq_ok
    {transmissions : Transmissions}
    (packet : Packet)
    (txTime64 txEarliest64 : Int)
    (lower : 0 ≤ transmissions.txOrderId)
    (upper : transmissions.txOrderId + 1 ≤ int64Max) :
    transmissions.define packet txTime64 txEarliest64 =
      .ok
        ⟨transmissions.txOrderId + 1, txEarliest64,
          transmissions.txDescriptorVec ++
            [⟨packet, transmissions.txOrderId, txTime64⟩]⟩ := by
  unfold Transmissions.define
  rw [int64_eq_ok (by omega) upper, ok_bind]
  rfl

/-- A unicast packet takes the whole opportunity. -/
theorem worksubTxUnicast_eq_ok
    {settings : Settings}
    {txOpportunity : TxOpportunity}
    {transmissions : Transmissions}
    (surroundings : Surroundings)
    (notNegative : 0 ≤ txOpportunity.txTime64)
    (isLong : 0 ≤ txOpportunity.nSamples64)
    (upper : txOpportunity.txTime64 + txOpportunity.nSamples64 ≤ int64Max)
    (idLower : 0 ≤ transmissions.txOrderId)
    (idUpper : transmissions.txOrderId + 1 ≤ int64Max) :
    ∃ after,
      worksubTxUnicast settings surroundings txOpportunity transmissions =
        .ok after ∧
      (after = transmissions ∨
        after =
          ⟨transmissions.txOrderId + 1,
            txOpportunity.txTime64 + txOpportunity.nSamples64,
            transmissions.txDescriptorVec ++
              [⟨.unicast txOpportunity, transmissions.txOrderId,
                txOpportunity.txTime64⟩]⟩) := by
  unfold worksubTxUnicast
  by_cases empty : surroundings.queueLevel.levels.isEmpty = true
  · rw [if_pos empty]
    exact ⟨transmissions, rfl, Or.inl rfl⟩
  · obtain ⟨durationLower, durationUpper⟩ :=
      getNSamplesFromDuration_bounds settings.sampRate .ms001 50
    have fifty : ((50 : UInt32).toNat : Int) = 50 := rfl
    rw [fifty] at durationUpper
    rw [if_neg empty, int64_eq_ok (by omega) (by omega), ok_bind]
    cases surroundings.processTx with
    | none => exact ⟨transmissions, rfl, Or.inl rfl⟩
    | some nTbByte =>
        obtain ⟨behind, isBehind⟩ :=
          packUserPlaneData_eq_ok surroundings.queueLevel.written 0 (1 + 0)
        have isWritten : worksubTxUnicastMacSdu surroundings nTbByte =
              .ok (1 + 0 != behind) := by
          unfold worksubTxUnicastMacSdu
          dsimp only
          rw [isBehind, ok_bind]
          rfl
        dsimp only
        rw [isWritten, ok_bind]
        by_cases written : (1 + 0 != behind) = true
        · unfold TxOpportunity.getEnd
          rw [if_pos written, int64_eq_ok (by omega) upper,
            ok_bind, define_eq_ok _ _ _ idLower idUpper]
          exact ⟨_, rfl, Or.inr rfl⟩
        · rw [if_neg written]
          exact ⟨transmissions, rfl, Or.inl rfl⟩

end P2p

end DectNrp
