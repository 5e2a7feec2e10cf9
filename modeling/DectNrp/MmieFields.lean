import DectNrp.ClusterBeacon
import DectNrp.MmieCodec

namespace DectNrp

/-!
# Fields of several elements

Channel numbers take thirteen bits of two octets.  The upper three bits are
masked either in the first octet or in the joined word.
-/

namespace FieldFormat

/-- The octets of a channel number. -/
def channelCode (channel : UInt32) : List UInt8 :=
  [(channel >>> 8).toUInt8, (channel &&& 255).toUInt8]

/-- Write a channel number. -/
def writeChannel
    (channel : UInt32)
    (address : Nat)
    (memory : Memory) :
    Memory :=
  (memory.assign address (channel >>> 8)).assign (address + 1)
    (channel &&& 255)

/-- A channel number whose first octet is masked. -/
def channel : FieldFormat UInt32 where
  size := 2
  write := writeChannel
  read address := do
    let upper ← OctetReader.octet address
    let lower ← OctetReader.octet (address + 1)
    pure ((BitFields.extract upper 0 0b11111 <<< 8) ||| lower.toUInt32)
  code := channelCode
  code_length _ := rfl
  write_eq _ _ _ := Memory.assign_assign_next _ _ _ _
  read_within _ _ _ inside :=
    ⟨Nat.lt_of_succ_lt inside, inside, trivial⟩

/-- A channel number that is masked as a whole. -/
def channelMasked : FieldFormat UInt32 where
  size := 2
  write := writeChannel
  read address := do
    let upper ← OctetReader.octet address
    let lower ← OctetReader.octet (address + 1)
    pure (((upper.toUInt32 <<< 8) ||| lower.toUInt32) &&& 0x1FFF)
  code := channelCode
  code_length _ := rfl
  write_eq _ _ _ := Memory.assign_assign_next _ _ _ _
  read_within _ _ _ inside :=
    ⟨Nat.lt_of_succ_lt inside, inside, trivial⟩

@[simp] theorem channel_size :
    channel.size = 2 :=
  rfl

@[simp] theorem channelMasked_size :
    channelMasked.size = 2 :=
  rfl

theorem masked_eq (upper lower : UInt8) :
    ((upper.toUInt32 <<< 8) ||| lower.toUInt32) &&& (0x1FFF : UInt32) =
      (BitFields.extract upper 0 0b11111 <<< 8) ||| lower.toUInt32 := by
  have upperBound := upper.toNat_lt
  have lowerBound := lower.toNat_lt
  have masked :
      (BitFields.extract upper 0 0b11111).toNat = upper.toNat % 32 := by
    simp [BitFields.toNat_extract_5]
  -- either way the upper octet is moved in front of the lower one
  have joined (word : UInt32) (small : word.toNat < 256) :
      ((word <<< 8) ||| lower.toUInt32).toNat =
        word.toNat * 2 ^ 8 + lower.toNat := by
    rw [UInt32.toNat_or, UInt32.toNat_shiftLeft, UInt8.toNat_toUInt32,
      Nat.shiftLeft_eq, Nat.mod_eq_of_lt (by simp; omega)]
    exact BitFields.or_eq_add (Nat.mul_mod_left _ _) lowerBound
  apply UInt32.toNat_inj.mp
  rw [UInt32.toNat_and, joined upper.toUInt32 upperBound,
    joined _ (by omega), masked,
    UInt8.toNat_toUInt32, BitFields.and_eq_mod 13 (by rfl)]
  omega

theorem channelMasked_valueAt
    (memory : Memory)
    (address : Nat) :
    channelMasked.valueAt memory address = channel.valueAt memory address :=
  masked_eq (memory address) (memory (address + 1))

/-- A channel number of thirteen bits is recovered. -/
theorem channel_recovers
    {number : UInt32}
    (inRange : isAbsoluteChannelNumberInRange number = true) :
    channel.Recovers number := by
  intro memory address holds
  obtain ⟨upper, lower⟩ := Memory.holds_cons_cons.mp holds
  have isLower := Memory.holds_singleton.mp lower
  have recovered :=
    ClusterBeaconMessage.channel_recovered
      (ClusterBeaconMessage.channel_le inRange)
  change (BitFields.extract (memory address) 0 0b11111 <<< 8) |||
    (memory (address + 1)).toUInt32 = number
  rw [upper, isLower, UInt32.or_comm, recovered]

theorem channelMasked_recovers
    {number : UInt32}
    (inRange : isAbsoluteChannelNumberInRange number = true) :
    channelMasked.Recovers number := fun memory address holds =>
  (channelMasked_valueAt memory address).trans
    (channel_recovers inRange memory address holds)

/-- Optional channel numbers in range are recovered. -/
theorem channel_in_range_of_any
    {number : Option UInt32}
    (checked :
      ¬ (number.any fun value =>
        ! isAbsoluteChannelNumberInRange value) = true) :
    ∀ value ∈ number, isAbsoluteChannelNumberInRange value = true := by
  intro value isValue
  simpa [Option.mem_def.mp isValue] using checked

/-- A word that passes the check of two octets is recovered. -/
theorem word_recovers_of_not_lt
    {field : UInt32}
    (checked : ¬ 65535 < field) :
    (word 2).Recovers field := by
  apply word_recovers
  rw [UInt32.lt_iff_toNat_lt] at checked
  exact Nat.lt_succ_of_le (Nat.not_lt.mp checked)

/-- What is read from two octets fits into them. -/
theorem word_optionalAt_not_any
    (memory : Memory)
    (address : Nat)
    (included : Bool) :
    ¬ (((word 2).optionalAt memory address included).any
      fun value => 65535 < value) = true := by
  cases included with
  | false => exact Bool.false_ne_true
  | true =>
      have bound := @word_valueAt_lt 2 memory address
      simp only [optionalAt, if_true, Option.any_some, decide_eq_true_eq]
      rw [UInt32.lt_iff_toNat_lt]
      exact Nat.not_lt.mpr (Nat.le_of_lt_succ bound)

/-- A field that may be missing passes a check if it does when included. -/
theorem optionalAt_not_any
    {Field : Type}
    (format : FieldFormat Field)
    (memory : Memory)
    (address : Nat)
    (included : Bool)
    (rejected : Field → Bool) :
    ¬ ((format.optionalAt memory address included).any rejected) = true ↔
      (included = true →
        rejected (format.valueAt memory address) = false) := by
  cases included <;> simp [optionalAt]

/-- As `word_recovers_of_not_lt`, for a field that may be missing. -/
theorem word_recovers_of_any
    {field : Option UInt32}
    (checked : ¬ (field.any fun value => 65535 < value) = true) :
    ∀ value ∈ field, (word 2).Recovers value := by
  intro value isValue
  apply word_recovers_of_not_lt
  simpa [Option.mem_def.mp isValue] using checked

end FieldFormat

end DectNrp
