import DectNrp.Octets

namespace DectNrp

/-!
# Coded enumerations

Fields of MAC messages are scoped enumerations over 32-bit words.  Next to the
codes they transmit they declare `not_defined`, `upper` and sometimes `lower`,
which bound the codes without being codes themselves.
-/

/-- An enumeration whose codes lie strictly between two of its members. -/
class CodedEnumeration (Enumerated : Type) where
  /-- `std::to_underlying`. -/
  toUnderlying : Enumerated → UInt32
  notDefined : Enumerated
  lower : Option Enumerated
  upper : Enumerated
  /-- The members that are codes. -/
  codes : List Enumerated

namespace CodedEnumeration

variable
    {Enumerated : Type}
    [CodedEnumeration Enumerated]

/-- The member with a given value, as `static_cast` selects it. -/
def staticCast (value : UInt32) : Enumerated :=
  (codes.find? fun code => toUnderlying code == value).getD notDefined

/-- The member that is transmitted as a value. -/
def fromCodedValue (value : UInt32) : Enumerated :=
  match (lower : Option Enumerated) with
  | some lowerMember =>
      if toUnderlying lowerMember < value ∧
          value < toUnderlying (upper : Enumerated) then
        staticCast value
      else
        notDefined
  | none =>
      if value < toUnderlying (upper : Enumerated) then
        staticCast value
      else
        notDefined

/-- A member is valid if it is none of the bounding ones. -/
def isValid
    [DecidableEq Enumerated]
    (value : Enumerated) :
    Bool :=
  if value = notDefined then false
  else if (lower : Option Enumerated) = some value then false
  else if value = upper then false
  else true

/-- A member fits into a field and is recovered from its value. -/
abbrev Recovers
    [DecidableEq Enumerated]
    (width : Nat)
    (value : Enumerated) :
    Prop :=
  (toUnderlying value).toNat < 2 ^ width ∧
    fromCodedValue (toUnderlying value) = value

end CodedEnumeration

end DectNrp
