/-!
What a floating-point number stands for, in whole numbers.
-/
namespace CodeAppraisal.Decimal

structure Dyadic where
  negative : Bool
  mantissa : Nat
  exponent : Int
  /-- The gap to the next smaller magnitude is half as wide as that to the next larger one. -/
  narrowBelow : Bool
  deriving DecidableEq, Repr

inductive Double where
  | nan
  | infinite (negative : Bool)
  | finite (value : Dyadic)
  deriving DecidableEq, Repr

def Double.ofBits (bits : UInt64) : Double :=
  let negative := bits >>> 63 == 1
  let exponent := ((bits >>> 52) &&& 0x7ff).toNat
  let fraction := (bits &&& 0xfffffffffffff).toNat
  if exponent = 0x7ff then if fraction = 0 then .infinite negative else .nan
  else if exponent = 0 then .finite ⟨negative, fraction, -1074, false⟩
  else .finite ⟨negative, Nat.pow 2 52 + fraction, exponent - 1075, fraction = 0 && exponent > 1⟩

def Double.ofFloat (x : Float) : Double := .ofBits x.toBits

def digits (n : Nat) : List Char := Nat.toDigits 10 n

end CodeAppraisal.Decimal
