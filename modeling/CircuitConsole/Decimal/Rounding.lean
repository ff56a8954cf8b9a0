/-!
Decimal numbers and floating-point ones. Everything printed is rounded here, on whole numbers; what
is read, a whole number of digits with a power of ten, becomes the nearest floating-point number.
Of two equally near numbers the even one is taken.
-/

namespace CircuitConsole.Decimal

/-- The integer nearest to `num / den`; of two equally near, the even one. -/
def roundDiv (num den : Nat) : Nat :=
  let q := num / den
  let r := num % den
  if 2 * r < den then q
  else if den < 2 * r then q + 1
  else if q % 2 = 0 then q else q + 1

def digitCount (n : Nat) : Nat := (Nat.toDigits 10 n).length

inductive BinaryValue where
  | nan
  | infinite (negative : Bool)
  | finite (negative : Bool) (mantissa : Nat) (exponent : Int)
  deriving DecidableEq, Repr

def BinaryValue.ofFloat (x : Float) : BinaryValue :=
  let bits : Nat := x.toBits.toNat
  let negative := bits / Nat.pow 2 63 == 1
  let exponent : Nat := bits / Nat.pow 2 52 % Nat.pow 2 11
  let fraction := bits % Nat.pow 2 52
  if exponent = 2047 then (if fraction = 0 then .infinite negative else .nan)
  else if exponent = 0 then .finite negative fraction (-1074)
  else .finite negative (fraction + Nat.pow 2 52) ((exponent : Int) - 1075)

def quotient (mantissa : Nat) (exponent : Int) : Nat × Nat :=
  let power := Nat.pow 2 exponent.natAbs
  if exponent < 0 then (mantissa, power) else (mantissa * power, 1)

def scaled (num den : Nat) (power : Int) : Nat :=
  let factor := Nat.pow 10 power.natAbs
  if power < 0 then roundDiv num (den * factor) else roundDiv (num * factor) den

/-- The exponent of the greatest power of ten that is at most `num / den`, both positive. -/
def leadingExponent (num den : Nat) : Int :=
  let guess : Int := (digitCount num : Int) - digitCount den
  let factor := Nat.pow 10 guess.natAbs
  let reached := if guess < 0 then den ≤ num * factor else den * factor ≤ num
  if reached then guess else guess - 1

structure Scientific where
  digits : Nat
  exponent : Int
  deriving DecidableEq, Repr

def greatestPower : Int := 310

def leastPower : Int := -330

def Scientific.toFloat (s : Scientific) : Float :=
  let magnitude := (digitCount s.digits : Int) + s.exponent
  if s.digits = 0 then 0.0
  else if greatestPower < magnitude then 1.0 / 0.0
  else if magnitude < leastPower then 0.0
  else Float.ofScientific s.digits (s.exponent < 0) s.exponent.natAbs

/-- The least whole number that rounds beyond the floating-point range. -/
def naturalBound : Nat := Nat.pow 2 1024 - Nat.pow 2 970

def naturalToFloat? (n : Nat) : Option Float :=
  if naturalBound ≤ n then none else some (Float.ofScientific n false 0)

end CircuitConsole.Decimal
