/-!
Numbers that a simulation computes with, and complex amplitudes made of them. The simulator is
written for any such numbers: it runs on floating-point ones, and is as well defined on exact ones.
-/

namespace CircuitConsole

/-- Real numbers, exact or approximate. `bounded` tells the numbers that have a cosine and a sine,
and `decimal n k` is `n` with its last `k` digits behind the point. -/
class Scalar (R : Type) extends Zero R, One R, Add R, Sub R, Mul R, Div R, Neg R where
  less : R → R → Bool
  sqrt : R → R
  cos : R → R
  sin : R → R
  pi : R
  bounded : R → Bool
  decimal : Nat → Nat → R

instance : Scalar Float where
  zero := 0.0
  one := 1.0
  less x y := x < y
  sqrt := Float.sqrt
  cos := Float.cos
  sin := Float.sin
  pi := 3.141592653589793
  bounded x := !x.isInf
  decimal n k := Float.ofScientific n true k

namespace Scalar

variable {R : Type} [Scalar R]

def two : R := 1 + 1

def half (x : R) : R := x / two

def magnitude (x : R) : R := if less x 0 then -x else x

def cutoff : R := decimal 1 12

/-- A squared norm no farther from one than this is left alone. -/
def normTolerance : R := decimal 1 15

end Scalar

structure Amplitude (R : Type) where
  re : R
  im : R
  deriving DecidableEq, Repr

namespace Amplitude

variable {R : Type} [Scalar R]

instance : Zero (Amplitude R) := ⟨⟨0, 0⟩⟩

instance : One (Amplitude R) := ⟨⟨1, 0⟩⟩

instance : Inhabited (Amplitude R) := ⟨0⟩

instance : Add (Amplitude R) := ⟨fun a b => ⟨a.re + b.re, a.im + b.im⟩⟩

instance : Neg (Amplitude R) := ⟨fun a => ⟨-a.re, -a.im⟩⟩

instance : Mul (Amplitude R) :=
  ⟨fun a b => ⟨a.re * b.re - a.im * b.im, a.re * b.im + a.im * b.re⟩⟩

def real (x : R) : Amplitude R := ⟨x, 0⟩

def imaginary (x : R) : Amplitude R := ⟨0, x⟩

def phase (angle : R) : Amplitude R := ⟨Scalar.cos angle, Scalar.sin angle⟩

def normSq (a : Amplitude R) : R := a.re * a.re + a.im * a.im

def abs (a : Amplitude R) : R := Scalar.sqrt a.normSq

def divide (a : Amplitude R) (x : R) : Amplitude R := ⟨a.re / x, a.im / x⟩

def prune (a : Amplitude R) : Amplitude R :=
  let part (x : R) : R := if Scalar.less (Scalar.magnitude x) Scalar.cutoff then 0 else x
  ⟨part a.re, part a.im⟩

end Amplitude

end CircuitConsole
