import CircuitConsole.Expression.Tree

/-!
Arithmetic of parameter expressions on floating-point numbers, with the cases that have no
result: division by zero, arguments outside a function's domain, and results out of range.
-/

namespace CircuitConsole.Expression

inductive ArithmeticFault where
  | divisionByZero
  | zeroToNegativePower
  | domain
  | range
  | powerRange
  | complexRange
  | wholeNumberRange
  | nullCharacter
  deriving DecidableEq, Repr

def ArithmeticFault.message : ArithmeticFault → String
  | .divisionByZero => "float division by zero"
  | .zeroToNegativePower => "0.0 cannot be raised to a negative power"
  | .domain => "math domain error"
  | .range => "math range error"
  | .powerRange => "(34, 'Numerical result out of range')"
  | .complexRange => "complex exponentiation"
  | .wholeNumberRange => "int too large to convert to float"
  | .nullCharacter => "source code string cannot contain null bytes"

def infinity : Float := 1.0 / 0.0

def pi : Float := 3.141592653589793

def isWhole (x : Float) : Bool := x == x.floor

def isOdd (x : Float) : Bool := isWhole x && !isWhole (x / 2.0)

def signedZero (x : Float) : Float := if x < 0.0 || 1.0 / x < 0.0 then -0.0 else 0.0

def ratio (x y : Float) : Except ArithmeticFault Float :=
  if y == 0.0 then .error .divisionByZero else .ok (x / y)

def powerOfPositive (x y : Float) (negate : Bool) : Except ArithmeticFault Float :=
  if x == 1.0 then .ok (if negate then -1.0 else 1.0)
  else
    let r := x.pow y
    if r.isInf then .error .powerRange else .ok (if negate then -r else r)

/-- A real power, or nothing where the power of a negative number is complex. -/
def raised (x y : Float) : Except ArithmeticFault (Option Float) :=
  if y == 0.0 then .ok (some 1.0)
  else if x.isNaN then .ok (some x)
  else if y.isNaN then .ok (some (if x == 1.0 then 1.0 else y))
  else if y.isInf then
    let a := x.abs
    if a == 1.0 then .ok (some 1.0)
    else .ok (some (if (0.0 < y) == (1.0 < a) then infinity else 0.0))
  else if x.isInf then
    if 0.0 < y then .ok (some (if isOdd y then x else infinity))
    else .ok (some (if isOdd y then signedZero x else 0.0))
  else if x == 0.0 then
    if y < 0.0 then .error .zeroToNegativePower
    else .ok (some (if isOdd y then x else 0.0))
  else if x < 0.0 then
    if isWhole y then (powerOfPositive (-x) y (isOdd y)).map some
    else
      let r := x.abs.pow y
      let phase := pi * y
      if (r * phase.cos).isInf || (r * phase.sin).isInf then .error .complexRange
      else .ok none
  else (powerOfPositive x y false).map some

def circular (f : Float → Float) (x : Float) : Except ArithmeticFault Float :=
  if x.isInf then .error .domain else .ok (f x)

def exponential (x : Float) : Except ArithmeticFault Float :=
  let r := x.exp
  if r.isInf && !x.isInf then .error .range else .ok r

def logarithm (x : Float) : Except ArithmeticFault Float :=
  if x.isNaN then .ok x
  else if x ≤ 0.0 then .error .domain
  else .ok x.log

def squareRoot (x : Float) : Except ArithmeticFault Float :=
  if x < 0.0 then .error .domain else .ok x.sqrt

def function? (name : String) : Option (Float → Except ArithmeticFault Float) :=
  match name with
  | "sin" => some (circular Float.sin)
  | "cos" => some (circular Float.cos)
  | "tan" => some (circular Float.tan)
  | "exp" => some exponential
  | "ln" => some logarithm
  | "sqrt" => some squareRoot
  | _ => none

end CircuitConsole.Expression
