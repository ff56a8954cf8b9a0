import CircuitConsole.Decimal.Rounding

/-!
Decimal text of floating-point numbers: with a fixed number of places, and with a number of
significant digits. Both round the exact binary value, ties to the even neighbour.
-/

namespace CircuitConsole.Decimal

def padLeft (width : Nat) (fill : Char) (s : List Char) : List Char :=
  List.replicate (width - s.length) fill ++ s

def pointed (places n : Nat) : List Char :=
  let digits := padLeft (places + 1) '0' (Nat.toDigits 10 n)
  let whole := digits.take (digits.length - places)
  if places = 0 then whole else whole ++ '.' :: digits.drop (digits.length - places)

def signText (plus negative : Bool) : List Char :=
  if negative then ['-'] else if plus then ['+'] else []

def withSign (plus : Bool) (x : Float) (body : Nat → Int → List Char) : String :=
  String.ofList <| match BinaryValue.ofFloat x with
    | .nan => signText plus false ++ ['n', 'a', 'n']
    | .infinite negative => signText plus negative ++ ['i', 'n', 'f']
    | .finite negative mantissa exponent => signText plus negative ++ body mantissa exponent

def fixed (places : Nat) (x : Float) : String :=
  withSign false x fun mantissa exponent =>
    let (num, den) := quotient mantissa exponent
    pointed places (scaled num den places)

def signedFixed (places : Nat) (x : Float) : String :=
  withSign true x fun mantissa exponent =>
    let (num, den) := quotient mantissa exponent
    pointed places (scaled num den places)

def dropZeros (s : List Char) : List Char :=
  if s.contains '.' then
    match s.reverse.dropWhile (· = '0') with
    | '.' :: rest => rest.reverse
    | rest => rest.reverse
  else s

def exponentText (e : Int) : List Char :=
  'e' :: (if e < 0 then '-' else '+') :: padLeft 2 '0' (Nat.toDigits 10 e.natAbs)

/-- The digits of a positive quotient rounded to so many significant ones, and the exponent of the
first. -/
def significant (digits num den : Nat) : Nat × Int :=
  let e := leadingExponent num den
  let n := scaled num den ((digits : Int) - 1 - e)
  if n = Nat.pow 10 digits then (Nat.pow 10 (digits - 1), e + 1) else (n, e)

/-- The shorter of positional and exponential notation at so many significant digits, without
needless zeros. Exponents from -4 up to the number of digits are written positionally. -/
def general (digits : Nat) (x : Float) : String :=
  withSign false x fun mantissa exponent =>
    if mantissa = 0 then ['0']
    else
      let (num, den) := quotient mantissa exponent
      let (n, e) := significant digits num den
      if -4 ≤ e ∧ e < digits then
        let places := (digits : Int) - 1 - e
        dropZeros (pointed places.toNat n)
      else dropZeros (pointed (digits - 1) n) ++ exponentText e

end CircuitConsole.Decimal
