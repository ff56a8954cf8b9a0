import CircuitConsole.Expression.Token
import CircuitConsole.Text.Integer

/-!
Numerals of parameter expressions: whole numbers in base two, eight, ten and sixteen, decimal
fractions with exponents, and imaginary numbers. Single underscores may stand between digits.
-/

namespace CircuitConsole.Expression

open Decimal Text

def isHexDigit (c : Char) : Bool :=
  isAsciiDigit c || ('a' ≤ c && c ≤ 'f') || ('A' ≤ c && c ≤ 'F')

def hexValue (c : Char) : Nat :=
  if isAsciiDigit c then c.toNat - 48
  else if 'a' ≤ c then c.toNat - 87
  else c.toNat - 55

def digitTail (digit : Char → Bool) : List Char → Option (List Char × List Char)
  | [] => some ([], [])
  | ['_'] => none
  | '_' :: c :: rest =>
    if digit c then (digitTail digit rest).map fun (ds, r) => (c :: ds, r) else none
  | c :: rest =>
    if digit c then (digitTail digit rest).map fun (ds, r) => (c :: ds, r)
    else some ([], c :: rest)

def continuesName (c : Char) : Bool :=
  isAsciiLetter c || isAsciiDigit c || c == '_' || 128 ≤ c.toNat

/-- A numeral does not run into a name, but a reserved word may follow without a blank. -/
def numeralEnds : List Char → Bool
  | 'a' :: 'n' :: 'd' :: _ => true
  | 'e' :: 'l' :: 's' :: 'e' :: _ => true
  | 'f' :: 'o' :: 'r' :: _ => true
  | 'i' :: 'f' :: _ => true
  | 'i' :: 'n' :: _ => true
  | 'i' :: 's' :: _ => true
  | 'n' :: 'o' :: 't' :: _ => true
  | 'o' :: 'r' :: _ => true
  | c :: _ => !continuesName c
  | [] => true

def finishNumeral (token : Token) (rest : List Char) : Option (Token × List Char) :=
  if numeralEnds rest then some (token, rest) else none

def basedNumeral? (base : Nat) (digit : Char → Bool) (s : List Char) :
    Option (Token × List Char) :=
  let s := match s with
    | '_' :: rest => rest
    | _ => s
  if s.head? = some '_' then none
  else match digitTail digit s with
  | some (c :: ds, rest) =>
    finishNumeral (.natural ((c :: ds).foldl (fun n d => base * n + hexValue d) 0)) rest
  | _ => none

def decimalNatural (digits : List Char) : Nat :=
  digits.foldl (fun n c => 10 * n + (c.toNat - 48)) 0

/-- What follows the mantissa: an exponent, the mark of an imaginary number, or neither. A whole
number with a leading zero is zero, and no other has more digits than are read. -/
def finishDecimal (whole places : List Char) (pointed : Bool) (s : List Char) :
    Option (Token × List Char) :=
  let mantissa := decimalNatural (whole ++ places)
  let scientific (e : Int) : Scientific := ⟨mantissa, e - places.length⟩
  let withExponent (negative : Bool) (s : List Char) : Option (Token × List Char) :=
    match digitTail isAsciiDigit s with
    | none => none
    | some (ds, 'j' :: rest) => if ds = [] then none else finishNumeral .imaginary rest
    | some (ds, 'J' :: rest) => if ds = [] then none else finishNumeral .imaginary rest
    | some (ds, rest) =>
      let e : Int := decimalNatural ds
      finishNumeral (.decimal (scientific (if negative then -e else e))) rest
  let plain (s : List Char) : Option (Token × List Char) :=
    if pointed then finishNumeral (.decimal (scientific 0)) s
    else if whole.head? = some '0' && whole.any (· ≠ '0') then none
    else if mantissa ≠ 0 && digitLimit < whole.length then none
    else finishNumeral (.natural mantissa) s
  match s with
  | [] => plain []
  | 'j' :: rest => finishNumeral .imaginary rest
  | 'J' :: rest => finishNumeral .imaginary rest
  | c :: rest =>
    if c = 'e' || c = 'E' then
      match rest with
      | d :: rest' =>
        if isAsciiDigit d then withExponent false rest
        else if d = '+' || d = '-' then
          if rest'.head?.any isAsciiDigit then withExponent (d = '-') rest' else none
        else plain s
      | [] => plain s
    else plain s

def numeral? (s : List Char) : Option (Token × List Char) :=
  match s with
  | '0' :: 'x' :: rest => basedNumeral? 16 isHexDigit rest
  | '0' :: 'X' :: rest => basedNumeral? 16 isHexDigit rest
  | '0' :: 'o' :: rest => basedNumeral? 8 (fun c => '0' ≤ c && c ≤ '7') rest
  | '0' :: 'O' :: rest => basedNumeral? 8 (fun c => '0' ≤ c && c ≤ '7') rest
  | '0' :: 'b' :: rest => basedNumeral? 2 (fun c => c = '0' || c = '1') rest
  | '0' :: 'B' :: rest => basedNumeral? 2 (fun c => c = '0' || c = '1') rest
  | '.' :: rest => do
    let (places, rest) ← digitTail isAsciiDigit rest
    finishDecimal [] places true rest
  | _ => do
    let (whole, rest) ← digitTail isAsciiDigit s
    match rest with
    | '.' :: c :: rest' =>
      if isAsciiDigit c then
        let (places, rest) ← digitTail isAsciiDigit (c :: rest')
        finishDecimal whole places true rest
      else finishDecimal whole [] true (c :: rest')
    | ['.'] => finishDecimal whole [] true []
    | _ => finishDecimal whole [] false rest

end CircuitConsole.Expression
