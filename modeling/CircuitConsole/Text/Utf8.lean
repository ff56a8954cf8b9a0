/-!
Reading UTF-8. A text is the shortest-form encoding of Unicode characters without surrogates;
the first place where bytes break that rule is reported with what is wrong there.
-/

namespace CircuitConsole.Text

inductive Utf8Fault where
  | invalidStart (byte position : Nat)
  | invalidContinuation (byte first last : Nat)
  | unexpectedEnd (byte first last : Nat)
  deriving DecidableEq, Repr

def secondRange (lead : Nat) : Nat × Nat :=
  if lead = 0xE0 then (0xA0, 0xBF)
  else if lead = 0xED then (0x80, 0x9F)
  else if lead = 0xF0 then (0x90, 0xBF)
  else if lead = 0xF4 then (0x80, 0x8F)
  else (0x80, 0xBF)

def followers? (lead : Nat) : Option Nat :=
  if lead < 0x80 then some 0
  else if 0xC2 ≤ lead && lead < 0xE0 then some 1
  else if 0xE0 ≤ lead && lead < 0xF0 then some 2
  else if 0xF0 ≤ lead && lead < 0xF5 then some 3
  else none

def leadValue (lead : Nat) : Nat :=
  if lead < 0x80 then lead
  else if lead < 0xE0 then lead - 0xC0
  else if lead < 0xF0 then lead - 0xE0
  else lead - 0xF0

/-- Reads on at a byte position. Between characters `expected` is zero. Inside one, `lead` and
`start` are its leading byte and place, `value` what has been read of it, `expected` the bytes
still to come and `second` the range of the next. -/
def decodeFrom (position expected lead start value : Nat) (second : Nat × Nat) :
    List UInt8 → Except Utf8Fault (List Char)
  | [] =>
    if expected = 0 then .ok [] else .error (.unexpectedEnd lead start (position - 1))
  | byte :: rest =>
    let b := byte.toNat
    if expected = 0 then
      match followers? b with
      | none => .error (.invalidStart b position)
      | some 0 =>
        (decodeFrom (position + 1) 0 0 0 0 (0x80, 0xBF) rest).map (Char.ofNat b :: ·)
      | some n => decodeFrom (position + 1) n b position (leadValue b) (secondRange b) rest
    else if second.1 ≤ b && b ≤ second.2 then
      let value := value * 64 + (b - 0x80)
      if expected = 1 then
        (decodeFrom (position + 1) 0 0 0 0 (0x80, 0xBF) rest).map (Char.ofNat value :: ·)
      else decodeFrom (position + 1) (expected - 1) lead start value (0x80, 0xBF) rest
    else .error (.invalidContinuation lead start (position - 1))

def decodeUtf8 (bytes : List UInt8) : Except Utf8Fault (List Char) :=
  decodeFrom 0 0 0 0 0 (0x80, 0xBF) bytes

end CircuitConsole.Text
