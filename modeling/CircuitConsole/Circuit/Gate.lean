/-!
The built-in gates: their names, and how many parameters and qubits each takes. Some have several
names, under which they are queued and shown as written.
-/

namespace CircuitConsole

inductive Gate where
  | id | x | y | z | h | s | sdg | t | tdg | sx
  | rx | ry | rz | p | u1 | u2 | u3 | u | U
  | cx | CX | cy | cz | ch | cp | cu1 | crx | cry | crz
  | swap | iswap | rxx | ryy | rzz | ccx | cswap
  deriving DecidableEq, Repr

namespace Gate

def all : List Gate := [
  .id, .x, .y, .z, .h, .s, .sdg, .t, .tdg, .sx,
  .rx, .ry, .rz, .p, .u1, .u2, .u3, .u, .U,
  .cx, .CX, .cy, .cz, .ch, .cp, .cu1, .crx, .cry, .crz,
  .swap, .iswap, .rxx, .ryy, .rzz, .ccx, .cswap]

def name : Gate → String
  | .id => "id" | .x => "x" | .y => "y" | .z => "z" | .h => "h"
  | .s => "s" | .sdg => "sdg" | .t => "t" | .tdg => "tdg" | .sx => "sx"
  | .rx => "rx" | .ry => "ry" | .rz => "rz" | .p => "p" | .u1 => "u1"
  | .u2 => "u2" | .u3 => "u3" | .u => "u" | .U => "U"
  | .cx => "cx" | .CX => "CX" | .cy => "cy" | .cz => "cz" | .ch => "ch"
  | .cp => "cp" | .cu1 => "cu1" | .crx => "crx" | .cry => "cry" | .crz => "crz"
  | .swap => "swap" | .iswap => "iswap" | .rxx => "rxx" | .ryy => "ryy" | .rzz => "rzz"
  | .ccx => "ccx" | .cswap => "cswap"

def ofName? (s : String) : Option Gate := all.find? fun g => g.name = s

def parameterCount : Gate → Nat
  | .rx | .ry | .rz | .p | .u1 | .cp | .cu1 | .crx | .cry | .crz | .rxx | .ryy | .rzz => 1
  | .u2 => 2
  | .u3 | .u | .U => 3
  | _ => 0

def controlCount : Gate → Nat
  | .cx | .CX | .cy | .cz | .ch | .cp | .cu1 | .crx | .cry | .crz | .cswap => 1
  | .ccx => 2
  | _ => 0

def targetCount : Gate → Nat
  | .swap | .iswap | .rxx | .ryy | .rzz | .cswap => 2
  | _ => 1

def qubitCount (g : Gate) : Nat := g.controlCount + g.targetCount

end Gate

end CircuitConsole
