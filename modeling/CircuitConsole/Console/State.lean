import CircuitConsole.Console.Event
import CircuitConsole.Workspace.View

/-!
The state of a console, and what the single commands and statements do to it. An action that fails
may still have had an effect: a failing execution has taken its random numbers.
-/

namespace CircuitConsole

open Simulation

namespace Console

/-- Workspaces by name, the oldest name first. A name tagged again keeps its place. -/
abbrev Tags := List (List Char × Workspace)

namespace Tags

def find? (name : List Char) : Tags → Option Workspace
  | [] => none
  | (n, w) :: rest => if n = name then some w else find? name rest

def insert (name : List Char) (w : Workspace) : Tags → Tags
  | [] => [(name, w)]
  | (n, v) :: rest => if n = name then (n, w) :: rest else (n, v) :: insert name w rest

def erase (name : List Char) : Tags → Tags
  | [] => []
  | (n, w) :: rest => if n = name then rest else (n, w) :: erase name rest

def names (tags : Tags) : List (List Char) := tags.map (·.1)

def text (tags : Tags) : String :=
  if tags = [] then "Tags: (none)"
  else "Tags: " ++ ", ".intercalate (tags.names.map String.ofList)

end Tags

end Console

/-- The workspace at hand, the tagged ones, how many random numbers were drawn, whether the console
goes on, and all events, the latest first. -/
structure Console where
  workspace : Workspace
  tags : Console.Tags
  drawn : Nat
  running : Bool
  events : List Console.Event
  deriving DecidableEq, Repr

namespace Console

/-- What a console finds in the world: files, random numbers, and the room that it has, the usual
one unless something else is said. -/
structure Setting where
  reading : Files.Reading
  draws : Draws Float
  [room : Capacity]

namespace Setting

def within (s : Setting) (room : Capacity) : Setting := { s with room }

def inside (s : Setting) (calls : Nat) : Setting := s.within (s.room.inside calls)

end Setting

def start : Console := ⟨.empty, [], 0, true, []⟩

def emit (e : Event) (c : Console) : Console := { c with events := e :: c.events }

def say (text : String) (c : Console) : Console := c.emit (.output (text ++ "\n"))

def note (n : Note) (c : Console) : Console := c.emit (.note n)

structure Effect where
  console : Console
  failure : Option Failure
  deriving DecidableEq, Repr

def done (c : Console) : Effect := ⟨c, none⟩

def fail (f : Failure) (c : Console) : Effect := ⟨c, some f⟩

def accept (room : Capacity) (text : List Char) (c : Console) : Effect :=
  let acceptance := c.workspace.accept text room
  let c := acceptance.defined.foldl (fun c d => c.note (.defined d)) c
  match acceptance.result with
  | .error fault => c.fail (.statement fault)
  | .ok w =>
    let queued := w.queue.length - c.workspace.queue.length
    ({ c with workspace := w }.note (.queued queued text)).done

def go (s : Setting) (c : Console) : Effect :=
  match c.workspace.execute s.draws c.drawn s.room with
  | (drawn, .error fault) => { c with drawn := drawn }.fail (.execution fault)
  | (drawn, .ok w) =>
    ({ c with workspace := w, drawn := drawn }.note
      (.executed w.queue.length w.quantum.width)).done

def tag (name : List Char) (c : Console) : Effect :=
  ({ c with tags := c.tags.insert name c.workspace }.note (.tagged name)).done

def goto (name : List Char) (c : Console) : Effect :=
  match c.tags.find? name with
  | none => c.fail (.unknownTag name)
  | some w => ({ c with workspace := w }.note (.restoring name)).done

def untag (name : List Char) (c : Console) : Effect :=
  match c.tags.find? name with
  | none => c.fail (.unknownTag name)
  | some _ => ({ c with tags := c.tags.erase name }.note (.untagged name)).done

def View.needsExecution : View → Bool
  | .polar | .probability => true
  | _ => false

def View.render (w : Workspace) (view : View) (room : Capacity := Capacity.usual) :
    Except Overload String :=
  match view with
  | .classical => w.classicalView room
  | .polar => .ok w.polarView
  | .probability => .ok w.probabilityView
  | .queue => .ok w.queueView
  | .names => w.namesView

def display (s : Setting) (view : View) (c : Console) : Effect :=
  if view.needsExecution && c.workspace.dirty then c.fail (.notExecuted view)
  else match view.render c.workspace s.room with
  | .ok text => (c.say text).done
  | .error o => c.fail (.overload o)

end Console

end CircuitConsole
