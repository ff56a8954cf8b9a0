import CircuitConsole.Proofs.Statement.Drafts
import CircuitConsole.Proofs.Statement.Meanings

/-!
Statements that repeat something in turns. Statements of one turn each, one after the other, queue
what a statement queues that goes through all the turns, and fail exactly if it fails.
-/

namespace CircuitConsole.Statement

/-- The size that all arguments of more than one bit have, and one if there are none. -/
structure CommonWidth (spans : List Span) (width : Nat) : Prop where
  common : ∀ s ∈ spans, 1 < s.size → s.size = width
  least : (∀ s ∈ spans, s.size ≤ 1) → width = 1

theorem CommonWidth.broadcastWidth_eq {spans : List Span} {width : Nat}
    (h : CommonWidth spans width) : broadcastWidth spans = .ok width := by
  have hwide : ∀ n ∈ (spans.map (·.size)).filter (1 < ·), n = width := by
    intro n hn
    obtain ⟨hn, hwide⟩ := List.mem_filter.mp hn
    obtain ⟨s, hs, rfl⟩ := List.mem_map.mp hn
    exact h.common s hs (by simpa using hwide)
  unfold broadcastWidth
  cases hsizes : (spans.map (·.size)).filter (1 < ·) with
  | nil =>
    have hleast : ∀ s ∈ spans, s.size ≤ 1 := by simpa [List.filter_eq_nil_iff] using hsizes
    rw [h.least hleast]
  | cons size sizes =>
    rw [hsizes] at hwide
    obtain ⟨rfl, hlater⟩ := List.forall_mem_cons.mp hwide
    have hall : sizes.all (· = size) = true := by simpa using hlater
    dsimp only
    rw [if_pos hall]

theorem CommonWidth.broadcast_eq {spans : List Span} {width : Nat} (h : CommonWidth spans width) :
    broadcast spans = .ok ((List.range width).map fun i => spans.map (·.at i)) := by
  unfold broadcast
  rw [h.broadcastWidth_eq]
  rfl

theorem CommonWidth.pos {spans : List Span} {width : Nat} (h : CommonWidth spans width) :
    0 < width := by
  by_cases hwide : ∃ s ∈ spans, 1 < s.size
  · obtain ⟨s, hs, hsize⟩ := hwide
    have hwidth := h.common s hs hsize
    omega
  · push Not at hwide
    rw [h.least hwide]
    exact Nat.one_pos

theorem CommonWidth.lt {spans : List Span} {width : Nat} (h : CommonWidth spans width) {s : Span}
    (hs : s ∈ spans) (hsize : 1 < s.size) {i : Nat} (hi : i < width) : i < s.size := by
  rwa [h.common s hs hsize]

namespace Draft

variable {d : Draft} {κ β : Type} {turns : List κ} {text : κ → List Char} {room : Capacity}

/-- Statements each of which queues the instructions of its turn. -/
theorem worked_turns {condition : Option Condition}
    {part : κ → Except Fault (List (Instruction Float))}
    (h : ∀ k ∈ turns, ∀ queue, { d with queue }.statement (text k) (room.inside 1) =
      (part k).map ({ d with queue }.enqueue condition)) :
    d.worked (turns.map text) room =
      ((turns.mapM part).map fun parts => d.enqueue condition parts.flatten).toOption := by
  induction turns generalizing d with
  | nil => exact congrArg some (d.enqueue_nil condition).symm
  | cons k turns ih =>
    obtain ⟨hk, hturns⟩ := List.forall_mem_cons.mp h
    rw [List.map_cons, worked_cons, List.mapM_cons,
      show d.statement (text k) (room.inside 1) = _ from hk d.queue]
    cases part k with
    | error fault => rfl
    | ok instructions =>
      have hlater := ih (d := d.enqueue condition instructions) fun k hk queue => hturns k hk queue
      change (d.enqueue condition instructions).worked (turns.map text) room = _
      rw [hlater]
      cases turns.mapM part with
      | error fault => rfl
      | ok parts => exact congrArg some (d.enqueue_append condition instructions parts.flatten)

/-- Statements that find out the same first, and then queue the instructions of their turn. Where
they find nothing, the first of them fails. -/
theorem worked_repeated {found : Except Fault β} {condition : β → Option Condition}
    {part : β → κ → Except Fault (List (Instruction Float))} (hne : turns ≠ [])
    (h : ∀ k ∈ turns, ∀ queue, { d with queue }.statement (text k) (room.inside 1) =
      found >>= fun b => (part b k).map ({ d with queue }.enqueue (condition b))) :
    d.worked (turns.map text) room = (found >>= fun b =>
      (turns.mapM (part b)).map fun parts => d.enqueue (condition b) parts.flatten).toOption := by
  cases found with
  | ok b => exact worked_turns h
  | error fault =>
    obtain ⟨k, later, rfl⟩ := List.exists_cons_of_ne_nil hne
    have hk : d.statement (text k) (room.inside 1) = .error fault :=
      h k (List.mem_cons_self ..) d.queue
    rw [List.map_cons, worked_cons, hk]
    rfl

end Draft

end CircuitConsole.Statement
