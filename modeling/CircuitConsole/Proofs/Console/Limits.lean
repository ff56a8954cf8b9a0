import CircuitConsole.Proofs.Console.EarlierEvents
import CircuitConsole.Proofs.Console.Tallies

/-!
Limits on nesting. A load or loop with no level left to open fails, and so does a text for whose
expressions or definitions there is not enough room. Such a failure is handed up until it is
reported, or stops the console. So it can be told from the reports whether lines met a limit, and
lines that did not are carried out just as well where there is more room, or one level more.
-/

namespace CircuitConsole.Console

open Simulation

/-- What was nested too deep: what a text says, and loads and loops, if their cap counts. -/
def Failure.isDeep (cap : Bool) : Failure → Bool
  | .statement fault => fault.isCramped
  | .tooDeep _ => cap
  | _ => false

def Event.isDeep (cap : Bool) : Event → Bool
  | .report _ f => f.isDeep cap
  | _ => false

/-- What did not meet a limit: it neither failed for it nor reported it. -/
structure Within (cap : Bool) (c : Console) (e : Effect) : Prop where
  failure : ∀ f, e.failure = some f → f.isDeep cap = false
  tally : e.console.tally (Event.isDeep cap) = c.tally (Event.isDeep cap)

/-- A level that does what another does, where that does not meet a limit. -/
structure Level.Extends (cap : Bool) (l' l : Level) : Prop where
  consume : ∀ reader line c, Within cap c (l.consume reader line c).effect →
    l'.consume reader line c = l.consume reader line c
  run : ∀ commands c, Within cap c (l.run commands c).effect →
    l'.run commands c = l.run commands c

/-- The same of the levels below, where there is one, and where there is no less room. One may be
there that the other lacks, if the cap counts. -/
structure ExtendsBelow (cap : Bool) (s : Setting) (below' below : Option (Setting → Level)) :
    Prop where
  orderly : ∀ l, below = some l → ∀ room : Capacity,
    (l (s.within room)).Orderly s.draws room.noCalls anyLine
  level : ∀ l, below = some l → ∃ l', below' = some l' ∧ ∀ room room' : Capacity,
    room ≤ room' → (l' (s.within room')).Extends cap (l (s.within room))
  bottom : below = none → below' = none ∨ cap = true

theorem tally_after (kind : Event → Bool) (earlier : List Event) (c : Console) :
    (c.after earlier).tally kind = c.tally kind + earlier.countP kind :=
  List.countP_append

/-- Whether a limit is met does not depend on earlier events. -/
theorem Within.after {cap : Bool} {c : Console} {e : Effect} {earlier : List Event}
    (h : Within cap (c.after earlier) (e.after earlier)) (other : List Event) :
    Within cap (c.after other) (e.after other) := by
  refine ⟨h.failure, ?_⟩
  have htally := h.tally
  simp only [Effect.after, tally_after] at htally ⊢
  omega

section Parts

variable {draws : Draws Float} {least : Capacity} {cap : Bool} {c : Console} {e e' : Effect}

/-- Where neither of two parts met a limit, the first did not and the second did not. -/
theorem Within.parts (h : Within cap c e') (hfirst : Course draws least anyLine c e)
    (hok : e.failure = none) (hsecond : Course draws least anyLine e.console e') :
    Within cap c e ∧ Within cap e.console e' := by
  obtain ⟨htally, htally'⟩ := tally_between hfirst.steps hsecond.steps h.tally
  refine ⟨⟨fun f hf => ?_, htally⟩, ⟨h.failure, htally'⟩⟩
  rw [hok] at hf
  cases hf

theorem rounds_extends {body body' : Console → Effect}
    (hbody : ∀ c, Course draws least anyLine c (body c))
    (hsame : ∀ c, Within cap c (body c) → body' c = body c) {n : Nat} {c : Console}
    (h : Within cap c (rounds body n c)) : rounds body' n c = rounds body n c := by
  induction n generalizing c with
  | zero => rfl
  | succ n ih =>
    unfold rounds at h ⊢
    by_cases hrun : c.running
    · simp only [hrun, if_true] at h ⊢
      cases hf : (body c).failure with
      | none =>
        simp only [hf] at h
        obtain ⟨hfirst, hrest⟩ := h.parts (hbody c) hf (rounds_course hbody n _)
        simp only [hsame c hfirst, hf]
        exact ih hrest
      | some f =>
        simp only [hf] at h
        simp only [hsame c h, hf]
    · simp only [hrun]
      rfl

/-- A way to meet failures by which no report is lost and no limit is passed over. -/
structure RecoversWithin (draws : Draws Float) (least : Capacity) (cap : Bool)
    (recover : Nat → Failure → Console → Effect) : Prop where
  course : ∀ number {c e f}, Course draws least anyLine c e → e.failure = some f →
    Course draws least anyLine c (recover number f e.console)
  steps : ∀ number f c, Steps draws c (recover number f c).console
  within : ∀ number f c, Within cap c (recover number f c) → f.isDeep cap = false

theorem fail_recoversWithin : RecoversWithin draws least cap (fun _ f c => c.fail f) where
  course _ _ _ _ := handOn_course
  steps _ _ _ := .refl
  within _ f _ h := h.failure f rfl

theorem reportAt_steps (path : List Char) (number : Nat) (f : Failure) (c : Console) :
    Steps draws c (reportAt path number f c).console := by
  unfold reportAt
  split
  · exact steps_emit draws _ c
  · exact .refl

theorem reportAt_recoversWithin (path : List Char) :
    RecoversWithin draws least cap (reportAt path) where
  course number _ _ _ := reportAt_course path number
  steps := reportAt_steps path
  within number f c h := by
    unfold reportAt at h
    split at h
    · by_contra hdeep
      have hreported : (c.emit (.report (some ⟨path, number⟩) f)).tally (Event.isDeep cap) =
          c.tally (Event.isDeep cap) + 1 :=
        List.countP_cons_of_pos (Bool.eq_true_of_not_eq_false hdeep)
      exact absurd (hreported.symm.trans h.tally) (Nat.succ_ne_self _)
    · exact h.failure f rfl

/-- A line that was met within the limits had not failed for one. -/
theorem meet_within {recover : Nat → Failure → Console → Effect}
    (hrecover : RecoversWithin draws least cap recover) {number : Nat} {p : Progress}
    (hp : Course draws least anyLine c p.effect) (h : Within cap c (p.meet recover number)) :
    Within cap c p.effect := by
  unfold Progress.meet at h
  cases hf : p.failure with
  | none =>
    simp only [hf] at h
    simpa only [Progress.effect, hf, done] using h
  | some f =>
    simp only [hf] at h
    obtain ⟨htally, htally'⟩ := tally_between hp.steps (hrecover.steps number f _) h.tally
    refine ⟨fun g hg => ?_, htally⟩
    obtain rfl : f = g := Option.some.inj (hf.symm.trans hg)
    exact hrecover.within number f _ ⟨h.failure, htally'⟩

theorem consume_course {l : Level} (hl : l.Orderly draws least anyLine) (reader : Reader)
    (line : Line) (c : Console) :
    Course draws least anyLine c (l.consume reader line c).effect :=
  hl.consume c reader.holds_any trivial

theorem readLines_course {l : Level} (hl : l.Orderly draws least anyLine)
    {recover : Nat → Failure → Console → Effect}
    (hrecover : RecoversWithin draws least cap recover)
    {number : Nat} {reader : Reader} {lines : List Line} {c : Console} :
    Course draws least anyLine c (l.readAll recover number reader lines c).effect :=
  readAll_course hl hrecover.course number reader.holds_any (fun _ _ => trivial) c

theorem readAll_extends {l l' : Level} (hl : l.Orderly draws least anyLine)
    (hsame : l'.Extends cap l) {recover : Nat → Failure → Console → Effect}
    (hrecover : RecoversWithin draws least cap recover)
    {number : Nat} {reader : Reader} {lines : List Line} {c : Console}
    (h : Within cap c (l.readAll recover number reader lines c).effect) :
    l'.readAll recover number reader lines c = l.readAll recover number reader lines c := by
  induction lines generalizing number reader c with
  | nil => rfl
  | cons line lines ih =>
    rw [readAll_cons] at h ⊢
    rw [readAll_cons]
    by_cases hrun : c.running
    · simp only [hrun, if_true] at h ⊢
      have hline := consume_course hl reader line c
      have hmet := meet_course hrecover.course number hline
      cases hf : ((l.consume reader line c).meet recover number).failure with
      | none =>
        simp only [hf] at h
        obtain ⟨hfirst, hrest⟩ := h.parts hmet hf (readLines_course hl hrecover)
        simp only [hsame.consume reader line c (meet_within hrecover hline hfirst), hf]
        exact ih hrest
      | some f =>
        simp only [hf, Progress.effect] at h
        rw [← hf] at h
        simp only [hsame.consume reader line c (meet_within hrecover hline h), hf]
    · simp only [hrun]
      rfl

theorem finish_within {p : Progress} {f : Failure} (h : Within cap c (p.finish f)) :
    Within cap c p.effect := by
  constructor
  · intro g hg
    have hfinish : (p.finish f).failure = some g := by
      have hg : p.failure = some g := hg
      simp only [Progress.finish, hg]
    exact h.failure g hfinish
  · rw [← h.tally, finish_console]
    rfl

end Parts

section Levels

variable {cap : Bool} {s : Setting} {below' below : Option (Setting → Level)} {room' : Capacity}
  {c : Console}

theorem ExtendsBelow.orderlyBelow (hbelow : ExtendsBelow cap s below' below) :
    OrderlyBelow s 0 s.room.noCalls anyLine below := by
  intro l h room hroom
  have hleast : s.room.noCalls = room.noCalls := by
    obtain ⟨row, calls, hrow⟩ := room
    obtain ⟨rfl, -⟩ := hroom
    rfl
  rw [hleast]
  exact hbelow.orderly l h room

/-- How many calls can be opened does not matter to a command that opens no level. -/
theorem perform_none_inside (t : Setting) (calls : Nat) (k : Command) :
    perform (t.inside calls) none c k = perform t none c k := by
  cases k <;> rfl

theorem ExtendsBelow.inside (hbelow : ExtendsBelow cap s below' below) (calls : Nat) :
    ExtendsBelow cap (s.inside calls) below' below :=
  ⟨hbelow.orderly, hbelow.level, hbelow.bottom⟩

variable (hbelow : ExtendsBelow cap s below' below) (hroom : s.room ≤ room')

include hbelow hroom

theorem nested_extends {nesting : Nesting} {body : Level → Console → Effect}
    (hbody : ∀ l l' c, l.Orderly s.draws s.room.noCalls anyLine → l'.Extends cap l →
      Within cap c (body l c) → body l' c = body l c)
    (h : Within cap c (nested s nesting below body c)) :
    nested (s.within room') nesting below' body c = nested s nesting below body c := by
  cases hlevel : below with
  | none =>
    rcases hbelow.bottom hlevel with rfl | rfl
    · rfl
    · rw [hlevel] at h
      cases h.failure _ rfl
  | some l =>
    obtain ⟨l', rfl, hsame⟩ := hbelow.level l hlevel
    rw [hlevel] at h
    exact hbody _ _ c (hbelow.orderly l hlevel (s.room.inside 1))
      (hsame _ _ (Capacity.inside_mono hroom 1)) h

theorem replay_extends {b : Block} (h : Within cap c (replay s below b c)) :
    replay (s.within room') below' b c = replay s below b c := by
  refine nested_extends hbelow hroom ?_ ⟨h.failure, h.tally⟩
  intro l l' c hl hsame h
  have hround (c : Console) : Course s.draws s.room.noCalls anyLine c
      ((l.readAll (fun _ f c => c.fail f) 1 .idle b.lines c).finish .openInRound) :=
    finish_course (readBlock_course hl (fun _ _ => trivial) c) rfl
  refine rounds_extends hround (fun c h => ?_) h
  rw [readAll_extends hl hsame fail_recoversWithin (finish_within h)]

theorem repeatInline_extends {count : Nat} {commands : List Command}
    (h : Within cap c (repeatInline s below count commands c)) :
    repeatInline (s.within room') below' count commands c =
      repeatInline s below count commands c := by
  refine nested_extends hbelow hroom ?_ h
  intro l l' c hl hsame h
  have hround (c : Console) : Course s.draws s.room.noCalls anyLine c
      ((l.run commands c).finish .openInline) :=
    finish_course (hl.run commands c) rfl
  refine rounds_extends hround (fun c h => ?_) h
  rw [hsame.run commands c (finish_within h)]

omit hbelow in
theorem takeStatement_extends {lines : List Line}
    (h : Within cap c (takeStatement s lines c).effect) :
    takeStatement (s.within room') lines c = takeStatement s lines c := by
  unfold takeStatement at h ⊢
  split
  · rfl
  · rename_i hclosed
    rw [if_neg hclosed] at h
    have haccept : c.workspace.accept (joined lines) (room'.inside 2) =
        c.workspace.accept (joined lines) (s.room.inside 2) := by
      refine Workspace.accept_more (Capacity.inside_mono hroom 2) fun fault hfault => ?_
      refine h.failure (.statement fault) ?_
      simp only [accept, hfault]
      rfl
    change (c.accept (room'.inside 2) (joined lines)).idle = _
    simp only [accept, haccept]

theorem load_extends {path : List Char} (h : Within cap c (load s below path c)) :
    load (s.within room') below' path c = load s below path c := by
  unfold load at h ⊢
  have hreading : (s.within room').reading = s.reading := rfl
  rw [hreading]
  cases hlines : Files.readLines s.reading path with
  | error fault => rfl
  | ok lines =>
    simp only [hlines] at h ⊢
    refine nested_extends hbelow hroom ?_ ⟨h.failure, h.tally⟩
    intro l l' c hl hsame h
    rw [readAll_extends hl hsame (reportAt_recoversWithin path) (finish_within h)]

/-- Only a load needs the level below. -/
theorem perform_extends {k : Command} (h : Within cap c (perform s below c k)) :
    perform (s.within room') below' c k = perform s below c k := by
  obtain ⟨calls, hcalls⟩ := Capacity.exists_inside hroom
  have hs : (s.within room').inside calls = s := by
    change s.within (room'.inside calls) = s
    rw [← hcalls]
    rfl
  have hsame := perform_none_inside (c := c) (s.within room') calls k
  rw [hs] at hsame
  cases k with
  | load path =>
    exact load_extends (s := s.inside 2) (hbelow.inside 2) (Capacity.inside_mono hroom 2) h
  | loop _ | close | tag _ | goto _ | untag _ | list | display _ | go | reset | help | quit =>
    exact hsame.symm

theorem runCommands_extends {commands : List Command}
    (h : Within cap c (runCommands s below commands c).effect) :
    runCommands (s.within room') below' commands c = runCommands s below commands c := by
  fun_induction runCommands s below commands c with
  | case1 => rfl
  | case2 c hrun count => exact runCommands_opening hrun count
  | case3 c hrun count rest hne =>
    rw [runCommands_inline hrun hne, repeatInline_extends hbelow hroom h]
  | case4 c hrun command rest _ hplain e hok ih =>
    have hfirst := perform_course hbelow.orderlyBelow (filesHold_any s.reading)
      (s.room.noCalls_le _) c command
    have hrest := runCommands_course hbelow.orderlyBelow (filesHold_any s.reading)
      (s.room.noCalls_le _) rest
    obtain ⟨hcommand, hrest⟩ := h.parts hfirst hok (hrest _)
    have hperform := perform_extends hbelow hroom hcommand
    rw [runCommands_ok hplain hrun (by rw [hperform]; exact hok), hperform]
    exact ih hrest
  | case5 c hrun command rest _ hplain e f hfailed =>
    have hperform := perform_extends hbelow hroom h
    rw [runCommands_failed hplain hrun (by rw [hperform]; exact hfailed), hperform]
  | case6 command rest c hrun => exact runCommands_stopped hrun

theorem closeBlock_extends {b : Block} {line : Line}
    (h : Within cap c (closeBlock s below b line c).effect) :
    closeBlock (s.within room') below' b line c = closeBlock s below b line c := by
  have hinside := Capacity.inside_mono hroom 1
  unfold closeBlock at h ⊢
  cases hread : commands line with
  | error fault => rfl
  | ok commands =>
    simp only [hread] at h ⊢
    have hreplays (h : Within cap c (replay (s.inside 1) below b c)) :
        replay ((s.within room').inside 1) below' b c = replay (s.inside 1) below b c :=
      replay_extends (s := s.inside 1) (hbelow.inside 1) hinside h
    cases hf : (replay (s.inside 1) below b c).failure with
    | none =>
      simp only [hf] at h
      have hreplay : Course s.draws s.room.noCalls anyLine c
          (replay (s.inside 1) below b c) :=
        replay_course (s := s.inside 1) hbelow.orderlyBelow ((s.room.inside 1).noCalls_le _)
          (fun _ _ => trivial) c
      have hrest : Course s.draws s.room.noCalls anyLine _
          (runCommands (s.inside 1) below (commands.drop 1)
            (replay (s.inside 1) below b c).console).effect :=
        runCommands_course (s := s.inside 1) hbelow.orderlyBelow (filesHold_any s.reading)
          ((s.room.inside 1).noCalls_le _) _ _
      obtain ⟨hreplay, hrest⟩ := h.parts hreplay hf hrest
      simp only [hreplays hreplay, hf]
      exact runCommands_extends (s := s.inside 1) (hbelow.inside 1) hinside hrest
    | some f =>
      simp only [hf] at h
      simp only [hreplays h, hf]

theorem takeFirst_extends {line : Line} (h : Within cap c (takeFirst s below line c).effect) :
    takeFirst (s.within room') below' line c = takeFirst s below line c := by
  unfold takeFirst at h ⊢
  by_cases hblank : Text.trim line = []
  · rw [if_pos hblank, if_pos hblank]
  · rw [if_neg hblank] at h ⊢
    rw [if_neg hblank]
    by_cases hdirective : isDirective line = true
    · rw [if_pos hdirective] at h ⊢
      rw [if_pos hdirective]
      cases hread : commands line with
      | error fault => rfl
      | ok commands =>
        simp only [hread] at h ⊢
        exact runCommands_extends (s := s.inside 1) (hbelow.inside 1)
          (Capacity.inside_mono hroom 1) h
    · rw [if_neg hdirective] at h ⊢
      rw [if_neg hdirective]
      exact takeStatement_extends hroom h

theorem consumeLine_extends {reader : Reader} {line : Line}
    (h : Within cap c (consumeLine s below reader line c).effect) :
    consumeLine (s.within room') below' reader line c = consumeLine s below reader line c := by
  cases reader with
  | idle => exact takeFirst_extends hbelow hroom h
  | unfinished lines => exact takeStatement_extends hroom h
  | capturing b =>
    unfold consumeLine at h ⊢
    dsimp only at h ⊢
    cases hcapture : b.capture? line with
    | some b => rfl
    | none =>
      simp only [hcapture] at h ⊢
      exact closeBlock_extends (s := s.inside 1) (hbelow.inside 1) (Capacity.inside_mono hroom 1) h

end Levels

section Numbers

variable {cap : Bool} {s : Setting}

theorem levelOver_extends {below' below : Option (Setting → Level)} {room' : Capacity}
    (hbelow : ExtendsBelow cap s below' below) (hroom : s.room ≤ room') :
    (levelOver (s.within room') below').Extends cap (levelOver s below) :=
  ⟨fun _ _ _ h => consumeLine_extends hbelow hroom h,
    fun _ _ h => runCommands_extends hbelow hroom h⟩

/-- Where no limit is met, more room changes nothing, nor do more levels below if the cap counts. -/
theorem level_extends (s : Setting) {room room' : Capacity} (hroom : room ≤ room') {m n : Nat}
    (h : m = n ∨ m ≤ n ∧ cap = true) :
    (level (s.within room') n).Extends cap (level (s.within room) m) := by
  induction m generalizing n room room' with
  | zero =>
    have hbottom (below' : Option (Setting → Level)) (h : below' = none ∨ cap = true) :
        ExtendsBelow cap (s.within room) below' none :=
      ⟨fun _ hl => (by simp at hl), fun _ hl => (by simp at hl), fun _ => h⟩
    obtain _ | n := n
    · exact levelOver_extends (s := s.within room) (hbottom none (.inl rfl)) hroom
    · exact levelOver_extends (s := s.within room) (hbottom _ (.inr (by grind))) hroom
  | succ m ih =>
    obtain ⟨n, rfl⟩ : ∃ k, n = k + 1 := ⟨n - 1, by omega⟩
    refine levelOver_extends (s := s.within room) ⟨?_, ?_, fun hnone => by cases hnone⟩ hroom
    · intro l hl room
      obtain rfl := Option.some.inj hl
      exact level_orderly (s := s.within room) (filesHold_any s.reading) m (room.noCalls_le _)
    · intro l hl
      obtain rfl := Option.some.inj hl
      have hfewer := h.imp Nat.succ.inj (And.imp_left Nat.le_of_succ_le_succ)
      exact ⟨_, rfl, fun room room' hroom => ih hroom hfewer⟩

end Numbers

/-- What a prompt settles without having a limit to report or to hand on has not met one. -/
theorem settle_within {draws : Draws Float} {cap : Bool} {c : Console} {e : Effect}
    (hsteps : Steps draws c e.console)
    (htally : (Prompt.settle ⟨.idle, e.console⟩ e.failure).1.console.tally (Event.isDeep cap) =
      c.tally (Event.isDeep cap))
    (hescape : ∀ f, (Prompt.settle ⟨.idle, e.console⟩ e.failure).2 = some f →
      f.isDeep cap = false) : Within cap c e := by
  obtain ⟨d, failure⟩ := e
  cases failure with
  | none => exact ⟨fun f h => (by cases h), htally⟩
  | some f =>
    unfold Prompt.settle at htally hescape
    by_cases hreported : f.isReported = true
    · simp only [if_pos hreported] at htally
      obtain ⟨hearlier, hreport⟩ :=
        tally_between hsteps (steps_emit draws (.report none f) d) htally
      refine ⟨fun g hg => ?_, hearlier⟩
      obtain rfl := Option.some.inj hg
      by_contra hdeep
      have hcounted : (d.emit (.report none f)).tally (Event.isDeep cap) =
          d.tally (Event.isDeep cap) + 1 :=
        List.countP_cons_of_pos (Bool.eq_true_of_not_eq_false hdeep)
      exact absurd (hcounted.symm.trans hreport) (Nat.succ_ne_self _)
    · simp only [if_neg hreported] at htally hescape
      refine ⟨fun g hg => ?_, htally⟩
      obtain rfl := Option.some.inj hg
      exact hescape f rfl

end CircuitConsole.Console
