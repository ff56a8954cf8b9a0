import CircuitConsole.Console.Reader
import CircuitConsole.Proofs.Console.WrittenCommands
import CircuitConsole.Proofs.Text.Collapsing
import CircuitConsole.Proofs.Text.WrittenNumbers

/-!
Directive lines as they are written: commands in a row with blanks between them. Such a line is read
back as these commands, as long as no word of an argument looks like the mark of the next command.
What marks a line as a directive line also marks its first word, so that every directive line can be
cut into phrases.
-/

namespace CircuitConsole.Console

open Text

section Phrases

/-- Words without a mark belong to the phrase before them. -/
theorem phrasesAfter_unmarked {ws : List (List Char)} (h : ∀ w ∈ ws, Plain w) :
    phrasesAfter ws = (ws, []) := by
  induction ws with
  | nil => rfl
  | cons w ws ih =>
    obtain ⟨hw, hws⟩ := List.forall_mem_cons.mp h
    obtain ⟨c, w, rfl⟩ := List.exists_cons_of_ne_nil hw.nonempty
    have hc : c ≠ ':' := fun hc => hw.unmarked (congrArg some hc)
    rw [phrasesAfter, ih hws]
    simp [hc]

/-- A marked word takes all words up to the next one. -/
theorem phrasesAfter_marked (name : List Char) (ws : List (List Char)) :
    phrasesAfter ((':' :: name) :: ws) =
      ([], ⟨name, (phrasesAfter ws).1⟩ :: (phrasesAfter ws).2) := rfl

/-- A directive line begins with a marked word. -/
theorem words_of_isDirective {line : Line} (h : isDirective line = true) :
    ∃ name ws, words line = (':' :: name) :: ws := by
  have hhead : (trimLeft line).head? = some ':' := of_decide_eq_true h
  obtain ⟨rest, hrest⟩ := List.head?_eq_some_iff.mp hhead
  have hcolon : isBlank ':' = false := by decide
  obtain ⟨name, ws, hwords⟩ := words_cons hcolon rest
  refine ⟨name, ws, ?_⟩
  rw [← words_trimLeft, hrest, hwords]

theorem phrases_of_isDirective {line : Line} (h : isDirective line = true) :
    ∃ p ps, phrases line = .ok (p :: ps) := by
  obtain ⟨name, ws, hwords⟩ := words_of_isDirective h
  refine ⟨⟨name, (phrasesAfter ws).1⟩, (phrasesAfter ws).2, ?_⟩
  rw [phrases, hwords, phrasesAfter_marked]

/-- Blanks in front of a line do not count for its commands. -/
theorem commands_append_blanks {b : List Char} (hb : ∀ c ∈ b, isBlank c = true) (line : Line) :
    commands (b ++ line) = commands line := by
  rw [commands, phrases, words_append_blanks hb]
  rfl

end Phrases

/-- The spellings of counts are the spelled natural numbers. -/
theorem exists_count_iff {text : List Char} :
    (∃ count : Count, count.spelling = text) ↔ NaturalText text := by
  constructor
  · rintro ⟨count, rfl⟩
    exact naturalText_iff.mpr ⟨count.value, count.reads⟩
  · intro h
    obtain ⟨n, hn⟩ := naturalText_iff.mp h
    exact ⟨⟨text, n, hn⟩, rfl⟩

namespace Command

/-- A command that can be written on a line: a name is a single word, a path is made of words with
single spaces between them, and no word looks like a mark. -/
def Sayable : Command → Prop
  | .tag name | .goto name | .untag name => Plain name
  | .load path => ∃ ws : List (List Char), ws ≠ [] ∧ (∀ w ∈ ws, Plain w) ∧
      path = [' '].intercalate ws
  | _ => True

/-- A path of several words is read back from its text. -/
theorem commands_load {ws : List (List Char)} (hne : ws ≠ []) (hplain : ∀ w ∈ ws, Plain w) :
    commands (text (.load ([' '].intercalate ws))) = .ok [.load ([' '].intercalate ws)] := by
  have hwords : words (text (.load ([' '].intercalate ws))) = (':' :: "load".toList) :: ws := by
    have hmark : Solid (':' :: "load".toList) := word_solid (.load [])
    have hspace : isBlank ' ' = true := by decide
    have happend := words_append_blank hmark hspace ([' '].intercalate ws)
    rw [words_spaced fun w hw => (hplain w hw).toSolid] at happend
    exact happend
  have hphrases : phrases (text (.load ([' '].intercalate ws))) = .ok [⟨"load".toList, ws⟩] := by
    rw [phrases, hwords, phrasesAfter_marked, phrasesAfter_unmarked hplain]
  have hcommand : (⟨"load".toList, ws⟩ : Phrase).command = .ok (.load ([' '].intercalate ws)) := by
    change Phrase.located ⟨"load".toList, ws⟩ load = _
    rw [Phrase.located, if_neg hne]
  refine bind_eq_ok.mpr ⟨_, hphrases, ?_⟩
  exact mapM_eq_ok.mpr (.cons hcommand .nil)

theorem Sayable.commands_text {k : Command} (h : k.Sayable) : commands k.text = .ok [k] := by
  cases k with
  | load path =>
    obtain ⟨ws, hne, hplain, rfl⟩ := h
    exact commands_load hne hplain
  | loop count => exact commands_loop count
  | tag name | goto name | untag name =>
    apply Command.commands_text
    intro a ha
    obtain rfl := Option.some.inj ha
    exact h
  | close | list | display _ | go | reset | help | quit =>
    apply Command.commands_text
    intro a ha
    cases ha

end Command

/-- Commands written one after the other, with one or more blanks between two of them. -/
inductive WrittenLine : List Command → Line → Prop
  | last (k : Command) : WrittenLine [k] k.text
  | next (k : Command) (gap : List Char) {ks : List Command} {line : Line} (hne : gap ≠ [])
      (hblank : ∀ c ∈ gap, isBlank c = true) (h : WrittenLine ks line) :
      WrittenLine (k :: ks) (k.text ++ (gap ++ line))

namespace WrittenLine

variable {ks : List Command} {line : Line}

theorem isDirective_eq (h : WrittenLine ks line) : isDirective line = true := by
  cases h with
  | last k => exact isDirective_marked _
  | next k gap hne hblank h => exact isDirective_marked _

theorem commands_eq (h : WrittenLine ks line) (hks : ∀ k ∈ ks, k.Sayable) :
    commands line = .ok ks := by
  induction h with
  | last k => exact (hks k (List.mem_singleton_self k)).commands_text
  | @next k gap ks line hne hblank h ih =>
    obtain ⟨hk, hks⟩ := List.forall_mem_cons.mp hks
    obtain ⟨b, gap, rfl⟩ := List.exists_cons_of_ne_nil hne
    obtain ⟨hb, hblank⟩ := List.forall_mem_cons.mp hblank
    have hrest : commands (gap ++ line) = .ok ks := by
      rw [commands_append_blanks hblank, ih hks]
    exact commands_append hk.commands_text hrest hb

end WrittenLine

/-- Commands that are written on a line, with whatever blanks between them, make a directive line
that is read back as these commands. The counts that can be written are spelled natural numbers
without too many digits, and all of these. And any directive line is cut into phrases without a
failure. -/
theorem directive_line_reads_back :
    (∀ (ks : List Command) (line : Line), WrittenLine ks line → (∀ k ∈ ks, k.Sayable) →
      isDirective line = true ∧ commands line = .ok ks) ∧
    (∀ text : List Char, (∃ count : Count, count.spelling = text) ↔ NaturalText text) ∧
    ∀ line : Line, isDirective line = true → ∃ ps, phrases line = .ok ps := by
  refine ⟨?_, ?_, ?_⟩
  · intro ks line hline hks
    exact ⟨hline.isDirective_eq, hline.commands_eq hks⟩
  · intro text
    exact exists_count_iff
  · intro line hline
    obtain ⟨p, ps, hphrases⟩ := phrases_of_isDirective hline
    exact ⟨p :: ps, hphrases⟩

/-- Four commands with tabs, spaces and a line feed between them: a count with a sign and a group, a
name with a colon inside, and a path of two words. -/
theorem four_commands_on_a_line :
    let ks : List Command := [.loop ⟨"+1_0".toList, 10, by decide⟩, .tag "a:b".toList,
      .load "my file".toList, .go]
    let line := ":loop +1_0\t :tags a:b :load my file\n:go".toList
    WrittenLine ks line ∧ (∀ k ∈ ks, k.Sayable) ∧ isDirective line = true ∧
      commands line = .ok ks ∧ NaturalText "+1_0".toList ∧ ∃ ps, phrases line = .ok ps := by
  intro ks line
  obtain ⟨hreads, hcounts, hphrases⟩ := directive_line_reads_back
  have hline : WrittenLine ks line := by
    have hwritten : WrittenLine ks _ :=
      .next _ "\t ".toList (by decide) (List.all_eq_true.mp (by decide))
        (.next _ " ".toList (by decide) (List.all_eq_true.mp (by decide))
          (.next _ "\n".toList (by decide) (List.all_eq_true.mp (by decide)) (.last .go)))
    exact hwritten
  have hks : ∀ k ∈ ks, k.Sayable := by
    have hplain {w : List Char} (h : w ≠ [] ∧ w.all (fun c => !isBlank c) = true ∧
        w.head? ≠ some ':') : Plain w := ⟨solid_of_all h.1 h.2.1, h.2.2⟩
    intro k hk
    simp only [ks, List.mem_cons, List.not_mem_nil, or_false] at hk
    rcases hk with rfl | rfl | rfl | rfl
    · trivial
    · exact hplain (by decide)
    · refine ⟨["my".toList, "file".toList], by decide, ?_, by decide⟩
      intro w hw
      simp only [List.mem_cons, List.not_mem_nil, or_false] at hw
      rcases hw with rfl | rfl
      · exact hplain (by decide)
      · exact hplain (by decide)
    · trivial
  obtain ⟨hdirective, hcommands⟩ := hreads ks line hline hks
  exact ⟨hline, hks, hdirective, hcommands, (hcounts _).mp ⟨⟨"+1_0".toList, 10, by decide⟩, rfl⟩,
    hphrases line hdirective⟩

end CircuitConsole.Console
