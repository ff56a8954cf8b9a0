import CircuitConsole.Console.Directive
import CircuitConsole.Proofs.Success
import CircuitConsole.Proofs.Text.Words

/-!
Commands and how they are written. A line that is read has one command for each phrase, with the
phrase's word. A command whose argument is a single word is read back from its text as that command,
alone on its line.
-/

namespace CircuitConsole.Console

open Text

def phraseWords (line : List Char) : List (List Char) :=
  (phrasesAfter (words line)).2.map (·.word)

namespace Phrase

variable {p : Phrase} {k : Command}

theorem bare_eq_ok {c : Command} (h : p.bare c = .ok k) : k = c := by
  unfold bare at h
  split at h
  · exact (Except.ok.inj h).symm
  · simp at h

theorem named_eq_ok {f : List Char → Command} (h : p.named f = .ok k) : ∃ name, k = f name := by
  unfold named at h
  split at h
  · exact ⟨_, (Except.ok.inj h).symm⟩
  · simp at h

theorem counted_eq_ok {f : Count → Command} (h : p.counted f = .ok k) : ∃ count, k = f count := by
  unfold counted at h
  split at h
  · split at h
    · exact ⟨_, (Except.ok.inj h).symm⟩
    · simp at h
    · simp at h
  · simp at h

theorem located_eq_ok {f : List Char → Command} (h : p.located f = .ok k) :
    ∃ path, k = f path := by
  unfold located at h
  split at h
  · simp at h
  · exact ⟨_, (Except.ok.inj h).symm⟩

/-- A command has the word of its phrase. -/
theorem word_of_command (h : p.command = .ok k) : p.word = k.word.toList := by
  have hword : String.ofList p.word = k.word := by
    unfold command at h
    split at h
    case h_1 hword =>
      obtain ⟨count, rfl⟩ := counted_eq_ok h
      exact hword
    case h_3 hword | h_4 hword | h_5 hword =>
      obtain ⟨name, rfl⟩ := named_eq_ok h
      exact hword
    case h_14 hword =>
      obtain ⟨path, rfl⟩ := located_eq_ok h
      exact hword
    case h_17 => simp at h
    all_goals
      obtain rfl := bare_eq_ok h
      assumption
  rw [← hword, String.toList_ofList]

end Phrase

/-- A line is read if it begins with a marked word, or is blank, and each phrase is a command. -/
theorem commands_eq_ok {line : List Char} {ks : List Command} :
    commands line = .ok ks ↔
      ∃ ps, phrasesAfter (words line) = ([], ps) ∧ ps.mapM Phrase.command = .ok ks := by
  unfold commands phrases
  rw [bind_eq_ok]
  refine exists_congr fun ps => and_congr_left' ?_
  rcases phrasesAfter (words line) with ⟨_ | ⟨argument, arguments⟩, found⟩
  · simp
  · simp

/-- A line that is read has a command for each phrase. -/
theorem words_of_commands {line : List Char} {ks : List Command} (h : commands line = .ok ks) :
    phraseWords line = ks.map (·.word.toList) := by
  obtain ⟨ps, hps, hks⟩ := commands_eq_ok.mp h
  rw [phraseWords, hps]
  have hcommands := mapM_eq_ok.mp hks
  clear hks hps h
  induction hcommands with
  | nil => rfl
  | cons hcommand _ ih => rw [List.map_cons, List.map_cons, ih, Phrase.word_of_command hcommand]

theorem phrasesAfter_append {vs : List (List Char)} {ps : List Phrase}
    (h : phrasesAfter vs = ([], ps)) (us : List (List Char)) :
    phrasesAfter (us ++ vs) = ((phrasesAfter us).1, (phrasesAfter us).2 ++ ps) := by
  induction us with
  | nil => exact h
  | cons word us ih =>
    rw [List.cons_append, phrasesAfter, phrasesAfter, ih]
    dsimp only
    split <;> rfl

/-- Two lines that are read, with a blank between them, are one with the commands of both. -/
theorem commands_append {s t : List Char} {ks ls : List Command} (hs : commands s = .ok ks)
    (ht : commands t = .ok ls) {b : Char} (hb : isBlank b = true) :
    commands (s ++ b :: t) = .ok (ks ++ ls) := by
  obtain ⟨ps, hps, hks⟩ := commands_eq_ok.mp hs
  obtain ⟨qs, hqs, hls⟩ := commands_eq_ok.mp ht
  refine commands_eq_ok.mpr ⟨ps ++ qs, ?_, ?_⟩
  · rw [words_append_of_blank hb, phrasesAfter_append hqs, hps]
  · rw [List.mapM_append, hks, hls]
    rfl

structure Plain (argument : List Char) : Prop extends Solid argument where
  unmarked : argument.head? ≠ some ':'

theorem Count.plain (count : Count) : Plain count.spelling := by
  obtain ⟨hne, hnumeral⟩ := readInt_numeral count.reads
  refine ⟨solid_of_readInt count.reads, fun hhead => ?_⟩
  have hcolon := hnumeral ':' (List.mem_of_head? hhead)
  exact absurd hcolon (by decide)

theorem isDirective_marked (rest : List Char) : isDirective (':' :: rest) = true := rfl

/-- A directive line is not blank. -/
theorem trim_of_isDirective {line : List Char} (h : isDirective line = true) : trim line ≠ [] := by
  have hhead : (trimLeft line).head? = some ':' := of_decide_eq_true h
  exact trim_ne_nil (List.mem_of_head? hhead) (by decide)

namespace Command

theorem word_eq_end {k : Command} : k.word.toList = "end".toList ↔ k = .close := by
  cases k with
  | display view => cases view <;> simp [word, View.word]
  | loop _ | close | tag _ | goto _ | untag _ | list | go | reset | load _ | help | quit =>
    simp [word]

theorem word_eq_loop {k : Command} : k.word.toList = "loop".toList ↔ ∃ count, k = .loop count := by
  cases k with
  | display view => cases view <;> simp [word, View.word]
  | loop _ | close | tag _ | goto _ | untag _ | list | go | reset | load _ | help | quit =>
    simp [word]

theorem word_solid (k : Command) : Solid (':' :: k.word.toList) := by
  have hall : (':' :: k.word.toList).all (fun c => !isBlank c) = true := by
    cases k with
    | display view => cases view <;> decide
    | loop _ | close | tag _ | goto _ | untag _ | list | go | reset | load _ | help | quit =>
      simp only [word]
      decide
  refine ⟨by simp, fun c hc => ?_⟩
  simpa using List.all_eq_true.mp hall c hc

theorem words_text {k : Command} (h : ∀ a, k.argument? = some a → Plain a) :
    words k.text = (':' :: k.word.toList) :: k.argument?.toList := by
  unfold text
  cases hargument : k.argument? with
  | none =>
    simp only [List.append_nil]
    exact words_of_solid k.word_solid
  | some argument =>
    have hargument := words_of_solid (h argument hargument).toSolid
    have hwords := words_append_blank k.word_solid (b := ' ') (by decide) argument
    rw [hargument] at hwords
    exact hwords

theorem phrases_text {k : Command} (h : ∀ a, k.argument? = some a → Plain a) :
    phrases k.text = .ok [⟨k.word.toList, k.argument?.toList⟩] := by
  unfold phrases
  rw [words_text h]
  cases hargument : k.argument? with
  | none => rfl
  | some argument =>
    cases argument with
    | nil => exact absurd rfl (h [] hargument).nonempty
    | cons c argument =>
      have hunmarked : c ≠ ':' := fun hc => (h _ hargument).unmarked (by rw [hc]; rfl)
      simp [phrasesAfter, hunmarked]

theorem counted_spelling (word : List Char) (count : Count) (f : Count → Command) :
    (⟨word, [count.spelling]⟩ : Phrase).counted f = .ok (f count) := by
  have hreads := count.reads
  unfold Phrase.counted
  dsimp only
  split
  · rename_i n h
    obtain rfl : n = count.value := Int.ofNat.inj (Option.some.inj (h.symm.trans hreads))
    rfl
  · rename_i n h
    exact absurd (h.symm.trans hreads) (by simp)
  · rename_i h
    exact absurd (h.symm.trans hreads) (by simp)

theorem command_phrase (k : Command) :
    (⟨k.word.toList, k.argument?.toList⟩ : Phrase).command = .ok k := by
  cases k with
  | loop count =>
    simp only [Phrase.command, word, String.ofList_toList, argument?, Option.toList]
    exact counted_spelling _ count loop
  | tag _ | goto _ | untag _ =>
    simp only [Phrase.command, word, String.ofList_toList, argument?, Option.toList]
    rfl
  | load path =>
    simp only [Phrase.command, word, String.ofList_toList, argument?, Option.toList]
    simp [Phrase.located, List.intercalate]
  | display view => cases view <;> rfl
  | close | list | go | reset | help | quit => rfl

/-- A command with a plain argument, or none, is read back from its text. -/
theorem commands_text {k : Command} (h : ∀ a, k.argument? = some a → Plain a) :
    commands k.text = .ok [k] := by
  unfold commands
  rw [phrases_text h, bind_eq_ok]
  refine ⟨_, rfl, ?_⟩
  rw [mapM_eq_ok]
  exact .cons k.command_phrase .nil

theorem commands_loop (count : Count) : commands (text (.loop count)) = .ok [.loop count] := by
  refine commands_text fun a ha => ?_
  obtain rfl := Option.some.inj ha
  exact count.plain

theorem commands_close : commands (text .close) = .ok [.close] :=
  commands_text fun a ha => by simp [argument?] at ha

end Command

end CircuitConsole.Console
