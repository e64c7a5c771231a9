import CentralSquawk.Library.Tokens
import CentralSquawk.Threads.Main

/-!
# What the command line accepts

The command line by its words: whatever surrounds them, a '.' before the first,
and any case. `OnCompileCommand` trims, erases and extracts; the grammar says
which words there are.
-/

namespace CentralSquawk.Grammar
open Library

def Undotted (line command : Text) : Prop :=
  line = 0x2E :: command ∨ command = line ∧ 0x2E ∉ line.head?

def Reads (raw : Text) (words : List Text) : Prop :=
  ∃ line command, Tokens.Trimmed isspace raw line ∧ Undotted line command ∧
    words = Tokens.words isspace command

def IgnoringCase (word keyword : Text) : Prop := toUpper word = toUpper keyword

inductive Mode : Text → ModeOverride → Prop
  | auto : Mode (text "auto") .auto
  | live : Mode (text "live") .forceLive
  | sim : Mode (text "sim") .forceSim
  | sweatbox : Mode (text "sweatbox") .forceSim

def Addressed (raw : Text) : Prop :=
  ∃ cmd more, Reads raw (cmd :: more) ∧ IgnoringCase cmd (text "centralsquawk")

/-- The first three words ask for a mode. -/
def Asks (raw : Text) (mode : ModeOverride) : Prop :=
  ∃ cmd sub value more keyword, Reads raw (cmd :: sub :: value :: more) ∧
    IgnoringCase cmd (text "centralsquawk") ∧ IgnoringCase sub (text "mode") ∧
    IgnoringCase value keyword ∧ Mode keyword mode

/-- `OnCompileCommand` takes what is addressed to it, and stores the mode asked for and nothing else. -/
structure Follows (raw : Text) : Prop where
  accepts : ∀ v, (onCompileCommand v (some raw)).accepted = true ↔ Addressed raw
  stores : ∀ mode, Asks raw mode ↔ ∀ s : System, mainEffect s (.compileCommand (some raw)) =
    { s with plugin := { s.plugin with modeOverride := mode } }
  leaves : (¬ ∃ mode, Asks raw mode) ↔ ∀ s : System, mainEffect s (.compileCommand (some raw)) = s

/-! ### The words `OnCompileCommand` extracts -/

theorem undotted_iff {line command : Text} : Undotted line command ↔ command = eraseDot line := by
  unfold Undotted eraseDot
  by_cases dot : line.head? = some 0x2E
  · obtain ⟨rest, rfl⟩ := List.head?_eq_some_iff.mp dot
    rw [if_pos dot]
    constructor
    · rintro (same | ⟨-, other⟩)
      · exact (List.cons.inj same).2.symm
      · exact absurd dot other
    · rintro rfl
      exact Or.inl rfl
  · rw [if_neg dot]
    constructor
    · rintro (rfl | ⟨same, -⟩)
      · exact absurd rfl dot
      · exact same
    · exact fun same => Or.inr ⟨same, dot⟩

def wordsOf (raw : Text) : List Text := Tokens.words isspace (eraseDot (trim raw))

theorem reads_iff {raw : Text} {words : List Text} : Reads raw words ↔ words = wordsOf raw := by
  constructor
  · rintro ⟨line, command, trimmed, undotted, rfl⟩
    rw [undotted_iff.mp undotted, Tokens.trimmed_iff.mp trimmed]
    rfl
  · rintro rfl
    exact ⟨trim raw, _, Tokens.trimmed_iff.mpr rfl, undotted_iff.mpr rfl, rfl⟩

theorem extract_fst (stream : Text) : (extract stream).1 = (Tokens.words isspace stream).headD [] :=
  Tokens.scan_fst stream

theorem words_extract_snd (stream : Text) :
    Tokens.words isspace (extract stream).2 = (Tokens.words isspace stream).tail :=
  Tokens.words_scan_snd stream

theorem extracted {raw cmd afterCmd sub afterSub : Text}
    (first : extract (eraseDot (trim raw)) = (cmd, afterCmd)) (second : extract afterCmd = (sub, afterSub)) :
    (wordsOf raw).headD [] = cmd ∧ (wordsOf raw).tail.headD [] = sub ∧
      (wordsOf raw).tail.tail.headD [] = (extract afterSub).1 := by
  have rest : (wordsOf raw).tail = Tokens.words isspace afterCmd := by
    rw [wordsOf, ← words_extract_snd, first]
  refine ⟨?_, ?_, ?_⟩
  · rw [wordsOf, ← extract_fst, first]
  · rw [rest, ← extract_fst, second]
  · rw [rest, ← words_extract_snd, second, extract_fst]

theorem wordsOf_of_blank {raw : Text} (blank : (trim raw).isEmpty = true) : wordsOf raw = [] := by
  rw [wordsOf, List.isEmpty_iff.mp blank]
  rfl

/-! ### What is done with them -/

/-- The override is the one the third word names, when the first two lead to it. -/
def overrideOf (words : List Text) : Option ModeOverride :=
  if toLower (words.headD []) = text "centralsquawk" ∧ toLower (words.tail.headD []) = text "mode" then
    modeValue (toLower (words.tail.tail.headD []))
  else none

theorem onCompileCommand_words (v : StatusView) (raw : Text) :
    (onCompileCommand v (some raw)).accepted =
        decide (toLower ((wordsOf raw).headD []) = text "centralsquawk") ∧
      (onCompileCommand v (some raw)).modeOverride = (overrideOf (wordsOf raw)).getD v.modeOverride := by
  have unnamed : toLower [] ≠ text "centralsquawk" := by decide
  have keywords : text "status" ≠ text "version" ∧ text "mode" ≠ text "version" ∧
      text "mode" ≠ text "status" := by decide
  unfold onCompileCommand overrideOf
  dsimp only
  split
  · rename_i blank
    rw [wordsOf_of_blank blank]
    simp [unnamed]
  rcases first : extract (eraseDot (trim raw)) with ⟨cmd, afterCmd⟩
  rcases second : extract afterCmd with ⟨sub, afterSub⟩
  obtain ⟨cmd_eq, sub_eq, value_eq⟩ := extracted first second
  rw [cmd_eq, sub_eq, value_eq]
  dsimp only
  by_cases mine : toLower cmd = text "centralsquawk"
  · have word : cmd.isEmpty = false := by
      cases cmd with
      | nil => exact absurd mine unnamed
      | cons c rest => rfl
    simp only [word, mine]
    by_cases version : toLower sub = text "version"
    · simp [version, keywords.2.1.symm]
    by_cases status : toLower sub = text "status"
    · simp [status, keywords.1, keywords.2.2.symm]
    by_cases mode : toLower sub = text "mode"
    · simp only [mode, keywords]
      cases modeValue (toLower (extract afterSub).1) <;> simp
    · simp [version, status, mode]
  · -- Without a first word the answer is the same.
    cases cmd.isEmpty <;> simp [mine]

/-! ### The grammar -/

theorem ignoringCase_iff {word keyword : Text} (lower : toLower keyword = keyword) :
    IgnoringCase word keyword ↔ toLower word = keyword := by
  rw [IgnoringCase, ← toLower_eq_iff, lower]

theorem named_iff {word : Text} : IgnoringCase word (text "centralsquawk") ↔ toLower word = text "centralsquawk" :=
  ignoringCase_iff (by decide)

theorem modeValue_iff {word : Text} {mode : ModeOverride} :
    modeValue (toLower word) = some mode ↔ ∃ keyword, IgnoringCase word keyword ∧ Mode keyword mode := by
  have lower : ∀ keyword mode, Mode keyword mode → toLower keyword = keyword := by
    rintro keyword mode (_ | _ | _ | _)
    all_goals decide
  constructor
  · intro chosen
    unfold modeValue at chosen
    split at chosen
    · rename_i auto
      obtain rfl := Option.some.inj chosen
      exact ⟨_, (ignoringCase_iff (lower _ _ .auto)).mpr auto, .auto⟩
    split at chosen
    · rename_i live
      obtain rfl := Option.some.inj chosen
      exact ⟨_, (ignoringCase_iff (lower _ _ .live)).mpr live, .live⟩
    split at chosen
    · rename_i either
      obtain rfl := Option.some.inj chosen
      rcases either with sim | sweatbox
      · exact ⟨_, (ignoringCase_iff (lower _ _ .sim)).mpr sim, .sim⟩
      · exact ⟨_, (ignoringCase_iff (lower _ _ .sweatbox)).mpr sweatbox, .sweatbox⟩
    · contradiction
  · rintro ⟨keyword, same, named⟩
    rw [(ignoringCase_iff (lower _ _ named)).mp same]
    cases named <;> decide

theorem addressed_iff {raw : Text} :
    Addressed raw ↔ toLower ((wordsOf raw).headD []) = text "centralsquawk" := by
  constructor
  · rintro ⟨cmd, more, reads, named⟩
    rw [← reads_iff.mp reads]
    exact named_iff.mp named
  · intro named
    cases words : wordsOf raw with
    | nil =>
      rw [words] at named
      exact absurd named (by decide)
    | cons cmd more =>
      rw [words] at named
      exact ⟨cmd, more, reads_iff.mpr words.symm, named_iff.mpr named⟩

theorem asks_iff {raw : Text} {mode : ModeOverride} : Asks raw mode ↔ overrideOf (wordsOf raw) = some mode := by
  have lower : toLower (text "mode") = text "mode" := by decide
  constructor
  · rintro ⟨cmd, sub, value, more, keyword, reads, named, asked, same, meant⟩
    rw [← reads_iff.mp reads, overrideOf, if_pos ⟨named_iff.mp named, (ignoringCase_iff lower).mp asked⟩]
    exact modeValue_iff.mpr ⟨keyword, same, meant⟩
  · intro chosen
    unfold overrideOf at chosen
    split at chosen
    · rename_i both
      obtain ⟨named, asked⟩ := both
      -- A word that is missing is empty, and no keyword is.
      rcases words : wordsOf raw with _ | ⟨cmd, _ | ⟨sub, _ | ⟨value, more⟩⟩⟩
      · rw [words] at named
        exact absurd named (by decide)
      · rw [words] at asked
        exact absurd asked (show toLower [] ≠ text "mode" by decide)
      · rw [words] at chosen
        exact absurd chosen (show modeValue (toLower []) ≠ some mode by simp [modeValue, toLower, text])
      · rw [words] at named asked chosen
        obtain ⟨keyword, same, meant⟩ := modeValue_iff.mp chosen
        exact ⟨cmd, sub, value, more, keyword, reads_iff.mpr words.symm, named_iff.mpr named,
          (ignoringCase_iff lower).mpr asked, same, meant⟩
    · contradiction

theorem mainEffect_compileCommand (s : System) (raw : Text) :
    mainEffect s (.compileCommand (some raw)) = { s with plugin := { s.plugin with
      modeOverride := (overrideOf (wordsOf raw)).getD s.plugin.modeOverride } } := by
  show { s with plugin := { s.plugin with modeOverride := _ } } = _
  rw [(onCompileCommand_words s.plugin.statusView raw).2]
  rfl

theorem modeOverride_after (raw : Text) (before : ModeOverride) :
    (mainEffect { plugin := { modeOverride := before } } (.compileCommand (some raw))).plugin.modeOverride =
      (overrideOf (wordsOf raw)).getD before := by
  rw [mainEffect_compileCommand]

/-- `OnCompileCommand` follows its grammar on every command line. -/
theorem command_grammar (raw : Text) : Follows raw where
  accepts v := by
    rw [(onCompileCommand_words v raw).1, addressed_iff]
    exact decide_eq_true_iff
  stores mode := by
    rw [asks_iff]
    constructor
    · intro chosen s
      rw [mainEffect_compileCommand, chosen]
      rfl
    · intro stored
      have always : ∀ before, (overrideOf (wordsOf raw)).getD before = mode := by
        intro before
        rw [← modeOverride_after, stored]
      cases chosen : overrideOf (wordsOf raw) with
      | none =>
        rw [chosen] at always
        have auto : ModeOverride.auto = mode := always .auto
        have sim : ModeOverride.forceSim = mode := always .forceSim
        exact absurd (auto.trans sim.symm) (by decide)
      | some other =>
        rw [chosen] at always
        exact congrArg some (always .auto)
  leaves := by
    simp only [asks_iff]
    constructor
    · intro unasked s
      have unchosen : overrideOf (wordsOf raw) = none := by
        apply Option.eq_none_iff_forall_ne_some.mpr
        exact fun mode chosen => unasked ⟨mode, chosen⟩
      rw [mainEffect_compileCommand, unchosen]
      rfl
    · rintro same ⟨mode, chosen⟩
      have unchanged : ∀ before, mode = before := by
        intro before
        have after := modeOverride_after raw before
        rw [same, chosen] at after
        exact after.symm
      exact absurd ((unchanged .auto).symm.trans (unchanged .forceSim)) (by decide)

/-- The override takes effect whatever tokens follow it. -/
example (v : StatusView) :
    (onCompileCommand v (some (text "  .CentralSquawk mode SIM now "))).modeOverride = .forceSim := by rfl

end CentralSquawk.Grammar
