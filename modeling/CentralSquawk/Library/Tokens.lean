import Mathlib.Data.List.DropRight

/-!
# Words between separators

The words of a text are the pieces its separators leave, without the empty ones.
A reader that skips separators and takes what follows gets them one at a time.
-/

namespace Library.Tokens

variable {α : Type*} (space : α → Bool)

def words (s : List α) : List (List α) := (s.splitOnP space).filter (fun w => !w.isEmpty)

/-- The next word, and what is left. -/
def scan (s : List α) : List α × List α :=
  let rest := s.dropWhile space
  (rest.takeWhile (fun c => !space c), rest.dropWhile (fun c => !space c))

/-- `line` is `s` without the separators around it. -/
structure Trimmed (s line : List α) : Prop where
  around : ∃ before after, s = before ++ (line ++ after) ∧ (∀ c ∈ before, space c = true) ∧
    ∀ c ∈ after, space c = true
  first : ∀ c ∈ line.head?, space c = false
  last : ∀ c ∈ line.getLast?, space c = false

variable {space}

/-! ### Reading a word -/

theorem dropWhile_stop {p : α → Bool} {run rest : List α} (passed : ∀ c ∈ run, p c = true)
    (stopped : ∀ c ∈ rest.head?, p c = false) : (run ++ rest).dropWhile p = rest := by
  rw [List.dropWhile_append_of_pos passed]
  cases rest with
  | nil => rfl
  | cons c rest => exact List.dropWhile_cons_of_neg (by simp [stopped c rfl])

theorem head_dropWhile {p : α → Bool} {s : List α} {c : α} (head : c ∈ (s.dropWhile p).head?) : p c = false := by
  have stopped := List.head?_dropWhile_not p s
  rw [Option.mem_def.mp head] at stopped
  exact stopped

theorem words_cons_space {c : α} (separates : space c = true) (s : List α) :
    words space (c :: s) = words space s := by
  simp [words, List.splitOnP_cons_eq_if_modifyHead, separates]

theorem words_dropWhile (s : List α) : words space (s.dropWhile space) = words space s := by
  induction s with
  | nil => rfl
  | cons c s ih =>
    by_cases separates : space c = true
    · rw [List.dropWhile_cons_of_pos separates, ih, words_cons_space separates]
    · rw [List.dropWhile_cons_of_neg separates]

theorem words_append {w rest : List α} (word : w ≠ []) (whole : ∀ c ∈ w, space c = false)
    (ended : ∀ c ∈ rest.head?, space c = true) : words space (w ++ rest) = w :: words space rest := by
  cases rest with
  | nil => simp [words, List.splitOnP_eq_singleton whole, word]
  | cons c rest =>
    have separates : space c = true := ended c rfl
    rw [words_cons_space separates, words, List.splitOnP_append_cons_of_forall_mem whole c separates]
    simp [words, word]

/-- A scan finds no word, or the first one and the others behind it. -/
theorem words_scan (s : List α) :
    (words space s = [] ∧ scan space s = ([], [])) ∨
      ((scan space s).1 ≠ [] ∧ words space s = (scan space s).1 :: words space (scan space s).2) := by
  rw [← words_dropWhile s]
  unfold scan
  cases start : s.dropWhile space with
  | nil => exact Or.inl ⟨rfl, rfl⟩
  | cons c rest =>
    have begins : space c = false := head_dropWhile (s := s) (by rw [start]; rfl)
    have word : (c :: rest).takeWhile (fun c => !space c) ≠ [] := by simp [begins]
    refine Or.inr ⟨word, ?_⟩
    dsimp only
    rw [← words_append word]
    · rw [List.takeWhile_append_dropWhile]
    · intro d member
      simpa using List.mem_takeWhile_imp member
    · intro d head
      simpa using head_dropWhile head

theorem scan_fst (s : List α) : (scan space s).1 = (words space s).headD [] := by
  rcases @words_scan α space s with ⟨none, nothing⟩ | ⟨-, found⟩
  · rw [none, nothing]
    rfl
  · rw [found]
    rfl

theorem words_scan_snd (s : List α) : words space (scan space s).2 = (words space s).tail := by
  rcases @words_scan α space s with ⟨none, nothing⟩ | ⟨-, found⟩
  · rw [none, nothing]
    rfl
  · rw [found]
    rfl

/-! ### Trimming -/

theorem trimmed_trim (s : List α) : Trimmed space s ((s.dropWhile space).rdropWhile space) := by
  refine ⟨⟨s.takeWhile space, (s.dropWhile space).rtakeWhile space, ?_, ?_, ?_⟩, ?_, ?_⟩
  · rw [List.rdropWhile_append_rtakeWhile, List.takeWhile_append_dropWhile]
  · exact fun c member => List.mem_takeWhile_imp member
  · exact fun c member => List.mem_rtakeWhile_imp member
  · intro c head
    obtain ⟨after, whole⟩ := List.rdropWhile_prefix space (s.dropWhile space)
    apply head_dropWhile (s := s)
    rw [← whole, List.head?_append, Option.mem_def.mp head]
    rfl
  · intro c last
    obtain ⟨ne, rfl⟩ := List.mem_getLast?_eq_getLast last
    simpa using List.rdropWhile_last_not space _ ne

theorem rdropWhile_stop {p : α → Bool} {line run : List α} (passed : ∀ c ∈ run, p c = true)
    (stopped : ∀ c ∈ line.getLast?, p c = false) : (line ++ run).rdropWhile p = line := by
  rw [List.rdropWhile, List.reverse_append, dropWhile_stop, List.reverse_reverse]
  · exact fun c member => passed c (List.mem_reverse.mp member)
  · rw [List.head?_reverse]
    exact stopped

theorem trimmed_iff {s line : List α} :
    Trimmed space s line ↔ line = (s.dropWhile space).rdropWhile space := by
  constructor
  · rintro ⟨⟨before, after, rfl, left, right⟩, first, last⟩
    cases line with
    | nil =>
      have nothing : after.dropWhile space = [] := List.dropWhile_eq_nil_iff.mpr right
      rw [List.dropWhile_append_of_pos left]
      simp [nothing]
    | cons c line =>
      have front : (before ++ (c :: line ++ after)).dropWhile space = c :: line ++ after :=
        dropWhile_stop left (fun d head => first d head)
      rw [front, rdropWhile_stop right last]
  · rintro rfl
    exact trimmed_trim s

end Library.Tokens
