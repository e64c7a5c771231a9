import CentralSquawk.Snapshot.Applied

/-!
# What the polls for a snapshot say

`printError` is cleared when a fault is reported and set again by the next 2xx
response, before its body is looked at. So it gates the faults that carry no 2xx
response, and nothing gates the others.
-/

namespace CentralSquawk.Snapshot

/-- No response, or a refusal other than 503. -/
def faulty : Reply → Bool
  | .failed _ => true
  | .answered status _ => refusedStatus status && status ≠ 503

def unusable (reply : Reply) : Bool :=
  match reply with
  | .failed _ => false
  | .answered status _ => !refusedStatus status && (members reply).isNone

structure Poll where
  reply : Reply
  fetched : Fetched

/-- Consecutive calls of `FetchAssignedSSR`, each with the `printError` that the one before left. -/
def polls : Bool → List Reply → List Poll
  | _, [] => []
  | printError, reply :: rest =>
    let fetched := fetchAssignedSSR printError reply
    ⟨reply, fetched⟩ :: polls fetched.printError rest

def queued (l : List Poll) : List Message := l.flatMap (fun p => p.fetched.said)

def errors (l : List Poll) : Nat := (queued l).countP Message.isError

/-- A part of a sequence in which nothing is replaced, from the start or a replacement on. -/
structure Stretch {α : Type} (replaces : α → Bool) (all before stretch after : List α) : Prop where
  split : all = before ++ (stretch ++ after)
  start : before = [] ∨ ∃ earlier x, before = earlier ++ [x] ∧ replaces x = true
  kept : ∀ x ∈ stretch, replaces x = false

def Poll.replaces (p : Poll) : Bool := p.fetched.parsed.isSome

def hasSnapshot (reply : Reply) : Bool := (members reply).isSome

/-- An error has been queued, and no "Reconnected" after it. -/
def Owed (said : List Message) : Prop :=
  ∃ earlier error later, said = earlier ++ error :: later ∧ error.isError = true ∧
    reconnectedMessage ∉ later

/-- Every "Reconnected" answers an error queued since the one before it. -/
def Reconnects (said : List Message) : Prop :=
  ∀ before after, said = before ++ reconnectedMessage :: after → Owed before

/-- A fault is reported once until the cache is replaced, and its end only if it was reported. -/
def ReportedOnce (all : List Poll) : Prop :=
  (∀ before stretch after, Stretch Poll.replaces all before stretch after → errors stretch ≤ 1) ∧
    Reconnects (queued all)

def Gated (stretch : List Reply) : Prop :=
  stretch.countP unusable = 0 ∨ stretch.countP unusable = 1 ∧ stretch.countP faulty = 0

/-! ### One poll -/

theorem fetchFault_eq (printError : Bool) (message : Text) :
    fetchFault printError message =
      { printError := false, said := if printError then [queueError message] else [] } := by
  unfold fetchFault
  cases printError <;> rfl

/-- A poll is quiet, meets a gated fault, meets an ungated one, or replaces the cache. -/
theorem fetch_cases (printError : Bool) (reply : Reply) (f : Fetched)
    (h : fetchAssignedSSR printError reply = f) :
    (faulty reply = false ∧ unusable reply = false ∧ f = { printError }) ∨
    (faulty reply = true ∧ unusable reply = false ∧ ∃ m, m.isError = true ∧
      f = { printError := false, said := if printError then [m] else [] }) ∨
    (faulty reply = false ∧ unusable reply = true ∧ ∃ m, m.isError = true ∧
      f = { printError := true, said := (if printError then [] else [reconnectedMessage]) ++ [m] }) ∨
    (faulty reply = false ∧ unusable reply = false ∧ ∃ cache,
      f = { printError := true, said := if printError then [] else [reconnectedMessage],
            parsed := some cache }) := by
  subst h
  unfold fetchAssignedSSR
  cases reply with
  | failed error => exact Or.inr (Or.inl ⟨rfl, rfl, queueError _, rfl, fetchFault_eq _ _⟩)
  | answered status body =>
    dsimp only
    by_cases starting : status = 503
    · have refused : refusedStatus status = true := by simp [starting, refusedStatus]
      exact Or.inl ⟨by simp [faulty, starting], by simp [unusable, refused], if_pos starting⟩
    rw [if_neg starting]
    cases refused : refusedStatus status with
    | true =>
      exact Or.inr (Or.inl ⟨by simp [faulty, refused, starting], by simp [unusable, refused],
        queueError _, rfl, fetchFault_eq _ _⟩)
    | false =>
      have clean : faulty (.answered status body) = false := by simp [faulty, refused]
      have broken : members (.answered status body) = none → unusable (.answered status body) = true := by
        intro no_snapshot
        simp [unusable, refused, no_snapshot]
      cases body with
      | empty => exact Or.inr (Or.inr (Or.inl ⟨clean, broken rfl, queueError _, rfl, rfl⟩))
      | malformed what => exact Or.inr (Or.inr (Or.inl ⟨clean, broken rfl, queueError _, rfl, rfl⟩))
      | json value =>
        cases value with
        | object fields =>
          have good : unusable (.answered status (.json (.object fields))) = false := by
            simp [unusable, members, refused]
          exact Or.inr (Or.inr (Or.inr ⟨clean, good, _, rfl⟩))
        | _ => exact Or.inr (Or.inr (Or.inl ⟨clean, broken rfl, queueError _, rfl, rfl⟩))

/-! ### Many -/

def printErrorAfter (printError : Bool) (replies : List Reply) : Bool :=
  replies.foldl (fun flag reply => (fetchAssignedSSR flag reply).printError) printError

@[simp] theorem errors_cons (p : Poll) (l : List Poll) :
    errors (p :: l) = p.fetched.said.countP Message.isError + errors l := by
  simp [errors, queued]

theorem polls_append (printError : Bool) (early late : List Reply) :
    polls printError (early ++ late) =
      polls printError early ++ polls (printErrorAfter printError early) late := by
  induction early generalizing printError with
  | nil => rfl
  | cons reply rest ih =>
    show _ :: polls _ (rest ++ late) = _
    rw [ih]
    rfl

theorem polls_split {replies : List Reply} {printError : Bool} {front back : List Poll}
    (h : polls printError replies = front ++ back) :
    ∃ early late, replies = early ++ late ∧ front = polls printError early ∧
      back = polls (printErrorAfter printError early) late := by
  induction front generalizing replies printError with
  | nil => exact ⟨[], replies, rfl, rfl, h.symm⟩
  | cons p rest ih =>
    cases replies with
    | nil => contradiction
    | cons reply replies =>
      obtain ⟨same, tail⟩ := List.cons_eq_cons.mp h
      obtain ⟨early, late, rfl, rfl, rfl⟩ := ih tail
      exact ⟨reply :: early, late, rfl, by rw [← same]; rfl, rfl⟩

theorem replaces_eq (printError : Bool) (reply : Reply) :
    Poll.replaces ⟨reply, fetchAssignedSSR printError reply⟩ = hasSnapshot reply := by
  simp [Poll.replaces, hasSnapshot, fetchAssignedSSR_parsed]

theorem replaces_polls {printError : Bool} {replies : List Reply} :
    (∀ p ∈ polls printError replies, p.replaces = false) ↔ ∀ reply ∈ replies, hasSnapshot reply = false := by
  induction replies generalizing printError with
  | nil => simp [polls]
  | cons reply rest ih =>
    rw [polls, List.forall_mem_cons, List.forall_mem_cons, replaces_eq, ih]

theorem printError_of_snapshot {printError : Bool} {reply : Reply} (good : hasSnapshot reply = true) :
    (fetchAssignedSSR printError reply).printError = true := by
  have replaced := replaces_eq printError reply
  unfold Poll.replaces at replaced
  rw [good] at replaced
  rcases fetch_cases printError reply _ rfl with
    ⟨-, -, f⟩ | ⟨-, -, m, -, f⟩ | ⟨-, -, m, -, f⟩ | ⟨-, -, cache, f⟩
  · simp [f] at replaced
  · simp [f] at replaced
  · rw [f]
  · rw [f]

theorem printErrorAfter_snoc (printError : Bool) (replies : List Reply) (reply : Reply) :
    printErrorAfter printError (replies ++ [reply]) =
      (fetchAssignedSSR (printErrorAfter printError replies) reply).printError := by
  simp [printErrorAfter]

theorem Stretch.printError {replies before stretch after : List Reply}
    (h : Stretch hasSnapshot replies before stretch after) : printErrorAfter true before = true := by
  rcases h.start with rfl | ⟨earlier, reply, rfl, good⟩
  · rfl
  · rw [printErrorAfter_snoc]
    exact printError_of_snapshot good

theorem Stretch.polls {replies before stretch after : List Reply}
    (h : Stretch hasSnapshot replies before stretch after) :
    ∃ front back, Stretch Poll.replaces (Snapshot.polls true replies) front (Snapshot.polls true stretch)
      back := by
  have set := h.printError
  obtain ⟨rfl, start, kept⟩ := h
  refine ⟨Snapshot.polls true before, Snapshot.polls (printErrorAfter true stretch) after, ?_, ?_, ?_⟩
  · rw [polls_append, polls_append, set]
  · rcases start with rfl | ⟨earlier, reply, rfl, good⟩
    · exact Or.inl rfl
    · refine Or.inr ⟨_, _, polls_append true earlier [reply], ?_⟩
      rw [replaces_eq]
      exact good
  · exact replaces_polls.mpr kept

theorem Stretch.replies {replies : List Reply} {front stretch back : List Poll}
    (h : Stretch Poll.replaces (Snapshot.polls true replies) front stretch back) :
    ∃ before part after, Stretch hasSnapshot replies before part after ∧ stretch = Snapshot.polls true part := by
  obtain ⟨split, start, kept⟩ := h
  obtain ⟨before, late, rfl, rfl, tail⟩ := polls_split split
  obtain ⟨part, after, rfl, rfl, -⟩ := polls_split tail.symm
  have whole : Stretch hasSnapshot (before ++ (part ++ after)) before part after := by
    refine ⟨rfl, ?_, replaces_polls.mp kept⟩
    rcases start with none | ⟨earlier, p, last, replaced⟩
    · cases before with
      | nil => exact Or.inl rfl
      | cons reply rest => contradiction
    · obtain ⟨older, newer, rfl, -, one⟩ := polls_split last
      cases newer with
      | nil => contradiction
      | cons reply rest =>
        obtain ⟨rfl, nothing⟩ := List.cons_eq_cons.mp one
        cases rest with
        | nil => exact Or.inr ⟨older, reply, rfl, (replaces_eq _ reply).symm.trans replaced⟩
        | cons other rest => contradiction
  exact ⟨before, part, after, whole, by rw [whole.printError]⟩

/-! ### The errors of a stretch -/

theorem reconnected_countP (printError : Bool) :
    (if printError then [] else [reconnectedMessage]).countP Message.isError = 0 := by
  cases printError <;> rfl

theorem unusable_le_errors (printError : Bool) (replies : List Reply) :
    replies.countP unusable ≤ errors (polls printError replies) := by
  induction replies generalizing printError with
  | nil => simp
  | cons reply rest ih =>
    have later := ih (fetchAssignedSSR printError reply).printError
    rw [polls, errors_cons, List.countP_cons]
    rcases fetch_cases printError reply _ rfl with
      ⟨-, usable, -⟩ | ⟨-, usable, -⟩ | ⟨-, broken, m, isError, f⟩ | ⟨-, usable, -⟩
    · simp only [usable, Bool.false_eq_true, if_false]
      omega
    · simp only [usable, Bool.false_eq_true, if_false]
      omega
    · rw [f] at later ⊢
      dsimp only at later ⊢
      simp only [broken, isError, List.countP_append, List.countP_singleton, if_true]
      omega
    · simp only [usable, Bool.false_eq_true, if_false]
      omega

theorem faults_le_errors (replies : List Reply) :
    min 1 (replies.countP faulty) + replies.countP unusable ≤ errors (polls true replies) := by
  induction replies with
  | nil => simp
  | cons reply rest ih =>
    rw [polls, errors_cons, List.countP_cons, List.countP_cons]
    rcases fetch_cases true reply _ rfl with
      ⟨clean, usable, f⟩ | ⟨fault, usable, m, isError, f⟩ | ⟨clean, broken, m, isError, f⟩ |
        ⟨clean, usable, cache, f⟩
    · rw [f]
      simpa [clean, usable] using ih
    · have later := unusable_le_errors false rest
      rw [f]
      simp [fault, usable, isError]
      omega
    · rw [f]
      simp [clean, broken, isError]
      omega
    · rw [f]
      simpa [clean, usable] using ih

theorem errors_le_of_usable {printError : Bool} {replies : List Reply}
    (usable : replies.countP unusable = 0) (kept : ∀ reply ∈ replies, hasSnapshot reply = false) :
    errors (polls printError replies) ≤ if printError then 1 else 0 := by
  induction replies generalizing printError with
  | nil => simp [polls, errors, queued]
  | cons reply rest ih =>
    obtain ⟨here, kept⟩ := List.forall_mem_cons.mp kept
    simp only [List.countP_cons, Nat.add_eq_zero_iff] at usable
    have later : errors (polls (fetchAssignedSSR printError reply).printError rest) ≤ _ := ih usable.1 kept
    rw [polls, errors_cons]
    rcases fetch_cases printError reply _ rfl with
      ⟨-, -, f⟩ | ⟨-, -, m, isError, f⟩ | ⟨-, broken, -⟩ | ⟨-, -, cache, f⟩
    · rw [f] at later ⊢
      simpa using later
    · rw [f] at later ⊢
      cases printError
      · simpa using later
      · have none_later : errors (polls false rest) = 0 := by simpa using later
        simp [isError, none_later]
    · simp [broken] at usable
    · have replaced := replaces_eq printError reply
      simp [Poll.replaces, f, here] at replaced

theorem errors_le_of_clean {printError : Bool} {replies : List Reply}
    (clean : replies.countP faulty = 0) :
    errors (polls printError replies) ≤ replies.countP unusable := by
  induction replies generalizing printError with
  | nil => simp [polls, errors, queued]
  | cons reply rest ih =>
    simp only [List.countP_cons, Nat.add_eq_zero_iff] at clean
    have later : errors (polls (fetchAssignedSSR printError reply).printError rest) ≤ _ := ih clean.1
    rw [polls, errors_cons, List.countP_cons]
    rcases fetch_cases printError reply _ rfl with
      ⟨-, usable, f⟩ | ⟨fault, -⟩ | ⟨-, broken, m, isError, f⟩ | ⟨-, usable, cache, f⟩
    · rw [f] at later ⊢
      simpa [usable] using later
    · simp [fault] at clean
    · rw [f] at later ⊢
      dsimp only at later ⊢
      simp only [broken, isError, List.countP_append, List.countP_singleton, reconnected_countP, if_true]
      omega
    · rw [f] at later ⊢
      simpa [usable, reconnected_countP] using later

theorem errors_le_one_iff {stretch : List Reply} (kept : ∀ reply ∈ stretch, hasSnapshot reply = false) :
    errors (polls true stretch) ≤ 1 ↔ Gated stretch := by
  constructor
  · intro few
    have many := faults_le_errors stretch
    unfold Gated
    omega
  · rintro (usable | ⟨single, clean⟩)
    · exact errors_le_of_usable usable kept
    · exact single ▸ errors_le_of_clean clean

/-! ### "Reconnected" -/

theorem Owed.of_error {said : List Message} {m : Message} (isError : m.isError = true) : Owed (said ++ [m]) :=
  ⟨said, m, [], rfl, isError, by simp⟩

theorem Reconnects.snoc {said : List Message} {m : Message} (all : Reconnects said)
    (answers : m = reconnectedMessage → Owed said) : Reconnects (said ++ [m]) := by
  intro before after split
  rcases List.eq_nil_or_concat' after with rfl | ⟨rest, last, rfl⟩
  · obtain ⟨rfl, same⟩ := List.append_inj' split rfl
    exact answers (List.singleton_inj.mp same)
  · rw [← List.cons_append, ← List.append_assoc] at split
    exact all before rest (List.append_inj' split rfl).1

theorem Reconnects.error {said : List Message} {m : Message} (all : Reconnects said)
    (isError : m.isError = true) : Reconnects (said ++ [m]) := by
  apply all.snoc
  rintro rfl
  contradiction

theorem queued_snoc (l : List Poll) (p : Poll) : queued (l ++ [p]) = queued l ++ p.fetched.said := by
  simp [queued]

/-- While `printError` is cleared, an error is still to be answered. -/
theorem polls_reconnect (replies : List Reply) :
    Reconnects (queued (polls true replies)) ∧
      (printErrorAfter true replies = false → Owed (queued (polls true replies))) := by
  induction replies using List.reverseRecOn with
  | nil =>
    refine ⟨fun before after split => ?_, fun cleared => absurd cleared (by simp [printErrorAfter])⟩
    exact absurd split (by simp [polls, queued])
  | append_singleton replies reply ih =>
    obtain ⟨all, owed⟩ := ih
    rw [polls_append, polls, polls, queued_snoc, printErrorAfter_snoc]
    dsimp only
    rcases fetch_cases (printErrorAfter true replies) reply _ rfl with
      ⟨-, -, f⟩ | ⟨-, -, m, isError, f⟩ | ⟨-, -, m, isError, f⟩ | ⟨-, -, cache, f⟩
    · rw [f]
      simpa using ⟨all, owed⟩
    · rw [f]
      cases flag : printErrorAfter true replies with
      | true => exact ⟨all.error isError, fun _ => Owed.of_error isError⟩
      | false => simpa using ⟨all, owed flag⟩
    · rw [f]
      cases flag : printErrorAfter true replies with
      | true => exact ⟨all.error isError, by simp⟩
      | false =>
        refine ⟨?_, by simp⟩
        simpa using (all.snoc (fun _ => owed flag)).error isError
    · rw [f]
      cases flag : printErrorAfter true replies with
      | true => simpa using all
      | false => exact ⟨all.snoc (fun _ => owed flag), by simp⟩

/-- Faults are reported once exactly while no stretch has an ungated one beside another fault. -/
theorem faults_reported_once_iff (replies : List Reply) :
    ReportedOnce (polls true replies) ↔
      ∀ before stretch after, Stretch hasSnapshot replies before stretch after → Gated stretch := by
  constructor
  · rintro ⟨once, -⟩ before stretch after h
    obtain ⟨front, back, polled⟩ := h.polls
    exact (errors_le_one_iff h.kept).mp (once front _ back polled)
  · intro gated
    refine ⟨fun front stretch back h => ?_, (polls_reconnect replies).1⟩
    obtain ⟨before, part, after, whole, rfl⟩ := h.replies
    exact (errors_le_one_iff whole.kept).mpr (gated before part after whole)

def emptyBody : Reply := .answered 200 .empty

/-- A server that goes on answering with an empty body is reported on every poll. -/
theorem fault_reported_on_every_poll : ¬ ∀ replies, ReportedOnce (polls true replies) := by
  intro all
  have whole : Stretch Poll.replaces (polls true [emptyBody, emptyBody]) []
      (polls true [emptyBody, emptyBody]) [] := by
    refine ⟨(List.append_nil _).symm, Or.inl rfl, ?_⟩
    decide
  have twice : errors (polls true [emptyBody, emptyBody]) = 2 := by decide
  have once := (all [emptyBody, emptyBody]).1 _ _ _ whole
  omega

end CentralSquawk.Snapshot
