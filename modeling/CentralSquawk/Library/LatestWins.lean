import Mathlib.Data.List.AList
import Mathlib.Data.List.Nodup
import Mathlib.Algebra.Order.Group.Multiset
import Mathlib.Tactic.Abel

/-!
# Latest-wins hand-over

One party queues items under keys, and a later item replaces the one still
pending under its key. The other party drains everything pending at once and
then hands the drained items over one by one. The ledger keeps every item ever
queued, so that losing, duplicating or reordering one would show.
-/

namespace Library

structure Ticket (Key Item : Type*) where
  key : Key
  item : Item
  serial : Nat

structure LatestWins (Key Item : Type*) where
  queued : List (Ticket Key Item) := []
  pending : List (Ticket Key Item) := []
  drained : List (Ticket Key Item) := []
  handed : List (Ticket Key Item) := []
  /-- Each replaced ticket with the one that replaced it. -/
  superseded : List (Ticket Key Item × Ticket Key Item) := []

namespace LatestWins

variable {Key Item : Type*} [DecidableEq Key]

def of (k : Key) (tickets : List (Ticket Key Item)) : List (Ticket Key Item) :=
  tickets.filter (fun t => t.key = k)

def others (k : Key) (tickets : List (Ticket Key Item)) : List (Ticket Key Item) :=
  tickets.filter (fun t => ¬ t.key = k)

def nextTicket (l : LatestWins Key Item) (k : Key) (x : Item) : Ticket Key Item :=
  ⟨k, x, l.queued.length⟩

def queue (l : LatestWins Key Item) (k : Key) (x : Item) : LatestWins Key Item :=
  let t := l.nextTicket k x
  { l with
    queued := l.queued ++ [t]
    pending := others k l.pending ++ [t]
    superseded := l.superseded ++ (of k l.pending).map (fun old => (old, t)) }

def drain (l : LatestWins Key Item) : LatestWins Key Item :=
  { l with pending := [], drained := l.drained ++ l.pending }

def hand (l : LatestWins Key Item) (k : Key) : LatestWins Key Item :=
  { l with
    drained := l.drained.eraseP (fun t => t.key = k)
    handed := l.handed ++ (l.drained.find? (fun t => t.key = k)).toList }

/-- What is still to reach, or has reached, the receiver under a key, oldest first. -/
def line (l : LatestWins Key Item) (k : Key) : List (Ticket Key Item) :=
  of k l.handed ++ of k l.drained ++ of k l.pending

/-- Every queued item is in exactly one place, and each key keeps its order and its latest item. -/
structure Balanced (l : LatestWins Key Item) : Prop where
  serials : l.queued.map Ticket.serial = List.range l.queued.length
  accounted : (l.pending + l.drained + l.handed + l.superseded.map Prod.fst :
    Multiset (Ticket Key Item)) = l.queued
  replaced : ∀ pair ∈ l.superseded, pair.2 ∈ l.queued ∧ pair.1.key = pair.2.key ∧
    pair.1.serial < pair.2.serial
  ordered : ∀ k, (l.line k).Sublist (of k l.queued)
  latest : ∀ k, (l.line k).getLast? = (of k l.queued).getLast?

/-! ### Tickets of one key -/

@[simp] theorem of_nil (k : Key) : of k ([] : List (Ticket Key Item)) = [] := rfl

@[simp] theorem of_append (k : Key) (xs ys : List (Ticket Key Item)) :
    of k (xs ++ ys) = of k xs ++ of k ys := List.filter_append ..

theorem of_singleton (k : Key) (t : Ticket Key Item) : of k [t] = if t.key = k then [t] else [] := by
  by_cases same : t.key = k <;> simp [of, same]

@[simp] theorem mem_of {k : Key} {t : Ticket Key Item} {tickets : List (Ticket Key Item)} :
    t ∈ of k tickets ↔ t ∈ tickets ∧ t.key = k := by
  simp [of]

theorem of_others_same (k : Key) (tickets : List (Ticket Key Item)) : of k (others k tickets) = [] := by
  simp [of, others, List.filter_filter]

theorem of_others_ne {k k' : Key} (different : k' ≠ k) (tickets : List (Ticket Key Item)) :
    of k' (others k tickets) = of k' tickets := by
  simp only [of, others, List.filter_filter]
  apply List.filter_congr
  intro t _
  by_cases same : t.key = k' <;> simp [same, different]

theorem others_add_of (k : Key) (tickets : List (Ticket Key Item)) :
    (others k tickets + of k tickets : Multiset (Ticket Key Item)) = tickets := by
  rw [add_comm, Multiset.coe_add, Multiset.coe_eq_coe]
  simpa [of, others] using List.filter_append_perm (fun t : Ticket Key Item => decide (t.key = k)) tickets

theorem of_eraseP (k : Key) (tickets : List (Ticket Key Item)) :
    (tickets.find? (fun t => t.key = k)).toList ++ of k (tickets.eraseP (fun t => t.key = k)) =
      of k tickets := by
  induction tickets with
  | nil => rfl
  | cons t rest ih =>
    by_cases same : t.key = k
    · simp [of, same]
    · simpa [of, same] using ih

theorem of_find?_ne {k k' : Key} (different : k' ≠ k) (tickets : List (Ticket Key Item)) :
    of k' (tickets.find? (fun t => t.key = k)).toList = [] := by
  cases found : tickets.find? (fun t => t.key = k) with
  | none => rfl
  | some t =>
    have key : t.key = k := by simpa using List.find?_some found
    simp [of_singleton, key, Ne.symm different]

theorem of_eraseP_ne {k k' : Key} (different : k' ≠ k) (tickets : List (Ticket Key Item)) :
    of k' (tickets.eraseP (fun t => t.key = k)) = of k' tickets := by
  induction tickets with
  | nil => rfl
  | cons t rest ih =>
    by_cases same : t.key = k
    · simp [of, same, Ne.symm different]
    · by_cases other : t.key = k' <;> simpa [of, same, other, different] using ih

omit [DecidableEq Key] in
theorem find?_add_eraseP (p : Ticket Key Item → Bool) (tickets : List (Ticket Key Item)) :
    ((tickets.find? p).toList + tickets.eraseP p : Multiset (Ticket Key Item)) = tickets := by
  rw [Multiset.coe_add, Multiset.coe_eq_coe]
  induction tickets with
  | nil => exact List.Perm.refl _
  | cons t rest ih =>
    by_cases same : p t = true
    · simp [same]
    · simp only [List.find?_cons, same, List.eraseP_cons, Bool.cond_false]
      exact List.perm_middle.trans (ih.cons t)

/-! ### The three operations keep the balance -/

theorem balanced_empty : Balanced ({} : LatestWins Key Item) where
  serials := rfl
  accounted := rfl
  replaced := by simp
  ordered k := List.Sublist.refl _
  latest k := rfl

theorem Balanced.mem_queued {l : LatestWins Key Item} (balanced : l.Balanced) {t : Ticket Key Item}
    (pending : t ∈ l.pending) : t ∈ l.queued := by
  rw [← Multiset.mem_coe, ← balanced.accounted]
  simp [pending]

theorem Balanced.serial_lt {l : LatestWins Key Item} (balanced : l.Balanced) {t : Ticket Key Item}
    (queued : t ∈ l.queued) : t.serial < l.queued.length := by
  have member : t.serial ∈ l.queued.map Ticket.serial := List.mem_map_of_mem queued
  rw [balanced.serials] at member
  exact List.mem_range.mp member

theorem line_queue_same (l : LatestWins Key Item) (k : Key) (x : Item) :
    (l.queue k x).line k = of k l.handed ++ of k l.drained ++ [l.nextTicket k x] := by
  simp [line, queue, of_others_same, of_singleton, nextTicket]

theorem line_queue_ne (l : LatestWins Key Item) {k k' : Key} (different : k' ≠ k) (x : Item) :
    (l.queue k x).line k' = l.line k' := by
  simp [line, queue, of_others_ne different, of_singleton, nextTicket, Ne.symm different]

theorem of_queued_queue_ne (l : LatestWins Key Item) {k k' : Key} (different : k' ≠ k) (x : Item) :
    of k' (l.queue k x).queued = of k' l.queued := by
  simp [queue, of_singleton, nextTicket, Ne.symm different]

theorem Balanced.queue {l : LatestWins Key Item} (balanced : l.Balanced) (k : Key) (x : Item) :
    (l.queue k x).Balanced where
  serials := by
    simp [LatestWins.queue, balanced.serials, List.range_succ, nextTicket]
  accounted := by
    -- The replaced tickets move from `pending` to `superseded`; the new one is pending.
    have first : ((of k l.pending).map (fun old => (old, l.nextTicket k x))).map Prod.fst =
        of k l.pending := by simp [Function.comp_def]
    simp only [LatestWins.queue, List.map_append, first, ← Multiset.coe_add]
    rw [← balanced.accounted, ← others_add_of k l.pending]
    abel
  replaced := by
    intro pair member
    simp only [LatestWins.queue, List.mem_append, List.mem_map, mem_of] at member
    rcases member with old | ⟨t, ⟨pending, key⟩, rfl⟩
    · obtain ⟨queued, key, before⟩ := balanced.replaced pair old
      exact ⟨List.mem_append_left _ queued, key, before⟩
    · exact ⟨by simp [LatestWins.queue], key, balanced.serial_lt (balanced.mem_queued pending)⟩
  ordered k' := by
    by_cases same : k' = k
    · subst same
      have before : (of k' l.handed ++ of k' l.drained).Sublist (of k' l.queued) :=
        (List.sublist_append_left _ _).trans (balanced.ordered k')
      rw [line_queue_same]
      simpa [LatestWins.queue, of_singleton, nextTicket] using before.append_right [l.nextTicket k' x]
    · rw [line_queue_ne l same, of_queued_queue_ne l same]
      exact balanced.ordered k'
  latest k' := by
    by_cases same : k' = k
    · subst same
      rw [line_queue_same]
      simp [LatestWins.queue, of_singleton, nextTicket]
    · rw [line_queue_ne l same, of_queued_queue_ne l same]
      exact balanced.latest k'

theorem line_drain (l : LatestWins Key Item) (k : Key) : l.drain.line k = l.line k := by
  simp [line, drain]

theorem Balanced.drain {l : LatestWins Key Item} (balanced : l.Balanced) : l.drain.Balanced where
  serials := balanced.serials
  accounted := by
    rw [show l.drain.queued = l.queued from rfl, ← balanced.accounted]
    simp only [LatestWins.drain, ← Multiset.coe_add, Multiset.coe_nil]
    abel
  replaced := balanced.replaced
  ordered k := by rw [line_drain]; exact balanced.ordered k
  latest k := by rw [line_drain]; exact balanced.latest k

theorem line_hand (l : LatestWins Key Item) (k k' : Key) : (l.hand k).line k' = l.line k' := by
  by_cases same : k' = k
  · subst same
    have all : of k' (l.drained.find? (fun t => t.key = k')).toList =
        (l.drained.find? (fun t => t.key = k')).toList := by
      cases found : l.drained.find? (fun t => t.key = k') with
      | none => rfl
      | some t =>
        have key : t.key = k' := by simpa using List.find?_some found
        simp [of_singleton, key]
    have moved := of_eraseP k' l.drained
    simp only [line, hand, of_append, all, ← moved, List.append_assoc]
  · simp [line, hand, of_find?_ne same, of_eraseP_ne same]

theorem Balanced.hand {l : LatestWins Key Item} (balanced : l.Balanced) (k : Key) :
    (l.hand k).Balanced where
  serials := balanced.serials
  accounted := by
    rw [show (l.hand k).queued = l.queued from rfl, ← balanced.accounted,
      ← find?_add_eraseP (fun t => t.key = k) l.drained]
    simp only [LatestWins.hand, ← Multiset.coe_add]
    abel
  replaced := balanced.replaced
  ordered k' := by rw [line_hand]; exact balanced.ordered k'
  latest k' := by rw [line_hand]; exact balanced.latest k'

/-! ### What a balanced ledger says -/

theorem Balanced.nodup {l : LatestWins Key Item} (balanced : l.Balanced) : l.queued.Nodup := by
  refine List.Nodup.of_map Ticket.serial ?_
  rw [balanced.serials]
  exact List.nodup_range

theorem Balanced.handed_sublist {l : LatestWins Key Item} (balanced : l.Balanced) (k : Key) :
    (of k l.handed).Sublist (of k l.queued) := by
  refine List.Sublist.trans ?_ (balanced.ordered k)
  rw [line, List.append_assoc]
  exact List.sublist_append_left _ _

/-- Once nothing of a key is under way, the last item queued under it was the last handed over. -/
theorem Balanced.handed_latest {l : LatestWins Key Item} (balanced : l.Balanced) {k : Key}
    (idle : of k l.drained ++ of k l.pending = []) :
    (of k l.handed).getLast? = (of k l.queued).getLast? := by
  rw [← balanced.latest k, line, List.append_assoc, idle, List.append_nil]

/-! ### A map that stores the tickets

What a party keeps of its tickets is a map from keys to the part of an item it can see. -/

section
variable {Value : Type*} {view : Item → Value}

/-- Under each key the map holds exactly the tickets of the key, none or one. -/
def Stores (view : Item → Value) (m : AList (fun _ : Key => Value)) (tickets : List (Ticket Key Item)) :
    Prop :=
  ∀ k, (of k tickets).map (fun t => view t.item) = (m.lookup k).toList

theorem stores_nil : Stores view (∅ : AList (fun _ : Key => Value)) ([] : List (Ticket Key Item)) := by
  intro k
  simp

theorem Stores.of_empty {m : AList (fun _ : Key => Value)} {tickets : List (Ticket Key Item)}
    (stores : Stores view m tickets) (empty : m.entries = []) : tickets = [] := by
  cases tickets with
  | nil => rfl
  | cons t rest =>
    obtain rfl : m = ∅ := AList.ext empty
    have none := stores t.key
    simp [of] at none

theorem Stores.of_absent {m : AList (fun _ : Key => Value)} {tickets : List (Ticket Key Item)} {k : Key}
    (stores : Stores view m tickets) (absent : k ∉ m) : of k tickets = [] := by
  have none := stores k
  rw [AList.lookup_eq_none.mpr absent] at none
  exact List.map_eq_nil_iff.mp none

theorem Stores.queue {l : LatestWins Key Item} {m : AList (fun _ : Key => Value)}
    (stores : Stores view m l.pending) (k : Key) (x : Item) :
    Stores view (m.insert k (view x)) (l.queue k x).pending := by
  intro k'
  by_cases same : k' = k
  · subst same
    simp [LatestWins.queue, of_others_same, of_singleton, nextTicket]
  · rw [AList.lookup_insert_ne same, ← stores k']
    simp [LatestWins.queue, of_others_ne same, of_singleton, nextTicket, Ne.symm same]

theorem Stores.drain {l : LatestWins Key Item} {m : AList (fun _ : Key => Value)}
    (stores : Stores view m l.pending) (idle : l.drained = []) : Stores view m l.drain.drained := by
  simpa [LatestWins.drain, idle] using stores

theorem Stores.hand {l : LatestWins Key Item} {m : AList (fun _ : Key => Value)}
    (stores : Stores view m l.drained) (k : Key) : Stores view (m.erase k) (l.hand k).drained := by
  intro k'
  by_cases same : k' = k
  · subst same
    have moved := of_eraseP k' l.drained
    have one := congrArg List.length (stores k')
    rw [← moved] at one
    have atMost : (m.lookup k').toList.length ≤ 1 := by cases m.lookup k' <;> simp
    cases found : l.drained.find? (fun t => t.key = k') with
    | none =>
      have absent : of k' l.drained = [] := by
        simpa [of, List.filter_eq_nil_iff] using found
      rw [found, Option.toList_none, List.nil_append, absent] at moved
      simp [LatestWins.hand, moved]
    | some t =>
      rw [found] at one
      simp only [List.length_map, Option.toList_some, List.singleton_append, List.length_cons] at one
      have gone : of k' (l.drained.eraseP (fun t => t.key = k')) = [] := List.length_eq_zero_iff.mp (by omega)
      simp [LatestWins.hand, gone]
  · rw [AList.lookup_erase_ne same, ← stores k']
    simp [LatestWins.hand, of_eraseP_ne same]

theorem Stores.handed {l : LatestWins Key Item} {m : AList (fun _ : Key => Value)} {k : Key} {v : Value}
    (stores : Stores view m l.drained) (stored : m.lookup k = some v) :
    ∃ t ∈ l.drained, t.key = k ∧ view t.item = v ∧ (l.hand k).handed = l.handed ++ [t] := by
  have one : (of k l.drained).map (fun t => view t.item) = [v] := by rw [stores k, stored]; rfl
  obtain ⟨t, only, rfl⟩ := List.map_eq_singleton_iff.mp one
  have member : t ∈ l.drained ∧ t.key = k := by
    rw [← mem_of, only]
    exact List.mem_singleton_self t
  have found : l.drained.find? (fun t => t.key = k) = some t := by
    have head : (of k l.drained).head? = some t := by rw [only]; rfl
    rwa [of, List.head?_filter] at head
  exact ⟨t, member.1, member.2, rfl, by simp [LatestWins.hand, found]⟩

end

/-! ### A single slot

With one key only, a queued item replaces whatever is pending. -/

theorem pending_queue_unit (l : LatestWins Unit Item) (x : Item) :
    (l.queue () x).pending = [⟨(), x, l.queued.length⟩] := by
  simp [queue, others, nextTicket]

theorem hand_unit {l : LatestWins Unit Item} {x : Item} (one : l.drained.map Ticket.item = [x]) :
    (l.hand ()).drained = [] ∧ (l.hand ()).handed.map Ticket.item = l.handed.map Ticket.item ++ [x] := by
  obtain ⟨t, only, rfl⟩ := List.map_eq_singleton_iff.mp one
  simp [hand, only]

theorem Balanced.handed_sublist_unit {l : LatestWins Unit Item} (balanced : l.Balanced) :
    l.handed.Sublist l.queued := by
  have all : ∀ tickets : List (Ticket Unit Item), of () tickets = tickets := by
    intro tickets
    simp [of]
  simpa [all] using balanced.handed_sublist ()

end LatestWins

end Library
