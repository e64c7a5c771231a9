import CentralSquawk.Library.FirstWins
import CentralSquawk.Threads.Worker

/-!
# What a snapshot leaves in the cache

`FetchAssignedSSR` filters, upper-cases and stores the members of the object it
received, first come first stored. Any other result leaves the cache alone.
-/

namespace CentralSquawk.Snapshot
open Library

def members : Reply → Option (List (Text × Json))
  | .answered status (.json (.object fields)) => if refusedStatus status then none else some fields
  | _ => none

/-- An object whose `ssr` is a string, and what it says. -/
structure Reads (entry : Json) (info : SsrInfo) : Prop where
  object : ∃ fields, entry = .object fields
  ssr : entry.find (text "ssr") = some (.string info.ssr)
  /-- False also when `dupe` is missing or not a boolean. -/
  dupe : info.dupe = true ↔ entry.find (text "dupe") = some (.boolean true)

structure Says (entry : Json) (info : SsrInfo) : Prop extends Reads entry info where
  formed : FourOctalDigits info.ssr

/-- The cache is exactly what the well-formed members say, the first one of each key counting. -/
structure Exact (snapshot : List (Text × Json)) (cache : Cache) : Prop where
  keys : ∀ K, K ∈ cache ↔ ∃ m ∈ snapshot, toUpper m.1 = K ∧ ∃ info, Says m.2 info
  first : ∀ K info, cache.lookup K = some info ↔
    ∃ before m after, snapshot = before ++ m :: after ∧ toUpper m.1 = K ∧ Says m.2 info ∧
      ∀ earlier ∈ before, toUpper earlier.1 = K → ∀ other, ¬ Says earlier.2 other

/-! ### One member -/

theorem reads_iff {entry : Json} {info : SsrInfo} :
    Reads entry info ↔ Json.getString (entry.find (text "ssr")) = some info.ssr ∧
      info.dupe = (Json.getBoolean (entry.find (text "dupe"))).getD false := by
  rw [Json.getString_eq_some, Bool.eq_iff_iff, Json.getBoolean_getD]
  constructor
  · rintro ⟨-, ssr, dupe⟩
    exact ⟨ssr, dupe⟩
  · rintro ⟨ssr, dupe⟩
    exact ⟨Json.object_of_find ssr, ssr, dupe⟩

theorem readEntry_eq_some {entry : Json} {info : SsrInfo} : readEntry entry = some info ↔ Says entry info := by
  unfold readEntry
  constructor
  · intro read
    split at read
    · contradiction
    · rename_i ssr string
      split at read
      · rename_i formed
        obtain rfl := Option.some.inj read
        exact ⟨reads_iff.mpr ⟨string, rfl⟩, isWellFormedSquawk_iff.mp formed⟩
      · contradiction
  · rintro ⟨reads, formed⟩
    obtain ⟨string, dupe⟩ := reads_iff.mp reads
    simp [string, isWellFormedSquawk_iff.mpr formed, ← dupe]

/-! ### All of them -/

def readMember (m : Text × Json) : Option (Text × SsrInfo) :=
  (readEntry m.2).map (fun info => (toUpper m.1, info))

theorem readMember_eq_some {m : Text × Json} {K : Text} {info : SsrInfo} :
    readMember m = some (K, info) ↔ toUpper m.1 = K ∧ Says m.2 info := by
  simp only [readMember, Option.map_eq_some_iff, Prod.mk.injEq]
  constructor
  · rintro ⟨read, entry, key, rfl⟩
    exact ⟨key, readEntry_eq_some.mp entry⟩
  · rintro ⟨key, formed⟩
    exact ⟨info, readEntry_eq_some.mpr formed, key, rfl⟩

theorem parseSnapshot_eq_build (snapshot : List (Text × Json)) :
    parseSnapshot snapshot = FirstWins.build readMember snapshot := by
  unfold parseSnapshot FirstWins.build
  congr
  funext parsed m
  unfold FirstWins.store readMember
  cases readEntry m.2 <;> rfl

theorem parseSnapshot_exact (snapshot : List (Text × Json)) : Exact snapshot (parseSnapshot snapshot) := by
  constructor
  · intro K
    rw [parseSnapshot_eq_build, FirstWins.mem_build]
    simp only [readMember_eq_some, exists_and_left]
  · intro K info
    rw [parseSnapshot_eq_build, FirstWins.lookup_build_eq_some]
    simp only [ne_eq, readMember_eq_some, not_and, and_assoc]
    have swap : ∀ before : List (Text × Json),
        (∀ earlier ∈ before, ∀ other, toUpper earlier.1 = K → ¬ Says earlier.2 other) ↔
          ∀ earlier ∈ before, toUpper earlier.1 = K → ∀ other, ¬ Says earlier.2 other :=
      fun before => forall₂_congr (fun _ _ => forall_comm)
    simp only [swap]

/-! ### Every result of the call -/

theorem fetchAssignedSSR_parsed (printError : Bool) (reply : Reply) :
    (fetchAssignedSSR printError reply).parsed = (members reply).map parseSnapshot := by
  unfold fetchAssignedSSR fetchFault
  cases reply with
  | failed error =>
    dsimp only [members, Option.map_none]
    split <;> rfl
  | answered status body =>
    by_cases starting : status = 503
    · have refused : refusedStatus status = true := by simp [starting, refusedStatus]
      cases body with
      | json value => cases value <;> simp [members, starting, refusedStatus]
      | _ => simp [members, starting]
    cases refused : refusedStatus status with
    | true =>
      have none_of : members (.answered status body) = none := by
        unfold members
        split
        · rename_i same
          cases same
          simp [refused]
        · rfl
      rw [none_of]
      cases printError <;> simp [starting, refused]
    | false =>
      cases body with
      | json value => cases value <;> simp [members, starting, refused]
      | _ => simp [members, starting, refused]

/-- A failed fetch changes nothing; a good one replaces the cache by what the snapshot says. -/
theorem snapshot_applied_whole [Secret] (s : System) (reply : Reply) :
    match members reply with
    | none => (workerEffect s (.fetched reply)).plugin.ssrCache = s.plugin.ssrCache
    | some snapshot => Exact snapshot (workerEffect s (.fetched reply)).plugin.ssrCache := by
  have stored : (workerEffect s (.fetched reply)).plugin.ssrCache =
      (fetchAssignedSSR s.plugin.printError reply).parsed.getD s.plugin.ssrCache := rfl
  rw [stored, fetchAssignedSSR_parsed]
  cases members reply with
  | none => rfl
  | some snapshot => exact parseSnapshot_exact snapshot

end CentralSquawk.Snapshot
