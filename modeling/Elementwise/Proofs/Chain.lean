import Elementwise.Proofs.Build
import Elementwise.Proofs.Table
import Mathlib.Data.List.TakeWhile

/-!
# Chains of requests

In a chain of requests the factory of each request asks for the next one before it makes its own
kernel. Keys are looked up on the way in, while the cache is still as it was, and kernels are stored
on the way out. So the factories up to the first known key run, the innermost first, and under a key
that occurs several times the outermost kernel is left.
-/

namespace Elementwise

/-! ### Storing several kernels -/

namespace Table

variable {α : Type} {t : Table α} {key : String} {a : α}

/-- The table with some more values, the last one of the list being inserted first. -/
def insertAll (t : Table α) (entries : List (String × α)) : Table α :=
  entries.foldr (fun e u => u.insert e.1 e.2) t

@[simp] lemma insertAll_nil : t.insertAll [] = t := rfl

@[simp] lemma insertAll_cons (e : String × α) (entries : List (String × α)) :
    t.insertAll (e :: entries) = (t.insertAll entries).insert e.1 e.2 := rfl

/-- The first value for a key is the one that is left. -/
lemma find?_insertAll (t : Table α) (entries : List (String × α)) (key : String) :
    (t.insertAll entries).find? key = (entries.lookup key).or (t.find? key) := by
  induction entries with
  | nil => rfl
  | cons e entries ih =>
    rw [insertAll_cons, find?_insert, lookup_entry, ih]
    split <;> rfl

lemma find?_insertAll_of_notMem {entries : List (String × α)}
    (h : key ∉ entries.map Prod.fst) : (t.insertAll entries).find? key = t.find? key := by
  have hlookup : entries.lookup key = none := by
    rw [List.lookup_eq_none_iff]
    intro e he
    rw [bne_iff_ne]
    rintro rfl
    exact h (List.mem_map_of_mem he)
  rw [find?_insertAll, hlookup, Option.none_or]

lemma mem_keys_insertAll_iff {entries : List (String × α)} :
    key ∈ (t.insertAll entries).keys ↔ key ∈ entries.map Prod.fst ∨ key ∈ t.keys := by
  induction entries with
  | nil => simp
  | cons e entries ih =>
    have hinsert : key ∈ (t.insertAll (e :: entries)).keys ↔
        key = e.1 ∨ key ∈ (t.insertAll entries).keys := by
      rw [insertAll_cons, keys_insert]
      split
      · rename_i hmem
        exact ⟨Or.inr, fun h => h.elim (fun heq => heq ▸ hmem) id⟩
      · simp [or_comm]
    rw [hinsert, ih, List.map_cons, List.mem_cons, or_assoc]

lemma size_insert (t : Table α) (key : String) (a : α) :
    (t.insert key a).size = if key ∈ t.keys then t.size else t.size + 1 := by
  rw [size_eq_length_keys, size_eq_length_keys, keys_insert]
  split <;> simp

/-- New keys count once each, however often they occur. -/
lemma size_insertAll {entries : List (String × α)} (h : ∀ e ∈ entries, e.1 ∉ t.keys) :
    (t.insertAll entries).size = t.size + (entries.map Prod.fst).dedup.length := by
  induction entries with
  | nil => simp
  | cons e entries ih =>
    have hrest := ih fun other hother => h other (List.mem_cons_of_mem e hother)
    have hfresh := h e List.mem_cons_self
    rw [insertAll_cons, size_insert, hrest, List.map_cons]
    by_cases hmem : e.1 ∈ entries.map Prod.fst
    · rw [if_pos (mem_keys_insertAll_iff.mpr (Or.inl hmem)), List.dedup_cons_of_mem hmem]
    · rw [if_neg fun hkey => (mem_keys_insertAll_iff.mp hkey).elim hmem hfresh,
        List.dedup_cons_of_notMem hmem, List.length_cons, Nat.add_assoc]

end Table

/-! ### Chains -/

namespace Build

/-- Ask for a kernel in a chain, given by the outermost request and those inside of it. A request is
a key with the kernel that its factory makes. The innermost factory may fail instead. -/
def getChain (fault : Option Failure) : (request : String × Kernel) →
    (inside : List (String × Kernel)) → Build Artifact
  | (key, kernel), [] => getOrCreate key do
    if let some failure := fault then
      throw failure
    issue kernel
  | (key, kernel), next :: inside => getOrCreate key do
    let _ ← getChain fault next inside
    issue kernel

/-- The kernels made for some requests, numbered from the innermost request on. -/
def numbered (start : ℕ) : List (String × Kernel) → List (String × Artifact)
  | [] => []
  | (key, kernel) :: inside => (key, ⟨start + inside.length, kernel⟩) :: numbered start inside

/-- The state once the kernels made for some requests are stored, the innermost first. -/
def stored (s : BuildState) (made : List (String × Artifact)) : BuildState where
  cache := s.cache.insertAll made
  nextSerial := s.nextSerial + made.length
  journal := s.journal.recordAll
    (made.map fun e => cacheLogger.say .debug ("Generated " ++ e.1)).reverse

lemma length_numbered (start : ℕ) (requests : List (String × Kernel)) :
    (numbered start requests).length = requests.length := by
  induction requests with
  | nil => rfl
  | cons request inside ih => rw [numbered, List.length_cons, ih, List.length_cons]

lemma map_fst_numbered (start : ℕ) (requests : List (String × Kernel)) :
    (numbered start requests).map Prod.fst = requests.map Prod.fst := by
  induction requests with
  | nil => rfl
  | cons request inside ih => rw [numbered, List.map_cons, ih, List.map_cons]

variable {fault : Option Failure} {request next : String × Kernel} {inside : List (String × Kernel)}
  {s : BuildState}

/-- The requests of a chain whose factories run: those before the first known key. -/
def served (s : BuildState) (chain : List (String × Kernel)) : List (String × Kernel) :=
  chain.takeWhile fun request => !s.cache.contains request.1

lemma served_cons_of_find? {artifact : Artifact} (h : s.cache.find? request.1 = some artifact) :
    served s (request :: inside) = [] := by
  simp [served, Table.contains, h]

lemma served_cons_of_find?_eq_none (h : s.cache.find? request.1 = none) :
    served s (request :: inside) = request :: served s inside := by
  simp [served, Table.contains, h]

lemma stored_nil (s : BuildState) : stored s [] = s := by
  simp [stored]

/-- A known key ends the chain. -/
lemma exec_getChain_of_find? {artifact : Artifact} (h : s.cache.find? request.1 = some artifact) :
    exec (getChain fault request inside) s = (.ok artifact, s) := by
  cases inside with
  | nil => rw [getChain, exec_getOrCreate, h]
  | cons next inside => rw [getChain, exec_getOrCreate, h]

/-- A factory whose chain inside has come to an end makes its own kernel. -/
lemma exec_getChain_cons {made : List (String × Artifact)} {artifact : Artifact}
    (h : s.cache.find? request.1 = none)
    (hnext : exec (getChain fault next inside) s = (.ok artifact, stored s made)) :
    exec (getChain fault request (next :: inside)) s =
      (.ok ⟨s.nextSerial + made.length, request.2⟩,
        stored s ((request.1, ⟨s.nextSerial + made.length, request.2⟩) :: made)) := by
  rw [getChain, exec_getOrCreate, h, exec_bind_of_ok hnext]
  simp [stored, Nat.add_assoc, Journal.recordAll_append]

/-- With a fault at the end and no known key before it the chain fails without effect. -/
lemma exec_getChain_of_fault {failure : Failure}
    (h : ∀ r ∈ request :: inside, s.cache.find? r.1 = none) :
    exec (getChain (some failure) request inside) s = (.error failure, s) := by
  induction inside generalizing request with
  | nil =>
    rw [getChain, exec_getOrCreate, h request List.mem_cons_self]
    rfl
  | cons next inside ih =>
    have hnext := ih fun r hr => h r (List.mem_cons_of_mem request hr)
    rw [getChain, exec_getOrCreate, h request List.mem_cons_self, exec_bind_of_error hnext]

/-- Otherwise the factories before the first known key run, and the chain yields the kernel of the
first one of them. -/
lemma exec_getChain_of_find?_eq_none (h : s.cache.find? request.1 = none)
    (hends : fault = none ∨ ∃ r ∈ inside, s.cache.contains r.1 = true) :
    exec (getChain fault request inside) s =
      (.ok ⟨s.nextSerial + (served s inside).length, request.2⟩,
        stored s (numbered s.nextSerial (served s (request :: inside)))) := by
  rw [served_cons_of_find?_eq_none h, numbered]
  induction inside generalizing request with
  | nil =>
    obtain rfl : fault = none := by simpa using hends
    rw [getChain, exec_getOrCreate, h]
    simp [stored, served, numbered]
  | cons next inside ih =>
    rw [← length_numbered s.nextSerial (served s (next :: inside))]
    cases hnext : s.cache.find? next.1 with
    | some artifact =>
      -- the chain ends here, and the factory of the request is the innermost one to run
      rw [served_cons_of_find? hnext]
      apply exec_getChain_cons h
      rw [exec_getChain_of_find? hnext]
      exact congrArg _ (stored_nil s).symm
    | none =>
      have hends : fault = none ∨ ∃ r ∈ inside, s.cache.contains r.1 = true := by
        simpa [Table.contains, hnext] using hends
      rw [served_cons_of_find?_eq_none hnext, numbered]
      exact exec_getChain_cons h (ih hnext hends)

/-- The chain comes to an end at a known key or at the innermost factory, and it yields what is
under its first key or what its first factory makes. -/
lemma exists_exec_getChain
    (hends : fault = none ∨ ∃ r ∈ request :: inside, s.cache.contains r.1 = true) :
    ∃ artifact, exec (getChain fault request inside) s =
        (.ok artifact, stored s (numbered s.nextSerial (served s (request :: inside)))) ∧
      (served s (request :: inside) = [] → s.cache.find? request.1 = some artifact) ∧
      (served s (request :: inside) ≠ [] →
        (numbered s.nextSerial (served s (request :: inside))).head? =
          some (request.1, artifact)) := by
  cases hfind : s.cache.find? request.1 with
  | some artifact =>
    rw [served_cons_of_find? hfind, numbered, stored_nil]
    exact ⟨artifact, exec_getChain_of_find? hfind, fun _ => rfl, fun h => absurd rfl h⟩
  | none =>
    have hends : fault = none ∨ ∃ r ∈ inside, s.cache.contains r.1 = true := by
      simpa [Table.contains, hfind] using hends
    refine ⟨_, exec_getChain_of_find?_eq_none hfind hends, ?_, ?_⟩
    · rw [served_cons_of_find?_eq_none hfind]
      exact fun h => absurd h (List.cons_ne_nil _ _)
    · rw [served_cons_of_find?_eq_none hfind]
      exact fun _ => rfl

/-- The factories that run belong to the requests before the first known key. -/
lemma served_eq_take (s : BuildState) (chain : List (String × Kernel)) :
    served s chain = chain.take (chain.findIdx fun r => s.cache.contains r.1) := by
  rw [served, List.takeWhile_eq_take_findIdx_not]
  simp only [Bool.not_not]

lemma length_served (s : BuildState) (chain : List (String × Kernel)) :
    (served s chain).length = chain.findIdx fun r => s.cache.contains r.1 := by
  rw [served_eq_take, List.length_take, min_eq_left List.findIdx_le_length]

/-- What the factories make goes under keys that were unknown. -/
lemma notMem_keys_of_mem_numbered {chain : List (String × Kernel)} {e : String × Artifact}
    (h : e ∈ numbered s.nextSerial (served s chain)) : e.1 ∉ s.cache.keys := by
  have hmem : e.1 ∈ (served s chain).map Prod.fst := by
    rw [← map_fst_numbered s.nextSerial]
    exact List.mem_map_of_mem h
  obtain ⟨r, hr, hre⟩ := List.mem_map.mp hmem
  have hunknown := List.mem_takeWhile_imp hr
  rw [Table.mem_keys_iff, ← hre]
  simpa using hunknown

/-- Nested requests to the cache. Let `m` be the place of the first known key in the chain, or its
length if there is none. If the innermost factory fails and no key is known, the whole chain fails
and nothing has happened. Otherwise exactly the first `m` factories run, the innermost first: each
of them takes one number and logs one line. The kernel of the outermost request is the result, or
the cached one if its key was known. The kernels are stored in the order in which they were made, so
a key has the kernel of its outermost request, every other key keeps what it had, and the cache
grows by the number of distinct keys. -/
theorem exec_getChain (s : BuildState) (fault : Option Failure) (request : String × Kernel)
    (inside : List (String × Kernel)) :
    let chain := request :: inside
    let m := chain.findIdx fun r => s.cache.contains r.1
    let made := numbered s.nextSerial (chain.take m)
    let outcome := exec (getChain fault request inside) s
    (∀ failure, fault = some failure → m = chain.length → outcome = (.error failure, s)) ∧
      (fault = none ∨ m < chain.length → ∃ artifact after, outcome = (.ok artifact, after) ∧
        (m = 0 → s.cache.find? request.1 = some artifact) ∧
        (0 < m → made.head? = some (request.1, artifact)) ∧
        after.nextSerial = s.nextSerial + m ∧
        after.journal = s.journal.recordAll
          (made.map fun e => cacheLogger.say .debug ("Generated " ++ e.1)).reverse ∧
        after.cache = made.foldr (fun e cache => cache.insert e.1 e.2) s.cache ∧
        (∀ key artifact, made.lookup key = some artifact →
          after.cache.find? key = some artifact) ∧
        (∀ key, key ∉ made.map Prod.fst → after.cache.find? key = s.cache.find? key) ∧
        after.cache.size = s.cache.size + (made.map Prod.fst).dedup.length) := by
  intro chain m made outcome
  have hmade : made = numbered s.nextSerial (served s chain) := by
    rw [served_eq_take]
  have hserved : (served s chain).length = m := length_served s chain
  constructor
  · -- no key is known, so the chain gets to the innermost factory
    rintro failure rfl hm
    apply exec_getChain_of_fault
    intro r hr
    exact Table.contains_eq_false_iff.mp (List.findIdx_eq_length.mp hm r hr)
  · intro hends
    rw [List.findIdx_lt_length] at hends
    obtain ⟨artifact, hexec, hcached, hfirst⟩ := exists_exec_getChain hends
    rw [← List.length_eq_zero_iff, hserved] at hcached
    rw [← List.length_pos_iff, hserved, ← hmade] at hfirst
    rw [← hmade] at hexec
    refine ⟨artifact, stored s made, hexec, hcached, hfirst, ?_, rfl, rfl, ?_, ?_, ?_⟩
    · rw [stored, hmade, length_numbered, hserved]
    · intro key found hlookup
      rw [stored, Table.find?_insertAll, hlookup, Option.some_or]
    · exact fun key hkey => Table.find?_insertAll_of_notMem hkey
    · apply Table.size_insertAll
      rw [hmade]
      exact fun e he => notMem_keys_of_mem_numbered he

end Build

/-! ### Requests carried out -/

namespace Request

open Build

/-- The key of a request with the kernel that its factory makes. -/
def asked (request : Request) : String × Kernel :=
  (request.key, .generate request.input request.output request.function request.options)

/-- A request is refused by its factory, or its kernel is made after what the factory begins
with. -/
lemma exec_perform (request : Request) (further : Build (List Artifact)) (s : BuildState) :
    exec (Outcome.artifact <$> request.perform further) s =
      exec (getOrCreate request.asked.1
        (match request.refusal with
          | some reason => throw (.compile reason)
          | none => further >>= fun _ => issue request.asked.2)) s := by
  rw [exec_map, perform, exec_bind, exec_getOrMake, exec_getOrCreate, asked]
  cases s.cache.find? request.key with
  | some artifact => rfl
  | none =>
    cases request.refusal with
    | some reason => rfl
    | none =>
      simp only [exec_bind]
      rcases exec further s with ⟨result, s'⟩
      cases result <;> rfl

/-- The requests that are carried out form chains, in which only the factory of the innermost one
may be refused. -/
theorem exec_run {request : Request} {inside : List Request}
    (h : ∀ r ∈ (request :: inside).dropLast, r.refusal = none) (s : BuildState) :
    exec (Outcome.artifact <$> request.run inside) s =
      exec (getChain (((request :: inside).getLast (by simp)).refusal.map .compile) request.asked
        (inside.map asked)) s := by
  induction inside generalizing request with
  | nil =>
    rw [run, exec_perform, List.getLast_singleton]
    cases request.refusal <;> rfl
  | cons next inside ih =>
    rw [List.dropLast_cons_cons, List.forall_mem_cons] at h
    have hinside := ih h.2
    rw [exec_map] at hinside
    rw [run, exec_perform, h.1, List.getLast_cons_cons, List.map_cons, getChain, exec_getOrCreate,
      exec_getOrCreate]
    cases s.cache.find? request.asked.1 with
    | some artifact => rfl
    | none =>
      simp only [exec_bind, ← hinside]
      rcases exec (next.run inside) s with ⟨result, s'⟩
      cases result <;> rfl

end Request

end Elementwise
