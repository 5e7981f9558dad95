/-
Module: GomukuServer.Base.PairingOff
Layer: Base
Purpose: Queues whose first two clients are taken out together, again and again.  The log says which
  pairs have been taken, in order; every queue is at any time the clients of its pairs, in order,
  followed by those who still wait.
Trusted boundary: none
Main exports: Desk, serve, round, Accounts, Accounts.serve, waiting_round_lt, Apart,
  Accounts.fresh
-/
import Mathlib.Algebra.BigOperators.Group.Finset.Basic
import Mathlib.Algebra.Order.BigOperators.Group.Finset
import Mathlib.Logic.Function.Basic

namespace GomukuServer.Base.PairingOff

universe u v

variable {Queue : Type u} {Client : Type v}

/-- The queues, and the pairs that have been taken out of them. -/
structure Desk (Queue : Type u) (Client : Type v) where
  queues : Queue → List Client
  log : List (Queue × Client × Client)

/-- The clients of some pairs, in order. -/
def members (pairs : List (Client × Client)) : List Client :=
  pairs.flatMap fun pair => [pair.1, pair.2]

@[simp] theorem members_nil : members ([] : List (Client × Client)) = [] := rfl

@[simp] theorem members_append (pairs more : List (Client × Client)) :
    members (pairs ++ more) = members pairs ++ members more := by
  simp [members]

@[simp] theorem members_singleton (pair : Client × Client) :
    members [pair] = [pair.1, pair.2] := rfl

theorem mem_members {pairs : List (Client × Client)} {client : Client} :
    client ∈ members pairs ↔ ∃ pair ∈ pairs, client = pair.1 ∨ client = pair.2 := by
  simp [members]

/-- The clients of a pair are different if nobody occurs twice. -/
theorem ne_of_mem_members {pairs : List (Client × Client)} (once : (members pairs).Nodup)
    {pair : Client × Client} (inside : pair ∈ pairs) : pair.1 ≠ pair.2 := by
  have both := (List.nodup_flatMap.mp once).1 pair inside
  simpa using both

/-- A client who occurs once is in one pair only. -/
theorem entry_unique {pairs : List (Client × Client)} (once : (members pairs).Nodup)
    {k other : Nat} {pair otherPair : Client × Client} (entry : pairs[k]? = some pair)
    (otherEntry : pairs[other]? = some otherPair) {client : Client}
    (one : client = pair.1 ∨ client = pair.2)
    (otherOne : client = otherPair.1 ∨ client = otherPair.2) : k = other := by
  obtain ⟨kSmall, rfl⟩ := List.getElem?_eq_some_iff.mp entry
  obtain ⟨otherSmall, rfl⟩ := List.getElem?_eq_some_iff.mp otherEntry
  have apart := List.pairwise_iff_getElem.mp (List.nodup_flatMap.mp once).2
  rcases lt_trichotomy k other with earlier | same | later
  · have here := apart k other kSmall otherSmall earlier
    exact absurd (by simpa using otherOne) (here (by simpa using one))
  · exact same
  · have here := apart other k otherSmall kSmall later
    exact absurd (by simpa using one) (here (by simpa using otherOne))

namespace Desk

/-- A queue has fewer than two clients, or it has a first and a second one. -/
theorem short_or_two (desk : Desk Queue Client) (queue : Queue) :
    (desk.queues queue).length ≤ 1 ∨
      ∃ first second rest, desk.queues queue = first :: second :: rest := by
  cases desk.queues queue with
  | nil => exact .inl (by simp)
  | cons first others =>
      cases others with
      | nil => exact .inl (by simp)
      | cons second rest => exact .inr ⟨first, second, rest, rfl⟩

variable [DecidableEq Queue]

/-- The pairs taken out of one queue. -/
def produced (desk : Desk Queue Client) (queue : Queue) : List (Client × Client) :=
  (desk.log.filter (·.1 = queue)).map (·.2)

/-- Take the first two out of a queue that has two. -/
def serve (desk : Desk Queue Client) (queue : Queue) : Desk Queue Client :=
  match desk.queues queue with
  | first :: second :: rest =>
      { queues := Function.update desk.queues queue rest
        log := desk.log ++ [(queue, first, second)] }
  | _ => desk

/-- Serve some queues in turn. -/
def round (desk : Desk Queue Client) (turns : List Queue) : Desk Queue Client :=
  turns.foldl serve desk

theorem serve_of_two {desk : Desk Queue Client} {queue : Queue} {first second : Client}
    {rest : List Client} (queued : desk.queues queue = first :: second :: rest) :
    desk.serve queue = { queues := Function.update desk.queues queue rest
                         log := desk.log ++ [(queue, first, second)] } := by
  rw [serve, queued]

theorem serve_of_short {desk : Desk Queue Client} {queue : Queue}
    (short : (desk.queues queue).length ≤ 1) : desk.serve queue = desk := by
  unfold serve
  split
  · rename_i queued
    simp [queued] at short
  · rfl

/-- Serving a queue leaves the others alone. -/
theorem queues_serve_of_ne (desk : Desk Queue Client) {queue other : Queue} (ne : other ≠ queue) :
    (desk.serve queue).queues other = desk.queues other := by
  rcases desk.short_or_two queue with short | ⟨first, second, rest, queued⟩
  · rw [serve_of_short short]
  · rw [serve_of_two queued]
    exact Function.update_of_ne ne _ _

/-! ### What has become of the queues -/

/-- Every queue was its pairs, in order, and then those who wait. -/
def Accounts (start : Queue → List Client) (desk : Desk Queue Client) : Prop :=
  ∀ queue, start queue = members (desk.produced queue) ++ desk.queues queue

theorem accounts_start (start : Queue → List Client) : Accounts start ⟨start, []⟩ := fun _ => rfl

/-- Serving a queue keeps the accounts. -/
theorem Accounts.serve {start : Queue → List Client} {desk : Desk Queue Client}
    (accounts : Accounts start desk) (queue : Queue) : Accounts start (desk.serve queue) := by
  rcases desk.short_or_two queue with short | ⟨first, second, rest, queued⟩
  · rw [serve_of_short short]
    exact accounts
  · rw [serve_of_two queued]
    intro other
    rw [accounts other]
    by_cases same : queue = other
    · subst same
      simp [produced, queued]
    · simp [produced, same, Ne.symm same]

/-! ### Rounds come to an end -/

section Waiting

variable [Fintype Queue]

/-- How many clients wait. -/
def waiting (desk : Desk Queue Client) : Nat := ∑ queue, (desk.queues queue).length

/-- Serving a queue of two takes two. -/
theorem waiting_serve {desk : Desk Queue Client} {queue : Queue} {first second : Client}
    {rest : List Client} (queued : desk.queues queue = first :: second :: rest) :
    (desk.serve queue).waiting + 2 = desk.waiting := by
  rw [serve_of_two queued]
  unfold waiting
  rw [← Finset.add_sum_erase _ _ (Finset.mem_univ queue),
    ← Finset.add_sum_erase Finset.univ (fun other => (desk.queues other).length)
      (Finset.mem_univ queue)]
  have others : ∑ other ∈ Finset.univ.erase queue,
      (Function.update desk.queues queue rest other).length =
        ∑ other ∈ Finset.univ.erase queue, (desk.queues other).length := by
    refine Finset.sum_congr rfl fun other inside => ?_
    rw [Function.update_of_ne (Finset.ne_of_mem_erase inside)]
  simp only [others, Function.update_self, queued, List.length_cons]
  omega

theorem waiting_serve_le (desk : Desk Queue Client) (queue : Queue) :
    (desk.serve queue).waiting ≤ desk.waiting := by
  rcases desk.short_or_two queue with short | ⟨first, second, rest, queued⟩
  · rw [serve_of_short short]
  · have fewer := waiting_serve queued
    omega

theorem waiting_round_le (desk : Desk Queue Client) (turns : List Queue) :
    (desk.round turns).waiting ≤ desk.waiting := by
  induction turns generalizing desk with
  | nil => exact Nat.le_refl _
  | cons queue turns inductionHypothesis =>
      exact (inductionHypothesis (desk.serve queue)).trans (waiting_serve_le desk queue)

/-- A round in which a queue of two has its turn takes somebody. -/
theorem waiting_round_lt {desk : Desk Queue Client} {turns : List Queue} {queue : Queue}
    (turn : queue ∈ turns) (two : 2 ≤ (desk.queues queue).length) :
    (desk.round turns).waiting < desk.waiting := by
  induction turns generalizing desk with
  | nil => simp at turn
  | cons next turns inductionHypothesis =>
      have rest := waiting_round_le (desk.serve next) turns
      rcases desk.short_or_two next with short | ⟨first, second, others, queued⟩
      · have other : queue ≠ next := by
          rintro rfl
          omega
        have still : 2 ≤ ((desk.serve next).queues queue).length := by
          rw [queues_serve_of_ne desk other]
          exact two
        have later := inductionHypothesis ((List.mem_cons.mp turn).resolve_left other) still
        exact later.trans_le (waiting_serve_le desk next)
      · have fewer := waiting_serve queued
        exact lt_of_le_of_lt rest (by omega)

end Waiting

/-! ### Different clients -/

/-- No client waits twice. -/
structure Apart (start : Queue → List Client) : Prop where
  once : ∀ queue, (start queue).Nodup
  oneQueue : ∀ queue other client, client ∈ start queue → client ∈ start other → queue = other

variable {start : Queue → List Client} {desk : Desk Queue Client}

/-- Who waits has waited from the start. -/
theorem Accounts.mem_of_waiting (accounts : Accounts start desk) {queue : Queue} {client : Client}
    (waits : client ∈ desk.queues queue) : client ∈ start queue := by
  rw [accounts queue]
  exact List.mem_append_right _ waits

/-- The clients of a pair have waited in its queue. -/
theorem Accounts.mem_of_log (accounts : Accounts start desk) {queue : Queue}
    {pair : Client × Client} (taken : (queue, pair) ∈ desk.log) {client : Client}
    (one : client = pair.1 ∨ client = pair.2) :
    client ∈ members (desk.produced queue) ∧ client ∈ start queue := by
  have inside : client ∈ members (desk.produced queue) :=
    mem_members.mpr ⟨pair, by simpa [produced] using taken, one⟩
  rw [accounts queue]
  exact ⟨inside, List.mem_append_left _ inside⟩

/-- Who waits has not been taken. -/
theorem Accounts.notMem_of_waiting (accounts : Accounts start desk) (apart : Apart start)
    {queue : Queue} {client : Client} (waits : client ∈ desk.queues queue) :
    client ∉ members (desk.log.map (·.2)) := by
  intro inside
  obtain ⟨pair, found, one⟩ := mem_members.mp inside
  obtain ⟨⟨other, _⟩, taken, rfl⟩ := List.mem_map.mp found
  obtain ⟨before, there⟩ := accounts.mem_of_log taken one
  obtain rfl := apart.oneQueue other queue client there (accounts.mem_of_waiting waits)
  have once := apart.once other
  rw [accounts other, List.nodup_append] at once
  exact once.2.2 client before client waits rfl

/-- The first two of a queue are different, and have not been taken. -/
theorem Accounts.fresh (accounts : Accounts start desk) (apart : Apart start) {queue : Queue}
    {first second : Client} {rest : List Client}
    (queued : desk.queues queue = first :: second :: rest) :
    first ≠ second ∧ first ∉ members (desk.log.map (·.2)) ∧
      second ∉ members (desk.log.map (·.2)) := by
  have firstWaits : first ∈ desk.queues queue := by simp [queued]
  have secondWaits : second ∈ desk.queues queue := by simp [queued]
  refine ⟨?_, accounts.notMem_of_waiting apart firstWaits,
    accounts.notMem_of_waiting apart secondWaits⟩
  have once := apart.once queue
  rw [accounts queue, queued, List.nodup_append, List.nodup_cons] at once
  rintro rfl
  exact once.2.1.1 List.mem_cons_self

/-- Nobody is taken twice. -/
theorem Accounts.nodup_serve (accounts : Accounts start desk) (apart : Apart start)
    (once : (members (desk.log.map (·.2))).Nodup) (queue : Queue) :
    (members ((desk.serve queue).log.map (·.2))).Nodup := by
  rcases desk.short_or_two queue with short | ⟨first, second, rest, queued⟩
  · rw [serve_of_short short]
    exact once
  · obtain ⟨ne, freshFirst, freshSecond⟩ := accounts.fresh apart queued
    rw [serve_of_two queued, List.map_append, members_append, List.nodup_append]
    refine ⟨once, by simp [ne], ?_⟩
    rintro client inside other last rfl
    simp only [List.map_cons, List.map_nil, members_singleton, List.mem_cons, List.not_mem_nil,
      or_false] at last
    rcases last with rfl | rfl
    · exact freshFirst inside
    · exact freshSecond inside

end Desk

end GomukuServer.Base.PairingOff
