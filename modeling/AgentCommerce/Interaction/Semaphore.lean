import Mathlib.Data.List.Nodup
import Mathlib.Data.List.Perm.Basic

/-!
# Semaphores with a first-come queue

A semaphore hands out a fixed number of permits, and lets a bounded number of requests wait for
one. A released permit goes to the request that has waited longest.

## Main definitions

* `Semaphore`: who holds a permit and who waits, with the laws of the two lists;
* `Semaphore.request`, `Semaphore.release`: the operations;
* `Semaphore.Moves`: a step of a client of the semaphore, with the permits it moves;
* `Semaphore.Ahead`: one request waits before another.

## Main results

* `Moves.balance`: a permit is held from when it is obtained until it is released;
* `Moves.ahead`: no request is overtaken while it waits.
-/

namespace Interaction

variable {ι : Type} {capacity bound : ℕ}

/-! ## The semaphore -/

/-- A semaphore with `capacity` permits and room for `bound` waiting requests. -/
structure Semaphore (ι : Type) (capacity bound : ℕ) where
  /-- Who holds a permit. -/
  holders : List ι
  /-- Who waits, the first to come first. -/
  queue : List ι
  /-- Nobody is in the semaphore twice. -/
  nodup : (holders ++ queue).Nodup
  holders_le : holders.length ≤ capacity
  /-- Nobody waits while there is a free permit. -/
  full : queue ≠ [] → holders.length = capacity
  queue_le : queue.length ≤ bound

/-- A permit changes hands. -/
inductive PermitEvent (ι : Type)
  | obtained (i : ι)
  | released (i : ι)
deriving DecidableEq

namespace Semaphore

/-- All permits are free. -/
def empty : Semaphore ι capacity bound where
  holders := []
  queue := []
  nodup := List.nodup_nil
  holders_le := Nat.zero_le _
  full h := absurd rfl h
  queue_le := Nat.zero_le _

/-- A holder does not wait. -/
theorem not_mem_queue (s : Semaphore ι capacity bound) {i : ι} (h : i ∈ s.holders) :
    i ∉ s.queue := fun hqueue => (List.disjoint_of_nodup_append s.nodup) h hqueue

/-- A free permit is taken. -/
def take (s : Semaphore ι capacity bound) (i : ι) (hnew : i ∉ s.holders ++ s.queue)
    (hfree : s.holders.length < capacity) : Semaphore ι capacity bound where
  holders := s.holders ++ [i]
  queue := s.queue
  nodup := by
    rw [List.append_assoc, List.singleton_append]
    exact List.nodup_middle.mpr (List.nodup_cons.mpr ⟨hnew, s.nodup⟩)
  holders_le := by
    rw [List.length_append]
    exact hfree
  full h := absurd (s.full h) (Nat.ne_of_lt hfree)
  queue_le := s.queue_le

/-- A request begins to wait. -/
def wait (s : Semaphore ι capacity bound) (i : ι) (hnew : i ∉ s.holders ++ s.queue)
    (hfull : capacity ≤ s.holders.length) (hroom : s.queue.length < bound) :
    Semaphore ι capacity bound where
  holders := s.holders
  queue := s.queue ++ [i]
  nodup := by
    rw [← List.append_assoc]
    exact List.nodup_append.mpr ⟨s.nodup, List.nodup_singleton i, fun a ha b hb => by
      rintro rfl
      exact hnew (List.mem_singleton.mp hb ▸ ha)⟩
  holders_le := s.holders_le
  full _ := Nat.le_antisymm s.holders_le hfull
  queue_le := by
    rw [List.length_append]
    exact hroom

variable [DecidableEq ι]

/-- A permit that nobody waits for becomes free. -/
def free (s : Semaphore ι capacity bound) (i : ι) (hqueue : s.queue = []) :
    Semaphore ι capacity bound where
  holders := s.holders.erase i
  queue := []
  nodup := by
    have hnodup := s.nodup
    rw [hqueue, List.append_nil] at hnodup
    rw [List.append_nil]
    exact hnodup.erase i
  holders_le := Nat.le_trans List.length_erase_le s.holders_le
  full h := absurd rfl h
  queue_le := Nat.zero_le _

/-- A permit is handed to the request that has waited longest. -/
def handOver (s : Semaphore ι capacity bound) (i next : ι) (rest : List ι)
    (hholds : i ∈ s.holders) (hqueue : s.queue = next :: rest) : Semaphore ι capacity bound where
  holders := s.holders.erase i ++ [next]
  queue := rest
  nodup := by
    have hnodup := s.nodup
    rw [hqueue] at hnodup
    rw [List.append_assoc, List.singleton_append]
    exact hnodup.sublist (List.erase_sublist.append_right _)
  holders_le := by
    rw [List.length_append, List.length_erase_of_mem hholds]
    have hpos := List.length_pos_of_mem hholds
    have hle := s.holders_le
    simp only [List.length_singleton]
    omega
  full _ := by
    have hfull := s.full (by rw [hqueue]; exact List.cons_ne_nil _ _)
    have hpos := List.length_pos_of_mem hholds
    rw [List.length_append, List.length_erase_of_mem hholds]
    simp only [List.length_singleton]
    omega
  queue_le := by
    have hle := s.queue_le
    rw [hqueue, List.length_cons] at hle
    omega

/-! ## Steps -/

/-- A step of a client of the semaphore, with the permits that change hands in it. -/
inductive Moves : Semaphore ι capacity bound → List (PermitEvent ι) →
    Semaphore ι capacity bound → Prop
  | stay (s : Semaphore ι capacity bound) : Moves s [] s
  | take {s : Semaphore ι capacity bound} (i : ι) (hnew : i ∉ s.holders ++ s.queue)
      (hfree : s.holders.length < capacity) : Moves s [.obtained i] (s.take i hnew hfree)
  | wait {s : Semaphore ι capacity bound} (i : ι) (hnew : i ∉ s.holders ++ s.queue)
      (hfull : capacity ≤ s.holders.length) (hroom : s.queue.length < bound) :
      Moves s [] (s.wait i hnew hfull hroom)
  | free {s : Semaphore ι capacity bound} (i : ι) (hholds : i ∈ s.holders)
      (hqueue : s.queue = []) : Moves s [.released i] (s.free i hqueue)
  | handOver {s : Semaphore ι capacity bound} (i next : ι) (rest : List ι)
      (hholds : i ∈ s.holders) (hqueue : s.queue = next :: rest) :
      Moves s [.released i, .obtained next] (s.handOver i next rest hholds hqueue)

/-- The number of permits, none or one, that a client holds. -/
def permits (s : Semaphore ι capacity bound) (i : ι) : ℕ := s.holders.count i

/-- A client holds one permit, or none. -/
theorem permits_eq (s : Semaphore ι capacity bound) (i : ι) :
    s.permits i = if i ∈ s.holders then 1 else 0 := by
  unfold permits
  split
  · next h => exact List.count_eq_one_of_mem (List.Nodup.of_append_left s.nodup) h
  · next h => exact List.count_eq_zero.mpr h

/-- **Balance.** The permits obtained and those released in a step account for those held. -/
theorem Moves.balance {s s' : Semaphore ι capacity bound} {log : List (PermitEvent ι)}
    (h : Moves s log s') (i : ι) :
    s.permits i + log.count (.obtained i) = s'.permits i + log.count (.released i) := by
  cases h with
  | stay => rfl
  | take j hnew hfree =>
    simp only [permits, Semaphore.take, List.count_append, List.count_singleton, beq_iff_eq,
      PermitEvent.obtained.injEq, reduceCtorEq, if_false, Nat.add_zero]
  | wait j hnew hfull hroom => rfl
  | free j hholds hqueue =>
    have hpos := List.one_le_count_iff.mpr hholds
    simp only [permits, Semaphore.free, List.count_erase, List.count_singleton, beq_iff_eq,
      PermitEvent.released.injEq, reduceCtorEq, if_false, Nat.add_zero]
    split
    · next heq => subst heq; omega
    · rfl
  | handOver j next rest hholds hqueue =>
    have hpos := List.one_le_count_iff.mpr hholds
    simp only [permits, Semaphore.handOver, List.count_append, List.count_erase,
      List.count_cons, List.count_nil, beq_iff_eq, PermitEvent.released.injEq,
      PermitEvent.obtained.injEq, reduceCtorEq, if_false, Nat.zero_add, Nat.add_zero]
    by_cases heq : j = i
    · subst heq
      simp only [if_true]
      omega
    · simp only [heq, if_false]
      omega

/-! ## Order -/

/-- The request of `i` waits, and `j` neither holds a permit nor waits before it. -/
structure Ahead (s : Semaphore ι capacity bound) (i j : ι) : Prop where
  ne : j ≠ i
  not_holds : j ∉ s.holders
  waits : ∃ before after, s.queue = before ++ i :: after ∧ j ∉ before

/-- **No overtaking.** A request that waits before another obtains its permit first. -/
theorem Moves.ahead {s s' : Semaphore ι capacity bound} {log : List (PermitEvent ι)}
    (h : Moves s log s') {i j : ι} (hahead : s.Ahead i j) :
    .obtained j ∉ log ∧ (.obtained i ∈ log ∨ s'.Ahead i j) := by
  obtain ⟨hne, hholds, before, after, hqueue, hbefore⟩ := hahead
  have hwaiting : s.queue ≠ [] := by rw [hqueue]; simp
  cases h with
  | stay => exact ⟨List.not_mem_nil, .inr ⟨hne, hholds, before, after, hqueue, hbefore⟩⟩
  | take k hnew hfree => exact absurd (s.full hwaiting) (Nat.ne_of_lt hfree)
  | wait k hnew hfull hroom =>
    refine ⟨List.not_mem_nil, .inr ⟨hne, hholds, before, after ++ [k], ?_, hbefore⟩⟩
    calc s.queue ++ [k] = (before ++ i :: after) ++ [k] := by rw [hqueue]
      _ = before ++ i :: (after ++ [k]) := by rw [List.append_assoc, List.cons_append]
  | free k hk hnone => exact absurd hnone hwaiting
  | handOver k next rest hk hnext =>
    rw [hqueue] at hnext
    cases before with
    -- the permit goes to `i` itself
    | nil =>
      obtain ⟨rfl, rfl⟩ := List.cons.inj hnext
      refine ⟨?_, .inl ?_⟩ <;> simp [hne]
    | cons first before =>
      obtain ⟨rfl, rfl⟩ := List.cons.inj hnext
      obtain ⟨hfirst, hbefore⟩ := not_or.mp (mt List.mem_cons.mpr hbefore)
      refine ⟨by simp [hfirst], .inr ⟨hne, ?_, before, after, rfl, hbefore⟩⟩
      rw [Semaphore.handOver, List.mem_append, List.mem_singleton, not_or]
      exact ⟨fun h => hholds (List.mem_of_mem_erase h), hfirst⟩

end Semaphore

end Interaction
