import Mathlib.Data.List.Perm.Basic
import Mathlib.Order.Basic

/-! Queues that tasks wait on, as Python's `asyncio.Queue` without a bound and without cancellations. -/

structure WaitQueue (τ α : Type) where
  items : List α
  waiting : List τ
  woken : List τ
  enough : waiting = [] ∨ items.length ≤ woken.length

namespace WaitQueue

variable {τ α : Type}

def empty : WaitQueue τ α where
  items := []
  waiting := []
  woken := []
  enough := .inl rfl

def takers (queue : WaitQueue τ α) : List τ := queue.waiting ++ queue.woken

def put (queue : WaitQueue τ α) (item : α) : WaitQueue τ α where
  items := queue.items ++ [item]
  waiting := queue.waiting.tail
  woken := queue.woken ++ queue.waiting.take 1
  enough := by
    have henough := queue.enough
    cases hwaiting : queue.waiting with
    | nil => exact .inl rfl
    | cons task waiting =>
      rw [hwaiting] at henough
      simp only [List.length_append, List.take_succ_cons, List.take_zero, List.length_singleton]
      exact .inr (Nat.succ_le_succ (henough.resolve_left (List.cons_ne_nil task waiting)))

/-- The task takes the first item also where others wait for it. -/
def get (queue : WaitQueue τ α) (task : τ) : Option α × WaitQueue τ α :=
  match queue with
  | ⟨[], waiting, woken, _⟩ => (none, ⟨[], waiting ++ [task], woken, .inr (Nat.zero_le _)⟩)
  | ⟨item :: items, waiting, woken, enough⟩ => (some item, ⟨items, waiting, woken, enough.imp_right Nat.le_of_succ_le⟩)

variable [DecidableEq τ]

/-- A task that was woken tries again, and waits behind the others where there is nothing any more. -/
def resume (queue : WaitQueue τ α) (task : τ) : Option α × WaitQueue τ α :=
  match queue with
  | ⟨[], waiting, woken, _⟩ => (none, ⟨[], waiting ++ [task], woken.erase task, .inr (Nat.zero_le _)⟩)
  | ⟨item :: items, waiting, woken, enough⟩ =>
    (some item, ⟨items, waiting, woken.erase task, enough.imp_right fun h => by
      have hlen : woken.length ≤ (woken.erase task).length + 1 := by
        rw [List.length_erase]
        split_ifs <;> omega
      rw [List.length_cons] at h
      omega⟩)

def Short (queue : WaitQueue τ α) : Prop := queue.items.length < queue.takers.length

inductive Turn (items : List α) (others : List τ) (task : τ) : Option α → WaitQueue τ α → Prop
  | waits {queue : WaitQueue τ α} : items = [] → queue.items = [] → queue.takers.Perm (task :: others) →
      Turn items others task none queue
  | takes {queue : WaitQueue τ α} {item : α} : items = item :: queue.items → queue.takers.Perm others →
      Turn items others task (some item) queue

variable {queue queue' : WaitQueue τ α} {items : List α} {others : List τ} {task : τ} {got : Option α}

omit [DecidableEq τ] in
theorem put_takers (queue : WaitQueue τ α) (item : α) : (queue.put item).takers.Perm queue.takers := by
  have hsplit : queue.waiting = queue.waiting.take 1 ++ queue.waiting.tail := by
    rw [← List.drop_one, List.take_append_drop]
  have hmove : (queue.put item).takers.Perm (queue.waiting.take 1 ++ (queue.waiting.tail ++ queue.woken)) := by
    rw [takers, put, ← List.append_assoc]
    exact List.perm_append_comm
  rwa [← List.append_assoc, ← hsplit] at hmove

omit [DecidableEq τ] in
theorem get_turn (queue : WaitQueue τ α) (task : τ) :
    Turn queue.items queue.takers task (queue.get task).1 (queue.get task).2 := by
  obtain ⟨items, waiting, woken, enough⟩ := queue
  cases items with
  | nil =>
    refine .waits rfl rfl ?_
    rw [takers, takers, get, List.append_assoc]
    exact List.perm_middle
  | cons item items => exact .takes rfl (.refl _)

theorem resume_turn (h : task ∈ queue.woken) : ∃ others, queue.takers.Perm (task :: others) ∧
    Turn queue.items others task (queue.resume task).1 (queue.resume task).2 := by
  obtain ⟨items, waiting, woken, enough⟩ := queue
  refine ⟨waiting ++ woken.erase task, ?_, ?_⟩
  · have hwoken : (waiting ++ woken).Perm (waiting ++ task :: woken.erase task) :=
      (List.perm_cons_erase h).append_left waiting
    exact hwoken.trans List.perm_middle
  · cases items with
    | nil =>
      refine .waits rfl rfl ?_
      rw [takers, resume, List.append_assoc]
      exact List.perm_middle
    | cons item items => exact .takes rfl (.refl _)

omit [DecidableEq τ] in
theorem put_short_iff (queue : WaitQueue τ α) (item : α) :
    (queue.put item).Short ↔ queue.items.length + 1 < queue.takers.length := by
  rw [Short, (queue.put_takers item).length_eq, put, List.length_append, List.length_singleton]

omit [DecidableEq τ] in
theorem Turn.short_iff (h : Turn items others task got queue) : queue.Short ↔ items.length ≤ others.length := by
  cases h with
  | waits hitems hqueue htakers =>
    rw [Short, hitems, hqueue, htakers.length_eq]
    simp
  | takes hitems htakers =>
    rw [Short, hitems, htakers.length_eq, List.length_cons]
    exact Nat.lt_iff_add_one_le

omit [DecidableEq τ] in
theorem Turn.short_resumed_iff (h : Turn queue.items others task got queue')
    (hothers : queue.takers.Perm (task :: others)) : queue'.Short ↔ queue.Short := by
  rw [h.short_iff, Short, hothers.length_eq, List.length_cons, Nat.lt_succ_iff]

omit [DecidableEq τ] in
theorem Turn.items_eq (h : Turn items others task got queue) : items = got.toList ++ queue.items := by
  cases h with
  | waits hitems hqueue _ =>
    rw [hitems, hqueue]
    rfl
  | takes hitems _ => exact hitems

omit [DecidableEq τ] in
theorem takers_eq_nil_iff (h : queue.woken = []) : queue.takers = [] ↔ ¬ queue.Short := by
  constructor
  · intro htakers
    rw [Short, htakers]
    exact Nat.not_lt_zero _
  · intro hshort
    have henough := queue.enough
    rw [h] at henough
    rw [Short, takers, h, List.append_nil] at hshort
    rw [takers, h, List.append_nil]
    obtain hnil | hempty := henough
    · exact hnil
    · apply List.eq_nil_of_length_eq_zero
      rw [List.length_nil] at hempty
      omega

end WaitQueue
