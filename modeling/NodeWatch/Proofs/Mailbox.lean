import Mathlib.Data.List.Nodup
import Mathlib.Tactic.Common
import NodeWatch.Mailbox

/-!
# Steps of a mailbox

What a mailbox is like at any time, and what each of its operations can do then. A sender waits only
while the mailbox is full, so that emptying it comes down to taking one item after the other.
-/

namespace NodeWatch.Mailbox

variable {α : Type} {m : Mailbox α}

lemma capacity_receive (m : Mailbox α) : m.receive.2.capacity = m.capacity := by
  rw [receive]
  split <;> rfl

structure WellFormed (m : Mailbox α) : Prop where
  bounded : m.buffered.length ≤ m.capacity
  full : m.waiting ≠ [] → m.buffered.length = m.capacity
  distinct : (m.waiting.map WaitingCall.ticket).Nodup
  issued : ∀ call ∈ m.waiting, call.ticket < m.nextTicket
  closed : m.isClosed = true → m.buffered = [] ∧ m.waiting = []

namespace WellFormed

lemma empty (capacity : Nat) : (Mailbox.mk capacity [] [] 0 false : Mailbox α).WellFormed where
  bounded := Nat.zero_le _
  full h := absurd rfl h
  distinct := List.nodup_nil
  issued := by simp
  closed := nofun

lemma isClosed_eq_false (hm : m.WellFormed) (h : m.buffered ≠ [] ∨ m.waiting ≠ []) :
    m.isClosed = false := by
  by_contra hclosed
  obtain ⟨hbuffered, hwaiting⟩ := hm.closed (by simpa using hclosed)
  exact h.elim (· hbuffered) (· hwaiting)

/-- What a sender can be told. -/
lemma send_cases (hm : m.WellFormed) (item : α) :
    (m.isClosed = true ∧ m.send item = (.closed, m)) ∨
    (m.isClosed = false ∧ m.waiting = [] ∧ m.buffered.length < m.capacity ∧
      m.send item = (.accepted, { m with buffered := m.buffered ++ [item] })) ∨
    (m.isClosed = false ∧ m.buffered.length = m.capacity ∧
      m.send item = (.waits m.nextTicket, { m with
        waiting := m.waiting ++ [⟨m.nextTicket, item⟩]
        nextTicket := m.nextTicket + 1 })) := by
  rw [send]
  rcases hclosed : m.isClosed
  · right
    rcases hwaiting : m.waiting with _ | ⟨call, calls⟩
    · by_cases hroom : m.buffered.length < m.capacity
      · exact .inl ⟨rfl, rfl, hroom, by simp [hroom]⟩
      · exact .inr ⟨rfl, Nat.le_antisymm hm.bounded (Nat.not_lt.mp hroom), by simp [hroom]⟩
    · exact .inr ⟨rfl, hm.full (by simp [hwaiting]), by simp⟩
  · exact .inl ⟨rfl, rfl⟩

lemma send (hm : m.WellFormed) (item : α) : (m.send item).2.WellFormed := by
  rcases hm.send_cases item with ⟨-, hsend⟩ | ⟨hopen, hnone, hroom, hsend⟩ | ⟨hopen, hfull, hsend⟩
  · rwa [hsend]
  · rw [hsend]
    refine ⟨?_, fun h => absurd hnone h, hm.distinct, hm.issued, by simp [hopen]⟩
    simpa using Nat.succ_le_of_lt hroom
  · rw [hsend]
    refine ⟨hm.bounded, fun _ => hfull, ?_, fun call hcall => ?_, by simp [hopen]⟩
    · rw [List.map_append, List.nodup_append]
      refine ⟨hm.distinct, List.nodup_singleton _, fun t ht t' ht' heq => ?_⟩
      obtain ⟨call, hcall, rfl⟩ := List.mem_map.mp ht
      have hlt := hm.issued call hcall
      rw [heq, List.mem_singleton.mp ht'] at hlt
      exact Nat.lt_irrefl _ hlt
    · rcases List.mem_append.mp hcall with hcall | hcall
      · exact Nat.lt_succ_of_lt (hm.issued call hcall)
      · rw [List.mem_singleton.mp hcall]
        exact Nat.lt_succ_self _

/-- What can be taken. -/
lemma receive_cases (hm : m.WellFormed) (hcapacity : 0 < m.capacity) :
    (m.buffered = [] ∧ m.waiting = [] ∧ m.receive = (none, m)) ∨
    (∃ item items, m.buffered = item :: items ∧ m.waiting = [] ∧
      m.receive = (some ⟨item, none⟩, { m with buffered := items })) ∨
    (∃ item items call calls, m.buffered = item :: items ∧ m.waiting = call :: calls ∧
      m.receive = (some ⟨item, some call.ticket⟩,
        { m with buffered := items ++ [call.item], waiting := calls })) := by
  rw [receive]
  rcases hbuffered : m.buffered with _ | ⟨item, items⟩
  · refine .inl ⟨rfl, ?_, by simp⟩
    by_contra hwaiting
    have hfull := hm.full hwaiting
    rw [hbuffered, List.length_nil] at hfull
    omega
  · rcases hwaiting : m.waiting with _ | ⟨call, calls⟩
    · exact .inr (.inl ⟨item, items, rfl, rfl, rfl⟩)
    · exact .inr (.inr ⟨item, items, call, calls, rfl, rfl, rfl⟩)

lemma receive (hm : m.WellFormed) (hcapacity : 0 < m.capacity) : m.receive.2.WellFormed := by
  rcases hm.receive_cases hcapacity with ⟨-, -, hreceive⟩ |
    ⟨item, items, hbuffered, hwaiting, hreceive⟩ |
    ⟨item, items, call, calls, hbuffered, hwaiting, hreceive⟩
  · rwa [hreceive]
  · have hbounded := hm.bounded
    rw [hbuffered, List.length_cons] at hbounded
    rw [hreceive]
    refine ⟨by simp; omega, fun h => absurd hwaiting h, hm.distinct, hm.issued, fun h => ?_⟩
    simp [(hm.closed h).1] at hbuffered
  · have hfull := hm.full (by simp [hwaiting])
    have hdistinct := hm.distinct
    rw [hbuffered, List.length_cons] at hfull
    rw [hwaiting, List.map_cons, List.nodup_cons] at hdistinct
    rw [hreceive]
    refine ⟨by simp; omega, fun _ => by simpa using hfull, hdistinct.2, fun c hc => ?_,
      fun h => ?_⟩
    · exact hm.issued c (hwaiting ▸ List.mem_cons_of_mem _ hc)
    · simp [(hm.closed h).1] at hbuffered

lemma close (m : Mailbox α) : m.close.WellFormed where
  bounded := Nat.zero_le _
  full h := absurd rfl h
  distinct := List.nodup_nil
  issued := nofun
  closed _ := ⟨rfl, rfl⟩

/-- Taking one item at a time empties the mailbox in the same order as emptying it at once. -/
lemma drain_eq (hm : m.WellFormed) (hcapacity : 0 < m.capacity) :
    m.drain = ((m.receive.1.map Receipt.item).toList ++ m.receive.2.drain.1,
      m.receive.2.drain.2) := by
  rcases hm.receive_cases hcapacity with ⟨hbuffered, hwaiting, hreceive⟩ |
    ⟨item, items, hbuffered, hwaiting, hreceive⟩ |
    ⟨item, items, call, calls, hbuffered, hwaiting, hreceive⟩ <;>
    simp [hreceive, drain, hbuffered, hwaiting]

end WellFormed

end NodeWatch.Mailbox
