import MessageBus.Proofs.Topology.Contents
import Mathlib.Algebra.Group.Nat.Defs
/-!
# The limits of a consumer's queues

The settings limit how long a message lives and how many messages a queue holds; zero stands for no limit. Both
limits reach the broker as arguments with which the two queues are declared. Whether messages have a lifetime is
decided on the duration itself, but what is declared are its whole milliseconds. `limited_as_asked_iff` says when the
arguments are what the settings ask for: always, but for a lifetime of less than a millisecond. Such a one is declared
as a lifetime of zero, and the messages expire at once (`short_lifetime_is_none`).
-/

namespace MessageBus

namespace Queue

theorem mem_arguments {q : Queue} {key : String} {v : Argument} :
    (key, v) ∈ q.arguments ↔
      (∃ e, q.deadLetterExchange = some e ∧ key = "x-dead-letter-exchange" ∧ v = .text e) ∨
      (∃ k, q.deadLetterRoutingKey = some k ∧ key = "x-dead-letter-routing-key" ∧ v = .text k) ∨
      (∃ n, q.messageTtl = some n ∧ key = "x-message-ttl" ∧ v = .number (min n maxArgument)) ∨
      (∃ n, q.maxLength = some n ∧ key = "x-max-length" ∧ v = .number (min n maxArgument)) ∨
      (q.paged = true ∧ key = "x-queue-mode" ∧ v = .text "lazy") := by
  simp only [arguments, List.mem_filterMap, List.mem_cons, List.not_mem_nil, or_false, id_eq, exists_eq_right,
    eq_comm (a := some (key, v)), Option.map_eq_some_iff, Prod.mk.injEq, Option.ite_none_right_eq_some,
    Option.some.injEq, eq_comm (b := key), eq_comm (b := v)]

theorem mem_arguments_messageTtl {q : Queue} {v : Argument} :
    ("x-message-ttl", v) ∈ q.arguments ↔ ∃ n, q.messageTtl = some n ∧ v = .number (min n maxArgument) := by
  simp [mem_arguments]

theorem mem_arguments_maxLength {q : Queue} {v : Argument} :
    ("x-max-length", v) ∈ q.arguments ↔ ∃ n, q.maxLength = some n ∧ v = .number (min n maxArgument) := by
  simp [mem_arguments]

/-- What the queue is declared with limits its messages as the settings ask for: a lifetime is one of at least a
millisecond, and each limit is the greatest possible argument if it is beyond that. -/
structure LimitedAsAsked (q : Queue) (c : Settings.Consumer) : Prop where
  lifetime : ∀ v, ("x-message-ttl", v) ∈ q.arguments ↔
    c.messageTtl ≠ .zero ∧ v = .number (min (max c.messageTtl.millis 1) (2 ^ 31 - 1))
  length : ∀ v, ("x-max-length", v) ∈ q.arguments ↔
    c.maxMessageCount ≠ 0 ∧ v = .number (min c.maxMessageCount.toNat (2 ^ 31 - 1))

end Queue

namespace Topology

variable (name : String) (c : Settings.Consumer)

theorem messageTtl_consumerQueue :
    (consumerQueue name c).messageTtl =
      if c.messageTtl = .zero then none else some (min c.messageTtl.millis 0xffffffff) := by
  unfold consumerQueue
  split <;> split <;> rfl

theorem maxLength_consumerQueue :
    (consumerQueue name c).maxLength = if c.maxMessageCount = 0 then none else some c.maxMessageCount.toNat := by
  unfold consumerQueue
  split <;> split <;> rfl

theorem mem_consumerQueues {q : Queue} :
    q ∈ (consumerQueues c).queues ↔ q = consumerQueue c.queueName c ∨ q = consumerQueue c.retryQueueName c := by
  simp [consumerQueues_eq]

variable {c} {q : Queue} (hq : q ∈ (consumerQueues c).queues)
include hq

/-- What is declared of a lifetime are its whole milliseconds. -/
theorem mem_arguments_messageTtl_iff (v : Queue.Argument) :
    ("x-message-ttl", v) ∈ q.arguments ↔ c.messageTtl ≠ .zero ∧ v = .number (min c.messageTtl.millis (2 ^ 31 - 1)) := by
  have httl : q.messageTtl = if c.messageTtl = .zero then none else some (min c.messageTtl.millis 0xffffffff) := by
    rcases (mem_consumerQueues c).1 hq with rfl | rfl <;> exact messageTtl_consumerQueue _ c
  -- the argument's bound is below the one with which the milliseconds are narrowed first
  have hmin : min (min c.messageTtl.millis 0xffffffff) Queue.maxArgument = min c.messageTtl.millis (2 ^ 31 - 1) := by
    rw [Queue.maxArgument]
    omega
  simp only [Queue.mem_arguments_messageTtl, httl, Option.ite_none_left_eq_some, Option.some.injEq, and_assoc,
    exists_and_left, exists_eq_left', hmin]

theorem mem_arguments_maxLength_iff (v : Queue.Argument) :
    ("x-max-length", v) ∈ q.arguments ↔
      c.maxMessageCount ≠ 0 ∧ v = .number (min c.maxMessageCount.toNat (2 ^ 31 - 1)) := by
  have hlength : q.maxLength = if c.maxMessageCount = 0 then none else some c.maxMessageCount.toNat := by
    rcases (mem_consumerQueues c).1 hq with rfl | rfl <;> exact maxLength_consumerQueue _ c
  have hmax : Queue.maxArgument = 2 ^ 31 - 1 := rfl
  simp only [Queue.mem_arguments_maxLength, hlength, Option.ite_none_left_eq_some, Option.some.injEq, and_assoc,
    exists_and_left, exists_eq_left', hmax]

/-- A queue is limited as asked if the lifetime, if any, is one of at least a millisecond. -/
theorem limitedAsAsked_iff : q.LimitedAsAsked c ↔ c.messageTtl = .zero ∨ 1 ≤ c.messageTtl.millis := by
  refine ⟨fun h => ?_, fun h => ⟨fun v => ?_, mem_arguments_maxLength_iff hq⟩⟩
  · refine Decidable.or_iff_not_imp_left.2 fun hzero => ?_
    have hv := ((h.lifetime _).symm.trans (mem_arguments_messageTtl_iff hq _)).1 ⟨hzero, rfl⟩
    have heq := Queue.Argument.number.inj hv.2
    omega
  · rw [mem_arguments_messageTtl_iff hq]
    refine and_congr_right fun hzero => ?_
    rw [Nat.max_eq_left (h.resolve_left hzero)]

/-- Messages expire at once in a queue of a lifetime that is not zero, but less than a millisecond. -/
theorem expiring_iff :
    ("x-message-ttl", .number 0) ∈ q.arguments ↔ ¬(c.messageTtl = .zero ∨ 1 ≤ c.messageTtl.millis) := by
  rw [mem_arguments_messageTtl_iff hq, not_or, Queue.Argument.number.injEq]
  refine and_congr_right fun _ => ?_
  omega

end Topology

/-- A consumer has two queues, its main one and the one of its retries. Both are declared with a lifetime for their
messages if and only if the one in the settings is not zero, and then with its whole milliseconds, and with a limit on
their length if and only if that in the settings is not zero, each of them at most the greatest number that fits into 31
bits. That is what the settings ask for, in both queues, if and only if the lifetime is zero or at least a millisecond;
else the messages of both queues expire at once. -/
theorem Topology.limited_as_asked_iff (c : Settings.Consumer) :
    (consumerQueues c).queues.map (·.name) = c.queues ∧
    (∀ q ∈ (consumerQueues c).queues,
      (∀ v, ("x-message-ttl", v) ∈ q.arguments ↔
        c.messageTtl ≠ .zero ∧ v = .number (min c.messageTtl.millis (2 ^ 31 - 1))) ∧
      (∀ v, ("x-max-length", v) ∈ q.arguments ↔
        c.maxMessageCount ≠ 0 ∧ v = .number (min c.maxMessageCount.toNat (2 ^ 31 - 1))) ∧
      (q.LimitedAsAsked c ↔ c.messageTtl = .zero ∨ 1 ≤ c.messageTtl.millis) ∧
      (("x-message-ttl", .number 0) ∈ q.arguments ↔ ¬(c.messageTtl = .zero ∨ 1 ≤ c.messageTtl.millis))) := by
  refine ⟨?_, fun q hq => ⟨mem_arguments_messageTtl_iff hq, mem_arguments_maxLength_iff hq, limitedAsAsked_iff hq,
    expiring_iff hq⟩⟩
  simp [consumerQueues_eq, name_consumerQueue, Settings.Consumer.queues]

/-- A consumer that asks for a lifetime of half a millisecond is accepted, and both of its queues are declared with
one of zero, so that its messages expire at once. -/
theorem Topology.short_lifetime_is_none :
    ∃ c, (Settings.ConsumerDraft.ofSteps "billing" [.messageTtl (.ofMicros 500)]).build = .ok c ∧ c.messageTtl ≠ .zero ∧
      ∀ q ∈ (consumerQueues c).queues, ("x-message-ttl", .number 0) ∈ q.arguments ∧ ¬q.LimitedAsAsked c :=
  ⟨(Settings.ConsumerDraft.ofSteps "billing" [.messageTtl (.ofMicros 500)]).settings, rfl, by decide, fun _ hq =>
    ⟨(expiring_iff hq).2 (by decide), fun h => absurd ((limitedAsAsked_iff hq).1 h) (by decide)⟩⟩

end MessageBus
