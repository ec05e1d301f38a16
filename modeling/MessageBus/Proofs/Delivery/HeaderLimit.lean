import MessageBus.Proofs.Delivery.Refusal
import MessageBus.Proofs.Delivery.Outcome
import MessageBus.Proofs.Message.Wire
/-!
# The limit and the retry header

The retry header says how often a message was put back, as an integer of any width. A delivery that has used up its
attempts is rejected, and nothing else is done about it (`RejectedOutright`). That happens for the integers in the
header that are at the limit or above it and that 32 bits hold (`rejected_outright_iff`). A greater one, which only the
widest field can hold, counts as not said: the delivery is taken for a first attempt (`wide_count_handled`).
-/

namespace MessageBus

namespace Delivery

open Wire

/-- The delivery is rejected because of its attempts, and that is all that is done about it. -/
def RejectedOutright (d : Delivery) (s : Settings.Consumer) (c : ChannelId) (token : TokenId) (w : Surroundings) :
    Prop :=
  ∃ (a : Except Fault Unit) (span : Span), (d.process s c token).run w =
    ⟨[.asked (.call c (.reject d.tag)) a, .asked (.span span) ()], a.map fun _ => .rejected .retryLimitExceeded⟩

section
variable {d : Delivery} {s : Settings.Consumer} {c : ChannelId} {token : TokenId}

/-- Used up attempts come before everything else. -/
theorem UsedUp.rejectedOutright (h : d.UsedUp s) (w : Surroundings) : d.RejectedOutright s c token w := by
  have hsettle : d.settle s c token = d.reject c .retryLimitExceeded := by
    unfold settle
    rw [if_pos ((exhausted_iff d s).2 h)]
  obtain ⟨a, ha⟩ := runAfter_reject d c w [] .retryLimitExceeded
  refine ⟨a, ⟨d.spanName, d.properties.traceHeaders, failure? (a.map fun _ => .rejected .retryLimitExceeded)⟩, ?_⟩
  rw [Program.run, runAfter_process, hsettle, ha]
  rfl

/-- No delivery with attempts left is rejected because of them. -/
theorem Settled.usedUp_of_result {calls handlings : List Step} {result : Except Fault Disposition}
    (h : Settled d s c token calls handlings result) (hr : result = .ok (.rejected .retryLimitExceeded)) :
    d.UsedUp s := by
  cases h with
  | exhausted h => exact h
  | unacknowledged => cases hr
  | unsubscribed _ _ a | ignored _ _ _ _ a | deadLettered _ _ _ _ a | handled _ a | dropped _ _ _ _ _ a
  | retried _ _ _ _ _ _ _ a => cases a <;> cases hr

end

section
variable (tag : Nat) {p : BasicProperties} (payload : Bytes) {f : Field} {v : Int}
  (hf : (p.headers.getD .empty).get? retryHeader = some f) (hv : f.integer? = some v)
include hf hv

theorem usedUp_ofWire_iff {s : Settings.Consumer} (hm : 0 < s.maxRetryCount) :
    (ofWire tag p payload).UsedUp s ↔ s.maxRetryCount.toNat ≤ v ∧ v < 0x100000000 := by
  have hpos := UInt32.lt_iff_toNat_lt.1 hm
  rw [UInt32.toNat_zero] at hpos
  have hcount : (ofWire tag p payload).properties.retryCount.toNat = _ := Properties.toNat_retryCount_ofWire hf hv
  rw [usedUp_iff _ hm, hcount]
  split <;> omega

/-- A message comes in with an integer `v` in its retry header, of any width. Whatever its surroundings are, it is
rejected outright if `v` is at the limit or above it and 32 bits hold it, and otherwise it is never rejected because of
its attempts. So the limit is recognised for exactly the integers that 32 bits hold, which are all but some of the
widest field. -/
theorem rejected_outright_iff (s : Settings.Consumer) (hm : 0 < s.maxRetryCount) (c : ChannelId) (token : TokenId) :
    let d := ofWire tag p payload
    ((∀ w, d.RejectedOutright s c token w) ↔ s.maxRetryCount.toNat ≤ v ∧ v < 0x100000000) ∧
      ((∃ w, ((d.process s c token).run w).result = .ok (.rejected .retryLimitExceeded)) ↔
        s.maxRetryCount.toNat ≤ v ∧ v < 0x100000000) ∧
      (((∀ w, d.RejectedOutright s c token w) ↔ s.maxRetryCount.toNat ≤ v) ↔ v < 0x100000000) ∧
      (v < 0x100000000 ∨ ∃ n, f = .longLongInt n) := by
  intro d
  have hused : d.UsedUp s ↔ s.maxRetryCount.toNat ≤ v ∧ v < 0x100000000 := usedUp_ofWire_iff tag payload hf hv hm
  have hsome : (∃ w, ((d.process s c token).run w).result = .ok (.rejected .retryLimitExceeded)) ↔ d.UsedUp s := by
    refine ⟨fun ⟨w, hw⟩ => (settled_process d s c token w []).usedUp_of_result hw, fun h => ?_⟩
    have hw := Surroundings.smooth_plain (.ok ())
    exact ⟨_, ((d.settled_answered s c token _).1.of_usedUp (d.settled_answered s c token _).2.1 hw h).2.2⟩
  have hall : (∀ w, d.RejectedOutright s c token w) ↔ d.UsedUp s := by
    refine ⟨fun h => hsome.1 ?_, fun h w => h.rejectedOutright w⟩
    obtain ⟨a, span, hrun⟩ := h (.plain (fun _ => .ok ()) (.ok ()))
    refine ⟨.plain (fun _ => .ok ()) (.ok ()), ?_⟩
    -- the broker of these surroundings takes the rejection
    have ha : Program.AnsweredBy (.plain (fun _ => .ok ()) (.ok ())) (.asked (.call c (.reject d.tag)) a) :=
      Program.answered _ [] (d.process s c token) _ (by rw [← Program.run, hrun]; exact List.mem_cons_self)
    rw [hrun, (Surroundings.smooth_plain (.ok ())).call_eq ha]
    rfl
  refine ⟨hall.trans hused, hsome.trans hused, ?_, Field.lt_or_eq_longLongInt hv⟩
  have hlimit := s.maxRetryCount.toNat_lt
  rw [hall.trans hused]
  constructor
  · intro h
    refine Decidable.byContradiction fun hge => ?_
    exact hge (h.2 (by omega)).2
  · intro hlt
    exact and_iff_left hlt

end

end Delivery

namespace Sample

/-- An order on the wire, with such a retry header. -/
def counted (f : Wire.Field) : Wire.BasicProperties :=
  ⟨some "application/json", some "orders.OrderPlaced", some 2, some "m1", some (.ofList [("x-retry-count", f)])⟩

end Sample

open Sample in
/-- A count of three in the widest field is recognised by a consumer with three attempts. -/
theorem Delivery.wide_three_rejected :
    0 < (warehouse 3).settings.maxRetryCount ∧
      (Delivery.ofWire 7 (counted (.longLongInt 3)) (order 0).payload).RejectedOutright (warehouse 3).settings ⟨0⟩ ⟨0⟩
        (.plain (fun _ => .ok ()) (.ok ())) :=
  ⟨by decide, (rejected_outright_iff 7 (order 0).payload (v := 3) rfl rfl (warehouse 3).settings (by decide)
    ⟨0⟩ ⟨0⟩).1.2 (by decide) _⟩

open Sample in
/-- A count that 32 bits do not hold: the handler is given the message, as if for the first time. -/
theorem Delivery.wide_count_handled :
    ∃ s, (warehouse 3).build = .ok s ∧ (Wire.Field.longLongInt 4294967296).integer? = some 4294967296 ∧
      let r := ((Delivery.ofWire 7 (counted (.longLongInt 4294967296)) (order 0).payload).process s ⟨0⟩ ⟨0⟩).run
        (.plain (fun _ => .ok ()) (.ok ()))
      r.handlerSteps.length = 1 ∧ r.result = .ok (.acked .handled) :=
  ⟨(warehouse 3).settings, rfl, by decide, by decide +kernel, rfl⟩

end MessageBus
