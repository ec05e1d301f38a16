import MessageBus.Proofs.Message.Wire
import Mathlib.Algebra.Group.Nat.Defs
/-!
# Properties on the way over the wire

A message comes in with the properties that it was sent with, in a normal form (`ofWire_toWire`): the retry count is cut
off at the greatest one that its header holds, a message without an id has the one that was made for it, and a trace
header under the name of the retry count is lost. `carried_over_wire` says when nothing changes at all, and that trace
headers have no say in anything else.
-/

namespace MessageBus

namespace SortedMap

variable {α : Type}

/-- Leaving out a key changes nothing where there is no value under it. -/
theorem erase_eq_self_iff (m : SortedMap α) (k : String) : m.erase k = m ↔ m.get? k = none := by
  constructor
  · intro h
    rw [← h, get?_erase, if_pos rfl]
  · intro h
    apply ext_get?
    intro k'
    rw [get?_erase]
    split
    · rename_i heq
      rw [← heq, h]
    · rfl

end SortedMap

namespace Properties

open Wire

/-- The properties with which a message comes in that was sent with the given ones; the id is the one that a message
without an id gets. -/
def carried (p : Properties) (id : String) : Properties :=
  { p with
    retryCount := UInt32.ofNat (min p.retryCount.toNat maxHeaderCount)
    messageId := some (p.messageId.getD id)
    traceHeaders := p.traceHeaders.erase retryHeader }

/-- The trace headers of a message that comes in: any other header than the count's, if it is a text. -/
theorem get?_traceHeaders_ofWire (w : BasicProperties) {k : String} (h : retryHeader ≠ k) :
    (ofWire w).traceHeaders.get? k = ((w.headers.getD .empty).get? k).bind Field.text? := by
  change (((w.headers.getD .empty).erase retryHeader).filterMap fun _ f => f.text?).get? k = _
  rw [SortedMap.get?_filterMap, SortedMap.get?_erase, if_neg h]

section
variable (p : Properties) (id : String)

/-- Any other header is a trace header, as text. -/
theorem get?_headers_of_ne {k : String} (h : retryHeader ≠ k) :
    p.headers.get? k = (p.traceHeaders.get? k).map fun v => .longString (Bytes.ofText v) := by
  have htrace : (p.traceHeaders.get? k).bind (fun v => some (Field.longString (Bytes.ofText v))) =
      (p.traceHeaders.get? k).map fun v => .longString (Bytes.ofText v) := by
    cases p.traceHeaders.get? k <;> rfl
  unfold headers
  split
  · rw [SortedMap.get?_insert, if_neg h, SortedMap.get?_filterMap, htrace]
  · rw [SortedMap.get?_filterMap, htrace]

theorem persistent_ofWire_toWire : (ofWire (p.toWire id)).persistent = p.persistent := by
  unfold ofWire toWire
  cases p.persistent <;> rfl

theorem retryCount_ofWire_toWire :
    (ofWire (p.toWire id)).retryCount = UInt32.ofNat (min p.retryCount.toNat maxHeaderCount) := by
  apply UInt32.toNat_inj.1
  rw [toNat_retryCount_ofWire_toWire, UInt32.toNat_ofNat']
  -- what 31 bits hold is no more than what 32 bits hold
  have hle : min p.retryCount.toNat maxHeaderCount ≤ 0x7fffffff := Nat.min_le_right _ _
  omega

/-- All trace headers come in as they were sent, but for one under the name of the retry count. -/
theorem traceHeaders_ofWire_toWire : (ofWire (p.toWire id)).traceHeaders = p.traceHeaders.erase retryHeader := by
  apply SortedMap.ext_get?
  intro k
  change ((p.headers.erase retryHeader).filterMap fun _ f => f.text?).get? k = _
  rw [SortedMap.get?_filterMap, SortedMap.get?_erase, SortedMap.get?_erase]
  split
  · rfl
  · rename_i hne
    rw [get?_headers_of_ne p hne]
    cases p.traceHeaders.get? k with
    | none => rfl
    | some v => exact Bytes.toText?_ofText v

/-- What comes in is what was sent, in its normal form. -/
theorem ofWire_toWire : ofWire (p.toWire id) = p.carried id := by
  have hpersistent := persistent_ofWire_toWire p id
  have hcount := retryCount_ofWire_toWire p id
  have htrace := traceHeaders_ofWire_toWire p id
  unfold carried
  rw [← hcount, ← htrace, ← hpersistent]
  rfl

theorem carried_eq_self_iff :
    p.carried id = p ↔
      p.retryCount.toNat ≤ maxHeaderCount ∧ p.messageId.isSome ∧ p.traceHeaders.get? retryHeader = none := by
  obtain ⟨messageType, persistent, retryCount, messageId, traceHeaders⟩ := p
  have hlt := retryCount.toNat_lt
  have hcount : UInt32.ofNat (min retryCount.toNat maxHeaderCount) = retryCount ↔ retryCount.toNat ≤ maxHeaderCount := by
    have hmax : maxHeaderCount = 0x7fffffff := rfl
    rw [← UInt32.toNat_inj, UInt32.toNat_ofNat']
    omega
  have hid : some (messageId.getD id) = messageId ↔ messageId.isSome := by
    cases messageId <;> simp
  simp only [carried, Properties.mk.injEq, true_and, hcount, hid, SortedMap.erase_eq_self_iff]

end

/-- Sent over the wire, properties come in with the retry count cut off at `2 ^ 31 - 1`, with their own id or else the
one made for them, and without a trace header named like the retry count; all else is as it was. Whatever the trace
headers are, they change neither the count nor the type nor the persistence, and properties come in exactly as they were
sent if and only if their count fits, they have an id, and no trace header has that name. -/
theorem carried_over_wire (p : Properties) (id : String) :
    ofWire (p.toWire id) =
        { messageType := p.messageType
          persistent := p.persistent
          retryCount := UInt32.ofNat (min p.retryCount.toNat (2 ^ 31 - 1))
          messageId := some (p.messageId.getD id)
          traceHeaders := p.traceHeaders.erase "x-retry-count" } ∧
      (∀ (headers : SortedMap String) (id' : String),
        let q := ofWire ({ p with traceHeaders := headers }.toWire id')
        q.retryCount = (ofWire (p.toWire id)).retryCount ∧ q.messageType = p.messageType ∧
          q.persistent = p.persistent) ∧
      (ofWire (p.toWire id) = p ↔
        p.retryCount.toNat ≤ 2 ^ 31 - 1 ∧ p.messageId.isSome ∧ p.traceHeaders.get? "x-retry-count" = none) := by
  refine ⟨ofWire_toWire p id, fun headers id' => ?_, ?_⟩
  · intro q
    have hq : q = { p with traceHeaders := headers }.carried id' := ofWire_toWire _ _
    rw [hq, ofWire_toWire p id]
    exact ⟨rfl, rfl, rfl⟩
  · rw [ofWire_toWire]
    exact carried_eq_self_iff p id

end Properties

end MessageBus
