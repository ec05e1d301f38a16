import MessageBus.Message.Wire
/-!
# The retry count on the wire

A message that is sent comes in with the count it was sent with, up to the greatest one that the header holds; every
greater count comes in as that one (`toNat_retryCount_ofWire_toWire`). No trace header is taken for the count.
-/

namespace MessageBus

namespace Wire

/-- The header holds the count as it is, or the greatest there is. -/
theorem integer?_countField (n : UInt32) :
    (countField n).integer? = some ((min n.toNat maxHeaderCount : Nat) : Int) := by
  have hle : min n.toNat maxHeaderCount ≤ 0x7fffffff := Nat.min_le_right _ _
  rw [countField, Field.integer?, Int32.toInt_ofNat', Int32.size, Int.bmod_eq_of_le (by omega) (by omega)]

/-- Only the widest field holds an integer that 32 bits do not. -/
theorem Field.lt_or_eq_longLongInt {f : Field} {v : Int} (h : f.integer? = some v) :
    v < 0x100000000 ∨ ∃ n, f = .longLongInt n := by
  cases f with
  | longLongInt n => exact .inr ⟨n, rfl⟩
  | shortShortInt n | shortInt n | longInt n =>
    have hlt := n.toInt_lt
    obtain rfl := Option.some.inj h
    exact .inl (by omega)
  | shortShortUInt n | shortUInt n | longUInt n =>
    have hlt := n.toNat_lt
    obtain rfl := Option.some.inj h
    exact .inl (by omega)
  | boolean | shortString | longString | other => cases h

/-- A count that is read is the integer in the field, or zero in the stead of one below it. -/
theorem Field.count?_of_lt {f : Field} {v : Int} (h : f.integer? = some v) (hv : v < 0x100000000) :
    f.count? = some (UInt32.ofNat v.toNat) := by
  rw [count?, h, Option.bind_some, if_pos (by omega)]

/-- No count is read from an integer that 32 bits do not hold. -/
theorem Field.count?_of_le {f : Field} {v : Int} (h : f.integer? = some v) (hv : 0x100000000 ≤ v) :
    f.count? = none := by
  rw [count?, h, Option.bind_some, if_neg (by omega)]

theorem count?_countField (n : UInt32) :
    (countField n).count? = some (UInt32.ofNat (min n.toNat maxHeaderCount)) := by
  have hle : min n.toNat maxHeaderCount ≤ 0xffffffff := Nat.le_trans (Nat.min_le_right _ _) (by decide)
  rw [Field.count?, integer?_countField, Option.bind_some, Int.toNat_natCast, if_pos hle]

end Wire

namespace Properties

open Wire

/-- The count stands in its header, unless it is zero; then a trace header of that name can stand there. -/
theorem get?_headers_retryHeader (p : Properties) :
    p.headers.get? retryHeader =
      if 0 < p.retryCount then some (countField p.retryCount)
      else (p.traceHeaders.get? retryHeader).map fun v => .longString (Bytes.ofText v) := by
  unfold headers
  by_cases h : 0 < p.retryCount
  · simp [h]
  · simp only [if_neg h, SortedMap.get?_filterMap]
    cases p.traceHeaders.get? retryHeader <;> rfl

/-- The count of a message that comes in with an integer in its retry header. -/
theorem toNat_retryCount_ofWire {w : BasicProperties} {f : Field} {v : Int}
    (hf : (w.headers.getD .empty).get? retryHeader = some f) (hv : f.integer? = some v) :
    (ofWire w).retryCount.toNat = if v < 0x100000000 then v.toNat else 0 := by
  have hcount : (ofWire w).retryCount = f.count?.getD 0 := by
    change (((w.headers.getD .empty).get? retryHeader).bind Field.count?).getD 0 = _
    rw [hf, Option.bind_some]
  rw [hcount]
  split
  · rename_i hlt
    rw [Field.count?_of_lt hv hlt, Option.getD_some, UInt32.toNat_ofNat']
    omega
  · rename_i hge
    rw [Field.count?_of_le hv (Int.not_lt.1 hge)]
    rfl

/-- The count after the way over the wire. -/
theorem toNat_retryCount_ofWire_toWire (p : Properties) (id : String) :
    (ofWire (p.toWire id)).retryCount.toNat = min p.retryCount.toNat maxHeaderCount := by
  change (((p.headers.get? retryHeader).bind Field.count?).getD 0).toNat = _
  rw [get?_headers_retryHeader]
  by_cases h : 0 < p.retryCount
  · rw [if_pos h, Option.bind_some, count?_countField, Option.getD_some, UInt32.toNat_ofNat']
    -- 31 bits fit into 32
    have hle : min p.retryCount.toNat maxHeaderCount ≤ 0x7fffffff := Nat.min_le_right _ _
    omega
  · have hzero : p.retryCount = 0 := Decidable.not_not.1 (mt UInt32.pos_iff_ne_zero.2 h)
    -- a text is no count
    rw [if_neg h, hzero]
    cases p.traceHeaders.get? retryHeader <;> rfl

@[simp] theorem messageType_ofWire_toWire (p : Properties) (id : String) :
    (ofWire (p.toWire id)).messageType = p.messageType := rfl

end Properties

end MessageBus
