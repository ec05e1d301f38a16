import MessageBus.Proofs.Delivery.Refusal
import MessageBus.Proofs.Delivery.Outcome
import MessageBus.Proofs.Message.RoundTrip
/-!
# Retries on the wire

A message from the wire that is put back goes onto the wire again. It may come from any sender, with any properties, so
what its properties do not say is filled in on the way, and headers that are no texts are left behind. `CarriedOver`
says what of a message is still there after so many retries; retries of what was carried over carry it over again
(`CarriedOver.trans`), so that `retries_carry_over` holds of any number of them.
-/

namespace MessageBus

namespace Wire

/-- The field is a text. -/
def Field.IsText (f : Field) : Prop := ∃ t, f = .longString (Bytes.ofText t)

theorem Field.text?_eq_some_iff {f : Field} {t : String} : f.text? = some t ↔ f = .longString (Bytes.ofText t) := by
  constructor
  · intro h
    cases f with
    | longString b => rw [Bytes.ofText_of_toText? h]
    | _ => cases h
  · rintro rfl
    exact Bytes.toText?_ofText t

/-- A message on the wire. -/
structure Message where
  properties : BasicProperties
  payload : Bytes

namespace Message

/-- The header under the key. -/
def header? (w : Message) (k : String) : Option Field := (w.properties.headers.getD .empty).get? k

/-- The retry count that the message comes in with. -/
def count (w : Message) : Nat := (Properties.ofWire w.properties).retryCount.toNat

/-- A consumer that the message is delivered to puts it back as the other one: it publishes it for its retry queue. The
id is the one that is made for a message without an id. -/
def Retried (w w' : Message) : Prop :=
  ∃ (tag : Nat) (s : Settings.Consumer) (c : ChannelId) (token : TokenId) (env : Surroundings) (m : Outbound)
    (id : String),
    (∃ step ∈ (((Delivery.ofWire tag w.properties w.payload).process s c token).run env).channelSteps,
      step.request = .call c (.publish m)) ∧
    m.exchange = "" ∧ m.routingKey = s.retryQueueName ∧ w' = ⟨m.properties.toWire id, m.payload⟩

/-- The message as it is sent with that count. -/
def again (w : Message) (n : UInt32) (id : String) : Message :=
  ⟨{ Properties.ofWire w.properties with retryCount := n }.toWire id, w.payload⟩

/-- What is still there after so many retries: the payload, the type, the persistence, the id, and the headers that are
texts. Nothing is added but the count, an id, and the type of a message without one. -/
structure CarriedOver (retries : Nat) (w w' : Message) : Prop where
  payload : w'.payload = w.payload
  type : w'.properties.type = some (w.properties.type.getD "")
  persistent : w'.properties.deliveryMode = some 2 ↔ w.properties.deliveryMode = some 2
  identified : w'.properties.messageId.isSome
  messageId : ∀ id, w.properties.messageId = some id → w'.properties.messageId = some id
  texts : ∀ k, k ≠ "x-retry-count" → ∀ f, w'.header? k = some f ↔ w.header? k = some f ∧ f.IsText
  count : ∃ v : Int32, w'.header? "x-retry-count" = some (.longInt v) ∧ v.toInt = min (w.count + retries) (2 ^ 31 - 1)

/-! ## One retry -/

section
variable {w : Message} {n : UInt32} {id : String}

/-- Of the headers, those that are texts are sent again. -/
theorem header?_again {k : String} (hk : k ≠ retryHeader) (f : Field) :
    (w.again n id).header? k = some f ↔ w.header? k = some f ∧ f.IsText := by
  have hsent : (w.again n id).header? k =
      ((w.header? k).bind Field.text?).map fun t => Field.longString (Bytes.ofText t) := by
    change ({ Properties.ofWire w.properties with retryCount := n } : Properties).headers.get? k = _
    rw [Properties.get?_headers_of_ne _ hk.symm, Properties.get?_traceHeaders_ofWire _ hk.symm]
    rfl
  rw [hsent, Option.map_eq_some_iff]
  constructor
  · rintro ⟨t, ht, rfl⟩
    obtain ⟨f, hf, htext⟩ := Option.bind_eq_some_iff.1 ht
    obtain rfl := Field.text?_eq_some_iff.1 htext
    exact ⟨hf, t, rfl⟩
  · rintro ⟨hf, t, rfl⟩
    refine ⟨t, ?_, rfl⟩
    rw [hf, Option.bind_some]
    exact Field.text?_eq_some_iff.2 rfl

/-- The count is in its header, as far as it fits. -/
theorem header?_again_retryHeader (h : n.toNat = w.count + 1) :
    ∃ v : Int32, (w.again n id).header? retryHeader = some (.longInt v) ∧
      v.toInt = min (w.count + 1) (2 ^ 31 - 1) := by
  have hpos : 0 < n := UInt32.lt_iff_toNat_lt.2 (by rw [h]; exact Nat.succ_pos _)
  have hsent : (w.again n id).header? retryHeader = some (countField n) := by
    change ({ Properties.ofWire w.properties with retryCount := n } : Properties).headers.get? retryHeader = _
    rw [Properties.get?_headers_retryHeader, if_pos hpos]
  have hcount := Option.some.inj (integer?_countField n)
  refine ⟨_, hsent, hcount.trans ?_⟩
  have hmax : maxHeaderCount = 2 ^ 31 - 1 := rfl
  omega

theorem carriedOver_again (h : n.toNat = w.count + 1) : CarriedOver 1 w (w.again n id) where
  payload := rfl
  type := rfl
  persistent := by
    change some (if w.properties.deliveryMode == some persistentMode then persistentMode else transientMode) = some 2 ↔
      _
    by_cases hp : w.properties.deliveryMode = some persistentMode
    · rw [if_pos (beq_iff_eq.2 hp), hp]
    · rw [if_neg fun hb => hp (beq_iff_eq.1 hb)]
      exact iff_of_false (by decide) hp
  identified := rfl
  messageId id' h := by
    change some (w.properties.messageId.getD id) = _
    rw [h]
    rfl
  texts k hk f := header?_again hk f
  count := header?_again_retryHeader h

end

/-! ## One retry after another -/

theorem Retried.exists_again {w w' : Message} (h : w.Retried w') :
    ∃ (n : UInt32) (id : String), n.toNat = w.count + 1 ∧ w' = w.again n id := by
  obtain ⟨tag, s, c, token, env, m, id, ⟨step, hstep, hm⟩, hexchange, -, rfl⟩ := h
  obtain ⟨n, hn, rfl⟩ := (Delivery.settled_process _ s c token env []).published_directly hstep hm hexchange
  exact ⟨n, id, hn, rfl⟩

theorem Retried.carriedOver {w w' : Message} (h : w.Retried w') : CarriedOver 1 w w' := by
  obtain ⟨n, id, hn, rfl⟩ := h.exists_again
  exact carriedOver_again hn

/-- A message with attempts left whose handler fails is put back, where the broker does what it is asked to. -/
theorem retried_of_failure {w : Message} {tag : Nat} {s : Settings.Consumer} {subscription : Settings.Subscription}
    {message : Json} (hd : (Delivery.ofWire tag w.properties w.payload).Handles s subscription message)
    (hm : 0 < s.maxRetryCount) (id : String) : w.Retried (w.again (UInt32.ofNat (w.count + 1)) id) := by
  let e : HandlerError := ⟨⟨"", ""⟩, []⟩
  let env : Surroundings := .plain (fun _ => .ok ()) (.error e)
  let d := Delivery.ofWire tag w.properties w.payload
  obtain ⟨hset, hcalls, hhandlings⟩ := d.settled_answered s ⟨0⟩ ⟨0⟩ env
  obtain ⟨p, n, hn, hcalled, -, -⟩ := hset.of_failure hcalls hhandlings (Surroundings.smooth_plain _) hd hm
  obtain rfl : n = UInt32.ofNat (w.count + 1) := by
    apply UInt32.toNat_inj.1
    have hlt := n.toNat_lt
    have hcount : n.toNat = w.count + 1 := hn
    rw [UInt32.toNat_ofNat']
    omega
  refine ⟨tag, s, ⟨0⟩, ⟨0⟩, env, d.again s (UInt32.ofNat (w.count + 1)), id, ?_, rfl, rfl, rfl⟩
  refine ⟨.asked (.call ⟨0⟩ (.publish (d.again s (UInt32.ofNat (w.count + 1))))) (.ok ()), ?_, rfl⟩
  rw [hcalled]
  simp

/-- The count that a message comes in with after so many retries. -/
theorem CarriedOver.count_eq {k : Nat} {w w' : Message} (h : CarriedOver k w w') :
    w'.count = min (w.count + k) (2 ^ 31 - 1) := by
  obtain ⟨v, hheader, hv⟩ := h.count
  have hcount : w'.count = if v.toInt < 0x100000000 then v.toInt.toNat else 0 :=
    Properties.toNat_retryCount_ofWire hheader rfl
  have hlt := v.toInt_lt
  rw [hcount, if_pos (by omega)]
  omega

/-- What was carried over is carried over again. -/
theorem CarriedOver.trans {j k : Nat} {w w' w'' : Message} (h : CarriedOver j w w') (h' : CarriedOver k w' w'') :
    CarriedOver (j + k) w w'' where
  payload := h'.payload.trans h.payload
  type := by
    rw [h'.type, h.type]
    rfl
  persistent := h'.persistent.trans h.persistent
  identified := h'.identified
  messageId id hid := h'.messageId id (h.messageId id hid)
  texts key hkey f := by
    rw [h'.texts key hkey, h.texts key hkey, and_assoc, and_self]
  count := by
    obtain ⟨v, hheader, hv⟩ := h'.count
    refine ⟨v, hheader, ?_⟩
    rw [h.count_eq] at hv
    omega

/-- Any number of retries, by as many consumers: from any of the messages to any later one, all is carried over that one
retry carries over, and the count is raised by the number of retries in between, as far as its header holds it. From the
first retry on there is one id. -/
theorem retries_carry_over {n : Nat} {w : Nat → Message} (h : ∀ i < n, (w i).Retried (w (i + 1))) :
    (∀ i j, i < j → j ≤ n → CarriedOver (j - i) (w i) (w j)) ∧
      ∀ j, 1 ≤ j → j ≤ n → (w j).properties.messageId = (w 1).properties.messageId := by
  have hall : ∀ k i, i + (k + 1) ≤ n → CarriedOver (k + 1) (w i) (w (i + (k + 1))) := by
    -- on the number of retries, the last one coming behind the others
    intro k
    induction k with
    | zero =>
      intro i hi
      exact (h i hi).carriedOver
    | succ k ih =>
      intro i hi
      exact (ih i (by omega)).trans (h (i + (k + 1)) (by omega)).carriedOver
  have hbetween : ∀ i j, i < j → j ≤ n → CarriedOver (j - i) (w i) (w j) := by
    intro i j hij hj
    obtain ⟨k, rfl⟩ := Nat.exists_eq_add_of_lt hij
    have hsub : i + k + 1 - i = k + 1 := by omega
    rw [hsub]
    exact hall k i (by omega)
  refine ⟨hbetween, fun j hlo hj => ?_⟩
  obtain ⟨id, hid⟩ := Option.isSome_iff_exists.1 (hbetween 0 1 Nat.one_pos (by omega)).identified
  rcases Nat.eq_or_lt_of_le hlo with rfl | hlt
  · rfl
  · rw [hid]
    exact (hbetween 1 j hlt hj).messageId id hid

end Message

end Wire

/-! ## A message of another sender -/

namespace Sample

/-- An order of a sender that says neither how to keep it nor what its id is, put back once already, with a text and
another value in its headers. -/
def foreign : Wire.Message where
  properties := ⟨none, some "orders.OrderPlaced", none, none,
    some (.ofList [("x-retry-count", .longLongInt 1), ("tenant", .longString (Bytes.ofText "é")),
      ("priority", .shortString "high")])⟩
  payload := (order 0).payload

/-- The order on its way, as it is put back time after time. -/
def onItsWay : Nat → Wire.Message
  | 0 => foreign
  | i + 1 => (onItsWay i).again (UInt32.ofNat ((onItsWay i).count + 1)) "m1"

end Sample

open Sample in
/-- Put back twice, the order still has its payload and its text, and the id that it was given the first time. -/
theorem foreign_carried_over :
    (∀ i < 2, (onItsWay i).Retried (onItsWay (i + 1))) ∧ Wire.Message.CarriedOver 2 foreign (onItsWay 2) ∧
      (onItsWay 2).properties.messageId = (onItsWay 1).properties.messageId := by
  have hretried : ∀ i < 2, (onItsWay i).Retried (onItsWay (i + 1)) := by
    intro i hi
    have hd : (Delivery.ofWire 7 (onItsWay i).properties (onItsWay i).payload).Handles (warehouse 4).settings orders
        (.object [("id", .number 1)]) := by
      rcases Nat.lt_succ_iff_lt_or_eq.1 hi with hi | rfl
      · obtain rfl := Nat.lt_one_iff.1 hi
        exact ⟨⟨rfl, rfl⟩, by unfold Delivery.UsedUp; decide +kernel⟩
      · exact ⟨⟨rfl, rfl⟩, by unfold Delivery.UsedUp; decide +kernel⟩
    exact Wire.Message.retried_of_failure hd (by decide) "m1"
  have h := Wire.Message.retries_carry_over hretried
  exact ⟨hretried, h.1 0 2 (by decide) (by decide), h.2 2 (by decide) (by decide)⟩

end MessageBus
