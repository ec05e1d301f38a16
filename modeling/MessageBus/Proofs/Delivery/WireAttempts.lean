import MessageBus.Proofs.Delivery.Attempts
import MessageBus.Proofs.Message.Wire
import Mathlib.Data.List.Perm.Subperm
/-!
# Attempts over the wire

Between two attempts a message goes over the wire, and the retry header holds no count above `Wire.maxHeaderCount`. Up
to there counts come back as they were, and the attempts come to an end. A limit above it is never reached by a message
that comes back: `wire_attempts_end_iff` says for which limits attempts end, and `count_stands_still` shows a message
that comes back with the count it had before.
-/

namespace MessageBus

/-- A queue whose messages go over the wire, each under a tag of its own; the ids are for messages without one. -/
def overWire (tags : Nat → Nat) (ids : Nat → String) (i : Nat) (m : Outbound) : Delivery :=
  .ofWire (tags i) (m.properties.toWire (ids i)) m.payload

theorem comesBack_overWire (tags : Nat → Nat) (ids : Nat → String) :
    ComesBack (overWire tags ids) fun n => min n Wire.maxHeaderCount where
  messageType i m := Properties.messageType_ofWire_toWire m.properties (ids i)
  payload _ _ := rfl
  count i m := Properties.toNat_retryCount_ofWire_toWire m.properties (ids i)

/-- The header holds every count that the message can come to, as its limit is no greater or used up already. -/
def CountsFit (d : Delivery) (s : Settings.Consumer) : Prop :=
  s.maxRetryCount.toNat ≤ Wire.maxHeaderCount ∨ s.maxRetryCount.toNat ≤ d.properties.retryCount.toNat

theorem CountsFit.kept {d : Delivery} {s : Settings.Consumer} (h : CountsFit d s) (m : Nat)
    (hlo : d.properties.retryCount.toNat < m) (hhi : m ≤ s.maxRetryCount.toNat) : min m Wire.maxHeaderCount = m := by
  rcases h with h | h
  · omega
  · omega

/-! ## In any surroundings -/

section
variable {s : Settings.Consumer} (c : ChannelId) (token : TokenId) {back : Nat → Outbound → Delivery}
  {carry : Nat → Nat} (w : Nat → Surroundings)

/-- Where counts come back as they were, each delivery comes with a count one higher than the delivery before, and the
limit bounds how often the message is put back: whatever the broker answers and whatever the handlers do. -/
theorem counts_successive (hb : ComesBack back carry) (n : Nat) :
    ∀ (i : Nat) (d : Delivery),
      (∀ m, d.properties.retryCount.toNat < m → m ≤ s.maxRetryCount.toNat → carry m = m) →
      let hops := serve s c token back w n i [d]
      hops.map Hop.count = List.range' d.properties.retryCount.toNat hops.length ∧
        (republished s hops).length ≤ s.maxRetryCount.toNat - d.properties.retryCount.toNat := by
  induction n with
  | zero =>
    intro i d _
    exact ⟨rfl, Nat.zero_le _⟩
  | succ n ih =>
    intro i d hkept hops
    have hserve : hops = _ := serve_cons_nil c token n i d
    rcases (d.settled_answered s c token (w i)).1.sentTo_eq with hnone | ⟨m, hleft, hm, hcount, hone⟩
    · rw [hnone, List.map_nil, serve_nil] at hserve
      rw [hserve]
      refine ⟨rfl, ?_⟩
      simp [republished, hnone]
    · -- the message has attempts left, so its next count is within the limit and comes back as it is
      have hlt : d.properties.retryCount.toNat < s.maxRetryCount.toNat := by
        rw [d.usedUp_iff hm] at hleft
        omega
      have hnext : (back i (d.again s m)).properties.retryCount.toNat = d.properties.retryCount.toNat + 1 := by
        rw [hb.count, Delivery.retryCount_again, hcount]
        exact hkept _ (by omega) (by omega)
      rw [hone, List.map_singleton] at hserve
      obtain ⟨hcounts, hbound⟩ := ih (i + 1) (back i (d.again s m)) (fun k hlo hhi => hkept k (by omega) hhi)
      rw [hserve]
      refine ⟨?_, ?_⟩
      · rw [List.map_cons, hcounts, hnext, List.length_cons, List.range'_succ]
        rfl
      · rw [republished_cons, hone, List.length_append, List.map_singleton, List.length_singleton]
        omega

/-- Numbers below a bound cannot rise more often than it says. -/
theorem length_le_of_increasing {l : List Nat} {b : Nat} (hl : l.Pairwise (· < ·)) (hb : ∀ x ∈ l, x < b) :
    l.length ≤ b := by
  have hnodup : l.Nodup := hl.imp fun h => Nat.ne_of_lt h
  have hle := (hnodup.subperm fun x hx => List.mem_range.2 (hb x hx)).length_le
  rwa [List.length_range] at hle

/-- A limit that the header does not hold is never reached: handlers that fail are given the message without end. -/
theorem endless {tags : Nat → Nat} {ids : Nat → String} (hm : 0 < s.maxRetryCount) {d : Delivery}
    {subscription : Settings.Subscription} {message : Json} (hd : d.Readable s subscription message)
    (hw : ∀ i, ∃ e, (w i).Smooth (.error e)) (hfit : ¬CountsFit d s) (n : Nat) :
    let hops := serve s c token (overWire tags ids) w n 0 [d]
    (hops.map Hop.count).length = n ∧ (∀ x ∈ hops.map Hop.count, x < s.maxRetryCount.toNat) ∧
      (republished s hops).length = n := by
  intro hops
  obtain ⟨hlimit, hcount⟩ := not_or.1 hfit
  -- what comes back is never above the header's greatest count, and so never reaches the limit
  have hbelow : ∀ x ∈ List.iterate (fun x => min (x + 1) Wire.maxHeaderCount) d.properties.retryCount.toNat n,
      x < s.maxRetryCount.toNat := by
    intro x hx
    obtain ⟨j, -, rfl⟩ := List.mem_iterate.1 hx
    cases j with
    | zero => exact Nat.not_le.1 hcount
    | succ j =>
      rw [Function.iterate_succ_apply']
      omega
  obtain ⟨failed, d', hserve, hfailed, -, -⟩ := serve_failed c token (comesBack_overWire tags ids) hm 0 n 0 hd
    (fun j _ => hw (0 + j)) hbelow
  have hhops : hops = failed := hserve.trans (List.append_nil failed)
  rw [hhops, hfailed.received, hfailed.putBack, List.length_map, List.length_iterate]
  exact ⟨rfl, hbelow, rfl⟩

/-- A message whose handler always fails is rejected in the end over the wire for exactly the limits that the header
holds, and where its attempts are used up from the start; its last delivery is then rejected by one call and put back no
more. Then its counts rise from delivery to delivery, and it is put back no more often than the limit says, also where
the broker refuses something or a token is cancelled. Otherwise the counts cease to rise, and the message is put back
without end. -/
theorem wire_attempts_end_iff (tags : Nat → Nat) (ids : Nat → String) (hm : 0 < s.maxRetryCount) {d : Delivery}
    {subscription : Settings.Subscription} {message : Json} (hd : d.Readable s subscription message) :
    let hops (w : Nat → Surroundings) (n : Nat) := serve s c token (overWire tags ids) w n 0 [d]
    (CountsFit d s → ∀ w n, ((hops w n).map Hop.count).Pairwise (· < ·) ∧
      (republished s (hops w n)).length ≤ s.maxRetryCount.toNat) ∧
    ∀ w, (∀ i, ∃ e, (w i).Smooth (.error e)) →
      ((∀ n, ((hops w n).map Hop.count).Pairwise (· < ·)) ↔ CountsFit d s) ∧
      ((∀ n, s.maxRetryCount.toNat < n → lastResult? (hops w n) = some (.ok (.rejected .retryLimitExceeded)) ∧
        (republished s (hops w n)).length ≤ s.maxRetryCount.toNat) ↔ CountsFit d s) ∧
      (CountsFit d s → ∀ n, s.maxRetryCount.toNat < n → LastSettledBy c .reject (hops w n)) := by
  intro hops
  have hfits : CountsFit d s → ∀ w n, ((hops w n).map Hop.count).Pairwise (· < ·) ∧
      (republished s (hops w n)).length ≤ s.maxRetryCount.toNat := by
    intro hfit w n
    obtain ⟨hcounts, hbound⟩ := counts_successive c token w (comesBack_overWire tags ids) n 0 d hfit.kept
    refine ⟨?_, Nat.le_trans hbound (Nat.sub_le _ _)⟩
    rw [hcounts]
    exact List.pairwise_lt_range'
  refine ⟨hfits, fun w hw => ?_⟩
  have hrejected : CountsFit d s → ∀ n, s.maxRetryCount.toNat < n → LastSettledBy c .reject (hops w n) ∧
      lastResult? (hops w n) = some (.ok (.rejected .retryLimitExceeded)) := by
    intro hfit n hn
    obtain ⟨e, he⟩ := hw (s.maxRetryCount.toNat - d.properties.retryCount.toNat)
    obtain ⟨-, -, -, -, hlast⟩ := exhausted_in_the_end c token (n := n) (comesBack_overWire tags ids) hm hd
      hfit.kept (fun j _ => hw j) he (Nat.lt_of_le_of_lt (Nat.sub_le _ _) hn)
    exact hlast
  refine ⟨⟨fun hrise => ?_, fun hfit n => (hfits hfit w n).1⟩, ⟨fun hend => ?_, fun hfit n hn => ?_⟩,
    fun hfit n hn => (hrejected hfit n hn).1⟩
  · -- counts below the limit cannot rise once more than it says
    by_contra hfit
    obtain ⟨hlen, hbelow, -⟩ := endless c token w hm hd hw hfit (s.maxRetryCount.toNat + 1)
    have hle := length_le_of_increasing (hrise _) hbelow
    exact Nat.not_succ_le_self _ (hlen.symm.trans_le hle)
  · by_contra hfit
    obtain ⟨-, -, hlen⟩ := endless c token w hm hd hw hfit (s.maxRetryCount.toNat + 1)
    have hle := (hend _ (Nat.lt_succ_self _)).2
    exact Nat.not_succ_le_self _ (hlen.symm.trans_le hle)
  · exact ⟨(hrejected hfit n hn).2, (hfits hfit w n).2⟩

end

open Sample in
/-- With three attempts, an order that no attempt gets done is rejected in the end. -/
theorem order_ends_over_wire :
    let e : HandlerError := ⟨⟨"reservation failed", ""⟩, []⟩
    let s := (warehouse 3).settings
    let hops := serve s ⟨0⟩ ⟨0⟩ (overWire id fun _ => "m1") (fun _ => .plain (fun _ => .ok ()) (.error e)) 4 0 [order 0]
    LastSettledBy ⟨0⟩ .reject hops ∧ lastResult? hops = some (.ok (.rejected .retryLimitExceeded)) ∧
      (republished s hops).length ≤ 3 := by
  intro e s hops
  have hfit : CountsFit (order 0) s := .inl (by decide)
  obtain ⟨-, hend, hrejected⟩ := (wire_attempts_end_iff ⟨0⟩ ⟨0⟩ id (fun _ => "m1") (by decide) (readable_order 3 0)).2
    (fun _ => .plain (fun _ => .ok ()) (.error e)) fun _ => ⟨e, Surroundings.smooth_plain _⟩
  exact ⟨hrejected hfit 4 (by decide), hend.2 hfit 4 (by decide)⟩

/-! ## A count that stands still -/

open Sample in
/-- With so many attempts as 32 bits hold, an order that no attempt gets done is put back and comes back with the count
that it came with. -/
theorem count_stands_still :
    ∃ s, (warehouse 4294967295).build = .ok s ∧
      let e : HandlerError := ⟨⟨"reservation failed", ""⟩, []⟩
      let hops := serve s ⟨0⟩ ⟨0⟩ (overWire id fun _ => "m1") (fun _ => .plain (fun _ => .ok ()) (.error e)) 2 0
        [order 2147483647]
      republished s hops = [2147483648, 2147483648] ∧ hops.map Hop.count = [2147483647, 2147483647] :=
  ⟨(warehouse 4294967295).settings, rfl, by decide +kernel⟩

end MessageBus
