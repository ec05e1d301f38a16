import MessageBus.Proofs.Delivery.Outcome
import MessageBus.Proofs.Delivery.Refusal
import Mathlib.Data.List.Iterate
/-!
# The attempts of a message

A message whose handler fails goes through the retry queue and comes back as another delivery. `serve` plays this out,
one delivery after another; how a message comes back from the queue is open, apart from what `ComesBack` says.
`serve_failed` strings failed attempts together, until a handler succeeds (`handled_in_time`) or the attempts are used
up (`exhausted_in_the_end`). `attempts_come_to_an_end`: where messages come back unchanged, the attempts of a message
are as many as the settings say, and every failure is reported.
-/

namespace MessageBus

/-- A delivery and what was done about it. -/
structure Hop where
  delivery : Delivery
  run : Run (Except Fault Disposition)

/-- The retry count that the delivery came with. -/
def Hop.count (h : Hop) : Nat := h.delivery.properties.retryCount.toNat

/-- Processes deliveries one after another, at most so many. Each has surroundings of its own; what a delivery puts into
the retry queue comes back behind those that wait. -/
def serve (s : Settings.Consumer) (c : ChannelId) (token : TokenId) (back : Nat → Outbound → Delivery)
    (w : Nat → Surroundings) : Nat → Nat → List Delivery → List Hop
  | 0, _, _ => []
  | _ + 1, _, [] => []
  | n + 1, i, d :: waiting =>
    let r := (d.process s c token).run (w i)
    ⟨d, r⟩ :: serve s c token back w n (i + 1) (waiting ++ (sentTo s.retryQueueName r.channelSteps).map (back i))

/-- How a message comes back from the retry queue: as it was, but for its count, its id and its headers. -/
structure ComesBack (back : Nat → Outbound → Delivery) (carry : Nat → Nat) : Prop where
  messageType : ∀ i m, (back i m).properties.messageType = m.properties.messageType
  payload : ∀ i m, (back i m).payload = m.payload
  count : ∀ i m, (back i m).properties.retryCount.toNat = carry m.properties.retryCount.toNat

/-! ## What the attempts came to -/

/-- The steps in which handlers were given the message. -/
def handlings (hops : List Hop) : List Step := hops.flatMap (·.run.handlerSteps)

/-- The counts with which the message went into the retry queue. -/
def republished (s : Settings.Consumer) (hops : List Hop) : List Nat :=
  hops.flatMap fun h => (sentTo s.retryQueueName h.run.channelSteps).map (·.properties.retryCount.toNat)

/-- The reports of the handlers' errors. -/
def reported (hops : List Hop) : List Outbound := hops.flatMap fun h => reports h.run.channelSteps

/-- What came of the last delivery. -/
def lastResult? (hops : List Hop) : Option (Except Fault Disposition) := hops.getLast?.map (·.run.result)

/-- The last delivery was settled by one call under its own tag, which the broker did, and nothing else was asked on its
channel. -/
def LastSettledBy (c : ChannelId) (call : Nat → Call) (hops : List Hop) : Prop :=
  ∃ last, hops.getLast? = some last ∧ last.run.channelSteps = [.asked (.call c (call last.delivery.tag)) (.ok ())]

theorem handlings_append (hops hops' : List Hop) : handlings (hops ++ hops') = handlings hops ++ handlings hops' :=
  List.flatMap_append

theorem republished_cons (s : Settings.Consumer) (h : Hop) (hops : List Hop) :
    republished s (h :: hops) =
      (sentTo s.retryQueueName h.run.channelSteps).map (·.properties.retryCount.toNat) ++ republished s hops :=
  List.flatMap_cons

theorem republished_append (s : Settings.Consumer) (hops hops' : List Hop) :
    republished s (hops ++ hops') = republished s hops ++ republished s hops' :=
  List.flatMap_append

/-! ## One attempt after another -/

/-- Each of the deliveries, which came with these counts, was given to the handler, which failed, and was put back with
its count raised. -/
structure AllFailed (s : Settings.Consumer) (handling : Request) (hops : List Hop) (counts : List Nat) : Prop where
  received : hops.map Hop.count = counts
  given : ∀ step ∈ handlings hops, step.request = handling
  failed : (handlings hops).map Step.handlerFailed = counts.map fun _ => true
  putBack : republished s hops = counts.map (· + 1)

theorem AllFailed.append {s : Settings.Consumer} {handling : Request} {hops hops' : List Hop}
    {counts counts' : List Nat} (h : AllFailed s handling hops counts) (h' : AllFailed s handling hops' counts') :
    AllFailed s handling (hops ++ hops') (counts ++ counts') where
  received := by rw [List.map_append, h.received, h'.received]
  given := by rw [handlings_append]; exact List.forall_mem_append.2 ⟨h.given, h'.given⟩
  failed := by rw [handlings_append, List.map_append, List.map_append, h.failed, h'.failed]
  putBack := by rw [republished_append, List.map_append, h.putBack, h'.putBack]

section
variable {s : Settings.Consumer} (c : ChannelId) (token : TokenId) {back : Nat → Outbound → Delivery}
  {carry : Nat → Nat} {w : Nat → Surroundings} {subscription : Settings.Subscription} {message : Json}

theorem serve_nil (n i : Nat) : serve s c token back w n i [] = [] := by
  cases n <;> rfl

theorem serve_cons_nil (n i : Nat) (d : Delivery) :
    let r := (d.process s c token).run (w i)
    serve s c token back w (n + 1) i [d] =
      ⟨d, r⟩ :: serve s c token back w n (i + 1) ((sentTo s.retryQueueName r.channelSteps).map (back i)) :=
  rfl

/-- The delivery after a failed attempt. -/
theorem serve_failed_once (hb : ComesBack back carry) (hm : 0 < s.maxRetryCount) {d : Delivery}
    (hd : d.Handles s subscription message) {i : Nat} {e : HandlerError} (hw : (w i).Smooth (.error e)) (n : Nat) :
    ∃ (hop : Hop) (d' : Delivery),
      serve s c token back w (n + 1) i [d] = hop :: serve s c token back w n (i + 1) [d'] ∧
      AllFailed s (.handle subscription message token) [hop] [d.properties.retryCount.toNat] ∧
      d'.Readable s subscription message ∧
      d'.properties.retryCount.toNat = carry (d.properties.retryCount.toNat + 1) := by
  obtain ⟨hset, hcalls, hhandlings⟩ := d.settled_answered s c token (w i)
  obtain ⟨p, m, hcount, hcalled, hhandled, -⟩ := hset.of_failure hcalls hhandlings hw hd hm
  have hsent : sentTo s.retryQueueName ((d.process s c token).run (w i)).channelSteps = [d.again s m] := by
    rw [hcalled, Delivery.Settled.sentTo_behind_report, Delivery.Settled.sentTo_again]
  refine ⟨⟨d, (d.process s c token).run (w i)⟩, back i (d.again s m), ?_, ?_, ?_, ?_⟩
  · rw [serve_cons_nil, hsent]
    rfl
  · constructor
    · rfl
    · simp [handlings, hhandled, Step.request]
    · simp [handlings, hhandled, Step.handlerFailed]
    · simp [republished, hsent, hcount]
  · constructor
    · rw [hb.messageType, Delivery.messageType_again, hd.subscribed]
    · rw [hb.payload, Delivery.payload_again, hd.read]
  · rw [hb.count, Delivery.retryCount_again, hcount]

/-- As long as handlers fail and attempts are left, one failed attempt follows another. -/
theorem serve_failed (hb : ComesBack back carry) (hm : 0 < s.maxRetryCount) (n k : Nat) :
    ∀ (i : Nat) {d : Delivery}, d.Readable s subscription message →
      (∀ j < k, ∃ e, (w (i + j)).Smooth (.error e)) →
      (∀ x ∈ List.iterate (fun x => carry (x + 1)) d.properties.retryCount.toNat k, x < s.maxRetryCount.toNat) →
      ∃ (hops : List Hop) (d' : Delivery),
        serve s c token back w (k + n) i [d] = hops ++ serve s c token back w n (i + k) [d'] ∧
        AllFailed s (.handle subscription message token) hops
          (List.iterate (fun x => carry (x + 1)) d.properties.retryCount.toNat k) ∧
        d'.Readable s subscription message ∧
        d'.properties.retryCount.toNat = (fun x => carry (x + 1))^[k] d.properties.retryCount.toNat := by
  -- the first attempt hands the message on to the others, which start from the count that came back
  induction k with
  | zero =>
    intro i d hd _ _
    exact ⟨[], d, by simp, ⟨rfl, List.forall_mem_nil _, rfl, rfl⟩, hd, rfl⟩
  | succ k ih =>
    intro i d hd hw hleft
    rw [List.iterate, List.forall_mem_cons] at hleft
    obtain ⟨hlt, hleft⟩ := hleft
    have hfor : d.Handles s subscription message := ⟨hd, fun h => absurd ((d.usedUp_iff hm).1 h) (by omega)⟩
    obtain ⟨e, he⟩ : ∃ e, (w i).Smooth (.error e) := hw 0 (by omega)
    obtain ⟨hop, d1, hserve, hfailed, hd1, hcount⟩ := serve_failed_once c token hb hm hfor he (k + n)
    rw [← hcount] at hleft
    rw [List.iterate, ← hcount]
    obtain ⟨hops, d', hserve', hfailed', hd', hcount'⟩ := ih (i + 1) hd1
      (fun j hj => by rw [Nat.add_assoc, Nat.add_comm 1]; exact hw (j + 1) (by omega)) hleft
    refine ⟨hop :: hops, d', ?_, hfailed.append hfailed', hd', ?_⟩
    · have hi : i + 1 + k = i + (k + 1) := by omega
      rw [Nat.add_right_comm, hserve, hserve', hi]
      rfl
    · rw [Function.iterate_succ_apply, ← hcount, hcount']

/-- As many reports as failures, however many deliveries there are. -/
theorem length_reported {outcomes : Nat → Except HandlerError Unit} (hw : ∀ i, (w i).Smooth (outcomes i))
    (n i : Nat) (waiting : List Delivery) :
    let hops := serve s c token back w n i waiting
    (reported hops).length = ((handlings hops).filter Step.handlerFailed).length := by
  induction n generalizing i waiting with
  | zero => rfl
  | succ n ih =>
    cases waiting with
    | nil => rfl
    | cons d waiting =>
      obtain ⟨hset, hcalls, -⟩ := d.settled_answered s c token (w i)
      have hone := hset.length_reports hcalls (hw i)
      simp only [serve, reported, handlings, List.flatMap_cons, List.filter_append, List.length_append] at ih ⊢
      rw [hone, ih]

/-- Every delivery is acknowledged or rejected once, by a request with its own tag. -/
theorem settled_once (n i : Nat) (waiting : List Delivery) :
    ∀ hop ∈ serve s c token back w n i waiting,
      hop.run.channelSteps.filterMap (·.request.settledTag?) = [hop.delivery.tag] := by
  induction n generalizing i waiting with
  | zero => exact List.forall_mem_nil _
  | succ n ih =>
    cases waiting with
    | nil => exact List.forall_mem_nil _
    | cons d waiting =>
      refine List.forall_mem_cons.2 ⟨?_, ih _ _⟩
      exact (d.settled_process s c token (w i) []).tags

/-! ## The last delivery -/

/-- A delivery that puts nothing back is the last. -/
theorem serve_last {d : Delivery} {i : Nat}
    (h : sentTo s.retryQueueName ((d.process s c token).run (w i)).channelSteps = []) (n : Nat) :
    serve s c token back w (n + 1) i [d] = [⟨d, (d.process s c token).run (w i)⟩] := by
  rw [serve_cons_nil, h]
  exact congrArg _ (serve_nil c token n (i + 1))

theorem serve_exhausted {outcome : Except HandlerError Unit} {d : Delivery} {i : Nat} (hw : (w i).Smooth outcome)
    (h : d.UsedUp s) (n : Nat) :
    ∃ last : Hop, serve s c token back w (n + 1) i [d] = [last] ∧ last.delivery = d ∧
      last.run.channelSteps = [.asked (.call c (.reject d.tag)) (.ok ())] ∧ last.run.handlerSteps = [] ∧
      last.run.result = .ok (.rejected .retryLimitExceeded) := by
  obtain ⟨hset, hcalls, -⟩ := d.settled_answered s c token (w i)
  obtain ⟨hcalled, hhandled, hresult⟩ := hset.of_usedUp hcalls hw h
  exact ⟨_, serve_last c token (by rw [hcalled]; rfl) n, rfl, hcalled, hhandled, hresult⟩

theorem serve_handled {d : Delivery} {i : Nat} (hw : (w i).Smooth (.ok ())) (h : d.Handles s subscription message)
    (n : Nat) :
    ∃ last : Hop, serve s c token back w (n + 1) i [d] = [last] ∧ last.delivery = d ∧
      last.run.channelSteps = [.asked (.call c (.ack d.tag)) (.ok ())] ∧
      last.run.handlerSteps = [.asked (.handle subscription message token) (.ok ())] ∧
      last.run.result = .ok (.acked .handled) := by
  obtain ⟨hset, hcalls, hhandlings⟩ := d.settled_answered s c token (w i)
  obtain ⟨hcalled, hhandled, hresult⟩ := hset.of_success hcalls hhandlings hw h
  exact ⟨_, serve_last c token (by rw [hcalled]; rfl) n, rfl, hcalled, hhandled, hresult⟩

/-- What the failed attempts and the last delivery come to, which is settled by one call. -/
theorem AllFailed.ended {handling : Request} {hops : List Hop} {counts : List Nat}
    (h : AllFailed s handling hops counts) (last : Hop) {call : Nat → Call}
    (hcalled : last.run.channelSteps = [.asked (.call c (call last.delivery.tag)) (.ok ())])
    (hgiven : ∀ step ∈ last.run.handlerSteps, step.request = handling)
    (hlast : sentTo s.retryQueueName last.run.channelSteps = []) :
    (hops ++ [last]).length = counts.length + 1 ∧
      (handlings (hops ++ [last])).length = counts.length + last.run.handlerSteps.length ∧
      (∀ step ∈ handlings (hops ++ [last]), step.request = handling) ∧
      republished s (hops ++ [last]) = counts.map (· + 1) ∧ LastSettledBy c call (hops ++ [last]) ∧
      lastResult? (hops ++ [last]) = some last.run.result := by
  have hlen : hops.length = counts.length := by rw [← h.received, List.length_map]
  have hhandled : (handlings hops).length = counts.length := by simpa using congrArg List.length h.failed
  refine ⟨?_, ?_, ?_, ?_, ⟨last, List.getLast?_concat, hcalled⟩, ?_⟩
  · rw [List.length_append, hlen]
    rfl
  · rw [handlings_append, List.length_append, hhandled]
    simp [handlings]
  · rw [handlings_append]
    exact List.forall_mem_append.2 ⟨h.given, by simpa [handlings] using hgiven⟩
  · rw [republished_append, h.putBack]
    simp [republished, hlast]
  · simp [lastResult?]

/-! ## Counts that come back as they were -/

/-- Where every count up to the `k`th comes back as it was, the counts are successive numbers. -/
theorem iterate_eq_range' {a k : Nat} (h : ∀ m, a < m → m ≤ a + k → carry m = m) :
    List.iterate (fun x => carry (x + 1)) a k = List.range' a k ∧ (fun x => carry (x + 1))^[k] a = a + k := by
  induction k generalizing a with
  | zero => exact ⟨rfl, rfl⟩
  | succ k ih =>
    have hnext : carry (a + 1) = a + 1 := h (a + 1) (by omega) (by omega)
    obtain ⟨hlist, hlast⟩ := ih (a := a + 1) (fun m hlo hhi => h m (by omega) (by omega))
    refine ⟨?_, ?_⟩
    · rw [List.iterate, hnext, hlist, List.range'_succ]
    · rw [Function.iterate_succ_apply, hnext, hlast]
      omega

theorem range'_map_succ (a k : Nat) : (List.range' a k).map (· + 1) = List.range' (a + 1) k := by
  simp only [Nat.add_comm _ 1]
  exact List.map_add_range' a k 1

section
variable {d : Delivery} (hb : ComesBack back carry) (hm : 0 < s.maxRetryCount)
  (hd : d.Readable s subscription message)
  (hkept : ∀ m, d.properties.retryCount.toNat < m → m ≤ s.maxRetryCount.toNat → carry m = m)
include hb hm hd hkept

/-- The counts of failed attempts are successive numbers. -/
theorem serve_failed_kept {k : Nat} (hw : ∀ j < k, ∃ e, (w j).Smooth (.error e))
    (hk : k ≤ s.maxRetryCount.toNat - d.properties.retryCount.toNat) (n : Nat) :
    ∃ (hops : List Hop) (d' : Delivery),
      serve s c token back w (k + n) 0 [d] = hops ++ serve s c token back w n k [d'] ∧
      AllFailed s (.handle subscription message token) hops (List.range' d.properties.retryCount.toNat k) ∧
      d'.Readable s subscription message ∧
      d'.properties.retryCount.toNat = d.properties.retryCount.toNat + k := by
  obtain ⟨hlist, hlast⟩ := iterate_eq_range' (a := d.properties.retryCount.toNat) (k := k)
    (fun m hlo hhi => hkept m hlo (by omega))
  obtain ⟨hops, d', hserve, hfailed, hd', hcount⟩ := serve_failed c token hb hm n k 0 hd
    (fun j hj => by rw [Nat.zero_add]; exact hw j hj)
    (fun x hx => by
      rw [hlist, List.mem_range'_1] at hx
      omega)
  rw [Nat.zero_add] at hserve
  rw [hlist] at hfailed
  rw [hlast] at hcount
  exact ⟨hops, d', hserve, hfailed, hd', hcount⟩

/-- A handler succeeds while attempts are left. -/
theorem handled_in_time {f n : Nat} (hf : f < s.maxRetryCount.toNat - d.properties.retryCount.toNat)
    (hbefore : ∀ j < f, ∃ e, (w j).Smooth (.error e)) (hnow : (w f).Smooth (.ok ())) (hn : f < n) :
    let hops := serve s c token back w n 0 [d]
    hops.length = f + 1 ∧ (handlings hops).length = f + 1 ∧
      (∀ step ∈ handlings hops, step.request = .handle subscription message token) ∧
      republished s hops = List.range' (d.properties.retryCount.toNat + 1) f ∧
      LastSettledBy c .ack hops ∧ lastResult? hops = some (.ok (.acked .handled)) := by
  intro hops
  obtain ⟨m, rfl⟩ : ∃ m, n = f + (m + 1) := ⟨n - f - 1, by omega⟩
  obtain ⟨failed, d', hserve, hfailed, hd', hcount⟩ :=
    serve_failed_kept c token hb hm hd hkept hbefore (Nat.le_of_lt hf) (m + 1)
  have hfor : d'.Handles s subscription message := ⟨hd', fun h => absurd ((d'.usedUp_iff hm).1 h) (by omega)⟩
  obtain ⟨last, hserved, rfl, hcalled, hhandled, hresult⟩ := serve_handled c token hnow hfor m
  have hhops : hops = failed ++ [last] := hserve.trans (by rw [hserved])
  have hend := hfailed.ended c last hcalled (by rw [hhandled]; exact List.forall_mem_singleton.2 rfl)
    (by rw [hcalled]; rfl)
  rwa [← hhops, hhandled, hresult, range'_map_succ, List.length_range'] at hend

/-- No handler succeeds while attempts are left. -/
theorem exhausted_in_the_end {outcome : Except HandlerError Unit} {n : Nat}
    (hall : ∀ j < s.maxRetryCount.toNat - d.properties.retryCount.toNat, ∃ e, (w j).Smooth (.error e))
    (hlast : (w (s.maxRetryCount.toNat - d.properties.retryCount.toNat)).Smooth outcome)
    (hn : s.maxRetryCount.toNat - d.properties.retryCount.toNat < n) :
    let k := s.maxRetryCount.toNat - d.properties.retryCount.toNat
    let hops := serve s c token back w n 0 [d]
    hops.length = k + 1 ∧ (handlings hops).length = k ∧
      (∀ step ∈ handlings hops, step.request = .handle subscription message token) ∧
      republished s hops = List.range' (d.properties.retryCount.toNat + 1) k ∧
      LastSettledBy c .reject hops ∧ lastResult? hops = some (.ok (.rejected .retryLimitExceeded)) := by
  intro k hops
  obtain ⟨m, rfl⟩ : ∃ m, n = k + (m + 1) := ⟨n - k - 1, by omega⟩
  obtain ⟨failed, d', hserve, hfailed, -, hcount⟩ :=
    serve_failed_kept c token hb hm hd hkept hall (Nat.le_refl k) (m + 1)
  have hused : d'.UsedUp s := (d'.usedUp_iff hm).2 (by omega)
  obtain ⟨last, hserved, rfl, hcalled, hhandled, hresult⟩ := serve_exhausted c token hlast hused m
  have hhops : hops = failed ++ [last] := hserve.trans (by rw [hserved])
  have hend := hfailed.ended c last hcalled (by rw [hhandled]; exact List.forall_mem_nil _) (by rw [hcalled]; rfl)
  rwa [← hhops, hhandled, hresult, range'_map_succ, List.length_range'] at hend

end

end

/-! ## Messages that come back unchanged -/

/-- A queue that gives back what was put into it, each time under another tag. -/
def unchanged (tags : Nat → Nat) (i : Nat) (m : Outbound) : Delivery := ⟨tags i, m.properties, m.payload⟩

theorem comesBack_unchanged (tags : Nat → Nat) : ComesBack (unchanged tags) id :=
  ⟨fun _ _ => rfl, fun _ _ => rfl, fun _ _ => rfl⟩

/-- Where messages come back unchanged and the broker does what it is asked to, the attempts of a message are as many as
the settings say, and in each the subscription's handler is given the message. Without attempts left it is rejected at
once. If a handler succeeds in time, the delivery that it was given is acknowledged; if not, the delivery that comes
once the attempts are used up is rejected. Either call is the only one for the last delivery, and has its tag; all
deliveries are settled once. The counts rise by one from attempt to attempt, and each failure is reported once. -/
theorem attempts_come_to_an_end {s : Settings.Consumer} (c : ChannelId) (token : TokenId) (tags : Nat → Nat)
    (hm : 0 < s.maxRetryCount) {d : Delivery} {subscription : Settings.Subscription} {message : Json}
    (hd : d.Readable s subscription message) {w : Nat → Surroundings} (outcomes : Nat → Except HandlerError Unit)
    (hw : ∀ i, (w i).Smooth (outcomes i)) (n : Nat)
    (hn : s.maxRetryCount.toNat - d.properties.retryCount.toNat < n) :
    let limit := s.maxRetryCount.toNat
    let count := d.properties.retryCount.toNat
    let hops := serve s c token (unchanged tags) w n 0 [d]
    (limit ≤ count → hops.map (·.run.channelSteps) = [[.asked (.call c (.reject d.tag)) (.ok ())]] ∧
      handlings hops = [] ∧ lastResult? hops = some (.ok (.rejected .retryLimitExceeded))) ∧
    (∀ f, f < limit - count → (∀ i < f, outcomes i ≠ .ok ()) → outcomes f = .ok () →
      hops.length = f + 1 ∧ (handlings hops).length = f + 1 ∧
      (∀ step ∈ handlings hops, step.request = .handle subscription message token) ∧
      republished s hops = List.range' (count + 1) f ∧
      LastSettledBy c .ack hops ∧ lastResult? hops = some (.ok (.acked .handled))) ∧
    ((∀ i < limit - count, outcomes i ≠ .ok ()) →
      hops.length = limit - count + 1 ∧ (handlings hops).length = limit - count ∧
      (∀ step ∈ handlings hops, step.request = .handle subscription message token) ∧
      republished s hops = List.range' (count + 1) (limit - count) ∧
      LastSettledBy c .reject hops ∧ lastResult? hops = some (.ok (.rejected .retryLimitExceeded))) ∧
    (reported hops).length = ((handlings hops).filter Step.handlerFailed).length ∧
    ∀ hop ∈ hops, hop.run.channelSteps.filterMap (·.request.settledTag?) = [hop.delivery.tag] := by
  intro limit count hops
  -- an outcome that is no success is a failure
  have hfail : ∀ k, (∀ i < k, outcomes i ≠ .ok ()) → ∀ i < k, ∃ e, (w i).Smooth (.error e) := by
    intro k hk i hi
    cases ho : outcomes i with
    | ok u => exact absurd ho (hk i hi)
    | error e => exact ⟨e, ho ▸ hw i⟩
  refine ⟨fun hle => ?_, fun f hf hbefore hnow => ?_, fun hall => ?_, length_reported c token hw n 0 [d],
    settled_once c token n 0 [d]⟩
  · obtain ⟨m, rfl⟩ : ∃ m, n = m + 1 := ⟨n - 1, by omega⟩
    obtain ⟨last, hserved, -, hcalled, hhandled, hresult⟩ :=
      serve_exhausted c token (hw 0) ((d.usedUp_iff hm).2 hle) m
    change serve s c token (unchanged tags) w (m + 1) 0 [d] = [last] at hserved
    simp [hops, hserved, handlings, lastResult?, hcalled, hhandled, hresult]
  · exact handled_in_time c token (comesBack_unchanged tags) hm hd (fun _ _ _ => rfl) hf (hfail f hbefore)
      (hnow ▸ hw f) (by omega)
  · exact exhausted_in_the_end c token (comesBack_unchanged tags) hm hd (fun _ _ _ => rfl) (hfail _ hall)
      (hw (limit - count)) hn

theorem Sample.readable_order (retries count : UInt32) :
    (order count).Readable (warehouse retries).settings orders (.object [("id", .number 1)]) :=
  ⟨rfl, rfl⟩

open Sample in
/-- An order that no attempt gets done goes into the retry queue three times, and is then rejected. One that is done at
the second attempt is acknowledged then. -/
theorem order_attempts :
    let e : HandlerError := ⟨⟨"reservation failed", ""⟩, []⟩
    let s := (warehouse 3).settings
    let hops (outcomes : Nat → Except HandlerError Unit) :=
      serve s ⟨0⟩ ⟨0⟩ (unchanged (· + 2)) (fun i => .plain (fun _ => .ok ()) (outcomes i)) 4 0 [order 0]
    let failing := hops fun _ => .error e
    let done := hops fun i => if i = 0 then .error e else .ok ()
    let handling : Request := .handle orders (.object [("id", .number 1)]) ⟨0⟩
    (failing.length = 4 ∧ (handlings failing).length = 3 ∧ (∀ step ∈ handlings failing, step.request = handling) ∧
      republished s failing = [1, 2, 3] ∧
      LastSettledBy ⟨0⟩ .reject failing ∧ lastResult? failing = some (.ok (.rejected .retryLimitExceeded))) ∧
    done.length = 2 ∧ (handlings done).length = 2 ∧ (∀ step ∈ handlings done, step.request = handling) ∧
      republished s done = [1] ∧ LastSettledBy ⟨0⟩ .ack done ∧ lastResult? done = some (.ok (.acked .handled)) := by
  intro e s hops failing done handling
  refine ⟨(attempts_come_to_an_end ⟨0⟩ ⟨0⟩ (· + 2) (by decide) (readable_order 3 0) (fun _ => .error e)
    (fun _ => Surroundings.smooth_plain _) 4 (by decide)).2.2.1 nofun, ?_⟩
  refine (attempts_come_to_an_end ⟨0⟩ ⟨0⟩ (· + 2) (by decide) (readable_order 3 0)
    (fun i => if i = 0 then .error e else .ok ()) (fun _ => Surroundings.smooth_plain _) 4
    (by decide)).2.1 1 (by decide) ?_ rfl
  intro i hi
  obtain rfl : i = 0 := by omega
  nofun

end MessageBus
