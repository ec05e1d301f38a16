import MessageBus.Proofs.Publishing.Receipt
import MessageBus.Proofs.Settings.Drafts
/-!
# The rules for the settings of a consumer

Settings that were drafted in any steps are built if they keep five rules (`KeepsRules`), which are about what was set
last and about the types that were subscribed to. Otherwise the fault names the first rule that is broken
(`FirstBroken`), in the order in which they are listed. `build_ofSteps` says so, and what is built: the fields as they
were set last, and for every type that was subscribed to the one subscription to it, whose handler is given the messages
of that type.
-/

namespace MessageBus.Settings

/-- The steps set up a consumer by the rules. -/
structure KeepsRules (name : String) (steps : List ConsumerStep) : Prop where
  named : ¬Text.isBlank name
  once : (typesIn steps).Nodup
  queue : ¬Text.isBlank (lastValue (·.queueName?) name steps)
  concurrency : 1 ≤ lastValue (·.maxConcurrency?) 10 steps
  delay : lastValue (·.maxRetryCount?) 3 steps = 0 ∨ 0 < (lastValue (·.retryDelay?) (.ofSeconds 1) steps).nanos

/-- The first rule that is broken, those before it being kept. -/
inductive FirstBroken (name : String) (steps : List ConsumerStep) : Flaw → Prop
  | unnamed (h : Text.isBlank name) : FirstBroken name steps .blankConsumerName
  | repeated (hname : ¬Text.isBlank name) {messageType : String} (h : FirstRepeat (typesIn steps) messageType) :
      FirstBroken name steps (.subscribedTwice name messageType)
  | queue (hname : ¬Text.isBlank name) (honce : (typesIn steps).Nodup)
      (h : Text.isBlank (lastValue (·.queueName?) name steps)) : FirstBroken name steps (.blankQueueName name)
  | concurrency (hname : ¬Text.isBlank name) (honce : (typesIn steps).Nodup)
      (hqueue : ¬Text.isBlank (lastValue (·.queueName?) name steps))
      (h : lastValue (·.maxConcurrency?) 10 steps = 0) : FirstBroken name steps (.noConcurrency name)
  | delay (hname : ¬Text.isBlank name) (honce : (typesIn steps).Nodup)
      (hqueue : ¬Text.isBlank (lastValue (·.queueName?) name steps))
      (hconcurrency : 1 ≤ lastValue (·.maxConcurrency?) 10 steps)
      (h : lastValue (·.maxRetryCount?) 3 steps ≠ 0 ∧ lastValue (·.retryDelay?) (.ofSeconds 1) steps = .zero) :
      FirstBroken name steps (.noRetryDelay name)

namespace ConsumerDraft

variable {name : String} {steps : List ConsumerStep}

/-! ## The order of the checks -/

/-- What is checked, in terms of the steps. -/
theorem flaw?_ofSteps (name : String) (steps : List ConsumerStep) :
    (ofSteps name steps).flaw? =
      if Text.isBlank name then some .blankConsumerName
      else match (ofSteps name steps).repeated.head? with
        | some messageType => some (.subscribedTwice name messageType)
        | none =>
          if Text.isBlank (lastValue (·.queueName?) name steps) then some (.blankQueueName name)
          else if lastValue (·.maxConcurrency?) 10 steps < 1 then some (.noConcurrency name)
          else if 0 < lastValue (·.maxRetryCount?) 3 steps ∧ lastValue (·.retryDelay?) (.ofSeconds 1) steps = .zero then
            some (.noRetryDelay name)
          else none := by
  have h := setBy_ofSteps name steps
  simp only [flaw?, h.named, h.queueName, h.maxConcurrency, h.maxRetryCount, h.retryDelay]
  cases (ofSteps name steps).repeated <;> rfl

theorem head?_repeated_eq_none : (ofSteps name steps).repeated.head? = none ↔ (typesIn steps).Nodup := by
  rw [List.head?_eq_none_iff, repeated_eq_nil_iff]

theorem flaw?_of_firstBroken {f : Flaw} (h : FirstBroken name steps f) : (ofSteps name steps).flaw? = some f := by
  rw [flaw?_ofSteps]
  cases h with
  | unnamed h => rw [if_pos h]
  | repeated hname h => rw [if_neg hname, head?_repeated.2 h]
  | queue hname honce h => rw [if_neg hname, head?_repeated_eq_none.2 honce, if_pos h]
  | concurrency hname honce hqueue h =>
    rw [if_neg hname, head?_repeated_eq_none.2 honce, if_neg hqueue, if_pos (h ▸ by decide)]
  | delay hname honce hqueue hconcurrency h =>
    rw [if_neg hname, head?_repeated_eq_none.2 honce, if_neg hqueue, if_neg (UInt16.not_lt.2 hconcurrency),
      if_pos ⟨UInt32.pos_iff_ne_zero.2 h.1, h.2⟩]

theorem flaw?_of_keepsRules (h : KeepsRules name steps) : (ofSteps name steps).flaw? = none := by
  have hdelay :
      ¬(0 < lastValue (·.maxRetryCount?) 3 steps ∧ lastValue (·.retryDelay?) (.ofSeconds 1) steps = .zero) := by
    rintro ⟨hpos, hzero⟩
    rcases h.delay with hnone | hnanos
    · exact UInt32.pos_iff_ne_zero.1 hpos hnone
    · exact absurd hnanos (hzero ▸ Nat.lt_irrefl 0)
  rw [flaw?_ofSteps, if_neg h.named, head?_repeated_eq_none.2 h.once, if_neg h.queue,
    if_neg (UInt16.not_lt.2 h.concurrency), if_neg hdelay]

/-- All rules are kept, or there is a first one that is broken. -/
theorem keepsRules_or_firstBroken (name : String) (steps : List ConsumerStep) :
    KeepsRules name steps ∨ ∃ f, FirstBroken name steps f := by
  by_cases hname : Text.isBlank name
  · exact .inr ⟨_, .unnamed hname⟩
  by_cases honce : (typesIn steps).Nodup
  case neg =>
    obtain ⟨messageType, h⟩ := exists_firstRepeat honce
    exact .inr ⟨_, .repeated hname h⟩
  by_cases hqueue : Text.isBlank (lastValue (·.queueName?) name steps)
  · exact .inr ⟨_, .queue hname honce hqueue⟩
  by_cases hnone : lastValue (·.maxConcurrency?) 10 steps = 0
  · exact .inr ⟨_, .concurrency hname honce hqueue hnone⟩
  have hconcurrency : 1 ≤ lastValue (·.maxConcurrency?) 10 steps :=
    UInt16.le_iff_toNat_le.2 (Nat.one_le_iff_ne_zero.2 fun h => hnone (UInt16.toNat_inj.1 h))
  by_cases hretries : lastValue (·.maxRetryCount?) 3 steps = 0
  · exact .inl ⟨hname, honce, hqueue, hconcurrency, .inl hretries⟩
  by_cases hdelay : lastValue (·.retryDelay?) (.ofSeconds 1) steps = .zero
  · exact .inr ⟨_, .delay hname honce hqueue hconcurrency ⟨hretries, hdelay⟩⟩
  · refine .inl ⟨hname, honce, hqueue, hconcurrency, .inr (Nat.pos_of_ne_zero fun h => hdelay ?_)⟩
    exact congrArg Duration.mk h

theorem build_of_keepsRules (h : KeepsRules name steps) :
    (ofSteps name steps).build = .ok (ofSteps name steps).settings := by
  rw [build, flaw?_of_keepsRules h]

theorem build_of_firstBroken {f : Flaw} (h : FirstBroken name steps f) :
    (ofSteps name steps).build = .error (.configuration f.message) := by
  rw [build, flaw?_of_firstBroken h]
  rfl

theorem keepsRules_of_build {c : Consumer} (h : (ofSteps name steps).build = .ok c) : KeepsRules name steps := by
  rcases keepsRules_or_firstBroken name steps with hkeeps | ⟨f, hbroken⟩
  · exact hkeeps
  · rw [build_of_firstBroken hbroken] at h
    cases h

/-- What is built are the settings that were drafted. -/
theorem eq_of_build {c : Consumer} (h : (ofSteps name steps).build = .ok c) : c = (ofSteps name steps).settings := by
  rw [build_of_keepsRules (keepsRules_of_build h)] at h
  exact (Except.ok.inj h).symm

/-! ## What is built -/

/-- Where no type comes again, every subscription holds. -/
theorem subscription?_of_build {c : Consumer} (h : (ofSteps name steps).build = .ok c) {messageType : String}
    {s : Subscription} :
    c.subscription? messageType = some s ↔ .subscribe s ∈ steps ∧ s.kind.name = messageType := by
  have honce : ((subscriptionsIn steps).map (·.kind.name)).Nodup := (keepsRules_of_build h).once
  rw [eq_of_build h, Consumer.subscription?, get?_ofSteps, ← mem_subscriptionsIn]
  constructor
  · intro hfind
    exact ⟨List.mem_of_find?_eq_some hfind, by simpa using List.find?_some hfind⟩
  · rintro ⟨hmem, rfl⟩
    obtain ⟨s', hfind⟩ : ∃ s', (subscriptionsIn steps).find? (fun x => x.kind.name = s.kind.name) = some s' := by
      refine Option.isSome_iff_exists.1 (List.find?_isSome.2 ⟨s, hmem, decide_eq_true rfl⟩)
    have hname : s'.kind.name = s.kind.name := by simpa using List.find?_some hfind
    rw [hfind, List.inj_on_of_nodup_map honce (List.mem_of_find?_eq_some hfind) hmem hname]

end ConsumerDraft

end MessageBus.Settings
