import MessageBus.Settings.Consumer
import Mathlib.Data.List.Induction
import Mathlib.Data.List.Nodup
/-!
# What a draft holds

The settings of a consumer are drafted in any number of steps, and several kinds of steps set one field. After all of
them, each field holds what was set for it last, or what it held from the start (`setBy_ofSteps`). The subscriptions go
the other way: the first one to a type holds (`get?_ofSteps`), and of the types that come again the draft notes each
time (`head?_repeated`, `repeated_eq_nil_iff`). Each statement is an induction on the steps, the last one apart.
-/

namespace MessageBus.Settings

/-! ## What a step sets -/

namespace ConsumerStep

/-- The name of the queue that the step sets. -/
def queueName? : ConsumerStep → Option String
  | .queue name => some name
  | .overrides o => o.queue
  | _ => none

/-- The lifetime of messages that the step sets. -/
def messageTtl? : ConsumerStep → Option Duration
  | .messageTtl d => some d
  | .overrides o => o.messageTtlMillis.map .ofMillis
  | _ => none

/-- The limit on the length of the queues that the step sets. -/
def maxMessageCount? : ConsumerStep → Option UInt32
  | .maxMessageCount n => some n
  | .overrides o => o.maxMessageCount
  | _ => none

/-- The concurrency that the step sets. -/
def maxConcurrency? : ConsumerStep → Option UInt16
  | .maxConcurrency n => some n
  | .overrides o => o.maxConcurrency
  | _ => none

/-- The number of retries that the step sets. -/
def maxRetryCount? : ConsumerStep → Option UInt32
  | .retries max _ => some max
  | .overrides o => o.maxRetryCount
  | _ => none

/-- The delay of retries that the step sets. -/
def retryDelay? : ConsumerStep → Option Duration
  | .retries _ delay => some delay
  | .overrides o => o.retryDelayMillis.map .ofMillis
  | _ => none

/-- Whether the queues delete themselves, if the step sets that. -/
def autoDelete? : ConsumerStep → Option Bool
  | .autoDelete => some true
  | _ => none

/-- The policy for payloads that cannot be read, if the step sets one. -/
def unreadable? : ConsumerStep → Option UnreadablePolicy
  | .onUnreadable p => some p
  | _ => none

/-- The subscription that the step makes. -/
def subscription? : ConsumerStep → Option Subscription
  | .subscribe s => some s
  | _ => none

theorem subscription?_eq_some {step : ConsumerStep} {s : Subscription} :
    step.subscription? = some s ↔ step = .subscribe s := by
  cases step <;> simp [subscription?]

end ConsumerStep

/-- What the steps set last, or the value before them. -/
def lastValue {α : Type} (value? : ConsumerStep → Option α) (before : α) (steps : List ConsumerStep) : α :=
  (steps.filterMap value?).getLast?.getD before

/-- The subscriptions that the steps make, in order. -/
def subscriptionsIn (steps : List ConsumerStep) : List Subscription := steps.filterMap (·.subscription?)

/-- The types that the steps subscribe to, in order. -/
def typesIn (steps : List ConsumerStep) : List String := (subscriptionsIn steps).map (·.kind.name)

theorem mem_subscriptionsIn {steps : List ConsumerStep} {s : Subscription} :
    s ∈ subscriptionsIn steps ↔ .subscribe s ∈ steps := by
  simp [subscriptionsIn, List.mem_filterMap, ConsumerStep.subscription?_eq_some]

theorem subscriptionsIn_concat (steps : List ConsumerStep) (step : ConsumerStep) :
    subscriptionsIn (steps ++ [step]) = subscriptionsIn steps ++ step.subscription?.toList := by
  cases h : step.subscription? <;> simp [subscriptionsIn, h]

theorem typesIn_concat (steps : List ConsumerStep) (step : ConsumerStep) :
    typesIn (steps ++ [step]) = typesIn steps ++ step.subscription?.toList.map (·.kind.name) := by
  rw [typesIn, subscriptionsIn_concat, List.map_append, ← typesIn]

theorem lastValue_concat {α : Type} (value? : ConsumerStep → Option α) (before : α) (steps : List ConsumerStep)
    (step : ConsumerStep) :
    lastValue value? before (steps ++ [step]) = (value? step).getD (lastValue value? before steps) := by
  cases h : value? step <;> simp [lastValue, h]

/-- The settings are of this name, and each of their fields is as the steps set it last, or else as it is from the
start. -/
structure Consumer.SetBy (c : Consumer) (name : String) (steps : List ConsumerStep) : Prop where
  named : c.name = name
  queueName : c.queueName = lastValue (·.queueName?) name steps
  retryQueueName : c.retryQueueName = lastValue (·.queueName?) name steps ++ ".Retry"
  messageTtl : c.messageTtl = lastValue (·.messageTtl?) .zero steps
  maxMessageCount : c.maxMessageCount = lastValue (·.maxMessageCount?) 0 steps
  maxConcurrency : c.maxConcurrency = lastValue (·.maxConcurrency?) 10 steps
  maxRetryCount : c.maxRetryCount = lastValue (·.maxRetryCount?) 3 steps
  retryDelay : c.retryDelay = lastValue (·.retryDelay?) (.ofSeconds 1) steps
  autoDelete : c.autoDelete = lastValue (·.autoDelete?) false steps
  unreadable : c.unreadable = lastValue (·.unreadable?) .ignore steps

/-! ## Types that come again -/

/-- Of the types that come again, this is the one that does so first. -/
def FirstRepeat (types : List String) (messageType : String) : Prop :=
  ∃ before after, types = before ++ messageType :: after ∧ before.Nodup ∧ messageType ∈ before

theorem firstRepeat_concat {types : List String} {last messageType : String} :
    FirstRepeat (types ++ [last]) messageType ↔
      FirstRepeat types messageType ∨ types.Nodup ∧ last ∈ types ∧ messageType = last := by
  constructor
  · rintro ⟨before, after, heq, hnodup, hmem⟩
    rcases List.eq_nil_or_concat after with rfl | ⟨after', x, rfl⟩
    · obtain ⟨rfl, hlast⟩ := List.append_inj' heq rfl
      obtain rfl : last = messageType := List.singleton_inj.1 hlast
      exact .inr ⟨hnodup, hmem, rfl⟩
    · rw [List.concat_eq_append, ← List.cons_append, ← List.append_assoc] at heq
      exact .inl ⟨before, after', (List.append_inj' heq rfl).1, hnodup, hmem⟩
  · rintro (⟨before, after, rfl, hnodup, hmem⟩ | ⟨hnodup, hmem, rfl⟩)
    · exact ⟨before, after ++ [last], by simp, hnodup, hmem⟩
    · exact ⟨types, [], rfl, hnodup, hmem⟩

theorem exists_firstRepeat {types : List String} (h : ¬types.Nodup) : ∃ messageType, FirstRepeat types messageType := by
  induction types using List.reverseRecOn with
  | nil => exact absurd List.nodup_nil h
  | append_singleton types last ih =>
    rw [← List.concat_eq_append, List.nodup_concat] at h
    by_cases hnodup : types.Nodup
    · have hmem : last ∈ types := Decidable.byContradiction fun hnew => h ⟨hnew, hnodup⟩
      exact ⟨last, firstRepeat_concat.2 (.inr ⟨hnodup, hmem, rfl⟩)⟩
    · obtain ⟨messageType, hfirst⟩ := ih hnodup
      exact ⟨messageType, firstRepeat_concat.2 (.inl hfirst)⟩

/-! ## After all steps -/

namespace ConsumerDraft

theorem ofSteps_concat (name : String) (steps : List ConsumerStep) (step : ConsumerStep) :
    ofSteps name (steps ++ [step]) = (ofSteps name steps).apply step := by
  rw [ofSteps, ofSteps, List.foldl_append]
  rfl

/-- A subscription touches no field but the table of subscriptions. -/
theorem settings_apply_subscribe (d : ConsumerDraft) (s : Subscription) :
    (d.apply (.subscribe s)).settings =
      { d.settings with
        subscriptions := if d.settings.subscriptions.contains s.kind.name then d.settings.subscriptions
          else d.settings.subscriptions.insert s.kind.name s } := by
  by_cases h : d.settings.subscriptions.contains s.kind.name <;> simp [apply, h]

/-- A field that every step leaves alone or sets is as it was set last. -/
theorem field_ofSteps {α : Type} (field : Consumer → α) {value? : ConsumerStep → Option α}
    (h : ∀ d step, field (apply d step).settings = (value? step).getD (field d.settings))
    (name : String) (steps : List ConsumerStep) :
    field (ofSteps name steps).settings = lastValue value? (field (start name).settings) steps := by
  induction steps using List.reverseRecOn with
  | nil => rfl
  | append_singleton steps step ih => rw [ofSteps_concat, h, ih, lastValue_concat]

theorem setBy_ofSteps (name : String) (steps : List ConsumerStep) : (ofSteps name steps).settings.SetBy name steps := by
  have hqueue : (ofSteps name steps).settings.queueName = lastValue (·.queueName?) name steps := by
    refine field_ofSteps Consumer.queueName (fun d step => ?_) name steps
    cases step with
    | subscribe s => rw [settings_apply_subscribe]; rfl
    | _ => rfl
  refine
    { named := ?_
      queueName := hqueue
      retryQueueName := congrArg (· ++ ".Retry") hqueue
      messageTtl := field_ofSteps Consumer.messageTtl ?_ name steps
      maxMessageCount := field_ofSteps Consumer.maxMessageCount ?_ name steps
      maxConcurrency := field_ofSteps Consumer.maxConcurrency ?_ name steps
      maxRetryCount := field_ofSteps Consumer.maxRetryCount ?_ name steps
      retryDelay := field_ofSteps Consumer.retryDelay ?_ name steps
      autoDelete := field_ofSteps Consumer.autoDelete ?_ name steps
      unreadable := field_ofSteps Consumer.unreadable ?_ name steps }
  · refine (@field_ofSteps String Consumer.name (fun _ => none) (fun d step => ?_) name steps).trans ?_
    · cases step with
      | subscribe s => rw [settings_apply_subscribe]; rfl
      | _ => rfl
    · have hnone : steps.filterMap (fun _ => (none : Option String)) = [] := by simp
      rw [lastValue, hnone]
      rfl
  all_goals
    intro d step
    cases step with
    | subscribe s => rw [settings_apply_subscribe]; rfl
    | _ => rfl

/-- The first subscription to a type is the one that holds. -/
theorem get?_ofSteps (name : String) (steps : List ConsumerStep) (messageType : String) :
    (ofSteps name steps).settings.subscriptions.get? messageType =
      (subscriptionsIn steps).find? fun s => s.kind.name = messageType := by
  induction steps using List.reverseRecOn generalizing messageType with
  | nil => rfl
  | append_singleton steps step ih =>
    rw [ofSteps_concat, subscriptionsIn_concat, List.find?_append, ← ih messageType]
    cases step with
    | subscribe s =>
      rw [settings_apply_subscribe]
      change SortedMap.get? (if _ then _ else _) _ = Option.or _ ([s].find? _)
      by_cases hsame : s.kind.name = messageType
      · subst hsame
        cases h : (ofSteps name steps).settings.subscriptions.get? s.kind.name <;> simp [SortedMap.contains, h]
      · split <;> simp [hsame]
    | _ => exact (Option.or_none).symm

theorem contains_ofSteps {name : String} {steps : List ConsumerStep} {messageType : String} :
    (ofSteps name steps).settings.subscriptions.contains messageType ↔ messageType ∈ typesIn steps := by
  rw [SortedMap.contains, get?_ofSteps, List.find?_isSome]
  simp [typesIn]

theorem repeated_apply_subscribe (d : ConsumerDraft) (s : Subscription) :
    (d.apply (.subscribe s)).repeated =
      if d.settings.subscriptions.contains s.kind.name then d.repeated ++ [s.kind.name] else d.repeated := by
  unfold apply
  by_cases h : d.settings.subscriptions.contains s.kind.name <;> simp [h]

/-- The draft notes no type as long as none comes again. -/
theorem repeated_eq_nil_iff (name : String) (steps : List ConsumerStep) :
    (ofSteps name steps).repeated = [] ↔ (typesIn steps).Nodup := by
  induction steps using List.reverseRecOn with
  | nil => simp [ofSteps, start, typesIn, subscriptionsIn]
  | append_singleton steps step ih =>
    rw [ofSteps_concat, typesIn_concat]
    cases step with
    | subscribe s =>
      have hadd : (typesIn steps ++ [s.kind.name]).Nodup ↔ s.kind.name ∉ typesIn steps ∧ (typesIn steps).Nodup := by
        rw [← List.concat_eq_append, List.nodup_concat]
      rw [repeated_apply_subscribe]
      refine Iff.trans ?_ hadd.symm
      by_cases hagain : s.kind.name ∈ typesIn steps
      · simp [contains_ofSteps.2 hagain, hagain]
      · simp [mt contains_ofSteps.1 hagain, hagain, ih]
    | _ =>
      change (ofSteps name steps).repeated = [] ↔ (typesIn steps ++ []).Nodup
      rwa [List.append_nil]

/-- Of the types that the draft notes, the first is the one that came again first. -/
theorem head?_repeated {name : String} {steps : List ConsumerStep} {messageType : String} :
    (ofSteps name steps).repeated.head? = some messageType ↔ FirstRepeat (typesIn steps) messageType := by
  induction steps using List.reverseRecOn with
  | nil => simp [ofSteps, start, typesIn, subscriptionsIn, FirstRepeat]
  | append_singleton steps step ih =>
    rw [ofSteps_concat, typesIn_concat]
    cases step with
    | subscribe s =>
      rw [repeated_apply_subscribe]
      refine Iff.trans ?_ firstRepeat_concat.symm
      by_cases hagain : s.kind.name ∈ typesIn steps
      · rw [if_pos (contains_ofSteps.2 hagain), List.head?_append, ← ih, ← repeated_eq_nil_iff name steps]
        -- the type that is noted now is the first one if none was noted before
        cases (ofSteps name steps).repeated <;> simp [hagain, eq_comm]
      · simp [mt contains_ofSteps.1 hagain, hagain, ih]
    | _ =>
      change (ofSteps name steps).repeated.head? = some messageType ↔ FirstRepeat (typesIn steps ++ []) messageType
      rwa [List.append_nil]

end ConsumerDraft

end MessageBus.Settings
