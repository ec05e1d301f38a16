import MessageBus.Proofs.Program.System
/-!
# Tending a consumer

What starting a consumer and disposing of it ask for, step by step, for whatever the replies are. `Subscribes` lists the
ways in which a subscription can go, `Starts` and `Disposes` put the steps of a start and of a disposal together, and
`Gains` says what starts come to.
-/

namespace MessageBus

namespace Step

/-- The channel that the step brought. -/
def opened? : Step → Option ChannelId
  | asked .createChannel (.ok c) | asked (.openChannel _) (.ok c) => some c
  | _ => none

/-- The channel that the step asked to close. -/
def closed? : Step → Option ChannelId
  | asked (.call c .close) _ => some c
  | _ => none

/-- The subscription that the broker gave in the step: its channel and its tag. -/
def subscribed? : Step → Option (ChannelId × String)
  | asked (.consume c _ tag) (.ok _) => some (c, tag)
  | _ => none

/-- The subscription that the step asked to cancel. -/
def unsubscribed? : Step → Option (ChannelId × String)
  | asked (.call c (.cancel tag)) _ => some (c, tag)
  | _ => none

end Step

/-- The channels that some steps brought. -/
abbrev opened (steps : List Step) : List ChannelId := noted Step.opened? steps

/-- The channels that some steps asked to close. -/
abbrev closed (steps : List Step) : List ChannelId := noted Step.closed? steps

/-- The subscriptions that some steps brought. -/
abbrev subscribed (steps : List Step) : List (ChannelId × String) := noted Step.subscribed? steps

/-- The subscriptions that some steps asked to cancel. -/
abbrev unsubscribed (steps : List Step) : List (ChannelId × String) := noted Step.unsubscribed? steps

namespace Tending

variable {α β : Type} {i : Intake} {steps : List Step}

theorem run_bind (x : Tending α) (f : α → Tending β) (i : Intake) :
    (x >>= f).run.run i = x.run.run i >>= fun
      | (.ok a, i') => (f a).run.run i'
      | (.error e, i') => .done (.error e, i') := by
  refine congrArg (Program.bind _) (funext fun p => ?_)
  rcases p with ⟨_ | _, i'⟩ <;> rfl

theorem run_request (r : Request) (i : Intake) :
    (Intake.request r).run.run i = .ask r fun x => .done (.ok x, i) := rfl

theorem run_get (i : Intake) : (get : Tending Intake).run.run i = .done (.ok i, i) := rfl

theorem run_modify (f : Intake → Intake) (i : Intake) :
    (modify f : Tending Unit).run.run i = .done (.ok (), f i) := rfl

/-- One part after another: the first failed, or it worked and the second followed. -/
theorem reaches_bind {x : Tending α} {f : α → Tending β} {r : Except Fault β × Intake}
    (h : ((x >>= f).run.run i).Reaches steps (.done r)) :
    (∃ e i', r = (.error e, i') ∧ (x.run.run i).Reaches steps (.done (.error e, i'))) ∨
      ∃ first a i' second, steps = first ++ second ∧ (x.run.run i).Reaches first (.done (.ok a, i')) ∧
        ((f a).run.run i').Reaches second (.done r) := by
  rw [run_bind] at h
  obtain ⟨first, ⟨y, i'⟩, second, rfl, hfirst, hsecond⟩ := h.bind_done
  cases y with
  | ok a => exact .inr ⟨first, a, i', second, rfl, hfirst, hsecond⟩
  | error e =>
    obtain ⟨rfl, hr⟩ := hsecond.of_done
    cases hr
    exact .inl ⟨e, i', rfl, by rwa [List.append_nil]⟩

end Tending

namespace Intake

variable {token : TokenId} {queue : String} {i : Intake}

/-- How a subscription to a queue goes: the steps, the result, and the consumer after it. -/
inductive Subscribes (token : TokenId) (queue : String) (i : Intake) : List Step → Except Fault Unit → Intake → Prop
  | unlimited (f : Fault) :
      Subscribes token queue i [.asked (.call i.channel (.setPrefetch i.settings.maxConcurrency)) (.error f)] (.error f) i
  | refused (id : String) (f : Fault) :
      Subscribes token queue i
        [.asked (.call i.channel (.setPrefetch i.settings.maxConcurrency)) (.ok ()), .asked .freshId id,
          .asked (.consume i.channel queue (tagOf queue id)) (.error f)] (.error f) i
  | subscribed (id : String) (stream : StreamId) (t : TaskId) :
      Subscribes token queue i
        [.asked (.call i.channel (.setPrefetch i.settings.maxConcurrency)) (.ok ()), .asked .freshId id,
          .asked (.consume i.channel queue (tagOf queue id)) (.ok stream),
          .asked (.spawn (.takeIn stream i.settings i.channel token [])) t] (.ok ())
        { i with subscriptions := i.subscriptions ++ [(tagOf queue id, t)] }

theorem run_subscribe (token : TokenId) (queue : String) (i : Intake) :
    (subscribe token queue).run.run i = .ask (.call i.channel (.setPrefetch i.settings.maxConcurrency)) fun
      | .error f => .done (.error f, i)
      | .ok () => .ask .freshId fun id => .ask (.consume i.channel queue (tagOf queue id)) fun
        | .error f => .done (.error f, i)
        | .ok stream => .ask (.spawn (.takeIn stream i.settings i.channel token [])) fun t =>
          .done (.ok (), { i with subscriptions := i.subscriptions ++ [(tagOf queue id, t)] }) := by
  refine congrArg (Program.ask _) (funext fun x => ?_)
  cases x with
  | error f => rfl
  | ok u =>
    refine congrArg (Program.ask _) (funext fun id => congrArg (Program.ask _) (funext fun x => ?_))
    cases x <;> rfl

theorem reaches_subscribe {steps : List Step} {r : Except Fault Unit × Intake}
    (h : ((subscribe token queue).run.run i).Reaches steps (.done r)) : Subscribes token queue i steps r.1 r.2 := by
  rw [run_subscribe] at h
  obtain ⟨x, rest, rfl, h₁⟩ := h.of_ask
  cases x with
  | error f =>
    obtain ⟨rfl, hr⟩ := h₁.of_done
    cases hr
    exact .unlimited f
  | ok u =>
    obtain ⟨id, rest, rfl, h₂⟩ := h₁.of_ask
    obtain ⟨x, rest, rfl, h₃⟩ := h₂.of_ask
    cases x with
    | error f =>
      obtain ⟨rfl, hr⟩ := h₃.of_done
      cases hr
      exact .refused id f
    | ok stream =>
      obtain ⟨t, rest, rfl, h₄⟩ := h₃.of_ask
      obtain ⟨rfl, hr⟩ := h₄.of_done
      cases hr
      exact .subscribed id stream t

/-- How a start goes: one queue after the other is subscribed to, under a token of the consumer's own. -/
inductive Starts (parent : TokenId) (i : Intake) : List Step → Except Fault Unit → Intake → Prop
  | first {token : TokenId} {steps : List Step} {f : Fault} {i' : Intake}
      (h : Subscribes token i.settings.queueName { i with token := some token } steps (.error f) i') :
      Starts parent i (.asked (.childToken parent) token :: steps) (.error f) i'
  | both {token : TokenId} {steps steps' : List Step} {i₁ i' : Intake} {r : Except Fault Unit}
      (h : Subscribes token i.settings.queueName { i with token := some token } steps (.ok ()) i₁)
      (h' : Subscribes token i.settings.retryQueueName i₁ steps' r i') :
      Starts parent i (.asked (.childToken parent) token :: (steps ++ steps')) r i'

theorem run_start (parent : TokenId) (i : Intake) :
    (start parent).run.run i = .ask (.childToken parent) fun token =>
      ExceptT.run (do
        subscribe token i.settings.queueName
        subscribe token i.settings.retryQueueName
        pure ()) |>.run { i with token := some token } := by
  rw [start, Tending.run_bind, Tending.run_request, Program.ask_bind]
  refine congrArg (Program.ask _) (funext fun token => ?_)
  simp only [Program.done_bind]
  rw [Tending.run_bind, Tending.run_modify, Program.done_bind]
  simp only
  rw [Tending.run_bind, Tending.run_get, Program.done_bind]
  rfl

theorem reaches_start {parent : TokenId} {steps : List Step} {r : Except Fault Unit × Intake}
    (h : ((start parent).run.run i).Reaches steps (.done r)) : Starts parent i steps r.1 r.2 := by
  rw [run_start] at h
  obtain ⟨token, rest, rfl, h₁⟩ := Program.Reaches.of_ask h
  rcases Tending.reaches_bind h₁ with ⟨f, i', rfl, hfirst⟩ | ⟨steps, u, i₁, rest', rfl, hfirst, h₂⟩
  · exact .first (reaches_subscribe hfirst)
  rcases Tending.reaches_bind h₂ with ⟨f, i', rfl, hsecond⟩ | ⟨steps', u', i₂, rest, rfl, hsecond, h₃⟩
  · exact .both (reaches_subscribe hfirst) (reaches_subscribe hsecond)
  · obtain ⟨rfl, hr⟩ := Program.Reaches.of_done h₃
    cases hr
    rw [List.append_nil]
    exact .both (reaches_subscribe hfirst) (reaches_subscribe hsecond)

/-- What tending a consumer asks for, apart from waiting for its tasks and closing its channel. -/
def Tends : Request → Prop
  | .childToken _ | .freshId | .consume _ _ _ | .spawn _ | .cancel _ => True
  | .call _ (.setPrefetch _) | .call _ (.cancel _) => True
  | _ => False

/-- What the steps of starts come to: the subscriptions that the consumer notes are those that the broker gave, and the
tasks that it notes are those that were spawned. -/
structure Gains (i : Intake) (steps : List Step) (i' : Intake) : Prop where
  settings : i'.settings = i.settings
  channel : i'.channel = i.channel
  subscriptions : ∃ new : List (String × TaskId), i'.subscriptions = i.subscriptions ++ new ∧
    subscribed steps = new.map (fun e => (i.channel, e.1)) ∧ (spawned steps).map (·.2) = new.map (·.2)
  jobs : ∀ e ∈ spawned steps, ∃ stream token, e.1 = .takeIn stream i.settings i.channel token []
  cancels : unsubscribed steps = []
  asks : ∀ s ∈ steps, Tends s.request

theorem Gains.refl (i : Intake) : Gains i [] i :=
  ⟨rfl, rfl, ⟨[], by simp, rfl, rfl⟩, by simp, rfl, by simp⟩

theorem Gains.trans {i₁ i₂ : Intake} {steps steps' : List Step} (h : Gains i steps i₁) (h' : Gains i₁ steps' i₂) :
    Gains i (steps ++ steps') i₂ := by
  obtain ⟨new, hsub, hgiven, htasks⟩ := h.subscriptions
  obtain ⟨new', hsub', hgiven', htasks'⟩ := h'.subscriptions
  refine ⟨h'.settings.trans h.settings, h'.channel.trans h.channel, ⟨new ++ new', ?_, ?_, ?_⟩, fun e he => ?_, ?_,
    fun s hs => (List.mem_append.1 hs).elim (h.asks s) (h'.asks s)⟩
  · rw [hsub', hsub, List.append_assoc]
  · simp [hgiven, hgiven', h.channel]
  · simp [htasks, htasks']
  · rw [spawned, noted_append, List.mem_append] at he
    rcases he with he | he
    · exact h.jobs e he
    · rw [← h.settings, ← h.channel]
      exact h'.jobs e he
  · simp [h.cancels, h'.cancels]

theorem Subscribes.gains {steps : List Step} {r : Except Fault Unit} {i' : Intake}
    (h : Subscribes token queue i steps r i') : Gains i steps i' := by
  cases h with
  | unlimited f | refused id f =>
    exact ⟨rfl, rfl, ⟨[], by simp, rfl, rfl⟩, by simp [Step.spawn?, Step.done?], rfl, by simp [Step.request, Tends]⟩
  | subscribed id stream t =>
    refine ⟨rfl, rfl, ⟨[(tagOf queue id, t)], rfl, rfl, rfl⟩, fun e he => ⟨stream, token, ?_⟩, rfl,
      by simp [Step.request, Tends]⟩
    obtain rfl : e = (.takeIn stream i.settings i.channel token [], t) := by simpa [Step.spawn?, Step.done?] using he
    rfl

theorem Starts.gains {parent : TokenId} {steps : List Step} {r : Except Fault Unit} {i' : Intake}
    (h : Starts parent i steps r i') : Gains i steps i' := by
  have hstart : ∀ t : TokenId, Gains i [.asked (.childToken parent) t] { i with token := some t } := fun t =>
    ⟨rfl, rfl, ⟨[], by simp, rfl, rfl⟩, by simp [Step.spawn?, Step.done?], rfl, by simp [Step.request, Tends]⟩
  cases h with
  | first h => exact (hstart _).trans h.gains
  | both h h' => exact (hstart _).trans (h.gains.trans h'.gains)

/-- The tags of one consumer's subscriptions differ, as its queues do. -/
theorem tagOf_ne_tagOf_retry (s : Settings.Consumer) (id id' : String) :
    tagOf s.queueName id ≠ tagOf s.retryQueueName id' := by
  intro h
  have h := congrArg String.toList h
  simp [tagOf, Settings.Consumer.retryQueueName] at h

theorem Starts.nodup_tags {parent : TokenId} {steps : List Step} {r : Except Fault Unit} {i' : Intake}
    (h : Starts parent i steps r i') (hnone : i.subscriptions = []) : (i'.subscriptions.map (·.1)).Nodup := by
  cases h with
  | first h => cases h <;> simp [hnone]
  | both h h' =>
    cases h with
    | subscribed id stream t =>
      cases h' with
      | unlimited | refused => simp [hnone]
      | subscribed id' stream' t' => simp [hnone, tagOf_ne_tagOf_retry]

/-! ## Disposal -/

/-- How a disposal goes: each subscription is cancelled, then the token, and once all tasks have ended the channel is
closed. -/
inductive Disposes (i : Intake) : List Step → Prop
  | intro {cancels raised : List Step} (a : Except Fault Unit)
      (hcancels : ∀ s ∈ cancels, ∃ tag x, s = .asked (.call i.channel (.cancel tag)) x)
      (hall : unsubscribed cancels = i.subscriptions.map fun e => (i.channel, e.1))
      (hraised : raised = i.token.toList.map fun t => .asked (.cancel t) ()) :
      Disposes i (cancels ++ raised ++
        [.asked (.join (i.subscriptions.map (·.2))) (), .asked (.call i.channel .close) a])

/-- What a disposal asks for. -/
def Winds : Request → Prop
  | .call _ (.cancel _) | .call _ .close | .cancel _ | .join _ => True
  | _ => False

theorem Disposes.winds {steps : List Step} (h : Disposes i steps) : ∀ s ∈ steps, Winds s.request := by
  cases h with
  | @intro cancels raised a hcancels hall hraised =>
    intro s hs
    simp only [List.mem_append, List.mem_cons, List.not_mem_nil, or_false] at hs
    rcases hs with (hs | hs) | rfl | rfl
    · obtain ⟨tag, x, rfl⟩ := hcancels s hs
      trivial
    · rw [hraised] at hs
      obtain ⟨t, -, rfl⟩ := List.mem_map.1 hs
      trivial
    · trivial
    · trivial

theorem reaches_cancelAll {c : ChannelId} {tags : List String} {steps : List Step} {u : Unit}
    (h : (cancelAll c tags).Reaches steps (.done u)) :
    (∀ s ∈ steps, ∃ tag x, s = .asked (.call c (.cancel tag)) x) ∧ unsubscribed steps = tags.map fun tag => (c, tag) := by
  induction tags generalizing steps with
  | nil =>
    obtain ⟨rfl, -⟩ := Program.Reaches.of_done h
    exact ⟨by simp, rfl⟩
  | cons tag tags ih =>
    obtain ⟨x, rest, rfl, hrest⟩ := Program.Reaches.of_ask h
    obtain ⟨hall, htags⟩ := ih hrest
    refine ⟨List.forall_mem_cons.2 ⟨⟨tag, x, rfl⟩, hall⟩, ?_⟩
    simp [htags, Step.unsubscribed?]

theorem reaches_dispose {steps : List Step} {i' : Intake} (h : (i.dispose).Reaches steps (.done i')) :
    Disposes i steps ∧ i' = { i with subscriptions := [] } := by
  obtain ⟨cancels, u, rest, rfl, hcancels, h₁⟩ := Program.Reaches.bind_done h
  obtain ⟨hall, htags⟩ := reaches_cancelAll hcancels
  obtain ⟨raised, u', rest', rfl, hraised, h₂⟩ := Program.Reaches.bind_done h₁
  obtain ⟨x, rest, rfl, h₃⟩ := Program.Reaches.of_ask h₂
  obtain ⟨a, rest', rfl, h₄⟩ := Program.Reaches.of_ask h₃
  obtain ⟨rfl, hi⟩ := Program.Reaches.of_done h₄
  cases hi
  refine ⟨?_, rfl⟩
  rw [← List.append_assoc]
  refine .intro a hall (by rw [htags, List.map_map]; rfl) ?_
  cases ht : i.token with
  | none =>
    rw [ht] at hraised
    obtain ⟨rfl, -⟩ := Program.Reaches.of_done hraised
    rfl
  | some t =>
    rw [ht] at hraised
    exact Program.Reaches.of_request (r := .cancel t) hraised

end Intake

end MessageBus
