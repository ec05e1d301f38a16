import MessageBus.Proofs.Lifecycle.Provisioning
import MessageBus.Proofs.Publishing.Asks
/-!
# When declarations of an exchange agree

An exchange can be declared more than once: when the bus starts, as one that every bus has and as that of a message
type, and again when the publisher first broadcasts a message of the type. The broker takes a declaration that repeats
another, and refuses one that differs. `Bus.declaresExchange_iff` says which declarations a bus makes at all, and
`Bus.declarations_agree_iff` when any two of one name are the same: always, but for a bus whose publisher lets exchanges
delete themselves and one of whose message types is named like the exchange of dead letters. That of error reports is
exempt from deletion, that of dead letters is not.
-/

namespace MessageBus

open MessageBus.Topology

namespace Carries

variable {plan : List (ChannelId × Call)} {steps : List Step} {r : Except Fault Unit}

theorem mem_plan (h : Carries plan steps r) {s : Step} (hs : s ∈ steps) : ∃ e ∈ plan, s.request = .call e.1 e.2 := by
  induction h with
  | all | stopped => cases hs
  | worked h ih =>
    rcases List.mem_cons.1 hs with rfl | hs
    · exact ⟨_, List.mem_cons_self, rfl⟩
    · obtain ⟨e, he, hr⟩ := ih hs
      exact ⟨e, List.mem_cons_of_mem _ he, hr⟩
  | failed e plan f =>
    rw [List.mem_singleton.1 hs]
    exact ⟨e, List.mem_cons_self, rfl⟩

end Carries

theorem Topology.mem_callsOver_declareExchange {t : Topology} {c c' : ChannelId} {e : Exchange} :
    (c', Call.declareExchange e) ∈ t.callsOver c ↔ c' = c ∧ e ∈ t.exchanges := by
  simp [callsOver, Topology.calls, eq_comm, and_comm]

/-- The broker can do all that a plan asks for. -/
theorem Topology.reaches_callAll (c : ChannelId) (xs : List Call) :
    (callAll c xs).run.Reaches (works (xs.map fun x => (c, x))) (.done (.ok ())) := by
  induction xs with
  | nil => exact .here _
  | cons x xs ih => exact .next (.asked (.call c x) _ (.ok ())) ih

/-- A source can give a channel. -/
theorem ChannelSource.Offered.exists_reaches {source : ChannelSource} (h : source.Offered) :
    ∃ steps c, source.create.run.Reaches steps (.done (.ok c)) := by
  cases h with
  | direct => exact ⟨_, ⟨0⟩, .next (.asked .createChannel _ (.ok ⟨0⟩)) (.here _)⟩
  | pooled size =>
    exact ⟨_, ⟨0⟩, .next (.asked (.lock .pool) _ Pool.empty) <| .next (.asked .connect _ (.ok ⟨0⟩)) <|
      .next (.asked (.put .pool ⟨[⟨0⟩], false⟩) _ ()) <| .next (.asked (.unlock .pool) _ ()) <|
      .next (.asked (.openChannel ⟨0⟩) _ (.ok ⟨0⟩)) <| .here _⟩

namespace Bus

variable {b : Bus} {types : List String} {e : Exchange}

/-- The exchange is one that the bus declares at some point of a start, or of a broadcast of a message of one of the
types, whatever the replies are. -/
inductive DeclaresExchange (b : Bus) (types : List String) (e : Exchange) : Prop
  | starting {steps : List Step} {q : Program (Except Fault Unit)} {s : Step} {c : ChannelId}
      (h : b.start.run.Reaches steps q) (hs : s ∈ steps) (hr : s.request = .call c (.declareExchange e))
  | broadcasting {messageType : String} (ht : messageType ∈ types) {message : Json} {token : TokenId}
      {steps : List Step} {q : Program (Except Fault Unit)} {s : Step} {c : ChannelId}
      (h : (b.publisher.broadcast messageType message token).run.Reaches steps q) (hs : s ∈ steps)
      (hr : s.request = .call c (.declareExchange e))

/-! ## What a start declares -/

/-- The exchanges that a start declares: the two that every bus has, and those of the message types. -/
theorem mem_plan_declareExchange {c c' : ChannelId} {made : List (Settings.Consumer × ChannelId)} :
    (c', Call.declareExchange e) ∈ b.plan c made ↔ c' = c ∧
      (e ∈ defaults.exchanges ∨ ∃ messageType ∈ messageTypes b.settings,
        e = messageExchange messageType b.settings.publisher) := by
  have hqueues : (c', Call.declareExchange e) ∉ queuesOver made := by
    intro hmem
    obtain ⟨s, -, hmem⟩ := List.mem_flatMap.1 hmem
    rw [mem_callsOver_declareExchange, consumerQueues_eq] at hmem
    cases hmem.2
  rw [plan, List.append_assoc, List.mem_append, List.mem_append, ← queuesOver, or_iff_left hqueues,
    mem_callsOver_declareExchange, mem_callsOver_declareExchange, ← and_or_left, messageExchanges_eq, List.mem_map]
  simp only [eq_comm (a := e)]

/-- What is asked for in a start is in the plan, if it declares something. -/
theorem Lays.mem_plan {steps : List Step} (h : b.Lays steps) {s : Step} (hs : s ∈ steps) {c : ChannelId} {x : Call}
    (hr : s.request = .call c x) : ∃ c₀ made, (c, x) ∈ b.plan c₀ made := by
  cases h with
  | @intro c₀ made hmade own consuming r h hconsuming hworked =>
    rcases List.mem_append.1 hs with hs | hs
    · obtain ⟨e, he, hcall⟩ := h.mem_plan hs
      obtain ⟨rfl, rfl⟩ : c = e.1 ∧ x = e.2 := by simpa using hr.symm.trans hcall
      exact ⟨c₀, made, he⟩
    · obtain ⟨c', queue, tag, hconsume⟩ := hconsuming s hs
      cases hr.symm.trans hconsume

/-- A start can come to declare all exchanges of the plan. -/
theorem exists_start_declares (hs : b.source.Offered) :
    ∃ c steps q, b.start.run.Reaches steps q ∧
      ∀ x ∈ defaults.calls ++ (messageExchanges b.settings).calls, .asked (.call c x) (.ok ()) ∈ steps := by
  obtain ⟨creating, c, hcreate⟩ := hs.exists_reaches
  have hinstalls : (do
      defaults.install c
      (messageExchanges b.settings).install c : Attempt Unit).run.Reaches _ (.done (.ok ())) :=
    Attempt.reaches_bind_trans (reaches_callAll c defaults.calls)
      (reaches_callAll c (messageExchanges b.settings).calls)
  have hprovision := Attempt.reaches_bind_trans hcreate (f := fun c => do
      let result ← Attempt.result do
        defaults.install c
        (messageExchanges b.settings).install c
      let _ ← (Attempt.call c .close).result
      .ofProgram (return result)) ((hinstalls.bind _).bind _)
  refine ⟨c, _, _, .next (.asked (.lock .stage) _ Stage.idle) ((hprovision.bind _).bind _), fun x hx => ?_⟩
  refine List.mem_cons_of_mem _ (List.mem_append_right _ ?_)
  rw [works, works, ← List.map_append, ← List.map_append]
  exact List.mem_map_of_mem (f := fun e : ChannelId × Call => Step.asked (.call e.1 e.2) (.ok ()))
    (List.mem_map_of_mem hx)

/-! ## What a broadcast declares -/

/-- If the request declares an exchange, it is that of the message type. -/
def DeclaresOnly (b : Bus) (messageType : String) (r : Request) : Prop :=
  ∀ c e, r = .call c (.declareExchange e) → e = messageExchange messageType b.settings.publisher

theorem only_broadcast (hs : b.source.Offered) (messageType : String) (message : Json) (token : TokenId) :
    (b.publisher.broadcast messageType message token).run.Only (b.DeclaresOnly messageType) := by
  have hfresh : (Properties.fresh messageType).Only (b.DeclaresOnly messageType) :=
    ⟨nofun, fun _ => ⟨nofun, fun _ => trivial⟩⟩
  have hcreate : b.source.create.run.Only (b.DeclaresOnly messageType) := by
    refine hs.only_create.mono ?_
    rintro r hr c e rfl
    exact hr.elim
  refine Attempt.only_bind (Attempt.only_lift hfresh) fun properties => ?_
  refine Publisher.only_guarded (Attempt.only_bind (Publisher.only_channel hcreate ?_) fun c =>
    Attempt.only_bind ((b.publisher.only_declare c messageType).mono ?_) fun _ => Attempt.only_call nofun) nofun nofun
  · rintro r hr c e rfl
    exact hr.elim
  · rintro r hr c' e rfl
    exact Call.declareExchange.inj hr.2

/-- A broadcast can come to declare the exchange of its type. -/
theorem exists_broadcast_declares (hs : b.source.Offered) (messageType : String) :
    ∃ message token steps q s c, (b.publisher.broadcast messageType message token).run.Reaches steps q ∧ s ∈ steps ∧
      s.request = .call c (.declareExchange (messageExchange messageType b.settings.publisher)) := by
  obtain ⟨creating, c, hcreate⟩ := hs.exists_reaches
  have hopen : b.publisher.openChannel.run.Reaches _ (.done (.ok c)) :=
    Attempt.reaches_lift_bind_trans hcreate <|
      .next (.asked (.put .outlet (some c)) _ ()) <| .next (.asked (.unlock .outlet) _ ()) (.here _)
  have hchannel : b.publisher.channel.run.Reaches _ (.done (.ok c)) :=
    .next (.asked (.lock .outlet) _ (none : Option ChannelId)) hopen
  have hdeclare : (b.publisher.declare c messageType).run.Reaches
      [.asked (.lock .declared) ([] : List String), .asked (.call c (.declareExchange
        (messageExchange messageType b.settings.publisher))) (.ok ())] _ :=
    .next (.asked (.lock .declared) _ ([] : List String)) <| .next (.asked (.call c _) _ (.ok ())) (.here _)
  let properties := (Properties.persistentOf messageType "").withTrace []
  have hpublication : (do
      let c ← b.publisher.channel
      b.publisher.declare c messageType
      Attempt.call c (.publish (.broadcast messageType Json.null.bytes properties)) : Attempt Unit).run.Reaches _ _ :=
    Attempt.reaches_bind_trans hchannel (hdeclare.bind _)
  -- the broadcast takes the same steps under its token, which is not cancelled
  obtain ⟨held, hinterruptible⟩ := hpublication.under ⟨0⟩ []
  refine ⟨.null, ⟨0⟩, _, _, .under ⟨0⟩ (.asked (.call c _) (.ok ())), c,
    .next (.asked .freshId _ "") <| .next (.asked .traceContext _ []) <| .next (.asked (.isCancelled ⟨0⟩) _ false) <|
      hinterruptible.bind _, ?_, Step.request_under _ _⟩
  refine List.mem_cons_of_mem _ (List.mem_cons_of_mem _ (List.mem_cons_of_mem _ ?_))
  exact List.mem_map_of_mem (List.mem_append_right _ (List.mem_cons_of_mem _ List.mem_cons_self))

/-! ## Agreement -/

/-- All exchanges that a bus declares: the two that every bus has, and those of the message types that it was set up
with or that are broadcast. -/
theorem declaresExchange_iff (hs : b.source.Offered) :
    b.DeclaresExchange types e ↔ e ∈ defaults.exchanges ∨
      ∃ messageType, (messageType ∈ messageTypes b.settings ∨ messageType ∈ types) ∧
        e = messageExchange messageType b.settings.publisher := by
  constructor
  · rintro (⟨h, hmem, hr⟩ | ⟨ht, h, hmem, hr⟩)
    · obtain ⟨more, r, hmore⟩ := Program.exists_reaches_done _
      have hlays := lays_start hs (h.trans hmore)
      have hlaid := List.mem_filter (p := (·.request.lays)).2
        ⟨List.mem_append_left more hmem, congrArg Request.lays hr⟩
      obtain ⟨c, made, hplan⟩ := hlays.mem_plan hlaid hr
      rcases (mem_plan_declareExchange.1 hplan).2 with he | ⟨messageType, ht, he⟩
      · exact .inl he
      · exact .inr ⟨messageType, .inl ht, he⟩
    · exact .inr ⟨_, .inr ht, ((only_broadcast hs _ _ _).reaches h).1 _ hmem _ _ hr⟩
  · obtain ⟨c, steps, q, h, hall⟩ := b.exists_start_declares hs
    rintro (he | ⟨messageType, ht | ht, rfl⟩)
    · refine .starting h (hall (.declareExchange e) (List.mem_append_left _ ?_)) rfl
      simp [Topology.calls, he]
    · refine .starting h (hall (.declareExchange _) (List.mem_append_right _ ?_)) rfl
      rw [messageExchanges_eq]
      simp only [Topology.calls, List.map_map, List.map_nil, List.append_nil]
      exact List.mem_map_of_mem ht
    · obtain ⟨message, token, steps, q, s, c, h, hs, hr⟩ := b.exists_broadcast_declares hs messageType
      exact .broadcasting ht h hs hr

/-- What every bus has is declared like the exchange of a message type: that of error reports always is, that of dead
letters unless the publisher lets exchanges delete themselves. -/
theorem eq_messageExchange_of_mem_defaults {p : Settings.Publisher} (he : e ∈ defaults.exchanges)
    (h : e.name = deadLetterExchange → p.autoDeleteExchanges = false) : e = messageExchange e.name p := by
  rw [exchanges_defaults] at he
  simp only [List.mem_cons, List.not_mem_nil, or_false] at he
  rcases he with rfl | rfl
  · simp [messageExchange, Exchange.named, Exchange.lasting, Exchange.deleting]
  · simp [messageExchange, Exchange.named, Exchange.lasting, Exchange.deleting, h rfl]

/-- Any two declarations of an exchange that a bus makes, when it starts or when messages of the types are broadcast, are
the same, if and only if the publisher keeps exchanges or no message type that is announced, subscribed to or broadcast
is named like the exchange of dead letters. -/
theorem declarations_agree_iff (hs : b.source.Offered) (types : List String) :
    (∀ e e', b.DeclaresExchange types e → b.DeclaresExchange types e' → e.name = e'.name → e = e') ↔
      ¬(b.settings.publisher.autoDeleteExchanges = true ∧
        ("messaging.DeadLetterExchange" ∈ b.settings.publisher.announcedTypes ∨
          (∃ s ∈ b.settings.consumers, "messaging.DeadLetterExchange" ∈ s.subscribedTypes) ∨
          "messaging.DeadLetterExchange" ∈ types)) := by
  have hnamed : deadLetterExchange ∈ messageTypes b.settings ∨ deadLetterExchange ∈ types ↔
      "messaging.DeadLetterExchange" ∈ b.settings.publisher.announcedTypes ∨
        (∃ s ∈ b.settings.consumers, "messaging.DeadLetterExchange" ∈ s.subscribedTypes) ∨
        "messaging.DeadLetterExchange" ∈ types := by
    have hreport : deadLetterExchange ≠ Report.typeName := by decide
    rw [mem_messageTypes, and_iff_right hreport, or_assoc]
    rfl
  rw [← hnamed]
  constructor
  · rintro hagree ⟨hdelete, ht⟩
    have hdefault : b.DeclaresExchange types (Exchange.named deadLetterExchange).lasting :=
      (declaresExchange_iff hs).2 (.inl (by simp [exchanges_defaults]))
    have heq := hagree _ _ hdefault ((declaresExchange_iff hs).2 (.inr ⟨deadLetterExchange, ht, rfl⟩)) rfl
    have hkept := congrArg Exchange.autoDelete heq
    rw [messageExchange, hdelete] at hkept
    exact absurd hkept (by decide)
  · intro hnot e e' he he' hname
    -- if one of the two is declared as a message type's, so is the other
    have hdefault : ∀ e, (∃ messageType, (messageType ∈ messageTypes b.settings ∨ messageType ∈ types) ∧
        e.name = messageType) → e ∈ defaults.exchanges → e = messageExchange e.name b.settings.publisher := by
      rintro e ⟨messageType, ht, hmessage⟩ hmem
      refine eq_messageExchange_of_mem_defaults hmem fun hdead => Bool.eq_false_iff.2 fun hdelete => hnot ⟨hdelete, ?_⟩
      rwa [← hdead, hmessage]
    rcases (declaresExchange_iff hs).1 he with he | ⟨messageType, ht, rfl⟩ <;>
      rcases (declaresExchange_iff hs).1 he' with he' | ⟨messageType', ht', rfl⟩
    · have hnodup : (defaults.exchanges.map (·.name)).Nodup := by decide
      exact List.inj_on_of_nodup_map hnodup he he' hname
    · have heq := hdefault e ⟨messageType', ht', hname⟩ he
      rw [heq, hname]
      rfl
    · have heq := hdefault e' ⟨messageType, ht, hname.symm⟩ he'
      rw [heq, ← hname]
      rfl
    · obtain rfl : messageType = messageType' := hname
      rfl

end Bus

/-! ## A type that is named like the exchange of dead letters -/

namespace Sample

/-- A bus that announces one type, and whose publisher lets exchanges delete themselves. -/
def gazette (messageType : String) : Settings.BusDraft :=
  .ofSteps [.connectionString "amqp://localhost", .publisher (.ofSteps [.autoDelete, .publishes messageType])]

end Sample

open Sample in
/-- A bus that announces orders, and that broadcasts reports of errors, too: its declarations of an exchange agree. -/
theorem Bus.gazette_declarations_agree :
    ∃ b : Bus, (gazette "orders.OrderPlaced").build = .ok b.settings ∧
      ∀ e e', b.DeclaresExchange [Report.typeName] e → b.DeclaresExchange [Report.typeName] e' → e.name = e'.name →
        e = e' :=
  ⟨⟨⟨_, none, _, []⟩, .pooled 1, ⟨0⟩⟩, rfl, (declarations_agree_iff (.pooled 1) _).2 (by decide)⟩

open Sample in
/-- A bus that announces a type named like the exchange of dead letters: its settings are built, and its start declares
the exchange first as one that stays and then as one that deletes itself. -/
theorem Bus.dead_letters_disagree :
    ∃ b : Bus, (gazette "messaging.DeadLetterExchange").build = .ok b.settings ∧ b.source.Offered ∧
      ∃ e e', b.DeclaresExchange [] e ∧ b.DeclaresExchange [] e' ∧ e.name = e'.name ∧ e ≠ e' := by
  let b : Bus := ⟨⟨"amqp://localhost", none, .ofSteps [.autoDelete, .publishes "messaging.DeadLetterExchange"], []⟩,
    .direct, ⟨0⟩⟩
  have hannounced : deadLetterExchange ∈ messageTypes b.settings := mem_messageTypes.2 ⟨by decide, .inl (by decide)⟩
  exact ⟨b, rfl, .direct, ⟨"messaging.DeadLetterExchange", false, true⟩, ⟨"messaging.DeadLetterExchange", true, true⟩,
    (declaresExchange_iff .direct).2 (.inl (by decide)),
    (declaresExchange_iff .direct).2 (.inr ⟨deadLetterExchange, .inl hannounced, rfl⟩), rfl, by decide⟩

end MessageBus
