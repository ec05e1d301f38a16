import MessageBus.Proofs.Delivery.Refusal
import MessageBus.Proofs.Message.RoundTrip
import MessageBus.Proofs.Program.Success
import MessageBus.Proofs.Publishing.Asks
import MessageBus.Publishing.Publisher
/-!
# What is published is what a handler is given

A publication hands one message to a channel, or it fails and hands over nothing (`handsOver_publish`): it may find no
channel, or be cancelled while it waits. Where nothing stands in its way it succeeds (`works_publish`), and so has
handed the message over. `handler_given_published` follows the message from there over the wire to a consumer that
subscribed to its type: the handler of the subscription is given the message that was published.
-/

namespace MessageBus

/-- The message that the request hands to a channel. -/
def Request.published? : Request → Option Outbound
  | call _ (.publish m) => some m
  | _ => none

/-- The messages that were handed to a channel, whatever became of them. -/
def publications (steps : List Step) : List Outbound := noted (fun s => s.request.published?) steps

section
variable (steps steps' : List Step)

@[simp] theorem publications_append : publications (steps ++ steps') = publications steps ++ publications steps' :=
  noted_append _ _ _

@[simp] theorem publications_cons (s : Step) :
    publications (s :: steps) = s.request.published?.toList ++ publications steps := noted_cons _ _ _

/-- A program that is interrupted hands over what it hands over itself. -/
theorem publications_map_under (t : TokenId) : publications (steps.map (·.under t)) = publications steps :=
  noted_map_under _ _ _

end

/-- Opening a channel publishes nothing. -/
def ChannelSource.Silent (source : ChannelSource) : Prop := source.create.run.Only fun r => r.published? = none

/-- The sources that a bus can have publish nothing themselves. -/
theorem ChannelSource.Offered.silent {source : ChannelSource} (h : source.Offered) : source.Silent :=
  h.only_create.mono fun r hr => by cases r <;> first | rfl | exact hr.elim

theorem publications_of_only {α : Type} {p : Program α} (hp : p.Only fun r => r.published? = none) {steps : List Step}
    {q : Program α} (h : p.Reaches steps q) : publications steps = [] :=
  List.filterMap_eq_nil_iff.2 (hp.reaches h).1

namespace Publisher

/-- Only the one message was handed over, and it was unless there was a fault. -/
def HandsOver (out : Outbound) (steps : List Step) (r : Except Fault Unit) : Prop :=
  publications steps = [out] ∨ publications steps = [] ∧ ∃ f, r = .error f

theorem HandsOver.after {out : Outbound} {steps first : List Step} {r : Except Fault Unit} (h : HandsOver out steps r)
    (hfirst : publications first = []) : HandsOver out (first ++ steps) r := by
  unfold HandsOver
  rw [publications_append, hfirst, List.nil_append]
  exact h

theorem HandsOver.cons {out : Outbound} {s : Step} {steps : List Step} {r : Except Fault Unit}
    (h : HandsOver out steps r) (hs : s.request.published? = none) : HandsOver out (s :: steps) r := by
  unfold HandsOver
  rw [publications_cons, hs]
  exact h

/-- The message is handed over where all that comes before it goes well. -/
theorem handsOver_bind {α : Type} {a : Attempt α} {f : α → Attempt Unit} {out : Outbound}
    (ha : a.run.Only fun r => r.published? = none)
    (hf : ∀ x steps r, (f x).run.Reaches steps (.done r) → HandsOver out steps r) {steps : List Step}
    {r : Except Fault Unit} (h : (a >>= f).run.Reaches steps (.done r)) : HandsOver out steps r := by
  rcases Attempt.reaches_bind h with ⟨e, rfl, hfirst⟩ | ⟨first, x, second, rfl, hfirst, hsecond⟩
  · exact .inr ⟨publications_of_only ha hfirst, e, rfl⟩
  · exact (hf x second r hsecond).after (publications_of_only ha hfirst)

theorem handsOver_call {c : ChannelId} {out : Outbound} {steps : List Step} {r : Except Fault Unit}
    (h : (Attempt.call c (.publish out)).run.Reaches steps (.done r)) : HandsOver out steps r := by
  obtain rfl := Attempt.reaches_call h
  exact .inl rfl

/-- A publication that is cut short has handed the message over or not. -/
theorem handsOver_guarded {messageType : String} {token : TokenId} {publication : Attempt Unit} {out : Outbound}
    (hp : ∀ steps r, publication.run.Reaches steps (.done r) → HandsOver out steps r) {steps : List Step}
    {r : Except Fault Unit} (h : (guarded messageType token publication).run.Reaches steps (.done r)) :
    HandsOver out steps r := by
  obtain ⟨b, rest, rfl, h₁⟩ := Program.Reaches.of_request_bind (r := .isCancelled token) h
  refine HandsOver.cons ?_ rfl
  cases b with
  | true =>
    obtain ⟨rfl, hr⟩ := Program.Reaches.of_done h₁
    cases hr
    exact .inr ⟨rfl, _, rfl⟩
  | false =>
    obtain ⟨first, o, second, rfl, hfirst, hsecond⟩ := Program.Reaches.bind_done h₁
    rcases hfirst.interruptible_done with ⟨own, a, hown, rfl, rfl⟩ | ⟨own, q, k, after, hown, rfl, hafter, rfl⟩
    · obtain ⟨rfl, hr⟩ := Program.Reaches.of_done hsecond
      cases hr
      unfold HandsOver
      rw [List.append_nil, publications_map_under]
      rcases hp own a hown with hone | ⟨hnone, f, rfl⟩
      · exact .inl hone
      · exact .inr ⟨hnone, _, rfl⟩
    · obtain ⟨rfl, hr⟩ := Program.Reaches.of_done hsecond
      cases hr
      -- what the program did up to the lost race begins a run of it to its end
      obtain ⟨rest, a, hrest⟩ := Program.exists_reaches_done (k q.plainReply)
      have hwhole := hp _ a (hown.trans (.next (.asked q k q.plainReply) hrest))
      have hunlocks : publications after = [] := by
        refine List.filterMap_eq_nil_iff.2 fun s hs => ?_
        obtain ⟨c, hc⟩ := hafter s hs
        rw [hc]
        rfl
      have hsteps : publications (own.map (·.under token) ++ .raced token q none :: after ++ []) =
          publications own ++ q.published?.toList := by
        rw [List.append_nil, publications_append, publications_cons, publications_map_under, hunlocks, List.append_nil]
        rfl
      have hbegins : publications own ++ q.published?.toList <+: [out] := by
        have hin : publications own ++ q.published?.toList <+: publications (own ++ .asked q q.plainReply :: rest) := by
          rw [publications_append, publications_cons, ← List.append_assoc]
          exact List.prefix_append _ _
        rcases hwhole with hone | ⟨hnone, -⟩
        · exact hone ▸ hin
        · rw [hnone, List.prefix_nil] at hin
          exact hin ▸ List.nil_prefix
      unfold HandsOver
      rw [hsteps]
      rcases List.prefix_cons_iff.1 hbegins with hnil | ⟨l, hl, hnil⟩
      · exact .inr ⟨hnil, _, rfl⟩
      · rw [List.prefix_nil] at hnil
        exact .inl (hnil ▸ hl)

theorem silent_channel {p : Publisher} (hs : p.source.Silent) : p.channel.run.Only fun r => r.published? = none :=
  only_channel hs fun r hr => by cases r <;> first | rfl | exact hr.elim

theorem silent_declare (p : Publisher) (c : ChannelId) (messageType : String) :
    (p.declare c messageType).run.Only fun r => r.published? = none := by
  refine (p.only_declare c messageType).mono fun r hr => ?_
  cases r with
  | call c' x =>
    obtain ⟨-, rfl⟩ := hr
    rfl
  | _ => rfl

end Publisher

/-- For whom a message is published. -/
inductive Audience where
  /-- Every queue that is bound to the exchange of its type. -/
  | subscribers
  | queue (name : String)

namespace Audience

/-- The exchange that the message goes to. -/
def exchange (messageType : String) : Audience → String
  | subscribers => messageType
  | queue _ => ""

/-- The routing key that the message has. -/
def routingKey : Audience → String
  | subscribers => ""
  | queue name => name

/-- The message on its way to the audience. -/
def outbound (audience : Audience) (messageType : String) (payload : Bytes) (properties : Properties) : Outbound :=
  match audience with
  | subscribers => .broadcast messageType payload properties
  | queue name => .direct name payload properties

section
variable (audience : Audience) (messageType : String) (payload : Bytes) (properties : Properties)

@[simp] theorem exchange_outbound :
    (audience.outbound messageType payload properties).exchange = audience.exchange messageType := by
  cases audience <;> rfl

@[simp] theorem routingKey_outbound :
    (audience.outbound messageType payload properties).routingKey = audience.routingKey := by
  cases audience <;> rfl

@[simp] theorem payload_outbound : (audience.outbound messageType payload properties).payload = payload := by
  cases audience <;> rfl

@[simp] theorem properties_outbound : (audience.outbound messageType payload properties).properties = properties := by
  cases audience <;> rfl

end

end Audience

namespace Publisher

/-- Publishes a message for an audience. -/
def publish (p : Publisher) (audience : Audience) (messageType : String) (message : Json) (token : TokenId) :
    Attempt Unit :=
  match audience with
  | .subscribers => p.broadcast messageType message token
  | .queue name => p.send name messageType message token

/-- A publication asks for an id and a trace context first. Then it hands over one message with both, or it fails. -/
theorem handsOver_fresh {p : Publisher} (hs : p.source.Silent) {message : Json} {payload : Bytes}
    (hw : p.serializer.write message = .ok payload) (audience : Audience) (messageType : String) (token : TokenId)
    {steps : List Step} {r : Except Fault Unit}
    (h : (p.publish audience messageType message token).run.Reaches steps (.done r)) :
    ∃ id context rest, steps = .asked .freshId id :: .asked .traceContext context :: rest ∧
      HandsOver (audience.outbound messageType payload ((Properties.persistentOf messageType id).withTrace context))
        rest r := by
  have hpayload : p.payload? message = .ok (some payload) := by
    rw [payload?, hw]
  cases audience with
  | subscribers =>
    rw [publish, broadcast, hpayload] at h
    obtain ⟨id, rest, rfl, h₁⟩ := Program.Reaches.of_ask h
    obtain ⟨context, rest, rfl, h₂⟩ := Program.Reaches.of_ask h₁
    refine ⟨id, context, rest, rfl, handsOver_guarded (fun _ _ h₃ => ?_) h₂⟩
    refine handsOver_bind (silent_channel hs) (fun c _ _ h₄ => ?_) h₃
    exact handsOver_bind (silent_declare p c messageType) (fun _ _ _ h₅ => handsOver_call h₅) h₄
  | queue name =>
    rw [publish, send, hpayload] at h
    obtain ⟨id, rest, rfl, h₁⟩ := Program.Reaches.of_ask h
    obtain ⟨context, rest, rfl, h₂⟩ := Program.Reaches.of_ask h₁
    refine ⟨id, context, rest, rfl, handsOver_guarded (fun _ _ h₃ => ?_) h₂⟩
    exact handsOver_bind (silent_channel hs) (fun c _ _ h₄ => handsOver_call h₄) h₃

/-- A publication hands over one message, with an id and a trace context that it asked for, or it fails. -/
theorem handsOver_publish {p : Publisher} (hs : p.source.Silent) {message : Json} {payload : Bytes}
    (hw : p.serializer.write message = .ok payload) (audience : Audience) (messageType : String) (token : TokenId)
    {steps : List Step} {r : Except Fault Unit}
    (h : (p.publish audience messageType message token).run.Reaches steps (.done r)) :
    ∃ id context,
      HandsOver (audience.outbound messageType payload ((Properties.persistentOf messageType id).withTrace context))
        steps r := by
  obtain ⟨id, context, rest, rfl, hands⟩ := handsOver_fresh hs hw audience messageType token h
  exact ⟨id, context, (hands.cons rfl).cons rfl⟩

/-! ## Where nothing stands in its way -/

section
variable {p : Publisher} {w : Surroundings}

/-- A publisher finds a channel where its source gives one. -/
theorem works_channel (hs : p.source.create.Works w) : p.channel.Works w := by
  have hopen : p.openChannel.Works w := by
    refine Attempt.works_result_bind hs fun c => ?_
    intro _ _
    exact ⟨c, rfl⟩
  refine Attempt.works_request_bind fun past => ?_
  cases w.reply past (.lock .outlet) with
  | none => exact hopen
  | some c =>
    refine Attempt.works_request_bind fun past => ?_
    cases w.reply past (.isOpen c) with
    | true => exact fun _ => ⟨c, rfl⟩
    | false => exact hopen

theorem works_guarded {messageType : String} {token : TokenId} {publication : Attempt Unit}
    (hraces : ∀ past t r, w.race past t r = some (w.reply past r))
    (htoken : ∀ past, w.reply past (.isCancelled token) = false) (hp : publication.Works w) :
    (guarded messageType token publication).Works w := by
  intro past
  rw [htoken]
  change (Program.interruptible token publication.run >>= _).Yields w _
  refine Program.Yields.bind (hp.interruptible hraces) ?_
  rintro _ ⟨_, rfl, u, rfl⟩
  exact ⟨u, rfl⟩

variable (hcalls : ∀ past c x, w.reply past (.call c x) = .ok ())
include hcalls

theorem works_declare (c : ChannelId) (messageType : String) : (p.declare c messageType).Works w := by
  refine Attempt.works_request_bind fun past => ?_
  split
  · exact fun _ => ⟨(), rfl⟩
  · refine Attempt.works_result_bind (Attempt.works_call fun past => hcalls past c _) fun _ => ?_
    intro _ _
    exact ⟨(), rfl⟩

/-- A publication whose message can be written succeeds where the source gives channels, the broker does what it is
asked to, and no token is cancelled. -/
theorem works_publish (hs : p.source.create.Works w) (hraces : ∀ past t r, w.race past t r = some (w.reply past r))
    {token : TokenId} (htoken : ∀ past, w.reply past (.isCancelled token) = false) {message : Json} {payload : Bytes}
    (hw : p.serializer.write message = .ok payload) (audience : Audience) (messageType : String) :
    (p.publish audience messageType message token).Works w := by
  have hpayload : p.payload? message = .ok (some payload) := by
    rw [payload?, hw]
  cases audience with
  | subscribers =>
    rw [publish, broadcast, hpayload]
    intro _ _
    refine works_guarded hraces htoken (Attempt.works_bind (works_channel hs) fun c => ?_)
    refine Attempt.works_bind (works_declare hcalls c messageType) fun _ => ?_
    exact Attempt.works_call fun past => hcalls past c _
  | queue name =>
    rw [publish, send, hpayload]
    intro _ _
    refine works_guarded hraces htoken (Attempt.works_bind (works_channel hs) fun c => ?_)
    exact Attempt.works_call fun past => hcalls past c _

end

end Publisher

/-! ## From the channel to the handler -/

/-- A delivery for a handler is given to it once, and to no other handler. -/
theorem Delivery.Settled.handlings_of_handles {d : Delivery} {s : Settings.Consumer} {c : ChannelId} {token : TokenId}
    {calls handlings : List Step} {result : Except Fault Disposition} (h : Settled d s c token calls handlings result)
    {sub : Settings.Subscription} {message : Json} (hh : d.Handles s sub message) :
    ∃ x, handlings = [.asked (.handle sub message token) x] := by
  have hsame : ∀ {sub' message'}, d.Handles s sub' message' → sub' = sub ∧ message' = message := by
    intro sub' message' hh'
    obtain rfl : sub' = sub := Option.some.inj (hh'.subscribed.symm.trans hh.subscribed)
    exact ⟨rfl, Except.ok.inj (hh'.read.symm.trans hh.read)⟩
  cases h with
  | exhausted hused => exact absurd hused hh.left
  | unsubscribed _ hs => exact absurd (hs.symm.trans hh.subscribed) nofun
  | ignored _ hs hf | deadLettered _ hs hf =>
    cases Option.some.inj (hs.symm.trans hh.subscribed)
    exact absurd (hf.symm.trans hh.read) nofun
  | handled hh' | dropped hh' | unacknowledged hh' | retried hh' =>
    obtain ⟨rfl, rfl⟩ := hsame hh'
    exact ⟨_, rfl⟩

namespace Properties

/-- A new message has no attempt behind it when it comes in, whatever its trace context is. -/
theorem retryCount_ofWire_new (messageType id id' : String) (context : List (String × String)) :
    (ofWire (((persistentOf messageType id).withTrace context).toWire id')).retryCount = 0 := by
  rw [ofWire_toWire]
  rfl

end Properties

/-- Whatever the broker does, whatever the trace context is and whenever the token is cancelled: publishing a message
hands at most one message to a channel, and one if it succeeds. It does succeed where the broker does what it is asked
to, the token is not cancelled and the source gives a channel. The message is addressed to its audience, and when it
has come over the wire as a delivery to a consumer that subscribed to its type and reads its payload back, the
subscription's handler is given the message that was published, once and as a first attempt, and no other handler is
given any. -/
theorem Publisher.handler_given_published {p : Publisher} (hs : p.source.Silent) {sub : Settings.Subscription}
    {message : Json} {payload : Bytes} (hw : p.serializer.write message = .ok payload)
    (hr : sub.decode payload = .ok message) {s : Settings.Consumer}
    (hsub : s.subscription? sub.kind.name = some sub) (audience : Audience) (token : TokenId) (w : Surroundings) :
    let r := (p.publish audience sub.kind.name message token).run.run w
    (publications r.steps).length ≤ 1 ∧ (r.result = .ok () → (publications r.steps).length = 1) ∧
      (∀ outcome, w.Smooth outcome → (∀ past, w.reply past (.isCancelled token) = false) → p.source.create.Works w →
        r.result = .ok () ∧ (publications r.steps).length = 1) ∧
      ∀ out ∈ publications r.steps,
        out.exchange = audience.exchange sub.kind.name ∧ out.routingKey = audience.routingKey ∧
          ∀ (tag : Nat) (id : String) (c : ChannelId) (token' : TokenId) (w' : Surroundings),
            let d := Delivery.ofWire tag (out.properties.toWire id) out.payload
            d.properties.retryCount = 0 ∧
              ∃ x, ((d.process s c token').run w').handlerSteps = [.asked (.handle sub message token') x] := by
  intro r
  obtain ⟨id, context, hands⟩ :=
    handsOver_publish hs hw audience sub.kind.name token (Program.reaches_runAfter w [] _)
  change HandsOver _ r.steps r.result at hands
  have hone : r.result = .ok () → (publications r.steps).length = 1 := by
    intro hok
    rcases hands with hone | ⟨-, f, hf⟩
    · exact hone ▸ rfl
    · exact absurd (hok.symm.trans hf) nofun
  refine ⟨?_, hone, fun outcome hsmooth htoken hgives => ?_, fun out hout => ?_⟩
  · rcases hands with hone | ⟨hnone, -⟩
    · exact hone ▸ Nat.le_refl 1
    · exact hnone ▸ Nat.zero_le 1
  · obtain ⟨_, hok⟩ :=
      (works_publish hsmooth.calls hgives hsmooth.races htoken hw audience sub.kind.name).result []
    exact ⟨hok, hone hok⟩
  · obtain rfl : out = audience.outbound sub.kind.name payload
        ((Properties.persistentOf sub.kind.name id).withTrace context) := by
      rcases hands with hone | ⟨hnone, -⟩
      · exact List.mem_singleton.1 (hone ▸ hout)
      · exact absurd (hnone ▸ hout) List.not_mem_nil
    refine ⟨Audience.exchange_outbound .., Audience.routingKey_outbound .., fun tag id' c token' w' => ?_⟩
    intro d
    have hd : d = ⟨tag, Properties.ofWire (((Properties.persistentOf sub.kind.name id).withTrace context).toWire id'),
        payload⟩ := by
      simp only [d, Delivery.ofWire, Audience.properties_outbound, Audience.payload_outbound]
    have hcount : d.properties.retryCount = 0 := hd ▸ Properties.retryCount_ofWire_new ..
    have hhandles : d.Handles s sub message := by
      refine ⟨⟨?_, ?_⟩, ?_⟩
      · rw [hd]
        exact hsub
      · rw [hd]
        exact hr
      · rintro ⟨hpos, hle⟩
        rw [hcount] at hle
        exact absurd hpos (UInt32.not_lt.2 hle)
    exact ⟨hcount, (Delivery.settled_process d s c token' w' []).handlings_of_handles hhandles⟩

/-! ## An order that is published -/

namespace Sample

/-- A publisher with the settings that it has from the start. -/
def seller : Publisher := ⟨.start, .json, .direct⟩

/-- Surroundings in which all goes well, and whose trace context has a key that clashes with the retry count. -/
def clashing : Surroundings :=
  let reply (r : Request) : r.Reply := match r with
    | .traceContext => [("X-Retry-Count", "7")]
    | r => r.plainReply
  ⟨fun _ => reply, fun _ _ r => some (reply r)⟩

end Sample

open Sample in
/-- An order is published with a trace header named like the retry count, to its subscribers and to the queue of a
warehouse. Either way it is handed over once, and it is a first attempt all the same; the handler is given it. -/
theorem Publisher.order_received :
    ∃ s, (warehouse 3).build = .ok s ∧
      ∀ x ∈ [(Audience.subscribers, "orders.OrderPlaced", ""), (.queue "warehouse", "", "warehouse")],
        let r := (seller.publish x.1 "orders.OrderPlaced" (.object [("id", .number 1)]) ⟨0⟩).run.run clashing
        r.result = .ok () ∧ ∃ out, publications r.steps = [out] ∧
          out.properties.traceHeaders.get? "x-retry-count" = some "7" ∧ out.exchange = x.2.1 ∧ out.routingKey = x.2.2 ∧
          ∀ w, let d := Delivery.ofWire 1 (out.properties.toWire "m") out.payload
            d.properties.retryCount = 0 ∧
              ∃ y, ((d.process s ⟨1⟩ ⟨1⟩).run w).handlerSteps =
                [.asked (.handle orders (.object [("id", .number 1)]) ⟨1⟩) y] := by
  have hw : seller.serializer.write (.object [("id", .number 1)]) = .ok (Bytes.ofText "\x7b\"id\":1\x7d") := rfl
  have hr : orders.decode (Bytes.ofText "\x7b\"id\":1\x7d") = .ok (.object [("id", .number 1)]) := rfl
  have hsub : (warehouse 3).settings.subscription? orders.kind.name = some orders := rfl
  have hsmooth : clashing.Smooth (.ok ()) := ⟨fun _ _ _ => rfl, fun _ _ _ => rfl, fun _ _ _ _ => rfl⟩
  -- the header is looked at for each audience by itself
  have hboth : ∀ audience : Audience,
      let r := (seller.publish audience "orders.OrderPlaced" (.object [("id", .number 1)]) ⟨0⟩).run.run clashing
      (∀ out ∈ publications r.steps, out.properties.traceHeaders.get? "x-retry-count" = some "7") →
      r.result = .ok () ∧ ∃ out, publications r.steps = [out] ∧
        out.properties.traceHeaders.get? "x-retry-count" = some "7" ∧
        out.exchange = audience.exchange "orders.OrderPlaced" ∧ out.routingKey = audience.routingKey ∧
        ∀ w, let d := Delivery.ofWire 1 (out.properties.toWire "m") out.payload
          d.properties.retryCount = 0 ∧
            ∃ y, ((d.process (warehouse 3).settings ⟨1⟩ ⟨1⟩).run w).handlerSteps =
              [.asked (.handle orders (.object [("id", .number 1)]) ⟨1⟩) y] := by
    intro audience r hheader
    obtain ⟨-, -, hworks, hgiven⟩ := Publisher.handler_given_published (p := seller)
      ChannelSource.Offered.direct.silent hw hr hsub audience ⟨0⟩ clashing
    obtain ⟨hok, hone⟩ := hworks (.ok ()) hsmooth (fun _ => rfl) fun _ => ⟨⟨0⟩, rfl⟩
    obtain ⟨out, hout⟩ := List.length_eq_one_iff.1 hone
    obtain ⟨hexchange, hkey, hhandled⟩ := hgiven out (hout ▸ List.mem_singleton_self out)
    exact ⟨hok, out, hout, hheader out (hout ▸ List.mem_singleton_self out), hexchange, hkey, hhandled 1 "m" ⟨1⟩ ⟨1⟩⟩
  refine ⟨(warehouse 3).settings, rfl, List.forall_mem_cons.2 ⟨?_, List.forall_mem_singleton.2 ?_⟩⟩
  · exact hboth .subscribers (by decide +kernel)
  · exact hboth (.queue "warehouse") (by decide +kernel)

end MessageBus
