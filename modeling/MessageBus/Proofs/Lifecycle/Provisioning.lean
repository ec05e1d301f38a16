import MessageBus.Proofs.Lifecycle.Calls
import MessageBus.Proofs.Topology.Order
/-!
# What a start provisions

Whatever the replies are, a start makes the calls of `Bus.plan` in order, up to the first that fails, and subscribes to
no queue before the last of them has worked (`Bus.lays_start`). The plan being sound, `Bus.start_provisions` says of
every moment of a start what had been declared by then: the queue and the exchange of each binding, the place where
rejected messages go before a queue that sends them there, and all queues of all consumers before a subscription.
-/

namespace MessageBus

/-- Whether the request declares something on the broker or subscribes to a queue. -/
def Request.lays : Request → Bool
  | .call _ (.declareExchange _) | .call _ (.declareQueue _) | .call _ (.bindQueue _) | .consume _ _ _ => true
  | _ => false

/-- Whether the request subscribes to a queue. -/
def Request.Consumes (r : Request) : Prop := ∃ c queue tag, r = .consume c queue tag

theorem Call.Declares.lays {x : Call} (h : x.Declares) (c : ChannelId) : (Request.call c x).lays = true := by
  cases x <;> first | rfl | exact h.elim

/-- What the broker declared in the step, and over which channel. -/
def Step.declared? (s : Step) : Option (ChannelId × Call) :=
  match s.done? with
  | some ⟨.call c x, .ok ()⟩ => if (Request.call c x).lays then some (c, x) else none
  | _ => none

/-- What the broker declared in some steps, and over which channels. -/
abbrev declared (steps : List Step) : List (ChannelId × Call) := noted Step.declared? steps

/-- The binding that a call makes, and over which channel. -/
def binding? : ChannelId × Call → Option (ChannelId × Binding)
  | (c, .bindQueue x) => some (c, x)
  | _ => none

/-- The bindings that the broker made in some steps, and over which channels. -/
def bound (steps : List Step) : List (ChannelId × Binding) := (declared steps).filterMap binding?

/-- The steps that ask to declare something or subscribe to a queue. -/
def laid (steps : List Step) : List Step := steps.filter (·.request.lays)

section
variable (steps steps' : List Step)

@[simp] theorem laid_append : laid (steps ++ steps') = laid steps ++ laid steps' := List.filter_append _ _

@[simp] theorem laid_nil : laid [] = [] := rfl

theorem laid_cons_of_lays {s : Step} (h : s.request.lays = true) : laid (s :: steps) = s :: laid steps :=
  List.filter_cons_of_pos h

theorem laid_cons_of_quiet {s : Step} (h : s.request.lays = false) : laid (s :: steps) = laid steps :=
  List.filter_cons_of_neg (by simp [h])

end

theorem Step.lays_of_declared? {s : Step} {e : ChannelId × Call} (h : s.declared? = some e) :
    s.request.lays = true := by
  unfold declared? at h
  split at h
  · rename_i c x hdone
    split at h
    · rename_i hlays
      rwa [System.request_of_done? hdone]
    · cases h
  · cases h

/-- The other steps declare nothing. -/
theorem declared_laid (steps : List Step) : declared (laid steps) = declared steps := by
  induction steps with
  | nil => rfl
  | cons s steps ih =>
    cases hs : s.request.lays with
    | true => rw [laid_cons_of_lays _ hs, declared, declared, noted_cons, noted_cons, ← declared, ih]
    | false =>
      have hnone : s.declared? = none := by
        cases h : s.declared? with
        | none => rfl
        | some e => exact absurd (hs.symm.trans (Step.lays_of_declared? h)) Bool.false_ne_true
      rw [laid_cons_of_quiet _ hs, ih, declared, declared, noted_cons, hnone]
      rfl

theorem laid_of_quiet {steps : List Step} (h : ∀ s ∈ steps, s.request.lays = false) : laid steps = [] :=
  List.filter_eq_nil_iff.2 fun s hs => by simp [h s hs]

theorem laid_of_only {α : Type} {p q : Program α} (hp : p.Only fun r => r.lays = false) {steps : List Step}
    (h : p.Reaches steps q) : laid steps = [] :=
  laid_of_quiet (hp.reaches h).1

/-! ## Carrying out a plan -/

/-- The steps that make the calls of a plan, when all of them work. -/
def works (plan : List (ChannelId × Call)) : List Step := plan.map fun e => .asked (.call e.1 e.2) (.ok ())

theorem declared_works {plan : List (ChannelId × Call)} (h : ∀ e ∈ plan, e.2.Declares) :
    declared (works plan) = plan := by
  induction plan with
  | nil => rfl
  | cons e plan ih =>
    obtain ⟨he, hrest⟩ := List.forall_mem_cons.1 h
    have hfirst : Step.declared? (.asked (.call e.1 e.2) (.ok ())) = some e := if_pos (he.lays e.1)
    rw [works, List.map_cons, ← works, declared, noted_cons, ← declared, ih hrest, hfirst]
    rfl

/-- The calls of a plan are made in order, up to the first that fails, and what comes of it; something else may go wrong
before the next call is made. -/
inductive Carries : List (ChannelId × Call) → List Step → Except Fault Unit → Prop
  | all : Carries [] [] (.ok ())
  | worked {e : ChannelId × Call} {plan : List (ChannelId × Call)} {steps : List Step} {r : Except Fault Unit}
      (h : Carries plan steps r) : Carries (e :: plan) (.asked (.call e.1 e.2) (.ok ()) :: steps) r
  | failed (e : ChannelId × Call) (plan : List (ChannelId × Call)) (f : Fault) :
      Carries (e :: plan) [.asked (.call e.1 e.2) (.error f)] (.error f)
  | stopped (plan : List (ChannelId × Call)) (f : Fault) : Carries plan [] (.error f)

namespace Carries

variable {plan plan' : List (ChannelId × Call)} {steps steps' : List Step} {r : Except Fault Unit}

theorem eq_works (h : Carries plan steps (.ok ())) : steps = works plan := by
  generalize hr : (.ok () : Except Fault Unit) = r at h
  induction h with
  | all => rfl
  | worked h ih => rw [ih hr, works, works, List.map_cons]
  | failed | stopped => cases hr

theorem append (h : Carries plan steps (.ok ())) (h' : Carries plan' steps' r) :
    Carries (plan ++ plan') (steps ++ steps') r := by
  generalize hr : (.ok () : Except Fault Unit) = r' at h
  induction h with
  | all => exact h'
  | worked h ih => exact .worked (ih hr)
  | failed | stopped => cases hr

/-- After a fault nothing more of the plan is carried out. -/
theorem extend {f : Fault} (h : Carries plan steps (.error f)) (more : List (ChannelId × Call)) :
    Carries (plan ++ more) steps (.error f) := by
  generalize hr : (.error f : Except Fault Unit) = r at h
  induction h with
  | all => cases hr
  | worked h ih => exact .worked (ih hr)
  | failed e plan f => exact .failed e _ f
  | stopped plan f => exact .stopped _ f

/-- A step of carrying out a plan makes a call of it, when all before it have worked; if it fails it is the last. -/
theorem at_split (h : Carries plan steps r) {front rest : List Step} {s : Step} (hs : steps = front ++ s :: rest) :
    ∃ before e after a, plan = before ++ e :: after ∧ front = works before ∧ s = .asked (.call e.1 e.2) a ∧
      ∀ f, a = .error f → rest = [] ∧ r = .error f := by
  induction h generalizing front with
  | all | stopped => simp at hs
  | @worked e plan steps r h ih =>
    rcases List.cons_eq_append_iff.1 hs with ⟨rfl, hs⟩ | ⟨front', rfl, hs'⟩
    · cases hs
      exact ⟨[], e, plan, .ok (), rfl, rfl, rfl, fun f hf => by cases hf⟩
    · obtain ⟨before, e', after, a, rfl, rfl, rfl, ha⟩ := ih hs'
      exact ⟨e :: before, e', after, a, rfl, rfl, rfl, ha⟩
  | failed e plan f =>
    rcases List.cons_eq_append_iff.1 hs with ⟨rfl, hs⟩ | ⟨front', rfl, hs'⟩
    · cases hs
      exact ⟨[], e, plan, .error f, rfl, rfl, rfl, fun f' hf => ⟨rfl, hf⟩⟩
    · simp at hs'

theorem declared_prefix (h : Carries plan steps r) (hplan : ∀ e ∈ plan, e.2.Declares) : declared steps <+: plan := by
  induction h with
  | all => exact List.nil_prefix
  | @worked e plan steps r h ih =>
    obtain ⟨he, hrest⟩ := List.forall_mem_cons.1 hplan
    have hfirst : Step.declared? (.asked (.call e.1 e.2) (.ok ())) = some e := if_pos (he.lays e.1)
    rw [declared, noted_cons, ← declared, hfirst]
    exact (List.prefix_cons_inj e).2 (ih hrest)
  | failed | stopped => exact List.nil_prefix

end Carries

namespace Topology

variable {c : ChannelId} {steps : List Step} {r : Except Fault Unit}

theorem carries_callAll {xs : List Call} (hx : ∀ x ∈ xs, x.Declares) (h : (callAll c xs).run.Reaches steps (.done r)) :
    Carries (xs.map fun x => (c, x)) steps r := by
  induction xs generalizing steps with
  | nil =>
    obtain ⟨rfl, rfl⟩ := Attempt.reaches_pure h
    exact .all
  | cons x xs ih =>
    obtain ⟨-, hxs⟩ := List.forall_mem_cons.1 hx
    rcases Attempt.reaches_bind h with ⟨f, rfl, hfirst⟩ | ⟨first, u, second, rfl, hfirst, hsecond⟩
    · obtain rfl := Attempt.reaches_call hfirst
      exact .failed (c, x) _ f
    · obtain rfl := Attempt.reaches_call hfirst
      exact .worked (ih hxs hsecond)

/-- Installing a topology is carrying out its calls, and nothing else. -/
theorem carries_install {t : Topology} (h : (t.install c).run.Reaches steps (.done r)) :
    Carries (t.callsOver c) steps r :=
  carries_callAll (fun _ => declares_of_mem_calls) h

theorem filterMap_consumerQueues (s : Settings.Consumer) (c : ChannelId) :
    ((consumerQueues s).callsOver c).filterMap binding? =
      s.subscribedTypes.map fun messageType => (c, .between s.queueName messageType) := by
  rw [callsOver, consumerQueues_eq, calls, List.filterMap_map]
  simp [binding?, Function.comp_def, List.filterMap_map]

theorem declares_callsOver {t : Topology} : ∀ e ∈ t.callsOver c, e.2.Declares := by
  intro e he
  obtain ⟨x, hx, rfl⟩ := List.mem_map.1 he
  exact declares_of_mem_calls hx

end Topology

/-- Nothing but declarations is asked for when a plan is carried out that consists of them. -/
theorem Carries.laid_eq {plan : List (ChannelId × Call)} {steps : List Step} {r : Except Fault Unit}
    (h : Carries plan steps r) (hplan : ∀ e ∈ plan, e.2.Declares) : laid steps = steps := by
  induction h with
  | all | stopped => rfl
  | worked h ih =>
    obtain ⟨he, hrest⟩ := List.forall_mem_cons.1 hplan
    rw [laid_cons_of_lays (s := .asked (.call _ _) _) _ (he.lays _), ih hrest]
  | failed e plan f =>
    exact laid_cons_of_lays (s := .asked (.call _ _) _) [] ((hplan e List.mem_cons_self).lays _)

theorem Intake.Tends.consumes {r : Request} (h : Tends r) (hlays : r.lays = true) : r.Consumes := by
  cases r with
  | consume c queue tag => exact ⟨c, queue, tag, rfl⟩
  | call c x => cases x <;> first | exact h.elim | cases hlays
  | _ => cases hlays

/-! ## The steps of a start -/

namespace Bus

open MessageBus.Topology

variable {b : Bus} {steps : List Step}

theorem declares_plan {c : ChannelId} {made : List (Settings.Consumer × ChannelId)} :
    ∀ e ∈ b.plan c made, e.2.Declares := by
  intro e he
  rcases List.mem_append.1 he with he | he
  · rcases List.mem_append.1 he with he | he <;> exact declares_callsOver e he
  · obtain ⟨s, -, he⟩ := List.mem_flatMap.1 he
    exact declares_callsOver e he

theorem laid_create {source : ChannelSource} (hs : source.Offered) {q : Program (Except Fault ChannelId)}
    (h : source.create.run.Reaches steps q) : laid steps = [] :=
  laid_of_only (hs.only_create.mono fun r hr => by cases r <;> first | rfl | exact hr.elim) h

theorem carries_provision (hs : b.source.Offered) {r : Except Fault Unit}
    (h : b.provision.run.Reaches steps (.done r)) :
    ∃ c, Carries (defaults.callsOver c ++ (messageExchanges b.settings).callsOver c) (laid steps) r := by
  rcases Attempt.reaches_bind h with ⟨f, rfl, hcreate⟩ | ⟨creating, c, rest, rfl, hcreate, h₁⟩
  · exact ⟨default, by rw [laid_create hs hcreate]; exact .stopped _ f⟩
  · obtain ⟨declaring, x, rest, rfl, hdeclare, h₂⟩ := Attempt.reaches_lift_bind h₁
    obtain ⟨closing, y, rest, rfl, hclose, h₃⟩ := Attempt.reaches_lift_bind h₂
    obtain ⟨rfl, hr⟩ := Program.Reaches.of_done h₃
    cases hr
    obtain rfl := Attempt.reaches_call hclose
    have hcarries : Carries (defaults.callsOver c ++ (messageExchanges b.settings).callsOver c) declaring r := by
      rcases Attempt.reaches_bind hdeclare with ⟨f, rfl, hfirst⟩ | ⟨first, u, second, rfl, hfirst, hsecond⟩
      · exact (carries_install hfirst).extend _
      · exact (carries_install hfirst).append (carries_install hsecond)
    have hdeclares : ∀ e ∈ defaults.callsOver c ++ (messageExchanges b.settings).callsOver c, e.2.Declares :=
      fun e he => (List.mem_append.1 he).elim (declares_callsOver e) (declares_callsOver e)
    refine ⟨c, ?_⟩
    rw [laid_append, laid_create hs hcreate, laid_append, hcarries.laid_eq hdeclares, laid_append,
      laid_cons_of_quiet _ rfl, laid_nil, List.nil_append, List.append_nil, List.append_nil]
    exact hcarries

/-- Consumers that a start did not come to; it could have been over any channel. -/
def unmade (cs : List Settings.Consumer) : List (Settings.Consumer × ChannelId) := cs.map fun s => (s, default)

@[simp] theorem map_fst_unmade (cs : List Settings.Consumer) : (unmade cs).map (·.1) = cs := by
  simp [unmade, Function.comp_def]

/-- The queues of the consumers, each over a channel of its own. -/
def queuesOver (made : List (Settings.Consumer × ChannelId)) : List (ChannelId × Call) :=
  made.flatMap fun e => (consumerQueues e.1).callsOver e.2

theorem carries_prepareAll {source : ChannelSource} (hs : source.Offered) {cs : List Settings.Consumer}
    {old out : List Intake} {r : Except Fault Unit} (h : (prepareAll source old cs).Reaches steps (.done (out, r))) :
    ∃ made : List (Settings.Consumer × ChannelId), made.map (·.1) = cs ∧ Carries (queuesOver made) (laid steps) r := by
  induction cs generalizing old steps with
  | nil =>
    obtain ⟨rfl, hr⟩ := Program.Reaches.of_done h
    cases hr
    exact ⟨[], rfl, .all⟩
  | cons s cs ih =>
    obtain ⟨creating, x, rest, rfl, hcreate, h₁⟩ := Program.Reaches.bind_done h
    rw [laid_append, laid_create hs hcreate, List.nil_append]
    cases x with
    | error f =>
      obtain ⟨rfl, hr⟩ := Program.Reaches.of_done h₁
      cases hr
      exact ⟨_, map_fst_unmade (s :: cs), .stopped _ f⟩
    | ok c =>
      obtain ⟨declaring, y, rest, rfl, hdeclare, h₂⟩ := Program.Reaches.bind_done h₁
      have hcarries := carries_install hdeclare
      rw [laid_append, hcarries.laid_eq declares_callsOver]
      cases y with
      | error f =>
        obtain ⟨rfl, hr⟩ := Program.Reaches.of_done h₂
        cases hr
        refine ⟨(s, c) :: unmade cs, congrArg (s :: ·) (map_fst_unmade cs), ?_⟩
        rw [laid_nil, List.append_nil]
        exact hcarries.extend _
      | ok u =>
        obtain ⟨made, hmade, hrest⟩ := ih h₂
        exact ⟨(s, c) :: made, congrArg (s :: ·) hmade, hcarries.append hrest⟩

theorem tends_of_startAll {token : TokenId} {started rest out : List Intake} {r : Except Fault Unit}
    (h : (startAll token started rest).Reaches steps (.done (out, r))) : ∀ s ∈ steps, Intake.Tends s.request := by
  induction rest generalizing started steps with
  | nil =>
    obtain ⟨rfl, -⟩ := Program.Reaches.of_done h
    simp
  | cons i rest ih =>
    obtain ⟨starting, ⟨x, i'⟩, rest', rfl, hstart, h₁⟩ := Program.Reaches.bind_done h
    have hstarting := (Intake.reaches_start hstart).gains.asks
    cases x with
    | error f =>
      obtain ⟨rfl, -⟩ := Program.Reaches.of_done h₁
      simpa using hstarting
    | ok u => exact fun s hs => (List.mem_append.1 hs).elim (hstarting s) (ih h₁ s)

/-- Starting consumers declares nothing, but it subscribes to queues. -/
theorem consumes_of_startAll {token : TokenId} {started rest out : List Intake} {r : Except Fault Unit}
    (h : (startAll token started rest).Reaches steps (.done (out, r))) : ∀ s ∈ laid steps, s.request.Consumes := by
  intro s hs
  obtain ⟨hmem, hlays⟩ := List.mem_filter.1 hs
  exact (tends_of_startAll h s hmem).consumes hlays

theorem winds_of_disposeAll {is : List Intake} {u : Unit} (h : (disposeAll is).Reaches steps (.done u)) :
    ∀ s ∈ steps, Intake.Winds s.request := by
  induction is generalizing steps with
  | nil =>
    obtain ⟨rfl, -⟩ := Program.Reaches.of_done h
    simp
  | cons i is ih =>
    obtain ⟨disposal, i', rest, rfl, hdispose, h₁⟩ := Program.Reaches.bind_done h
    exact fun s hs => (List.mem_append.1 hs).elim ((Intake.reaches_dispose hdispose).1.winds s) (ih h₁ s)

theorem laid_disposeAll {is : List Intake} {u : Unit} (h : (disposeAll is).Reaches steps (.done u)) :
    laid steps = [] := by
  refine laid_of_quiet fun s hs => ?_
  have hwinds := winds_of_disposeAll h s hs
  cases hr : s.request with
  | call c x => cases x <;> first | rfl | (rw [hr] at hwinds; exact hwinds.elim)
  | _ => first | rfl | (rw [hr] at hwinds; exact hwinds.elim)

/-- What a start declares and subscribes to: it carries out the plan, and subscribes to queues only when all of it has
worked. -/
inductive Lays (b : Bus) : List Step → Prop
  | intro (c : ChannelId) {made : List (Settings.Consumer × ChannelId)} (hmade : made.map (·.1) = b.settings.consumers)
      {own consuming : List Step} {r : Except Fault Unit} (h : Carries (b.plan c made) own r)
      (hconsuming : ∀ s ∈ consuming, s.request.Consumes) (hworked : r = .ok () ∨ consuming = []) :
      Lays b (own ++ consuming)

theorem Lays.of_carries {c : ChannelId} {made : List (Settings.Consumer × ChannelId)}
    (hmade : made.map (·.1) = b.settings.consumers) {r : Except Fault Unit} (h : Carries (b.plan c made) steps r) :
    b.Lays steps := by
  rw [← List.append_nil steps]
  exact .intro c hmade h (List.forall_mem_nil _) (.inr rfl)

theorem Lays.nothing (b : Bus) : b.Lays [] :=
  .of_carries (c := default) (map_fst_unmade b.settings.consumers) (.stopped _ .cancelled)

theorem lays_startIdle (hs : b.source.Offered) {r : Except Fault Unit}
    (h : b.startIdle.run.Reaches steps (.done r)) : b.Lays (laid steps) := by
  rcases Attempt.reaches_bind h with ⟨f, rfl, hprovision⟩ | ⟨provision, u, rest, rfl, hprovision, h₁⟩
  · obtain ⟨c, hcarries⟩ := carries_provision hs hprovision
    exact .of_carries (map_fst_unmade b.settings.consumers) (hcarries.extend _)
  · obtain ⟨c, hprovisioned⟩ := carries_provision hs hprovision
    obtain ⟨starting, ⟨out, x⟩, rest, rfl, hstart, h₂⟩ := Attempt.reaches_lift_bind h₁
    -- what comes after the consumers were started, or not, declares nothing
    have hrest : laid rest = [] := by
      cases x with
      | ok u =>
        obtain ⟨_, -, hput⟩ := Attempt.reaches_lift h₂
        obtain rfl := Program.Reaches.of_request (r := .put .stage (.running out)) hput
        rfl
      | error f =>
        obtain ⟨disposal, u, rest, rfl, hdispose, h₃⟩ := Attempt.reaches_lift_bind h₂
        obtain ⟨rfl, -⟩ := Program.Reaches.of_done h₃
        rw [laid_append, laid_disposeAll hdispose, laid_nil, List.append_nil]
    rw [laid_append, laid_append, hrest, List.append_nil]
    obtain ⟨preparing, ⟨new, y⟩, rest', rfl, hprepare, h₃⟩ := Program.Reaches.bind_done hstart
    obtain ⟨made, hmade, hprepared⟩ := carries_prepareAll hs hprepare
    rw [laid_append, ← List.append_assoc]
    have hcarries := hprovisioned.append hprepared
    cases y with
    | error f =>
      obtain ⟨rfl, -⟩ := Program.Reaches.of_done h₃
      rw [laid_nil, List.append_nil]
      exact .of_carries hmade hcarries
    | ok u => exact .intro c hmade hcarries (consumes_of_startAll h₃) (.inl rfl)

theorem lays_start (hs : b.source.Offered) {r : Except Fault Unit} (h : b.start.run.Reaches steps (.done r)) :
    b.Lays (laid steps) := by
  obtain ⟨stage, rest, rfl, h₁⟩ := Program.Reaches.of_ask h
  have h₁ : (do
      let result ← b.startFrom stage
      Program.request (.unlock .stage)
      return result : Program _).Reaches rest (.done r) := by
    cases stage <;> exact h₁
  obtain ⟨body, x, rest, rfl, hbody, h₂⟩ := h₁.bind_done
  obtain ⟨_, rest, rfl, h₃⟩ := Program.Reaches.of_request_bind h₂
  obtain ⟨rfl, -⟩ := h₃.of_done
  have hlaid : laid (.asked (.lock .stage) stage :: (body ++ [.asked (.unlock .stage) ()])) = laid body := by
    rw [laid_cons_of_quiet _ rfl, laid_append, laid_cons_of_quiet _ rfl, laid_nil, List.append_nil]
  rw [hlaid]
  cases stage with
  | idle => exact lays_startIdle hs hbody
  | running | stopped =>
    obtain ⟨rfl, -⟩ := Program.Reaches.of_done hbody
    exact .nothing b

/-! ## What had been declared by then -/

/-- All bindings of the plan, in order: that of the dead letters, and of the main queue of each consumer to each type
that it subscribed to. -/
def bindingsOver (c : ChannelId) (made : List (Settings.Consumer × ChannelId)) : List (ChannelId × Binding) :=
  (c, .between deadLetterQueue deadLetterExchange) ::
    made.flatMap fun e => e.1.subscribedTypes.map fun messageType => (e.2, .between e.1.queueName messageType)

theorem filterMap_plan (c : ChannelId) (made : List (Settings.Consumer × ChannelId)) :
    (b.plan c made).filterMap binding? = bindingsOver c made := by
  have hdefaults : (defaults.callsOver c).filterMap binding? = [(c, .between deadLetterQueue deadLetterExchange)] := rfl
  have htypes : ((messageExchanges b.settings).callsOver c).filterMap binding? = [] := by
    rw [callsOver, messageExchanges_eq, Topology.calls, List.filterMap_map]
    simp [binding?]
  rw [plan, List.filterMap_append, List.filterMap_append, hdefaults, htypes, List.filterMap_flatMap, bindingsOver]
  simp only [filterMap_consumerQueues, List.append_nil, List.singleton_append]

/-- What holds at every moment of a start, whose steps so far are given. -/
structure Provisions (b : Bus) (steps : List Step) : Prop where
  /-- What was declared is the beginning of the plan, and what was bound the beginning of its bindings. -/
  plan : ∃ c made, made.map (·.1) = b.settings.consumers ∧ declared steps <+: b.plan c made ∧
    bound steps <+: bindingsOver c made
  /-- The queue of a binding was declared over the same channel, and its exchange over any. -/
  bindings : ∀ front s rest c x, steps = front ++ s :: rest → s.request = .call c (.bindQueue x) →
    (∃ q, q.name = x.queue ∧ (c, .declareQueue q) ∈ declared front) ∧
      ∃ c' e, e.name = x.exchange ∧ (c', .declareExchange e) ∈ declared front
  /-- Apart from that of dead letters, a queue is the main queue or the retry queue of a consumer. It sends rejected
  messages to the dead letters, whose exchange and queue were declared, and bound to each other. -/
  queues : ∀ front s rest c q, steps = front ++ s :: rest → s.request = .call c (.declareQueue q) →
    q = deadLetters ∨
      (∃ s ∈ b.settings.consumers, q = consumerQueue s.queueName s ∨ q = consumerQueue s.retryQueueName s) ∧
        q.deadLetterExchange = some deadLetterExchange ∧ ∃ c, ∀ x ∈ deadLetterCalls, (c, x) ∈ declared front
  /-- Before a subscription the whole plan was carried out, with the queues of all consumers. -/
  subscriptions : ∀ front s rest, steps = front ++ s :: rest → s.request.Consumes →
    ∃ c made, made.map (·.1) = b.settings.consumers ∧ declared front = b.plan c made ∧ bound front = bindingsOver c made
  /-- After a declaration that failed nothing is declared or subscribed to. -/
  faults : ∀ front c x f rest, steps = front ++ .asked (.call c x) (.error f) :: rest → x.Declares → laid rest = []

/-- What holds at the end of a start holds of every moment before. -/
theorem Provisions.of_append {more : List Step} (h : b.Provisions (steps ++ more)) : b.Provisions steps where
  plan := by
    obtain ⟨c, made, hmade, hprefix, hbound⟩ := h.plan
    rw [bound, declared, noted_append, List.filterMap_append] at hbound
    rw [declared, noted_append] at hprefix
    exact ⟨c, made, hmade, (List.prefix_append _ _).trans hprefix, (List.prefix_append _ _).trans hbound⟩
  bindings front s rest c x hsteps := h.bindings front s (rest ++ more) c x (by simp [hsteps])
  queues front s rest c q hsteps := h.queues front s (rest ++ more) c q (by simp [hsteps])
  subscriptions front s rest hsteps := h.subscriptions front s (rest ++ more) (by simp [hsteps])
  faults front c x f rest hsteps hx := by
    have hnone := h.faults front c x f (rest ++ more) (by simp [hsteps]) hx
    rw [laid_append] at hnone
    exact (List.append_eq_nil_iff.1 hnone).1

/-- A step that declares something or subscribes to a queue, in view of what was declared before it. -/
inductive LaysStep (b : Bus) (past : List (ChannelId × Call)) : Step → List Step → Prop
  | declares {c : ChannelId} {x : Call} {a : Except Fault Unit} {rest : List Step} (h : b.settings.Needs past (c, x))
      (hfault : ∀ f, a = .error f → rest = []) : LaysStep b past (.asked (.call c x) a) rest
  | consumes {s : Step} {rest : List Step} (h : s.request.Consumes) (c : ChannelId)
      {made : List (Settings.Consumer × ChannelId)} (hmade : made.map (·.1) = b.settings.consumers)
      (hpast : past = b.plan c made) : LaysStep b past s rest

theorem declared_of_consumes (h : ∀ s ∈ steps, s.request.Consumes) : declared steps = [] := by
  refine List.filterMap_eq_nil_iff.2 fun s hs => ?_
  obtain ⟨c, queue, tag, hr⟩ := h s hs
  cases s with
  | asked r x => cases hr; rfl
  | raced t r x => cases hr; cases x <;> rfl

/-- Each step of a start that declares something or subscribes to a queue. -/
theorem Lays.at_split {front rest : List Step} {s : Step} (h : b.Lays (front ++ s :: rest)) :
    b.LaysStep (declared front) s rest := by
  generalize hall : front ++ s :: rest = all at h
  cases h with
  | @intro c made hmade own consuming r h hconsuming hworked =>
    have hlate : ∀ first, front = own ++ first → consuming = first ++ s :: rest →
        b.LaysStep (declared front) s rest := by
      rintro first rfl rfl
      obtain rfl := hworked.resolve_right (by simp)
      have hfirst : declared first = [] := declared_of_consumes fun s hs => hconsuming s (List.mem_append_left _ hs)
      refine .consumes (hconsuming s (by simp)) c hmade ?_
      rw [h.eq_works, declared, noted_append, ← declared, ← declared, declared_works declares_plan, hfirst,
        List.append_nil]
    rcases List.append_eq_append_iff.1 hall with ⟨last, rfl, hlast⟩ | ⟨first, hfront, hfirst⟩
    · cases last with
      | nil => exact hlate [] (by simp) hlast.symm
      | cons s' last =>
        obtain ⟨rfl, rfl⟩ := List.cons.inj hlast
        obtain ⟨before, ⟨c', x⟩, later, a, hplan, rfl, rfl, hfault⟩ := h.at_split rfl
        have hdeclares : ∀ e ∈ b.plan c made, e.2.Declares := declares_plan
        have hneeds : Justified b.settings.Needs [] (b.plan c made) :=
          b.justified_plan c fun e he => hmade ▸ List.mem_map_of_mem he
        rw [hplan] at hdeclares hneeds
        rw [declared_works fun e he => hdeclares e (List.mem_append_left _ he)]
        refine .declares hneeds.at_split fun f hf => ?_
        obtain ⟨rfl, rfl⟩ := hfault f hf
        exact hworked.resolve_left nofun
    · exact hlate first hfront hfirst

theorem Lays.declared_prefix (h : b.Lays steps) :
    ∃ c made, made.map (·.1) = b.settings.consumers ∧ declared steps <+: b.plan c made := by
  cases h with
  | @intro c made hmade own consuming r h hconsuming hworked =>
    refine ⟨c, made, hmade, ?_⟩
    rw [declared, noted_append, ← declared, ← declared, declared_of_consumes hconsuming, List.append_nil]
    exact h.declared_prefix declares_plan

theorem provisions_of_lays (h : b.Lays (laid steps)) : b.Provisions steps := by
  have hstep : ∀ front s rest, steps = front ++ s :: rest → s.request.lays = true →
      b.LaysStep (declared front) s (laid rest) := by
    rintro front s rest rfl hlays
    rw [laid_append, laid_cons_of_lays _ hlays] at h
    have hlaid := h.at_split
    rwa [declared_laid] at hlaid
  refine ⟨?_, fun front s rest c x hsteps hr => ?_, fun front s rest c q hsteps hr => ?_,
    fun front s rest hsteps hr => ?_, fun front c x f rest hsteps hx => ?_⟩
  · obtain ⟨c, made, hmade, hprefix⟩ := h.declared_prefix
    rw [declared_laid] at hprefix
    exact ⟨c, made, hmade, hprefix, filterMap_plan (b := b) c made ▸ hprefix.filterMap binding?⟩
  · cases hstep front s rest hsteps (by rw [hr]; rfl) with
    | declares h =>
      cases hr
      exact h
    | consumes h =>
      obtain ⟨_, _, _, h⟩ := h
      cases hr.symm.trans h
  · cases hstep front s rest hsteps (by rw [hr]; rfl) with
    | declares h =>
      cases hr
      exact h
    | consumes h =>
      obtain ⟨_, _, _, h⟩ := h
      cases hr.symm.trans h
  · obtain ⟨c, queue, tag, hr⟩ := hr
    cases hstep front s rest hsteps (by rw [hr]; rfl) with
    | declares => cases hr
    | consumes h c hmade hpast => exact ⟨c, _, hmade, hpast, by rw [bound, hpast, filterMap_plan]⟩
  · cases hstep front _ rest hsteps (hx.lays c) with
    | declares h hfault => exact hfault f rfl
    | consumes h =>
      obtain ⟨_, _, _, h⟩ := h
      cases h

/-- At every moment of a start, whatever was replied so far, whatever a call refers to had been declared by then
(`Provisions`). An install that works has bound the main queue of its consumer to the types that this subscribed to,
once each, and to nothing else; and an install ends with a call that fails. -/
theorem start_provisions (hs : b.source.Offered) :
    (∀ steps q, b.start.run.Reaches steps q → b.Provisions steps) ∧
    (∀ s ∈ b.settings.consumers, s.subscribedTypes.Nodup ∧
      ∀ c own, ((consumerQueues s).install c).run.Reaches own (.done (.ok ())) →
        bound own = s.subscribedTypes.map fun messageType => (c, .between s.queueName messageType)) ∧
    ∀ (t : Topology) c own q, (t.install c).run.Reaches own q →
      ∀ front x f rest, own = front ++ .asked (.call c x) (.error f) :: rest → rest = [] := by
  refine ⟨fun steps q h => ?_, fun s hs => ⟨SortedMap.nodup_keys _, fun c own h => ?_⟩,
    fun t c own q h front x f rest hown => ?_⟩
  · obtain ⟨more, r, hmore⟩ := q.exists_reaches_done
    exact (provisions_of_lays (lays_start hs (h.trans hmore))).of_append
  · rw [(carries_install h).eq_works, bound, declared_works declares_callsOver, filterMap_consumerQueues]
  · obtain ⟨more, r, hmore⟩ := q.exists_reaches_done
    have hcarries := carries_install (h.trans hmore)
    rw [hown, List.append_assoc, List.cons_append] at hcarries
    obtain ⟨before, e, after, a, -, -, hs, hfault⟩ := hcarries.at_split rfl
    cases hs
    exact (List.append_eq_nil_iff.1 (hfault f rfl).1).1

end Bus

namespace Sample

/-- A bus with two clerks that take the same orders. -/
def branch : Bus :=
  ⟨⟨"amqp://localhost", none, .start, [(clerk "billing").settings, (clerk "shipping").settings]⟩, .pooled 1, ⟨0⟩⟩

/-- Surroundings in which the broker does not bind the queue of the second clerk. -/
def unbound : Surroundings :=
  .plain (fun x =>
    if x = .bindQueue (.between "shipping" "orders.OrderPlaced") then .error (.channel "gone") else .ok ()) (.ok ())

end Sample

open Sample in
/-- A start that could not bind the last queue: the exchange of both clerks and all four queues had been declared, one
queue was bound, and nothing was subscribed to. -/
theorem Bus.refused_binding_provisions :
    ∃ steps, branch.start.run.Reaches steps (.done (.error (.channel "gone"))) ∧ branch.Provisions steps ∧
      bound steps =
        [(⟨0⟩, .between deadLetterQueue deadLetterExchange), (⟨0⟩, .between "billing" "orders.OrderPlaced")] ∧
      (laid steps).length = 11 ∧ subscribed steps = [] := by
  have hreach := Program.reaches_runAfter unbound [] branch.start.run
  refine ⟨(branch.start.run.runAfter unbound []).steps, hreach, (start_provisions (.pooled 1)).1 _ _ hreach, ?_, ?_, ?_⟩
  · rfl
  · rfl
  · rfl

end MessageBus
