import MessageBus.Lifecycle
import MessageBus.Proofs.Intake.Tending
import MessageBus.Proofs.Program.Turns
/-!
# The ledger of a bus

A `Ledger` enters what steps open and close, subscribe to and cancel, spawn and wait for. Each part of starting and
stopping a bus has its entry, for whatever the replies are: a start that fails has closed, cancelled and waited for all
that it began (`Bus.ledger_of_failed`), one that works leaves behind what its consumers hold (`Bus.ledger_of_started`),
and a stop ends what these hold (`Bus.ledger_of_stopped`).
-/

namespace MessageBus

/-- Whether the request is not one of those that starts and stops are made of: it locks or unlocks the stage, or spawns
a task that does not take deliveries in. -/
def Request.strays : Request → Bool
  | .lock .stage | .unlock .stage => true
  | .spawn (.takeIn _ _ _ _ _) => false
  | .spawn _ => true
  | _ => false

namespace Step

/-- What the step asked for, if that strays. -/
def stray? (s : Step) : Option Request := if s.request.strays then some s.request else none

/-- The token that the step brought. -/
def token? (s : Step) : Option TokenId :=
  match s.done? with
  | some ⟨.childToken _, t⟩ => some t
  | _ => none

/-- The token that the step cancelled. -/
def cancelled? (s : Step) : Option TokenId :=
  match s.done? with
  | some ⟨.cancel t, _⟩ => some t
  | _ => none

/-- The fault with which the step failed. Nothing follows from how a cancelling or a closing ends. -/
def fault? : Step → Option Fault
  | asked (.call _ (.cancel _)) _ | asked (.call _ .close) _ => none
  | asked (.call _ _) (.error f) | asked (.consume _ _ _) (.error f) | asked .createChannel (.error f)
  | asked .connect (.error f) | asked (.openChannel _) (.error f) => some f
  | asked (.lock .pool) p => if p.disposed then some Pool.disposedFault else none
  | _ => none

end Step

/-- The token that was cancelled, or made. -/
def Happening.raised? : Happening → Option TokenId
  | .took _ s => s.cancelled? <|> s.token?
  | .cancelled t => some t
  | .broke _ => none

/-- A token is cancelled only if it was cancelled itself, or made under another. -/
theorem Cancelled.mem_raised {past : List Happening} {t : TokenId} (h : Cancelled past t) :
    t ∈ past.filterMap Happening.raised? := by
  cases h with
  | outside h => exact List.mem_filterMap.2 ⟨_, h, rfl⟩
  | requested h hd => exact List.mem_filterMap.2 ⟨_, h, by simp [Happening.raised?, Step.cancelled?, hd]⟩
  | child h hd => exact List.mem_filterMap.2 ⟨_, h, by simp [Happening.raised?, Step.cancelled?, Step.token?, hd]⟩

/-- Whoever asks for a token that nobody has cancelled or made finds it uncancelled. -/
theorem uncancelled_of_not_mem_raised {past : List Happening} {t : TokenId}
    (h : t ∉ past.filterMap Happening.raised?) : false = true ↔ Cancelled past t := by
  constructor
  · intro hfound
    cases hfound
  · intro hcancelled
    exact absurd hcancelled.mem_raised h

/-- The faults with which some steps failed. -/
abbrev faults (steps : List Step) : List Fault := noted Step.fault? steps

/-- The fault in a result. -/
def faultOf {α : Type} : Except Fault α → Option Fault
  | .ok _ => none
  | .error f => some f

/-- What some steps have begun and ended, and how they failed. -/
structure Ledger where
  opened : List ChannelId := []
  closed : List ChannelId := []
  subscribed : List (ChannelId × String) := []
  unsubscribed : List (ChannelId × String) := []
  tokens : List TokenId := []
  cancelled : List TokenId := []
  spawned : List TaskId := []
  awaited : List TaskId := []
  faults : List Fault := []
  /-- What was put into the cell of the stage. -/
  stages : List Stage := []
  strays : List Request := []

namespace Ledger

instance : Append Ledger where
  append l l' :=
    { opened := l.opened ++ l'.opened, closed := l.closed ++ l'.closed
      subscribed := l.subscribed ++ l'.subscribed, unsubscribed := l.unsubscribed ++ l'.unsubscribed
      tokens := l.tokens ++ l'.tokens, cancelled := l.cancelled ++ l'.cancelled
      spawned := l.spawned ++ l'.spawned, awaited := l.awaited ++ l'.awaited
      faults := l.faults ++ l'.faults, stages := l.stages ++ l'.stages, strays := l.strays ++ l'.strays }

theorem append_def (l l' : Ledger) : l ++ l' =
    { opened := l.opened ++ l'.opened, closed := l.closed ++ l'.closed
      subscribed := l.subscribed ++ l'.subscribed, unsubscribed := l.unsubscribed ++ l'.unsubscribed
      tokens := l.tokens ++ l'.tokens, cancelled := l.cancelled ++ l'.cancelled
      spawned := l.spawned ++ l'.spawned, awaited := l.awaited ++ l'.awaited
      faults := l.faults ++ l'.faults, stages := l.stages ++ l'.stages, strays := l.strays ++ l'.strays } := rfl

/-- All that was begun has been ended, in the order in which it was begun; and nothing was subscribed to over a channel
that was not opened, nor twice. -/
structure Even (l : Ledger) : Prop where
  opened : l.opened = l.closed
  subscribed : l.subscribed = l.unsubscribed
  tokens : l.tokens = l.cancelled
  spawned : l.spawned = l.awaited
  channels : ∀ e ∈ l.subscribed, e.1 ∈ l.opened
  nodup : l.opened.Nodup → l.subscribed.Nodup

theorem Even.append {l l' : Ledger} (h : l.Even) (h' : l'.Even) : (l ++ l').Even where
  opened := congrArg₂ (· ++ ·) h.opened h'.opened
  subscribed := congrArg₂ (· ++ ·) h.subscribed h'.subscribed
  tokens := congrArg₂ (· ++ ·) h.tokens h'.tokens
  spawned := congrArg₂ (· ++ ·) h.spawned h'.spawned
  channels e he := (List.mem_append.1 he).elim (fun he => List.mem_append_left _ (h.channels e he))
    fun he => List.mem_append_right _ (h'.channels e he)
  nodup hnodup := by
    obtain ⟨hn, hn', hdisjoint⟩ := List.nodup_append.1 hnodup
    refine List.nodup_append.2 ⟨h.nodup hn, h'.nodup hn', fun e he e' he' heq => ?_⟩
    exact hdisjoint _ (h.channels e he) _ (h'.channels e' he') (congrArg Prod.fst heq)

end Ledger

/-- The ledger of some steps. -/
def ledger (steps : List Step) : Ledger where
  opened := opened steps
  closed := closed steps
  subscribed := subscribed steps
  unsubscribed := unsubscribed steps
  tokens := noted Step.token? steps
  cancelled := noted Step.cancelled? steps
  spawned := (spawned steps).map (·.2)
  awaited := awaited steps
  faults := faults steps
  stages := noted (Step.put? .stage) steps
  strays := noted Step.stray? steps

section
variable (s : Step) (steps steps' : List Step)

theorem ledger_append : ledger (steps ++ steps') = ledger steps ++ ledger steps' := by
  simp only [ledger, noted_append, awaited_append, List.map_append]
  rfl

theorem ledger_cons : ledger (s :: steps) = ledger [s] ++ ledger steps := ledger_append [s] steps

/-- A step that begins and ends nothing. -/
theorem ledger_cons_of_empty {s : Step} {steps : List Step} (h : ledger [s] = {}) :
    ledger (s :: steps) = ledger steps := by
  rw [ledger_cons, h]
  rfl

end

/-! ## Channels -/

/-- A source that a bus can have. -/
inductive ChannelSource.Offered : ChannelSource → Prop
  | direct : Offered direct
  | pooled (size : Nat) : Offered (pooled size)

/-- What a source of channels asks for when it makes one. -/
def ChannelSource.Seeks : Request → Prop
  | .createChannel | .connect | .isConnected _ | .disconnect _ | .openChannel _ => True
  | .lock .pool | .unlock .pool | .put .pool _ => True
  | _ => False

namespace Pool

/-- Nothing can be had of a pool that was given up. -/
theorem ledger_lock (p : Pool) :
    ledger [.asked (.lock .pool) p] = { faults := if p.disposed then [disposedFault] else [] } := by
  obtain ⟨connections, disposed⟩ := p
  cases disposed <;> rfl

theorem run_openInto (ks : List ConnectionId) :
    (openInto ks).run = .ask .connect fun
      | .error f => .ask (.unlock .pool) fun _ => .done (.error f)
      | .ok k => .ask (.put .pool ⟨ks ++ [k], false⟩) fun _ => .ask (.unlock .pool) fun _ => .done (.ok k) := by
  refine congrArg (Program.ask _) (funext fun x => ?_)
  cases x <;> rfl

theorem ledger_of_openInto {ks : List ConnectionId} {steps : List Step} {r : Except Fault ConnectionId}
    (h : (openInto ks).run.Reaches steps (.done r)) : ledger steps = { faults := (faultOf r).toList } := by
  rw [run_openInto] at h
  obtain ⟨x, rest, rfl, h₁⟩ := h.of_ask
  cases x with
  | error f =>
    obtain ⟨_, rest, rfl, h₂⟩ := h₁.of_ask
    obtain ⟨rfl, hr⟩ := h₂.of_done
    cases hr
    rfl
  | ok k =>
    obtain ⟨_, rest, rfl, h₂⟩ := h₁.of_ask
    obtain ⟨_, rest, rfl, h₃⟩ := h₂.of_ask
    obtain ⟨rfl, hr⟩ := h₃.of_done
    cases hr
    rfl

theorem run_acquire (size : Nat) :
    (acquire size).run = .ask (.lock .pool) fun p =>
      if p.disposed then .ask (.unlock .pool) fun _ => .done (.error disposedFault)
      else match p.connections with
        | [] => (openInto []).run
        | oldest :: rest =>
          if p.connections.length < capacity size then (openInto p.connections).run
          else .ask (.isConnected oldest) fun b =>
            if b then .ask (.put .pool ⟨rest ++ [oldest], false⟩) fun _ => .ask (.unlock .pool) fun _ => .done (.ok oldest)
            else .ask (.put .pool ⟨rest, false⟩) fun _ => .ask (.disconnect oldest) fun _ => (openInto rest).run := by
  refine congrArg (Program.ask _) (funext fun p => ?_)
  obtain ⟨connections, disposed⟩ := p
  cases disposed with
  | true => rfl
  | false =>
    cases connections with
    | nil => rfl
    | cons oldest rest =>
      change ExceptT.run (if (oldest :: rest).length < capacity size then openInto (oldest :: rest) else _) =
        if (oldest :: rest).length < capacity size then (openInto (oldest :: rest)).run else _
      split
      · rfl
      · refine congrArg (Program.ask _) (funext fun b => ?_)
        cases b <;> rfl

theorem only_openInto (ks : List ConnectionId) : (openInto ks).run.Only ChannelSource.Seeks := by
  rw [run_openInto]
  refine ⟨trivial, fun x => ?_⟩
  cases x with
  | error f => exact ⟨trivial, fun _ => trivial⟩
  | ok k => exact ⟨trivial, fun _ => ⟨trivial, fun _ => trivial⟩⟩

theorem only_acquire (size : Nat) : (acquire size).run.Only ChannelSource.Seeks := by
  rw [run_acquire]
  refine ⟨trivial, fun p => ?_⟩
  beta_reduce
  split
  · exact ⟨trivial, fun _ => trivial⟩
  split
  · exact only_openInto []
  split
  · exact only_openInto _
  · refine ⟨trivial, fun b => ?_⟩
    cases b with
    | true => exact ⟨trivial, fun _ => ⟨trivial, fun _ => trivial⟩⟩
    | false => exact ⟨trivial, fun _ => ⟨trivial, fun _ => only_openInto _⟩⟩

theorem ledger_of_acquire {size : Nat} {steps : List Step} {r : Except Fault ConnectionId}
    (h : (acquire size).run.Reaches steps (.done r)) : ledger steps = { faults := (faultOf r).toList } := by
  rw [run_acquire] at h
  obtain ⟨p, rest, rfl, h₁⟩ := h.of_ask
  cases hd : p.disposed with
  | true =>
    simp only [hd, if_true] at h₁
    obtain ⟨_, rest, rfl, h₂⟩ := h₁.of_ask
    obtain ⟨rfl, hr⟩ := h₂.of_done
    cases hr
    rw [ledger_cons, ledger_lock, hd]
    rfl
  | false =>
    simp only [hd, Bool.false_eq_true, if_false] at h₁
    have hlock : ledger [.asked (.lock .pool) p] = {} := by
      rw [ledger_lock, hd]
      rfl
    rw [ledger_cons_of_empty hlock]
    split at h₁
    · exact ledger_of_openInto h₁
    split at h₁
    · exact ledger_of_openInto h₁
    obtain ⟨b, rest, rfl, h₂⟩ := h₁.of_ask
    cases b with
    | true =>
      obtain ⟨_, rest, rfl, h₃⟩ := h₂.of_ask
      obtain ⟨_, rest, rfl, h₄⟩ := h₃.of_ask
      obtain ⟨rfl, hr⟩ := h₄.of_done
      cases hr
      rfl
    | false =>
      obtain ⟨_, rest, rfl, h₃⟩ := h₂.of_ask
      obtain ⟨_, rest, rfl, h₄⟩ := h₃.of_ask
      rw [ledger_cons_of_empty rfl, ledger_cons_of_empty rfl, ledger_cons_of_empty rfl]
      exact ledger_of_openInto h₄

theorem ledger_of_closeAll {ks : List ConnectionId} {steps : List Step} {u : Unit}
    (h : (closeAll ks).Reaches steps (.done u)) : ledger steps = {} := by
  induction ks generalizing steps with
  | nil =>
    obtain ⟨rfl, -⟩ := Program.Reaches.of_done h
    rfl
  | cons k ks ih =>
    obtain ⟨_, rest, rfl, h₁⟩ := Program.Reaches.of_request_bind h
    obtain ⟨_, rest, rfl, h₂⟩ := Program.Reaches.of_request_bind h₁
    rw [ledger_cons_of_empty rfl, ledger_cons_of_empty rfl, ih h₂]

theorem ledger_of_dispose {steps : List Step} {u : Unit} (h : dispose.Reaches steps (.done u)) :
    ∃ fs, ledger steps = { faults := fs } := by
  obtain ⟨p, rest, rfl, h₁⟩ := Program.Reaches.of_request_bind h
  obtain ⟨_, rest, rfl, h₂⟩ := Program.Reaches.of_request_bind h₁
  obtain ⟨closing, _, rest, rfl, hclosing, h₃⟩ := Program.Reaches.bind_done h₂
  obtain rfl := Program.Reaches.of_request (r := .unlock .pool) h₃
  refine ⟨if p.disposed then [disposedFault] else [], ?_⟩
  rw [ledger_cons, ledger_lock, ledger_cons_of_empty rfl, ledger_append, ledger_of_closeAll hclosing]
  cases p.disposed <;> rfl

end Pool

theorem ChannelSource.Offered.only_create {source : ChannelSource} (h : source.Offered) :
    source.create.run.Only ChannelSource.Seeks := by
  cases h with
  | direct => exact Program.only_request (r := .createChannel) trivial
  | pooled size =>
    exact Attempt.only_bind (Pool.only_acquire size) fun k => Program.only_request (r := .openChannel k) trivial

/-- A new channel, or the fault with which there was none. -/
theorem ledger_of_create {source : ChannelSource} (hs : source.Offered) {steps : List Step} {r : Except Fault ChannelId}
    (h : source.create.run.Reaches steps (.done r)) :
    ledger steps = { opened := r.toOption.toList, faults := (faultOf r).toList } := by
  cases hs with
  | direct =>
    obtain rfl := Program.Reaches.of_request (r := .createChannel) h
    cases r <;> rfl
  | pooled size =>
    rcases Attempt.reaches_bind h with ⟨f, rfl, hfirst⟩ | ⟨first, k, second, rfl, hfirst, hsecond⟩
    · exact Pool.ledger_of_acquire hfirst
    · obtain rfl := Program.Reaches.of_request (r := .openChannel k) hsecond
      rw [ledger_append, Pool.ledger_of_acquire hfirst]
      cases r <;> rfl

theorem ledger_of_release {source : ChannelSource} (hs : source.Offered) {steps : List Step} {u : Unit}
    (h : source.release.Reaches steps (.done u)) : ∃ fs, ledger steps = { faults := fs } := by
  cases hs with
  | direct =>
    obtain rfl := Program.Reaches.of_request (r := .shutdown) h
    exact ⟨[], rfl⟩
  | pooled size => exact Pool.ledger_of_dispose h

theorem ledger_of_outlet {steps : List Step} {u : Unit} (h : Publisher.close.Reaches steps (.done u)) :
    ∃ cs, ledger steps = { closed := cs } := by
  obtain ⟨o, rest, rfl, h₁⟩ := Program.Reaches.of_ask h
  cases o with
  | none =>
    obtain rfl := Program.Reaches.of_request (r := .unlock .outlet) h₁
    exact ⟨[], rfl⟩
  | some c =>
    obtain ⟨_, rest, rfl, h₂⟩ := Program.Reaches.of_ask h₁
    obtain ⟨x, rest, rfl, h₃⟩ := Program.Reaches.of_ask h₂
    obtain rfl := Program.Reaches.of_request (r := .unlock .outlet) h₃
    exact ⟨[c], rfl⟩

/-! ## Topologies -/

/-- Whether the call is one that declares something. -/
def Call.Declares : Call → Prop
  | declareExchange _ | declareQueue _ | bindQueue _ => True
  | _ => False

theorem Topology.declares_of_mem_calls {t : Topology} {x : Call} (h : x ∈ t.calls) : x.Declares := by
  simp only [calls, List.mem_append, List.mem_map] at h
  rcases h with (⟨e, -, rfl⟩ | ⟨q, -, rfl⟩) | ⟨b, -, rfl⟩ <;> trivial

theorem Topology.ledger_of_callAll {c : ChannelId} {xs : List Call} (hx : ∀ x ∈ xs, x.Declares) {steps : List Step}
    {r : Except Fault Unit} (h : (callAll c xs).run.Reaches steps (.done r)) :
    ledger steps = { faults := (faultOf r).toList } := by
  induction xs generalizing steps with
  | nil =>
    obtain ⟨rfl, rfl⟩ := Attempt.reaches_pure h
    rfl
  | cons x xs ih =>
    obtain ⟨hx₁, hxs⟩ := List.forall_mem_cons.1 hx
    have hcall : ∀ y, ledger [.asked (.call c x) y] = { faults := (faultOf y).toList } := by
      intro y
      cases x <;> first | exact hx₁.elim | (cases y <;> rfl)
    rcases Attempt.reaches_bind h with ⟨f, rfl, hfirst⟩ | ⟨first, u, second, rfl, hfirst, hsecond⟩
    · obtain rfl := Attempt.reaches_call hfirst
      exact hcall _
    · obtain rfl := Attempt.reaches_call hfirst
      rw [ledger_append, hcall, ih hxs hsecond]
      rfl

theorem Topology.ledger_of_install {t : Topology} {c : ChannelId} {steps : List Step} {r : Except Fault Unit}
    (h : (t.install c).run.Reaches steps (.done r)) : ledger steps = { faults := (faultOf r).toList } :=
  ledger_of_callAll (fun _ => declares_of_mem_calls) h

/-! ## Consumers -/

namespace Intake

/-- The subscriptions that a consumer has. -/
def given (i : Intake) : List (ChannelId × String) := i.subscriptions.map fun e => (i.channel, e.1)

/-- The tasks that a consumer has. -/
def tasks (i : Intake) : List TaskId := i.subscriptions.map (·.2)

/-- The token that a consumer has. -/
def tokens (i : Intake) : List TokenId := i.token.toList

/-- The consumer has not been started. -/
def Fresh (i : Intake) : Prop := i.token = none ∧ i.subscriptions = []

/-- Consumers with channels of their own have subscriptions of their own. -/
theorem nodup_given {is : List Intake} (htags : ∀ i ∈ is, (i.subscriptions.map (·.1)).Nodup)
    (hchannels : (is.map (·.channel)).Nodup) : (is.flatMap given).Nodup := by
  refine List.nodup_flatMap.2 ⟨fun i hi => ?_, (List.pairwise_map.1 hchannels).imp fun hne e he he' => ?_⟩
  · have hgiven : i.given = (i.subscriptions.map (·.1)).map fun tag => (i.channel, tag) := by simp [given]
    rw [hgiven]
    exact (htags i hi).map fun _ _ heq => (Prod.mk.inj heq).2
  · obtain ⟨x, -, rfl⟩ := List.mem_map.1 he
    obtain ⟨y, -, heq⟩ := List.mem_map.1 he'
    exact hne (Prod.mk.inj heq).1.symm

theorem ledger_of_starts {parent : TokenId} {i i' : Intake} (hi : i.Fresh) {steps : List Step} {r : Except Fault Unit}
    (h : Starts parent i steps r i') :
    ledger steps = { subscribed := i'.given, tokens := i'.tokens, spawned := i'.tasks
                     faults := (faultOf r).toList } := by
  obtain ⟨settings, channel, token, subscriptions⟩ := i
  obtain ⟨rfl, rfl⟩ : token = none ∧ subscriptions = [] := hi
  cases h with
  | first h => cases h <;> rfl
  | both h h' =>
    cases h with
    | subscribed => cases h' <;> rfl

theorem ledger_of_cancels {c : ChannelId} {steps : List Step}
    (h : ∀ s ∈ steps, ∃ tag x, s = .asked (.call c (.cancel tag)) x) :
    ledger steps = { unsubscribed := unsubscribed steps } := by
  induction steps with
  | nil => rfl
  | cons s steps ih =>
    obtain ⟨⟨tag, x, rfl⟩, hrest⟩ := List.forall_mem_cons.1 h
    rw [ledger_cons, ih hrest]
    rfl

theorem ledger_of_disposes {i : Intake} {steps : List Step} (h : Disposes i steps) :
    ledger steps = { closed := [i.channel], unsubscribed := i.given, cancelled := i.tokens
                     awaited := i.tasks } := by
  cases h with
  | @intro cancels raised a hcancels hall hraised =>
    have hraised : ledger raised = { cancelled := i.tokens } := by
      rw [hraised, tokens]
      cases i.token <;> rfl
    have hjoin : ledger [.asked (.join i.tasks) ()] = { awaited := i.tasks } :=
      congrArg (fun ts => ({ awaited := ts } : Ledger)) (List.append_nil _)
    have hclose : ledger [.asked (.call i.channel .close) a] = { closed := [i.channel] } := rfl
    rw [ledger_append, ledger_append, ledger_of_cancels hcancels, hall, hraised, ledger_cons, ← tasks, hjoin, hclose]
    simp [Ledger.append_def, given]

end Intake

namespace Bus

theorem ledger_of_prepareAll {source : ChannelSource} (hs : source.Offered) {cs : List Settings.Consumer}
    {made out : List Intake} {steps : List Step} {r : Except Fault Unit}
    (h : (prepareAll source made cs).Reaches steps (.done (out, r))) :
    ∃ new, out = made ++ new ∧ (∀ i ∈ new, i.Fresh) ∧
      ledger steps = { opened := new.map (·.channel), faults := (faultOf r).toList } := by
  induction cs generalizing made steps with
  | nil =>
    obtain ⟨rfl, hr⟩ := Program.Reaches.of_done h
    cases hr
    exact ⟨[], by simp, by simp, rfl⟩
  | cons s cs ih =>
    obtain ⟨creating, x, rest, rfl, hcreate, h₁⟩ := Program.Reaches.bind_done h
    cases x with
    | error f =>
      obtain ⟨rfl, hr⟩ := Program.Reaches.of_done h₁
      cases hr
      exact ⟨[], by simp, by simp, by rw [List.append_nil, ledger_of_create hs hcreate]; rfl⟩
    | ok c =>
      have hidle : (Intake.idle s c).Fresh := ⟨rfl, rfl⟩
      obtain ⟨declaring, y, rest, rfl, hdeclare, h₂⟩ := Program.Reaches.bind_done h₁
      cases y with
      | error f =>
        obtain ⟨rfl, hr⟩ := Program.Reaches.of_done h₂
        cases hr
        refine ⟨[.idle s c], rfl, by simpa using hidle, ?_⟩
        rw [List.append_nil, ledger_append, ledger_of_create hs hcreate, Topology.ledger_of_install hdeclare]
        rfl
      | ok u =>
        obtain ⟨new, rfl, hfresh, hledger⟩ := ih h₂
        refine ⟨.idle s c :: new, by simp, List.forall_mem_cons.2 ⟨hidle, hfresh⟩, ?_⟩
        rw [ledger_append, ledger_append, ledger_of_create hs hcreate, Topology.ledger_of_install hdeclare, hledger]
        rfl

theorem holds_nothing {is : List Intake} (h : ∀ i ∈ is, i.Fresh) :
    is.flatMap Intake.given = [] ∧ is.flatMap Intake.tasks = [] ∧ is.flatMap Intake.tokens = [] := by
  refine ⟨List.flatMap_eq_nil_iff.2 fun i hi => ?_, List.flatMap_eq_nil_iff.2 fun i hi => ?_,
    List.flatMap_eq_nil_iff.2 fun i hi => ?_⟩
  · rw [Intake.given, (h i hi).2, List.map_nil]
  · rw [Intake.tasks, (h i hi).2, List.map_nil]
  · rw [Intake.tokens, (h i hi).1, Option.toList_none]

theorem ledger_of_startAll {token : TokenId} {started rest out : List Intake} (hfresh : ∀ i ∈ rest, i.Fresh)
    {steps : List Step} {r : Except Fault Unit} (h : (startAll token started rest).Reaches steps (.done (out, r))) :
    ∃ tended, out = started ++ tended ∧ tended.map (·.channel) = rest.map (·.channel) ∧
      (∀ i ∈ tended, (i.subscriptions.map (·.1)).Nodup) ∧
      ledger steps = { subscribed := tended.flatMap Intake.given, tokens := tended.flatMap Intake.tokens
                       spawned := tended.flatMap Intake.tasks, faults := (faultOf r).toList } := by
  induction rest generalizing started steps with
  | nil =>
    obtain ⟨rfl, hr⟩ := Program.Reaches.of_done h
    cases hr
    exact ⟨[], by simp, rfl, by simp, rfl⟩
  | cons i rest ih =>
    obtain ⟨hi, hrest⟩ := List.forall_mem_cons.1 hfresh
    obtain ⟨starting, ⟨x, i'⟩, rest', rfl, hstart, h₁⟩ := Program.Reaches.bind_done h
    have hstarts : Intake.Starts token i starting x i' := Intake.reaches_start hstart
    have hchannel : i'.channel = i.channel := hstarts.gains.channel
    have htags := hstarts.nodup_tags hi.2
    cases x with
    | error f =>
      -- the consumers behind it have not been started
      obtain ⟨rfl, hr⟩ := Program.Reaches.of_done h₁
      cases hr
      obtain ⟨hgiven, htasks, htokens⟩ := holds_nothing hrest
      refine ⟨i' :: rest, rfl, by simp [hchannel], List.forall_mem_cons.2 ⟨htags, fun j hj => ?_⟩, ?_⟩
      · simp [(hrest j hj).2]
      · rw [List.append_nil, Intake.ledger_of_starts hi hstarts]
        simp [hgiven, htasks, htokens]
    | ok u =>
      obtain ⟨tended, rfl, hchannels, hall, hledger⟩ := ih hrest h₁
      refine ⟨i' :: tended, by simp, by simp [hchannels, hchannel], List.forall_mem_cons.2 ⟨htags, hall⟩, ?_⟩
      rw [ledger_append, Intake.ledger_of_starts hi hstarts, hledger]
      rfl

theorem ledger_of_disposeAll {is : List Intake} {steps : List Step} {u : Unit}
    (h : (disposeAll is).Reaches steps (.done u)) :
    ledger steps = { closed := is.map (·.channel), unsubscribed := is.flatMap Intake.given
                     cancelled := is.flatMap Intake.tokens, awaited := is.flatMap Intake.tasks } := by
  induction is generalizing steps with
  | nil =>
    obtain ⟨rfl, -⟩ := Program.Reaches.of_done h
    rfl
  | cons i is ih =>
    obtain ⟨disposal, i', rest, rfl, hdispose, h₁⟩ := Program.Reaches.bind_done h
    rw [ledger_append, Intake.ledger_of_disposes (Intake.reaches_dispose hdispose).1, ih h₁]
    rfl

/-- Each subscription is cancelled before the channel is closed that it is on. -/
theorem cancelled_before_closing {is : List Intake} {steps : List Step} {u : Unit}
    (h : (disposeAll is).Reaches steps (.done u)) {e : ChannelId × String} (he : e ∈ unsubscribed steps) :
    ∃ front x rest, steps = front ++ .asked (.call e.1 .close) x :: rest ∧ e ∈ unsubscribed front := by
  induction is generalizing steps with
  | nil =>
    obtain ⟨rfl, -⟩ := Program.Reaches.of_done h
    cases he
  | cons i is ih =>
    obtain ⟨disposal, i', rest, rfl, hdispose, h₁⟩ := Program.Reaches.bind_done h
    rw [unsubscribed, noted_append, List.mem_append] at he
    rcases he with he | he
    · have hdisposes := (Intake.reaches_dispose hdispose).1
      have hgiven : unsubscribed disposal = i.given := congrArg Ledger.unsubscribed (Intake.ledger_of_disposes hdisposes)
      rw [← unsubscribed, hgiven] at he
      cases hdisposes with
      | @intro cancels raised a hcancels hall hraised =>
        obtain ⟨e', -, rfl⟩ := List.mem_map.1 he
        refine ⟨cancels ++ raised ++ [.asked (.join i.tasks) ()], a, rest, by simp [Intake.tasks], ?_⟩
        rw [unsubscribed, noted_append, noted_append, ← unsubscribed, hall]
        exact List.mem_append_left _ (List.mem_append_left _ he)
    · obtain ⟨front, x, rest', rfl, hmem⟩ := ih h₁ he
      exact ⟨disposal ++ front, x, rest', by simp, by simp [hmem]⟩

/-! ## The bus -/

variable {b : Bus} {steps : List Step}

/-- The channel of the startup is closed, whether or not the topology could be declared over it. -/
theorem ledger_of_provision (hs : b.source.Offered) {r : Except Fault Unit}
    (h : b.provision.run.Reaches steps (.done r)) :
    ∃ cs, ledger steps = { opened := cs, closed := cs, faults := (faultOf r).toList } := by
  rcases Attempt.reaches_bind h with ⟨f, rfl, hcreate⟩ | ⟨creating, c, rest, rfl, hcreate, h₁⟩
  · exact ⟨[], ledger_of_create hs hcreate⟩
  · obtain ⟨declaring, x, rest, rfl, hdeclare, h₂⟩ := Attempt.reaches_lift_bind h₁
    obtain ⟨closing, y, rest, rfl, hclose, h₃⟩ := Attempt.reaches_lift_bind h₂
    obtain ⟨rfl, hr⟩ := Program.Reaches.of_done h₃
    cases hr
    obtain rfl := Attempt.reaches_call hclose
    have hdeclaring : ledger declaring = { faults := (faultOf r).toList } := by
      rcases Attempt.reaches_bind hdeclare with ⟨f, rfl, hfirst⟩ | ⟨first, u, second, rfl, hfirst, hsecond⟩
      · exact Topology.ledger_of_install hfirst
      · rw [ledger_append, Topology.ledger_of_install hfirst, Topology.ledger_of_install hsecond]
        rfl
    have hclosing : ledger [.asked (.call c .close) y] = { closed := [c] } := rfl
    refine ⟨[c], ?_⟩
    rw [ledger_append, ledger_append, ledger_of_create hs hcreate, hdeclaring, List.append_nil, hclosing]
    simp [Ledger.append_def, faultOf, Except.toOption]

/-- What is left of starting the consumers: how many channels are open, and the consumers that hold them. -/
theorem ledger_of_startConsumers (hs : b.source.Offered) {made : List Intake} {r : Except Fault Unit}
    (h : b.startConsumers.Reaches steps (.done (made, r))) :
    (∀ i ∈ made, (i.subscriptions.map (·.1)).Nodup) ∧
      ledger steps = { opened := made.map (·.channel), subscribed := made.flatMap Intake.given
                       tokens := made.flatMap Intake.tokens, spawned := made.flatMap Intake.tasks
                       faults := (faultOf r).toList } := by
  obtain ⟨preparing, ⟨new, x⟩, rest, rfl, hprepare, h₁⟩ := Program.Reaches.bind_done h
  obtain ⟨made', hmade, hfresh, hledger⟩ := ledger_of_prepareAll hs hprepare
  obtain rfl : new = made' := hmade
  cases x with
  | error f =>
    obtain ⟨rfl, hr⟩ := Program.Reaches.of_done h₁
    cases hr
    obtain ⟨hgiven, htasks, htokens⟩ := holds_nothing hfresh
    refine ⟨fun i hi => by simp [(hfresh i hi).2], ?_⟩
    rw [List.append_nil, hledger, hgiven, htasks, htokens]
  | ok u =>
    obtain ⟨tended, htended, hchannels, hall, hledger'⟩ := ledger_of_startAll hfresh h₁
    obtain rfl : made = tended := htended
    refine ⟨hall, ?_⟩
    rw [ledger_append, hledger, hledger', hchannels]
    simp [Ledger.append_def, faultOf]

/-- The ledger of channels and consumers that were made and given up again, for the fault. -/
def undone (cs : List ChannelId) (is : List Intake) (f : Fault) : Ledger where
  opened := cs ++ is.map (·.channel)
  closed := cs ++ is.map (·.channel)
  subscribed := is.flatMap Intake.given
  unsubscribed := is.flatMap Intake.given
  tokens := is.flatMap Intake.tokens
  cancelled := is.flatMap Intake.tokens
  spawned := is.flatMap Intake.tasks
  awaited := is.flatMap Intake.tasks
  faults := [f]

theorem even_undone {cs : List ChannelId} {is : List Intake} (htags : ∀ i ∈ is, (i.subscriptions.map (·.1)).Nodup)
    (f : Fault) : (undone cs is f).Even where
  opened := rfl
  subscribed := rfl
  tokens := rfl
  spawned := rfl
  channels e he := by
    obtain ⟨i, hi, he⟩ := List.mem_flatMap.1 he
    obtain ⟨x, -, rfl⟩ := List.mem_map.1 he
    exact List.mem_append_right _ (List.mem_map_of_mem hi)
  nodup hnodup := Intake.nodup_given htags (List.nodup_append.1 hnodup).2.1

/-- A start of an idle bus that fails gives up all that it made, and cancels each subscription before it closes the
channel that it is on. Its fault is the only one that anything but a cancelling or a closing met with. -/
theorem ledger_of_failed (hs : b.source.Offered) {f : Fault} (h : b.startIdle.run.Reaches steps (.done (.error f))) :
    ∃ cs is, (∀ i ∈ is, (i.subscriptions.map (·.1)).Nodup) ∧ ledger steps = undone cs is f ∧
      ∀ e ∈ unsubscribed steps, ∃ front x rest,
        steps = front ++ .asked (.call e.1 .close) x :: rest ∧ e ∈ unsubscribed front := by
  rcases Attempt.reaches_bind h with ⟨f', heq, hprovision⟩ | ⟨provision, u, rest, rfl, hprovision, h₁⟩
  · cases heq
    obtain ⟨cs, hledger⟩ := ledger_of_provision hs hprovision
    have hnone : unsubscribed steps = [] := congrArg Ledger.unsubscribed hledger
    exact ⟨cs, [], by simp, by simpa [undone, faultOf] using hledger, by simp [hnone]⟩
  · obtain ⟨cs, hledger⟩ := ledger_of_provision hs hprovision
    obtain ⟨starting, ⟨made, x⟩, rest, rfl, hstart, h₂⟩ := Attempt.reaches_lift_bind h₁
    obtain ⟨htags, hstarting⟩ := ledger_of_startConsumers hs hstart
    cases x with
    | ok u =>
      obtain ⟨x, hx, -⟩ := Attempt.reaches_lift h₂
      cases hx
    | error f' =>
      obtain ⟨disposal, u, rest, rfl, hdispose, h₃⟩ := Attempt.reaches_lift_bind h₂
      obtain ⟨rfl, hr⟩ := Program.Reaches.of_done h₃
      cases hr
      refine ⟨cs, made, htags, ?_, fun e he => ?_⟩
      · rw [List.append_nil, ledger_append, ledger_append, hledger, hstarting, ledger_of_disposeAll hdispose]
        simp [Ledger.append_def, undone, faultOf]
      · -- nothing was cancelled before the disposal
        have hearly : unsubscribed provision = [] ∧ unsubscribed starting = [] :=
          ⟨congrArg Ledger.unsubscribed hledger, congrArg Ledger.unsubscribed hstarting⟩
        obtain ⟨front, x, rest, rfl, hmem⟩ := cancelled_before_closing hdispose (e := e) (by
          simpa [hearly.1, hearly.2] using he)
        exact ⟨provision ++ (starting ++ front), x, rest, by simp, by simp [hmem]⟩

/-- A start of an idle bus that works leaves a running bus behind, and of all that it began what its consumers hold. -/
theorem ledger_of_started (hs : b.source.Offered) {u : Unit} (h : b.startIdle.run.Reaches steps (.done (.ok u))) :
    ∃ cs made, ledger steps = { opened := cs ++ made.map (·.channel), closed := cs
                                subscribed := made.flatMap Intake.given, tokens := made.flatMap Intake.tokens
                                spawned := made.flatMap Intake.tasks, stages := [.running made] } := by
  rcases Attempt.reaches_bind h with ⟨f, heq, -⟩ | ⟨provision, u, rest, rfl, hprovision, h₁⟩
  · cases heq
  · obtain ⟨cs, hledger⟩ := ledger_of_provision hs hprovision
    obtain ⟨starting, ⟨made, x⟩, rest, rfl, hstart, h₂⟩ := Attempt.reaches_lift_bind h₁
    obtain ⟨-, hstarting⟩ := ledger_of_startConsumers hs hstart
    cases x with
    | error f =>
      obtain ⟨disposal, u, rest, rfl, -, h₃⟩ := Attempt.reaches_lift_bind h₂
      obtain ⟨-, hr⟩ := Program.Reaches.of_done h₃
      cases hr
    | ok u' =>
      obtain ⟨_, -, hput⟩ := Attempt.reaches_lift h₂
      obtain rfl := Program.Reaches.of_request (r := .put .stage (.running made)) hput
      refine ⟨cs, made, ?_⟩
      have hput : ledger [.asked (.put .stage (.running made)) ()] = { stages := [.running made] } := rfl
      rw [ledger_append, ledger_append, hledger, hstarting, hput]
      simp [Ledger.append_def, faultOf]

/-- What is left of a stop that sees the stage. -/
def stopFrom (b : Bus) (stage : Stage) : Program Unit := do
  Program.request (.put .stage .stopped)
  disposeAll stage.intakes
  Program.request (.cancel b.token)
  Publisher.close
  b.source.release

/-- A stop ends what the consumers hold, and cancels the token of the bus. -/
theorem ledger_of_stopped (hs : b.source.Offered) {stage : Stage} {u : Unit}
    (h : (b.stopFrom stage).Reaches steps (.done u)) :
    ∃ cs fs, ledger steps = { closed := stage.intakes.map (·.channel) ++ cs
                              unsubscribed := stage.intakes.flatMap Intake.given
                              cancelled := stage.intakes.flatMap Intake.tokens ++ [b.token]
                              awaited := stage.intakes.flatMap Intake.tasks, faults := fs, stages := [.stopped] } := by
  obtain ⟨_, rest, rfl, h₁⟩ := Program.Reaches.of_request_bind h
  obtain ⟨disposal, _, rest, rfl, hdispose, h₂⟩ := h₁.bind_done
  obtain ⟨_, rest, rfl, h₃⟩ := Program.Reaches.of_request_bind h₂
  obtain ⟨closing, _, rest, rfl, hclose, h₄⟩ := h₃.bind_done
  obtain ⟨cs, hclosing⟩ := ledger_of_outlet hclose
  obtain ⟨fs, hreleasing⟩ := ledger_of_release hs h₄
  have hput : ledger [.asked (.put .stage .stopped) ()] = { stages := [.stopped] } := rfl
  have hcancel : ledger [.asked (.cancel b.token) ()] = { cancelled := [b.token] } := rfl
  refine ⟨cs, fs, ?_⟩
  change ledger ([_] ++ (disposal ++ ([_] ++ (closing ++ _)))) = _
  simp only [ledger_append]
  rw [hput, ledger_of_disposeAll hdispose, hcancel, hclosing, hreleasing]
  simp [Ledger.append_def]

end Bus

end MessageBus
