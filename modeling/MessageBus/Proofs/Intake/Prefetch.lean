import MessageBus.Proofs.Intake.Disposal
/-!
# How many deliveries are out at a time

A consumer takes in whatever comes, so it is for the broker to limit how much that is. The broker is asked for a limit
on the channel, and holds each later subscription on the channel to it: a stream brings nothing as long as so many of
its deliveries are not settled (`Enforces`). A consumer asks for its limit before it subscribes (`Intake.Prepared`), so
each of its streams is limited to as many deliveries at a time as its settings say
(`System.Leads.length_outstanding_le`).
-/

namespace MessageBus

/-! ## What the broker does in a step -/

namespace Step

/-- The limit that the broker took for the channel. -/
def limit? (c : ChannelId) : Step → Option UInt16
  | asked (.call c' (.setPrefetch n)) (.ok ()) => if c' = c then some n else none
  | _ => none

/-- The stream of a subscription that the broker gave over the channel. -/
def stream? (c : ChannelId) : Step → Option StreamId
  | asked (.consume c' _ _) (.ok stream) => if c' = c then some stream else none
  | _ => none

/-- The delivery that the stream brought. -/
def arrived? (stream : StreamId) : Step → Option Delivery
  | asked (.arrival stream' _ _) (.delivery d) => if stream' = stream then some d else none
  | _ => none

/-- The tag of the delivery whose settlement the broker took over the channel. -/
def settled? (c : ChannelId) : Step → Option Nat
  | asked (.call c' (.ack tag)) (.ok ()) | asked (.call c' (.reject tag)) (.ok ()) => if c' = c then some tag else none
  | _ => none

end Step

/-- The steps of all, in order. -/
def allSteps (past : List Happening) : List Step := past.filterMap Happening.step?

section
variable (c : ChannelId) (stream : StreamId) (past : List Happening)

/-- The limits that the broker took for the channel, in order. -/
abbrev limits : List UInt16 := noted (Step.limit? c) (allSteps past)

/-- The deliveries that the stream brought. -/
abbrev arrived : List Delivery := noted (Step.arrived? stream) (allSteps past)

/-- The tags of the deliveries that were settled over the channel. -/
abbrev settledOver : List Nat := noted (Step.settled? c) (allSteps past)

/-- The deliveries of the stream that are not settled. -/
def outstanding : List Delivery := (arrived stream past).filter fun d => d.tag ∉ settledOver c past

/-- The stream is that of a subscription before which the limit was the last one for the channel. -/
def LimitedTo (n : UInt16) : Prop :=
  ∃ before a queue tag after, past = before ++ .took a (.asked (.consume c queue tag) (.ok stream)) :: after ∧
    (limits c before).getLast? = some n

end

/-- The broker holds each subscription to the limit that it was made under: a stream brings a delivery only while fewer
than that are not settled. A limit of zero is none. A delivery has a tag that no other one had. -/
def Enforces (c : ChannelId) (past : List Happening) : Prop :=
  Throughout past fun before _ s => ∀ stream d, s.arrived? stream = some d →
    (∀ n, LimitedTo c stream before n → n ≠ 0 → (outstanding c stream before).length < n.toNat) ∧
      d.tag ∉ (delivered (allSteps before)).map (·.tag)

/-! ## One event after another -/

section
variable {c : ChannelId} {stream : StreamId} {past past' : List Happening} {a : Actor} {s : Step}

@[simp] theorem allSteps_append : allSteps (past ++ past') = allSteps past ++ allSteps past' := List.filterMap_append

@[simp] theorem allSteps_nil : allSteps [] = [] := rfl

@[simp] theorem allSteps_took : allSteps (.took a s :: past) = s :: allSteps past := rfl

@[simp] theorem allSteps_broke (t : TaskId) : allSteps [.broke t] = [] := rfl

@[simp] theorem allSteps_cancelled (t : TokenId) : allSteps [.cancelled t] = [] := rfl

theorem mem_allSteps : s ∈ allSteps past ↔ ∃ a, .took a s ∈ past := by
  simp only [allSteps, List.mem_filterMap]
  constructor
  · rintro ⟨e, he, hs⟩
    cases e with
    | took a s' =>
      obtain rfl := Option.some.inj hs
      exact ⟨a, he⟩
    | broke t => cases hs
    | cancelled t => cases hs
  · rintro ⟨a, h⟩
    exact ⟨_, h, rfl⟩

/-- The steps of one are among those of all, in order. -/
theorem stepsOf_sublist (a : Actor) (past : List Happening) : (stepsOf a past).Sublist (allSteps past) := by
  induction past with
  | nil => exact .slnil
  | cons e past ih =>
    cases e with
    | took b s =>
      rw [allSteps_took, ← List.singleton_append (l := past), stepsOf_append]
      by_cases hb : b = a
      · subst hb
        rw [stepsOf_took_self]
        exact ih.cons_cons s
      · rw [stepsOf_took_ne a hb]
        exact ih.cons s
    | broke t => exact ih
    | cancelled t => exact ih

/-- A delivery brought on a stream is one that was brought. -/
theorem delivery?_of_arrived? {d : Delivery} (h : s.arrived? stream = some d) : s.delivery? = some d := by
  unfold Step.arrived? at h
  split at h
  · exact (Option.ite_none_right_eq_some.1 h).2
  · cases h

theorem exists_arrived?_of_delivery? {d : Delivery} (h : s.delivery? = some d) :
    ∃ stream, s.arrived? stream = some d := by
  unfold Step.delivery? at h
  split at h
  · rename_i stream token tasks d'
    exact ⟨stream, (if_pos rfl).trans h⟩
  · cases h

/-- What a step does to the deliveries of a stream that are not settled: it adds those that it brings. -/
theorem length_outstanding_concat_le (e : Happening) :
    (outstanding c stream (past ++ [e])).length ≤
      (outstanding c stream past).length + (noted (Step.arrived? stream) (allSteps [e])).length := by
  have hsub : (outstanding c stream (past ++ [e])).Sublist
      (outstanding c stream past ++ noted (Step.arrived? stream) (allSteps [e])) := by
    unfold outstanding arrived
    rw [allSteps_append, noted_append, List.filter_append]
    refine .append ?_ List.filter_sublist
    -- what was not settled after the step was not settled before it
    refine List.monotone_filter_right _ fun d hd => ?_
    rw [decide_eq_true_eq] at hd ⊢
    exact fun hmem => hd (by simp [settledOver, hmem])
  simpa using hsub.length_le

/-- A stream that is limited from its first delivery on never has more deliveries out than the limit says. -/
theorem Enforces.length_outstanding_le (h : Enforces c past) {n : UInt16} (hn : n ≠ 0)
    (hlimited : Throughout past fun before _ s => ∀ d, s.arrived? stream = some d → LimitedTo c stream before n) :
    (outstanding c stream past).length ≤ n.toNat := by
  induction past using List.reverseRecOn with
  | nil => exact Nat.zero_le _
  | append_singleton past e ih =>
    obtain ⟨hpast, hnow⟩ := Throughout.concat_iff.1 h
    obtain ⟨hlimitedPast, hlimitedNow⟩ := Throughout.concat_iff.1 hlimited
    have ih := ih hpast hlimitedPast
    refine Nat.le_trans (length_outstanding_concat_le e) ?_
    cases e with
    | took a s =>
      cases hs : s.arrived? stream with
      | none => simpa [hs] using ih
      | some d =>
        have hlt := (hnow a s rfl stream d hs).1 n (hlimitedNow a s rfl d hs) hn
        simpa [hs] using Nat.succ_le_of_lt hlt
    | broke t => exact ih
    | cancelled t => exact ih

/-- No two deliveries have one tag. -/
theorem Enforces.nodup_tags (h : Enforces c past) : ((delivered (allSteps past)).map (·.tag)).Nodup := by
  induction past using List.reverseRecOn with
  | nil => exact List.nodup_nil
  | append_singleton past e ih =>
    obtain ⟨hpast, hnow⟩ := Throughout.concat_iff.1 h
    have ih := ih hpast
    cases e with
    | took a s =>
      rw [allSteps_append, allSteps_took, allSteps_nil, delivered, noted_append]
      cases hs : s.delivery? with
      | none => simpa [hs] using ih
      | some d =>
        obtain ⟨stream, harrived⟩ := exists_arrived?_of_delivery? hs
        have hnew := (hnow a s rfl stream d harrived).2
        simp only [noted_cons, noted_nil, hs, Option.toList_some, List.append_nil, List.map_append, List.map_cons,
          List.map_nil]
        exact List.nodup_append.2 ⟨ih, List.nodup_singleton _, fun x hx y hy hxy =>
          hnew (List.mem_singleton.1 hy ▸ hxy ▸ hx)⟩
    | broke t => simpa using ih
    | cancelled t => simpa using ih

theorem arrived_eq_nil (h : delivered (allSteps past) = []) (stream : StreamId) : arrived stream past = [] := by
  refine List.eq_nil_iff_forall_not_mem.2 fun d hd => ?_
  obtain ⟨s, hs, harrived⟩ := mem_noted.1 hd
  have hmem : d ∈ delivered (allSteps past) := mem_noted.2 ⟨s, hs, delivery?_of_arrived? harrived⟩
  rw [h] at hmem
  cases hmem

/-- As long as nothing has come in, there was nothing to enforce. -/
theorem enforces_of_delivered_eq_nil (h : delivered (allSteps past) = []) : Enforces c past := by
  intro before a s after hp stream d hd
  have hmem : d ∈ arrived stream past := mem_noted.2 ⟨s, mem_allSteps.2 ⟨a, by simp [hp]⟩, hd⟩
  rw [arrived_eq_nil h] at hmem
  cases hmem

end

/-! ## What a consumer asks for first -/

namespace Intake

/-- What comes before a step of a consumer's own: before it subscribes, its limit was taken, and before a task takes in
from a stream, the stream was given to it. It asks for no other limit. -/
structure Prepared (s : Settings.Consumer) (c : ChannelId) (before : List Step) (step : Step) : Prop where
  limit : ∀ n, step.limit? c = some n → n = s.maxConcurrency
  limited : ∀ stream, step.stream? c = some stream → ∃ n, n ∈ noted (Step.limit? c) before
  given : ∀ j t, step.spawn? = some (j, t) → ∃ stream token, j = .takeIn stream s c token [] ∧
    stream ∈ noted (Step.stream? c) before

section
variable {s : Settings.Consumer} {c : ChannelId} {token : TokenId} {queue : String} {i : Intake} {steps : List Step}

/-- What asks for neither a limit nor a subscription and spawns nothing needs nothing before it. -/
theorem prepared_of_quiet {before : List Step} {step : Step} (hlimit : step.limit? c = none)
    (hstream : step.stream? c = none) (hspawn : step.spawn? = none) : Prepared s c before step :=
  ⟨by simp [hlimit], by simp [hstream], by simp [hspawn]⟩

theorem Subscribes.prepared {r : Except Fault Unit} {i' : Intake} (h : Subscribes token queue i steps r i')
    (past : List Step) :
    Justified (Prepared i.settings i.channel) past steps ∧ (noted (Step.stream? i.channel) steps).length ≤ 1 := by
  have hlimit : ∀ x, Prepared i.settings i.channel past
      (.asked (.call i.channel (.setPrefetch i.settings.maxConcurrency)) x) := by
    intro x
    refine ⟨fun n hn => ?_, nofun, nofun⟩
    cases x with
    | ok u => simpa [Step.limit?] using hn.symm
    | error f => cases hn
  cases h with
  | unlimited f => exact ⟨⟨hlimit _, trivial⟩, by simp [Step.stream?]⟩
  | refused id f =>
    exact ⟨⟨hlimit _, prepared_of_quiet rfl rfl rfl, prepared_of_quiet rfl rfl rfl, trivial⟩, by simp [Step.stream?]⟩
  | subscribed id stream t =>
    refine ⟨⟨hlimit _, prepared_of_quiet rfl rfl rfl, ⟨nofun, fun _ _ => ?_, nofun⟩, ⟨nofun, nofun, ?_⟩, trivial⟩, ?_⟩
    · exact ⟨i.settings.maxConcurrency, by simp [Step.limit?]⟩
    · intro j u hj
      obtain ⟨rfl, rfl⟩ : j = .takeIn stream i.settings i.channel token [] ∧ u = t := by
        simpa [Step.spawn?, Step.done?, eq_comm] using hj
      exact ⟨stream, token, rfl, by simp [Step.stream?]⟩
    · simp [Step.stream?]

theorem Starts.prepared {parent : TokenId} {r : Except Fault Unit} {i' : Intake} (h : Starts parent i steps r i')
    (past : List Step) :
    Justified (Prepared i.settings i.channel) past steps ∧ (noted (Step.stream? i.channel) steps).length ≤ 2 := by
  have htoken : ∀ t, Prepared i.settings i.channel past (.asked (.childToken parent) t) :=
    fun t => prepared_of_quiet rfl rfl rfl
  cases h with
  | first h =>
    obtain ⟨hjust, hlen⟩ := h.prepared (past ++ [_])
    exact ⟨⟨htoken _, hjust⟩, by simpa [Step.stream?] using Nat.le_succ_of_le hlen⟩
  | both h h' =>
    obtain ⟨hjust, hlen⟩ := h.prepared (past ++ [_])
    obtain ⟨hjust', hlen'⟩ := h'.prepared (past ++ [_] ++ _)
    rw [h.gains.settings, h.gains.channel] at hjust'
    rw [h.gains.channel] at hlen'
    refine ⟨⟨htoken _, justified_append.2 ⟨hjust, hjust'⟩⟩, ?_⟩
    simp only [noted_cons, noted_append, List.length_append] at hlen hlen' ⊢
    simp only [Step.stream?, Option.toList_none, List.length_nil]
    omega

/-- A disposal asks for nothing of the kind. -/
theorem quiet_of_winds {step : Step} (h : Winds step.request) :
    step.limit? c = none ∧ step.stream? c = none ∧ step.spawn? = none := by
  cases step with
  | asked r x =>
    cases r with
    | call c' y =>
      cases y with
      | cancel | close => exact ⟨rfl, rfl, rfl⟩
      | _ => exact h.elim
    | cancel | join => exact ⟨rfl, rfl, rfl⟩
    | _ => exact h.elim
  | raced t r x =>
    refine ⟨rfl, rfl, ?_⟩
    cases r with
    | spawn => exact h.elim
    | _ => cases x <;> rfl

/-- In a consumer's life everything is prepared, and it subscribes at most twice for each time that it is started. -/
theorem prepared_of_reaches {parents : List TokenId} {i' : Intake} (h : (life parents i).Reaches steps (.done i'))
    (past : List Step) :
    Justified (Prepared i.settings i.channel) past steps ∧
      (noted (Step.stream? i.channel) steps).length ≤ 2 * parents.length := by
  induction parents generalizing i steps past with
  | nil =>
    have hquiet := fun step hstep => quiet_of_winds (c := i.channel) ((reaches_dispose h).1.winds step hstep)
    have hnone : noted (Step.stream? i.channel) steps = [] :=
      List.filterMap_eq_nil_iff.2 fun step hstep => (hquiet step hstep).2.1
    refine ⟨justified_of_forall fun step hstep more => ?_, by simp [hnone]⟩
    obtain ⟨hlimit, hstream, hspawn⟩ := hquiet step hstep
    exact prepared_of_quiet hlimit hstream hspawn
  | cons parent parents ih =>
    obtain ⟨first, ⟨r, i₁⟩, rest, rfl, hfirst, hrest⟩ := Program.Reaches.bind_done h
    have hstarts := reaches_start hfirst
    obtain ⟨hjust, hlen⟩ := hstarts.prepared past
    obtain ⟨hjust', hlen'⟩ := ih hrest (past ++ first)
    rw [hstarts.gains.settings, hstarts.gains.channel] at hjust'
    rw [hstarts.gains.channel] at hlen'
    refine ⟨justified_append.2 ⟨hjust, hjust'⟩, ?_⟩
    rw [noted_append, List.length_append, List.length_cons]
    omega

end

end Intake

/-! ## Every stream is limited -/

/-- Whether a limit or a subscription is asked for. -/
def Request.Prepares : Request → Prop
  | .call _ (.setPrefetch _) | .consume _ _ _ => True
  | _ => False

namespace Step

variable {c : ChannelId} {step : Step}

theorem prepares_of_limit? {n : UInt16} (h : step.limit? c = some n) : step.request.Prepares := by
  unfold limit? at h
  split at h
  · trivial
  · cases h

theorem eq_consume_of_stream? {stream : StreamId} (h : step.stream? c = some stream) :
    ∃ queue tag, step = .asked (.consume c queue tag) (.ok stream) := by
  unfold stream? at h
  split at h
  · obtain ⟨rfl, heq⟩ := Option.ite_none_right_eq_some.1 h
    obtain rfl := Option.some.inj heq
    exact ⟨_, _, rfl⟩
  · cases h

theorem prepares_of_stream? {stream : StreamId} (h : step.stream? c = some stream) : step.request.Prepares := by
  obtain ⟨queue, tag, rfl⟩ := eq_consume_of_stream? h
  trivial

theorem settledTag?_of_settled? {tag : Nat} (h : step.settled? c = some tag) : step.request.settledTag? = some tag := by
  unfold settled? at h
  split at h
  · exact (Option.ite_none_right_eq_some.1 h).2
  · exact (Option.ite_none_right_eq_some.1 h).2
  · cases h

theorem eq_arrival_of_arrived? {stream : StreamId} {d : Delivery} (h : step.arrived? stream = some d) :
    ∃ token tasks, step = .asked (.arrival stream token tasks) (.delivery d) := by
  unfold arrived? at h
  split at h
  · obtain ⟨rfl, heq⟩ := Option.ite_none_right_eq_some.1 h
    obtain rfl := Option.some.inj heq
    exact ⟨_, _, rfl⟩
  · cases h

end Step

/-- No task prepares anything. -/
theorem Job.not_prepares_of_asks {j : Job} {r : Request} (h : j.Asks r) : ¬r.Prepares := by
  intro hr
  cases r with
  | call c' x =>
    cases x with
    | setPrefetch n => cases j <;> rcases h with h | h <;> cases h
    | _ => exact hr
  | consume c' queue tag => cases j <;> rcases h with h | h <;> cases h
  | _ => exact hr

section
variable {stream : StreamId} {s : Settings.Consumer} {c : ChannelId} {token : TokenId} {first inFlight : List TaskId}
  {own : List Step} {state : TaskState}

/-- A task that takes deliveries in listens to its own stream. -/
def ListensTo (stream : StreamId) (step : Step) : Prop :=
  ∀ stream' d, step.arrived? stream' = some d → stream' = stream

theorem listensTo_arrival (x : Arrival) : ListensTo stream (.asked (.arrival stream token inFlight) x) := by
  intro stream' d h
  cases x with
  | delivery d' => exact (Option.ite_none_right_eq_some.1 h).1.symm
  | _ => cases h

theorem TookIn.listensTo (h : TookIn stream s c token first own inFlight) : ∀ step ∈ own, ListensTo stream step := by
  induction h with
  | start => simp
  | delivery h d t ih =>
    simp only [List.mem_append, or_imp, forall_and, List.forall_mem_cons]
    exact ⟨ih, listensTo_arrival _, nofun, by simp⟩
  | fault h f ih =>
    simp only [List.mem_append, or_imp, forall_and, List.forall_mem_cons]
    exact ⟨ih, listensTo_arrival _, by simp⟩
  | finished h ht ih =>
    simp only [List.mem_append, or_imp, forall_and, List.forall_mem_cons]
    exact ⟨ih, listensTo_arrival _, by simp⟩

theorem TakesIn.listensTo (h : TakesIn stream s c token first own state) : ∀ step ∈ own, ListensTo stream step := by
  cases h with
  | waiting h => exact h.listensTo
  | taking h d =>
    simp only [List.mem_append, or_imp, forall_and, List.forall_mem_cons]
    exact ⟨h.listensTo, listensTo_arrival _, by simp⟩
  | draining h hx =>
    simp only [List.mem_append, or_imp, forall_and, List.forall_mem_cons]
    exact ⟨h.listensTo, listensTo_arrival _, by simp⟩
  | leaving h hx =>
    simp only [List.mem_append, or_imp, forall_and, List.forall_mem_cons]
    exact ⟨h.listensTo, listensTo_arrival _, nofun, by simp⟩
  | ended h hx =>
    simp only [List.mem_append, or_imp, forall_and, List.forall_mem_cons]
    exact ⟨h.listensTo, listensTo_arrival _, nofun, nofun, by simp⟩

end

namespace System

section
variable {parents : List TokenId} {s : Settings.Consumer} {c : ChannelId} {known : List Thing}
  {cells : (c : Cell) → c.Content} {σ : System Intake}

theorem prepared_of_disposing (h : (disposing parents s c known cells).Leads σ) :
    Justified (Intake.Prepared s c) [] (stepsOf (.caller 0) σ.past) ∧
      (noted (Step.stream? c) (stepsOf (.caller 0) σ.past)).length ≤ 2 * parents.length := by
  obtain ⟨q, hq, hreach⟩ := h.caller_reaches (n := 0) rfl rfl
  obtain ⟨rest, i, hrest⟩ := q.exists_reaches_done
  obtain ⟨hjust, hlen⟩ := Intake.prepared_of_reaches (hreach.trans hrest) []
  rw [noted_append, List.length_append] at hlen
  exact ⟨(justified_append.1 hjust).1, Nat.le_trans (Nat.le_add_right _ _) hlen⟩

/-- Only the caller asks for limits, and only the caller subscribes. -/
theorem caller_of_preparing (h : (disposing parents s c known cells).Leads σ) {a : Actor} {step : Step}
    (hs : .took a step ∈ σ.past) (hr : step.request.Prepares) : a = .caller 0 := by
  rcases h.actor_of_took rfl hs with ⟨n, -, rfl, -⟩ | ⟨t, task, rfl, ht⟩
  · rw [eq_zero_of_caller h hs]
  · exact absurd hr (Job.not_prepares_of_asks (h.asks_of_task rfl ⟨[], rfl⟩ ht (mem_stepsOf.2 hs)))

/-- What is before a limit or a subscription was asked for. -/
theorem prepared_of_preparing (h : (disposing parents s c known cells).Leads σ) {before after : List Happening}
    {a : Actor} {step : Step} (hp : σ.past = before ++ .took a step :: after) (hr : step.request.Prepares) :
    Intake.Prepared s c (stepsOf (.caller 0) before) step := by
  obtain rfl := caller_of_preparing h (a := a) (by simp [hp]) hr
  have hjust := (prepared_of_disposing h).1
  rw [hp, stepsOf_append, ← List.singleton_append, stepsOf_append, stepsOf_took_self] at hjust
  exact hjust.at_split

/-- The broker is asked for no other limit than that of the settings. -/
theorem eq_of_mem_limits (h : (disposing parents s c known cells).Leads σ) {n : UInt16} (hn : n ∈ limits c σ.past) :
    n = s.maxConcurrency := by
  obtain ⟨step, hstep, hlimit⟩ := mem_noted.1 hn
  obtain ⟨a, ha⟩ := mem_allSteps.1 hstep
  obtain ⟨before, after, hp⟩ := List.append_of_mem ha
  exact (prepared_of_preparing h hp (Step.prepares_of_limit? hlimit)).limit n hlimit

theorem eq_of_limitedTo (h : (disposing parents s c known cells).Leads σ) {stream : StreamId} {n : UInt16}
    (hn : LimitedTo c stream σ.past n) : n = s.maxConcurrency := by
  obtain ⟨before, a, queue, tag, after, hp, hlast⟩ := hn
  refine eq_of_mem_limits h ?_
  rw [limits, hp, allSteps_append, noted_append]
  exact List.mem_append_left _ (List.mem_of_getLast? hlast)

/-- The stream of a subscription is limited as the settings say. -/
theorem limitedTo_of_stream (h : (disposing parents s c known cells).Leads σ) {stream : StreamId}
    (hs : stream ∈ noted (Step.stream? c) (stepsOf (.caller 0) σ.past)) :
    LimitedTo c stream σ.past s.maxConcurrency := by
  obtain ⟨step, hstep, hgiven⟩ := mem_noted.1 hs
  obtain ⟨before, after, hp⟩ := List.append_of_mem (mem_stepsOf.1 hstep)
  obtain ⟨n, hn⟩ := (prepared_of_preparing h hp (Step.prepares_of_stream? hgiven)).limited stream hgiven
  have hmem : n ∈ limits c before := ((stepsOf_sublist _ before).filterMap _).subset hn
  have hall : ∀ m ∈ limits c before, m = s.maxConcurrency := by
    intro m hm
    refine eq_of_mem_limits h ?_
    rw [limits, hp, allSteps_append, noted_append]
    exact List.mem_append_left _ hm
  obtain ⟨queue, tag, rfl⟩ := Step.eq_consume_of_stream? hgiven
  refine ⟨before, _, queue, tag, after, hp, ?_⟩
  rw [List.getLast?_eq_getLast_of_ne_nil (List.ne_nil_of_mem hmem), hall _ (List.getLast_mem _)]

/-- A task that takes deliveries in was spawned for the stream of a subscription. -/
theorem stream_of_task (h : (disposing parents s c known cells).Leads σ) {t : TaskId} {stream : StreamId}
    {s' : Settings.Consumer} {c' : ChannelId} {token : TokenId} {first : List TaskId} {state : TaskState}
    (ht : σ.tasks[t.number]? = some ⟨.takeIn stream s' c' token first, state⟩) :
    stream ∈ noted (Step.stream? c) (stepsOf (.caller 0) σ.past) := by
  rcases h.origin rfl rfl ht with ⟨n, hn⟩ | ⟨_, _, _, _, _, _, _, _, _, _, _, hjob⟩
  · obtain ⟨step, hstep, hspawn⟩ := mem_noted.1 hn
    obtain rfl := eq_zero_of_caller h (mem_stepsOf.1 hstep)
    obtain ⟨before, after, hown⟩ := List.append_of_mem hstep
    have hjust := (prepared_of_disposing h).1
    rw [hown] at hjust
    obtain ⟨stream', token', hjob, hmem⟩ := hjust.at_split.given _ _ hspawn
    obtain ⟨rfl, -⟩ := Job.takeIn.inj hjob
    rw [hown, noted_append]
    exact List.mem_append_left _ hmem
  · cases hjob

/-- Whatever a stream brings, it was limited before. -/
theorem limited_throughout (h : (disposing parents s c known cells).Leads σ) (stream : StreamId) :
    Throughout σ.past fun before _ step => ∀ d, step.arrived? stream = some d →
      LimitedTo c stream before s.maxConcurrency := by
  intro before a step after hp d hd
  obtain ⟨σ₁, σ₂, h₁, hp₁, hn, -⟩ := h.split (by rw [hp]; rfl : σ.past = _ ++ before ++ _ :: after)
  have hp₁ : σ₁.past = before := hp₁
  have h₂ := h₁.next hn
  have hmem : .took a step ∈ σ₂.past := by simp [hn.past]
  cases hn with
  | @caller n _ _ _ hp' ht ha =>
    -- a caller listens to no stream
    obtain rfl := eq_zero_of_caller h₂ hmem
    obtain ⟨token, tasks, rfl⟩ := Step.eq_arrival_of_arrived? hd
    rcases asks_of_caller h₂ (mem_stepsOf.2 hmem) with hasks | ⟨ts, hjoin⟩ | ⟨x, hclose⟩
    · exact hasks.elim
    · cases hjoin
    · cases hclose
  | @task t j p q _ ht hstep ha =>
    obtain ⟨state, ht₂⟩ := (Next.task ht hstep ha).job ht
    have hstands := h₂.task_stands rfl ⟨[], rfl⟩ ht₂
    have hown := mem_stepsOf.2 hmem
    rcases job_of_disposing h₁ ht with ⟨stream', token, hjob⟩ | ⟨u, d', token, -, hjob⟩
    · obtain rfl : j = _ := hjob
      obtain rfl := TakesIn.listensTo hstands _ hown stream d hd
      exact hp₁ ▸ limitedTo_of_stream h₁ (stream_of_task h₁ ht)
    · obtain rfl : j = _ := hjob
      obtain ⟨token', tasks, rfl⟩ := Step.eq_arrival_of_arrived? hd
      exact (Processes.asks hstands _ hown).elim nofun False.elim

/-- No stream of a consumer has more deliveries out than its settings say, if the broker enforces the limit. -/
theorem Leads.length_outstanding_le (h : (disposing parents s c known cells).Leads σ) (henforces : Enforces c σ.past)
    (hs : s.maxConcurrency ≠ 0) (stream : StreamId) :
    (outstanding c stream σ.past).length ≤ s.maxConcurrency.toNat :=
  henforces.length_outstanding_le hs (limited_throughout h stream)

end

end System

end MessageBus
