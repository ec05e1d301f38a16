import MessageBus.Proofs.Intake.Prefetch
/-!
# How many handlers run at a time

A consumer takes from two queues, and the broker holds each of its two subscriptions to the limit of the settings, not
both together. The handlers that run are those of deliveries that are not settled (`System.unsettled_of_running`), each
of another one (`System.nodup_running`), so the deliveries of one queue never have more handlers at work than the limit
says, but those of both can have twice as many: `System.handlers_at_once` says that no smaller bound holds, and
`System.two_at_once` shows two handlers at work for a consumer that allows for one.
-/

namespace MessageBus

/-- The delivery whose handler runs in the task. -/
def Task.handled? : Task → Option Delivery
  | ⟨.process _ _ d _, .busy (.ask (.handle _ _ _) _)⟩ => some d
  | _ => none

theorem Task.eq_of_handled? {task : Task} {d : Delivery} (h : task.handled? = some d) :
    ∃ s c token subscription message t k,
      task = ⟨.process s c d token, .busy (.ask (.handle subscription message t) k)⟩ := by
  unfold Task.handled? at h
  split at h
  · obtain rfl := Option.some.inj h
    exact ⟨_, _, _, _, _, _, _, rfl⟩
  · cases h

/-- A task whose handler runs has asked for nothing yet. -/
theorem Processes.eq_nil_of_handling {d : Delivery} {s : Settings.Consumer} {c : ChannelId} {token : TokenId}
    {own : List Step} {subscription : Settings.Subscription} {message : Json} {t : TokenId}
    {k : Except HandlerError Unit → Program (Option Job)}
    (h : Processes d s c token own (.busy (.ask (.handle subscription message t) k))) : own = [] := by
  cases h.breaks
  rfl

/-- A consumer that can be built handles something at a time. -/
theorem Settings.ConsumerDraft.maxConcurrency_ne_zero_of_build {draft : ConsumerDraft} {s : Consumer}
    (h : draft.build = .ok s) : s.maxConcurrency ≠ 0 := by
  intro hzero
  unfold build at h
  split at h
  · cases h
  · rename_i hflaw
    cases h
    have hlt : draft.settings.maxConcurrency < 1 := hzero ▸ (by decide)
    -- with no concurrency, either an earlier rule is broken or this one
    dsimp only [flaw?] at hflaw
    split at hflaw
    · exact absurd hflaw nofun
    · split at hflaw
      · exact absurd hflaw nofun
      · split at hflaw
        · exact absurd hflaw nofun
        · exact absurd hflaw nofun

namespace System

/-- The deliveries whose handlers run. -/
def running {α : Type} (σ : System α) : List Delivery := σ.tasks.filterMap Task.handled?

/-! ## Each handler has a delivery of its own -/

/-- The deliveries, each with the one that it came to, in order. -/
def arrivals (past : List Happening) : List (Actor × Delivery) :=
  past.filterMap fun
    | .took a s => s.delivery?.map (a, ·)
    | _ => none

theorem map_arrivals (past : List Happening) : (arrivals past).map (·.2) = delivered (allSteps past) := by
  induction past with
  | nil => rfl
  | cons e past ih =>
    cases e with
    | took a s => cases hs : s.delivery? <;> simpa [arrivals, allSteps, Happening.step?, noted, hs] using ih
    | broke t => exact ih
    | cancelled t => exact ih

theorem mem_arrivals {past : List Happening} {a : Actor} {d : Delivery} (h : d ∈ delivered (stepsOf a past)) :
    (a, d) ∈ arrivals past := by
  obtain ⟨step, hstep, hd⟩ := mem_noted.1 h
  exact List.mem_filterMap.2 ⟨_, mem_stepsOf.1 hstep, by simp [hd]⟩

section
variable {parents : List TokenId} {s : Settings.Consumer} {c : ChannelId} {known : List Thing}
  {cells : (c : Cell) → c.Content} {σ : System Intake}

/-- Deliveries with one tag are one, and came to one task. -/
theorem eq_of_tag (he : Enforces c σ.past) {a a' : Actor} {d d' : Delivery} (hd : d ∈ delivered (stepsOf a σ.past))
    (hd' : d' ∈ delivered (stepsOf a' σ.past)) (htag : d.tag = d'.tag) : a = a' ∧ d = d' := by
  have hnodup : ((arrivals σ.past).map (·.2.tag)).Nodup := by
    have hmap : (arrivals σ.past).map (·.2.tag) = ((arrivals σ.past).map (·.2)).map (·.tag) := by simp
    rw [hmap, map_arrivals]
    exact he.nodup_tags
  have heq := List.inj_on_of_nodup_map hnodup (mem_arrivals hd) (mem_arrivals hd') htag
  exact Prod.mk.injEq _ _ _ _ ▸ heq

/-- A task that processes a delivery was spawned by one that takes deliveries in, to which the delivery came. -/
theorem taker_of_processing (h : (disposing parents s c known cells).Leads σ) {t : TaskId} {d : Delivery}
    {s' : Settings.Consumer} {c' : ChannelId} {token : TokenId} {state : TaskState}
    (ht : σ.tasks[t.number]? = some ⟨.process s' c' d token, state⟩) :
    ∃ u stream first state', σ.tasks[u.number]? = some ⟨.takeIn stream s' c' token first, state'⟩ ∧
      (.process s' c' d token, t) ∈ spawned (stepsOf (.task u) σ.past) ∧ d ∈ delivered (stepsOf (.task u) σ.past) := by
  rcases h.origin rfl rfl ht with ⟨n, hn⟩ | ⟨u, stream, _, _, _, first, state', _, hu, hmem, hd, hjob⟩
  · -- the caller spawns none to process a delivery
    obtain ⟨step, hstep, hspawn⟩ := mem_noted.1 hn
    obtain rfl := eq_zero_of_caller h (mem_stepsOf.1 hstep)
    obtain ⟨before, after, hown⟩ := List.append_of_mem hstep
    obtain ⟨_, _, hjob, -⟩ := (hown ▸ (prepared_of_disposing h).1).at_split.given _ _ hspawn
    cases hjob
  · cases hjob
    exact ⟨u, stream, first, state', hu, hmem, hd⟩

/-- Each delivery is processed by one task. -/
theorem task_eq_of_tag (h : (disposing parents s c known cells).Leads σ) (he : Enforces c σ.past) {t t' : TaskId}
    {d d' : Delivery} {s₁ s₂ : Settings.Consumer} {c₁ c₂ : ChannelId} {token token' : TokenId}
    {state state' : TaskState} (ht : σ.tasks[t.number]? = some ⟨.process s₁ c₁ d token, state⟩)
    (ht' : σ.tasks[t'.number]? = some ⟨.process s₂ c₂ d' token', state'⟩) (htag : d.tag = d'.tag) : t = t' := by
  -- both tasks were spawned by one that takes deliveries in, and by the same one, as the delivery came to it
  obtain ⟨u, stream, first, st, hu, hmem, hd⟩ := taker_of_processing h ht
  obtain ⟨u', stream', first', st', hu', hmem', hd'⟩ := taker_of_processing h ht'
  obtain ⟨hactor, rfl⟩ := eq_of_tag he hd hd' htag
  obtain rfl : u = u' := Actor.task.inj hactor
  cases hu.symm.trans hu'
  have hstands : TakesIn stream s₁ c₁ token first (stepsOf (.task u) σ.past) st := h.task_stands rfl ⟨[], rfl⟩ hu
  obtain ⟨pending, hpending, -⟩ := hstands.jobs_spawned
  -- it spawned one task for each delivery
  have htags : ((delivered (stepsOf (.task u) σ.past)).map (·.tag)).Nodup :=
    he.nodup_tags.sublist (((stepsOf_sublist _ _).filterMap _).map _)
  have hjobs : ((spawned (stepsOf (.task u) σ.past)).map (·.1) ++ pending).Nodup := by
    rw [← hpending]
    exact (List.Nodup.of_map _ htags).map fun _ _ heq => (Job.process.inj heq).2.2.1
  have hjobs := (List.nodup_append.1 hjobs).1
  exact congrArg Prod.snd (List.inj_on_of_nodup_map hjobs hmem hmem' rfl)

/-! ## The handlers that run -/

theorem exists_task_of_running {d : Delivery} (hd : d ∈ σ.running) :
    ∃ (t : TaskId) (task : Task), σ.tasks[t.number]? = some task ∧ task.handled? = some d := by
  obtain ⟨task, htask, hd⟩ := List.mem_filterMap.1 hd
  obtain ⟨n, hn⟩ := List.getElem?_of_mem htask
  exact ⟨⟨n⟩, task, hn, hd⟩

/-- As long as its handler runs, a delivery is not settled. -/
theorem unsettled_of_running (h : (disposing parents s c known cells).Leads σ) (he : Enforces c σ.past) {d : Delivery}
    (hd : d ∈ σ.running) : d.tag ∉ settledOver c σ.past := by
  intro hsettled
  obtain ⟨t, task, ht, hd⟩ := exists_task_of_running hd
  obtain ⟨s', c', token, subscription, message, t', k, rfl⟩ := Task.eq_of_handled? hd
  -- only its own task settles it, and that has done nothing yet
  obtain ⟨step, hstep, htag⟩ := mem_noted.1 hsettled
  obtain ⟨a, ha⟩ := mem_allSteps.1 hstep
  obtain ⟨u, -, d', token', state, rfl, hu, -, hsame⟩ := taken_of_settled h ha (Step.settledTag?_of_settled? htag)
  obtain rfl := task_eq_of_tag h he hu ht hsame.symm
  have hnone : stepsOf (.task u) σ.past = [] := by
    have hstands : Processes d s' c' token (stepsOf (.task u) σ.past) _ := h.task_stands rfl ⟨[], rfl⟩ ht
    exact hstands.eq_nil_of_handling
  exact List.not_mem_nil (hnone ▸ mem_stepsOf.2 ha)

/-- No two handlers that run have deliveries with one tag. -/
theorem nodup_running (h : (disposing parents s c known cells).Leads σ) (he : Enforces c σ.past) :
    (σ.running.map (·.tag)).Nodup := by
  rw [List.Nodup, List.pairwise_map, running, List.pairwise_filterMap, List.pairwise_iff_getElem]
  intro i j hi hj hij d hd d' hd' htag
  obtain ⟨s₁, c₁, token, _, _, _, k, htask⟩ := Task.eq_of_handled? hd
  obtain ⟨s₂, c₂, token', _, _, _, k', htask'⟩ := Task.eq_of_handled? hd'
  have ht : σ.tasks[(⟨i⟩ : TaskId).number]? = some _ := (List.getElem?_eq_getElem hi).trans (congrArg some htask)
  have ht' : σ.tasks[(⟨j⟩ : TaskId).number]? = some _ := (List.getElem?_eq_getElem hj).trans (congrArg some htask')
  exact Nat.ne_of_lt hij (congrArg TaskId.number (task_eq_of_tag h he ht ht' htag))

/-- What is handled came in on the stream of a subscription. -/
theorem arrived_of_running (h : (disposing parents s c known cells).Leads σ) {d : Delivery} (hd : d ∈ σ.running) :
    ∃ stream ∈ noted (Step.stream? c) (stepsOf (.caller 0) σ.past), d ∈ arrived stream σ.past := by
  obtain ⟨t, task, ht, hd⟩ := exists_task_of_running hd
  obtain ⟨s', c', token, _, _, _, k, rfl⟩ := Task.eq_of_handled? hd
  obtain ⟨u, stream, first, state, hu, -, hmem⟩ := taker_of_processing h ht
  refine ⟨stream, stream_of_task h hu, ?_⟩
  obtain ⟨step, hstep, hdelivery⟩ := mem_noted.1 hmem
  obtain ⟨stream', harrived⟩ := exists_arrived?_of_delivery? hdelivery
  have hstands : TakesIn stream s' c' token first (stepsOf (.task u) σ.past) state :=
    h.task_stands rfl ⟨[], rfl⟩ hu
  obtain rfl := hstands.listensTo step hstep stream' d harrived
  exact mem_noted.2 ⟨step, (stepsOf_sublist _ _).subset hstep, harrived⟩

section
variable (h : (disposing parents s c known cells).Leads σ) (he : Enforces c σ.past) (hs : s.maxConcurrency ≠ 0)
include h he hs

/-- The deliveries of one stream have no more handlers at work than the settings say. -/
theorem length_running_of_stream_le (stream : StreamId) :
    (σ.running.filter fun d => d ∈ arrived stream σ.past).length ≤ s.maxConcurrency.toNat := by
  have hnodup : ((σ.running.filter fun d => d ∈ arrived stream σ.past).map (·.tag)).Nodup :=
    (nodup_running h he).sublist (List.filter_sublist.map _)
  have hsub : (σ.running.filter fun d => d ∈ arrived stream σ.past) ⊆ outstanding c stream σ.past := by
    intro d hd
    obtain ⟨hrunning, harrived⟩ := List.mem_filter.1 hd
    exact List.mem_filter.2 ⟨of_decide_eq_true harrived, decide_eq_true (unsettled_of_running h he hrunning)⟩
  exact Nat.le_trans (List.Nodup.of_map _ hnodup |>.subperm hsub).length_le (h.length_outstanding_le he hs stream)

/-- Each subscription has as many handlers at work as the settings say, and each start makes two subscriptions. -/
theorem length_running_le : σ.running.length ≤ 2 * parents.length * s.maxConcurrency.toNat := by
  have hsub : σ.running ⊆
      (noted (Step.stream? c) (stepsOf (.caller 0) σ.past)).flatMap fun stream => outstanding c stream σ.past := by
    intro d hd
    obtain ⟨stream, hstream, harrived⟩ := arrived_of_running h hd
    exact List.mem_flatMap.2
      ⟨stream, hstream, List.mem_filter.2 ⟨harrived, decide_eq_true (unsettled_of_running h he hd)⟩⟩
  have hlen := (List.Nodup.of_map _ (nodup_running h he) |>.subperm hsub).length_le
  rw [List.length_flatMap] at hlen
  calc σ.running.length
      ≤ ((noted (Step.stream? c) (stepsOf (.caller 0) σ.past)).map fun stream =>
          (outstanding c stream σ.past).length).sum := hlen
    _ ≤ (noted (Step.stream? c) (stepsOf (.caller 0) σ.past)).length * s.maxConcurrency.toNat := by
        refine Nat.le_trans (List.sum_le_card_nsmul _ s.maxConcurrency.toNat ?_) (by simp)
        intro n hn
        obtain ⟨stream, -, rfl⟩ := List.mem_map.1 hn
        exact h.length_outstanding_le he hs stream
    _ ≤ 2 * parents.length * s.maxConcurrency.toNat := Nat.mul_le_mul_right _ (prepared_of_disposing h).2

end

end

/-! ## As many as the broker allows -/

/-- A task that was spawned for a delivery to handle begins with its handler. -/
theorem handled?_spawned {d : Delivery} {s : Settings.Consumer} {subscription : Settings.Subscription} {message : Json}
    (hd : d.Handles s subscription message) (c : ChannelId) (token : TokenId) :
    (Task.spawned (.process s c d token)).handled? = some d := by
  have hx : ¬d.exhausted s = true := fun h => hd.left ((Delivery.exhausted_iff d s).1 h)
  have hprocess : ∃ k, d.process s c token = .ask (.handle subscription message token) k := by
    unfold Delivery.process Delivery.settle
    simp only [if_neg hx, hd.subscribed, hd.read]
    exact ⟨_, rfl⟩
  obtain ⟨k, hk⟩ := hprocess
  change Task.handled? ⟨_, .busy (d.process s c token >>= fun _ => .done none)⟩ = some d
  rw [hk]
  rfl

/-- The task takes in from the stream, and waits for what comes next. -/
def Waits (σ : System Intake) (s : Settings.Consumer) (c : ChannelId) (t : TaskId) (stream : StreamId) : Prop :=
  ∃ token first inFlight, σ.tasks[t.number]? =
    some ⟨.takeIn stream s c token first, .busy (Job.takeInOnce stream s c token inFlight)⟩

/-- A task that has no handler is changed into another one without. -/
theorem filterMap_handled?_set {tasks : List Task} {n : Nat} {task task' : Task} (h : tasks[n]? = some task)
    (hnone : task.handled? = none) (hnone' : task'.handled? = none) :
    (tasks.set n task').filterMap Task.handled? = tasks.filterMap Task.handled? := by
  induction tasks generalizing n with
  | nil => rfl
  | cons x tasks ih =>
    cases n with
    | zero =>
      obtain rfl : x = task := Option.some.inj h
      rw [List.set_cons_zero, List.filterMap_cons_none hnone, List.filterMap_cons_none hnone']
    | succ n => rw [List.set_cons_succ, List.filterMap_cons, List.filterMap_cons, ih h]

section
variable {σ₀ σ : System Intake} {s : Settings.Consumer} {c : ChannelId} {t : TaskId} {stream : StreamId} {d : Delivery}
  {subscription : Settings.Subscription} {message : Json}

/-- A task that waits can be given a delivery: it goes on waiting, and there is one more task, with its handler. -/
theorem exists_taken (h : σ₀.Leads σ) (ht : σ.Waits s c t stream) (d : Delivery) :
    ∃ σ' token token' tasks u first inFlight, σ₀.Leads σ' ∧
      σ'.past = σ.past ++ [.took (.task t) (.asked (.arrival stream token tasks) (.delivery d)),
        .took (.task t) (.asked (.spawn (.process s c d token')) u)] ∧
      σ'.tasks = σ.tasks.set t.number
        ⟨.takeIn stream s c token first, .busy (Job.takeInOnce stream s c token inFlight)⟩ ++
          [.spawned (.process s c d token')] := by
  obtain ⟨token, first, inFlight, ht⟩ := ht
  have hlt := (List.getElem?_eq_some_iff.1 ht).1
  rw [Job.takeInOnce_eq] at ht
  have h₁ := h.next (.asked (t := t) (r := .arrival stream token inFlight) (.delivery d) ht trivial (nothing_new rfl))
  have h₂ := h₁.next (.asked (t := t) (r := .spawn (.process s c d token)) (j := .takeIn stream s c token first)
    (k := fun u => .done (some (.takeIn stream s c token (inFlight ++ [u])))) ⟨σ.tasks.length⟩
    (by
      change (σ.tasks.set t.number _ ++ [])[t.number]? = _
      rw [List.append_nil, List.getElem?_set_self hlt]
      rfl)
    (by
      change _ = TaskId.mk (σ.tasks.set t.number _ ++ []).length
      rw [List.append_nil, List.length_set]) (nothing_new rfl))
  refine ⟨_, token, token, inFlight, ⟨σ.tasks.length⟩, first, inFlight ++ [⟨σ.tasks.length⟩], h₂,
    List.append_assoc _ _ _, ?_⟩
  change (σ.tasks.set t.number _ ++ []).set t.number _ ++ [_] = _
  rw [List.append_nil, List.set_set]
  rfl

/-- While one task is given a delivery, all that wait go on waiting. -/
theorem Waits.of_set {σ' : System Intake} {t' : TaskId} {stream' : StreamId} {token : TokenId}
    {first inFlight : List TaskId} {more : List Task} (h : σ.Waits s c t' stream') (ht : σ.Waits s c t stream)
    (htasks : σ'.tasks = σ.tasks.set t.number
      ⟨.takeIn stream s c token first, .busy (Job.takeInOnce stream s c token inFlight)⟩ ++ more) :
    σ'.Waits s c t' stream' := by
  obtain ⟨token₁, first₁, inFlight₁, h⟩ := h
  obtain ⟨token₂, first₂, inFlight₂, ht⟩ := ht
  have hlt := (List.getElem?_eq_some_iff.1 h).1
  rw [Waits, htasks, List.getElem?_append_left (by simpa using hlt)]
  by_cases heq : t.number = t'.number
  · rw [heq] at ht
    cases ht.symm.trans h
    exact ⟨token, first, inFlight, by rw [heq, List.getElem?_set_self hlt]⟩
  · exact ⟨token₁, first₁, inFlight₁, by rw [List.getElem?_set_ne heq, h]⟩

/-- The consumer listens to the streams, and the broker has enforced its limit so far. -/
structure Listening (σ₀ σ : System Intake) (s : Settings.Consumer) (c : ChannelId) (listened : List StreamId) :
    Prop where
  leads : σ₀.Leads σ
  enforced : Enforces c σ.past
  waits : ∀ stream ∈ listened, ∃ t, σ.Waits s c t stream

end

section
variable {parents : List TokenId} {s : Settings.Consumer} {c : ChannelId} {known : List Thing}
  {cells : (c : Cell) → c.Content} {σ : System Intake} {listened : List StreamId} {stream : StreamId}
  {subscription : Settings.Subscription} {message : Json}

/-- While a stream has not brought as many deliveries as the limit says, it can bring another one. -/
theorem Listening.exists_more (h : Listening (disposing parents s c known cells) σ s c listened)
    (hstream : stream ∈ listened) (hroom : (arrived stream σ.past).length < s.maxConcurrency.toNat) {d : Delivery}
    (hd : d.Handles s subscription message) (hnew : d.tag ∉ (delivered (allSteps σ.past)).map (·.tag)) :
    ∃ σ', Listening (disposing parents s c known cells) σ' s c listened ∧ σ'.running = σ.running ++ [d] ∧
      delivered (allSteps σ'.past) = delivered (allSteps σ.past) ++ [d] ∧
      ∀ stream', arrived stream' σ'.past = arrived stream' σ.past ++ if stream' = stream then [d] else [] := by
  obtain ⟨t, ht⟩ := h.waits stream hstream
  obtain ⟨σ', token, token', tasks, u, first, inFlight, hleads, hpast, htasks⟩ := exists_taken h.leads ht d
  refine ⟨σ', ⟨hleads, ?_, fun stream' hstream' => ?_⟩, ?_, ?_, fun stream' => ?_⟩
  · -- the stream has room, under the only limit that was asked for; to spawn a task brings no delivery
    rw [hpast, List.append_cons, Enforces, Throughout.concat_iff, Throughout.concat_iff]
    refine ⟨⟨h.enforced, ?_⟩, ?_⟩
    · rintro a step hstep stream' d' harrived
      cases hstep
      obtain ⟨rfl, hd'⟩ := Option.ite_none_right_eq_some.1 harrived
      obtain rfl := Option.some.inj hd'
      refine ⟨fun n hn _ => ?_, hnew⟩
      rw [eq_of_limitedTo h.leads hn]
      exact Nat.lt_of_le_of_lt (List.length_filter_le _ _) hroom
    · rintro a step hstep stream' d' harrived
      cases hstep
      cases harrived
  · obtain ⟨t', ht'⟩ := h.waits stream' hstream'
    exact ⟨t', ht'.of_set ht htasks⟩
  · obtain ⟨token₁, first₁, inFlight₁, ht⟩ := ht
    rw [running, htasks, List.filterMap_append, filterMap_handled?_set ht rfl rfl,
      List.filterMap_cons_some (handled?_spawned hd c token')]
    rfl
  · rw [hpast]
    simp [Step.delivery?]
  · rw [hpast]
    by_cases hs : stream' = stream
    · simp [arrived, Step.arrived?, hs]
    · simp [arrived, Step.arrived?, hs, Ne.symm hs]

/-- A stream brings as many deliveries as the limit says, while the others bring none. -/
theorem Listening.exists_full (hd : ∃ d : Delivery, d.Handles s subscription message) (hstream : stream ∈ listened)
    (k : Nat) (h : Listening (disposing parents s c known cells) σ s c listened)
    (hk : (arrived stream σ.past).length + k ≤ s.maxConcurrency.toNat) :
    ∃ σ', Listening (disposing parents s c known cells) σ' s c listened ∧
      σ'.running.length = σ.running.length + k ∧
      ∀ stream', stream' ≠ stream → arrived stream' σ'.past = arrived stream' σ.past := by
  induction k generalizing σ with
  | zero => exact ⟨σ, h, rfl, fun _ _ => rfl⟩
  | succ k ih =>
    obtain ⟨d, hd⟩ := hd
    -- the same message under another tag
    obtain ⟨tag, htag⟩ := Infinite.exists_notMem_finset ((delivered (allSteps σ.past)).map (·.tag)).toFinset
    have hnew : ({ d with tag := tag } : Delivery).Handles s subscription message := ⟨⟨hd.subscribed, hd.read⟩, hd.left⟩
    obtain ⟨σ₁, h₁, hrunning, -, harrived⟩ := h.exists_more hstream (by omega) hnew (by simpa using htag)
    obtain ⟨σ', h', hrunning', harrived'⟩ := ih h₁ (by
      rw [harrived stream, if_pos rfl, List.length_append, List.length_singleton]
      omega)
    refine ⟨σ', h', ?_, fun stream' hne => ?_⟩
    · rw [hrunning', hrunning, List.length_append, List.length_singleton]
      omega
    · rw [harrived' stream' hne, harrived stream', if_neg hne, List.append_nil]

end

/-- A consumer that was started listens to two streams. -/
theorem exists_listening (parent : TokenId) (s : Settings.Consumer) (c : ChannelId) (known : List Thing)
    (cells : (c : Cell) → c.Content) :
    ∃ σ main retry, main ≠ retry ∧ Listening (disposing [parent] s c known cells) σ s c [main, retry] ∧
      delivered (allSteps σ.past) = [] ∧ σ.running = [] := by
  obtain ⟨token, htoken⟩ := exists_fresh_token known
  let known₁ := known ++ [.token token] ++ []
  obtain ⟨id, hid⟩ := exists_fresh_text known₁
  let known₂ := known₁ ++ [.text id]
  obtain ⟨main, hmain⟩ := exists_fresh_stream known₂
  let known₃ := known₂ ++ [.stream main] ++ [] ++ []
  obtain ⟨id', hid'⟩ := exists_fresh_text known₃
  let known₄ := known₃ ++ [.text id']
  obtain ⟨retry, hretry⟩ := exists_fresh_stream known₄
  -- the start goes through: a token, then for each queue the limit, a tag, the subscription and its task
  have h₀ : (disposing [parent] s c known cells).Leads _ := .refl
  have h₁ := h₀.next (.called (n := 0) (r := .childToken parent) token rfl trivial fun y hy => by
    cases hy
    exact htoken)
  have h₂ := h₁.next
    (.called (n := 0) (r := .call c (.setPrefetch s.maxConcurrency)) (.ok ()) rfl trivial (nothing_new rfl))
  have h₃ := h₂.next (.called (n := 0) (r := .freshId) id rfl trivial fun y hy => by
    cases hy
    exact hid)
  have h₄ := h₃.next
    (.called (n := 0) (r := .consume c s.queueName (Intake.tagOf s.queueName id)) (.ok main) rfl trivial fun y hy => by
      cases hy
      exact hmain)
  have h₅ := h₄.next (.called (n := 0) (r := .spawn (.takeIn main s c token [])) ⟨0⟩ rfl rfl (nothing_new rfl))
  have h₆ := h₅.next
    (.called (n := 0) (r := .call c (.setPrefetch s.maxConcurrency)) (.ok ()) rfl trivial (nothing_new rfl))
  have h₇ := h₆.next (.called (n := 0) (r := .freshId) id' rfl trivial fun y hy => by
    cases hy
    exact hid')
  have h₈ := h₇.next
    (.called (n := 0) (r := .consume c s.retryQueueName (Intake.tagOf s.retryQueueName id')) (.ok retry) rfl trivial
    fun y hy => by
      cases hy
      exact hretry)
  have h₉ := h₈.next (.called (n := 0) (r := .spawn (.takeIn retry s c token [])) ⟨1⟩ rfl rfl (nothing_new rfl))
  have hne : main ≠ retry := by
    rintro rfl
    exact hretry (by simp [known₄, known₃])
  refine ⟨_, main, retry, hne, ⟨h₉, enforces_of_delivered_eq_nil rfl, ?_⟩, rfl, rfl⟩
  · simp only [List.forall_mem_cons]
    exact ⟨⟨⟨0⟩, token, [], [], rfl⟩, ⟨⟨1⟩, token, [], [], rfl⟩, nofun⟩

/-- However messages come in and are settled, the deliveries of one queue never have more handlers at work than the
settings of the consumer say, and those of both queues never more than twice as many, if the broker enforces the limit
as it was asked to. Twice as many is the least bound there is, where some delivery is one for a handler. -/
theorem handlers_at_once {draft : Settings.ConsumerDraft} {s : Settings.Consumer} (hs : draft.build = .ok s)
    (parent : TokenId) (c : ChannelId) (known : List Thing) (cells : (c : Cell) → c.Content) :
    (∀ σ, (disposing [parent] s c known cells).Leads σ → Enforces c σ.past →
      (∀ stream, (σ.running.filter fun d => d ∈ arrived stream σ.past).length ≤ s.maxConcurrency.toNat) ∧
        σ.running.length ≤ 2 * s.maxConcurrency.toNat) ∧
    ((∃ (d : Delivery) (subscription : Settings.Subscription) (message : Json), d.Handles s subscription message) →
      ∀ b, (∀ σ, (disposing [parent] s c known cells).Leads σ → Enforces c σ.past → σ.running.length ≤ b) ↔
        2 * s.maxConcurrency.toNat ≤ b) := by
  have hpos := Settings.ConsumerDraft.maxConcurrency_ne_zero_of_build hs
  have hbound : ∀ σ, (disposing [parent] s c known cells).Leads σ → Enforces c σ.past →
      σ.running.length ≤ 2 * s.maxConcurrency.toNat := fun σ h he => length_running_le h he hpos
  refine ⟨fun σ h he => ⟨length_running_of_stream_le h he hpos, hbound σ h he⟩, ?_⟩
  rintro ⟨d, subscription, message, hd⟩ b
  refine ⟨fun hall => ?_, fun hb σ h he => Nat.le_trans (hbound σ h he) hb⟩
  -- one stream is filled after the other
  obtain ⟨σ, main, retry, hne, h, hnone, hidle⟩ := exists_listening parent s c known cells
  have hempty : ∀ stream, arrived stream σ.past = [] := arrived_eq_nil hnone
  obtain ⟨σ₁, h₁, hrunning₁, harrived₁⟩ := h.exists_full ⟨d, hd⟩ List.mem_cons_self s.maxConcurrency.toNat
    (by simp [hempty])
  obtain ⟨σ₂, h₂, hrunning₂, -⟩ := h₁.exists_full ⟨d, hd⟩ (List.mem_cons_of_mem main List.mem_cons_self)
    s.maxConcurrency.toNat (by simp [harrived₁ retry hne.symm, hempty])
  have hle := hall σ₂ h₂.leads h₂.enforced
  rw [hrunning₂, hrunning₁, hidle, List.length_nil] at hle
  omega

end System

namespace Sample

/-- A consumer of orders that handles one at a time. -/
def cautious : Settings.ConsumerDraft :=
  .ofSteps "warehouse" [.maxConcurrency 1, .retries 3 (.ofMillis 5), .subscribe orders]

end Sample

open Sample in
/-- For that consumer, two is the least bound. -/
theorem System.cautious_handles_two :
    cautious.build = .ok cautious.settings ∧ (order 0).Handles cautious.settings orders (.object [("id", .number 1)]) ∧
      ¬∀ σ, (disposing [⟨0⟩] cautious.settings ⟨0⟩ [.token ⟨0⟩] Cell.initial).Leads σ → Enforces ⟨0⟩ σ.past →
        σ.running.length ≤ 1 := by
  have hd : (order 0).Handles cautious.settings orders (.object [("id", .number 1)]) :=
    ⟨⟨rfl, rfl⟩, by unfold Delivery.UsedUp; decide +kernel⟩
  have hs : cautious.build = .ok cautious.settings := rfl
  refine ⟨hs, hd, fun hall => ?_⟩
  exact absurd (((handlers_at_once hs ⟨0⟩ ⟨0⟩ [.token ⟨0⟩] Cell.initial).2 ⟨_, _, _, hd⟩ 1).1 hall) (by decide)

open Sample in
/-- A new order and one that was put back are handled at the same time by a consumer that allows for one. -/
theorem System.two_at_once :
    ∃ s, cautious.build = .ok s ∧ s.maxConcurrency = 1 ∧
      ∃ σ, (disposing [⟨0⟩] s ⟨0⟩ [.token ⟨0⟩] Cell.initial).Leads σ ∧ Enforces ⟨0⟩ σ.past ∧
        σ.running = [order 0, { order 1 with tag := 8 }] := by
  have hd : ∀ d : Delivery, d = order 0 ∨ d = { order 1 with tag := 8 } →
      d.Handles cautious.settings orders (.object [("id", .number 1)]) := by
    rintro d (rfl | rfl)
    · exact ⟨⟨rfl, rfl⟩, by unfold Delivery.UsedUp; decide +kernel⟩
    · exact ⟨⟨rfl, rfl⟩, by unfold Delivery.UsedUp; decide +kernel⟩
  obtain ⟨σ, main, retry, hne, h, hnone, hidle⟩ :=
    exists_listening ⟨0⟩ cautious.settings ⟨0⟩ [.token ⟨0⟩] Cell.initial
  have hempty : ∀ stream, arrived stream σ.past = [] := arrived_eq_nil hnone
  have hlimit : cautious.settings.maxConcurrency.toNat = 1 := rfl
  obtain ⟨σ₁, h₁, hrunning₁, hdelivered₁, harrived₁⟩ := h.exists_more List.mem_cons_self
    (by rw [hempty, hlimit]; exact Nat.one_pos) (hd _ (.inl rfl)) (by rw [hnone]; exact List.not_mem_nil)
  obtain ⟨σ₂, h₂, hrunning₂, -, -⟩ := h₁.exists_more (List.mem_cons_of_mem main List.mem_cons_self)
    (by rw [harrived₁, hempty, if_neg hne.symm, hlimit]; exact Nat.one_pos) (hd _ (.inr rfl))
    (by rw [hdelivered₁, hnone]; decide)
  exact ⟨cautious.settings, rfl, rfl, σ₂, h₂.leads, h₂.enforced, by rw [hrunning₂, hrunning₁, hidle]; rfl⟩

end MessageBus
