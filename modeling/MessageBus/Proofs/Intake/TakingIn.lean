import MessageBus.Proofs.Delivery.Refusal
import MessageBus.Proofs.Intake.Tasks
import Mathlib.Algebra.Order.BigOperators.Group.Finset
/-!
# No delivery is lost, duplicated or disturbed

A task takes in the deliveries of a stream that gives its items in order and then ends, while nothing is cancelled and
the channel's answer to a call depends on the call alone (`Fed`). `consumer_run` says what the system then comes to, in
every interleaving and however handlers end: each delivery has one task, which does what the delivery does alone, and
the run ends once all of them have ended.
-/

namespace MessageBus

/-! ## What a stream gives -/

/-- What the stream gave, if it is the stream that woke the task; its end is `none`. -/
def Arrival.item? : Arrival → Option (Option (Except Fault Delivery))
  | delivery d => some (some (.ok d))
  | fault f => some (some (.error f))
  | ended => some none
  | _ => none

/-- What the stream gave in the step. -/
def Step.item? : Step → Option (Option (Except Fault Delivery))
  | asked (.arrival _ _ _) x => x.item?
  | _ => none

/-- What the stream gave in some steps. -/
abbrev given (steps : List Step) : List (Option (Except Fault Delivery)) := noted Step.item? steps

/-- The tags of the deliveries that the broker was asked to settle. -/
def settledTags (past : List Happening) : List Nat :=
  past.filterMap fun
    | .took _ s => s.request.settledTag?
    | _ => none

/-- The deliveries among the items of a stream. -/
def deliveries (items : List (Except Fault Delivery)) : List Delivery := items.filterMap Except.toOption

theorem settledTags_append (past past' : List Happening) :
    settledTags (past ++ past') = settledTags past ++ settledTags past' := List.filterMap_append

theorem mem_settledTags {past : List Happening} {tag : Nat} :
    tag ∈ settledTags past ↔ ∃ a s, .took a s ∈ past ∧ s.request.settledTag? = some tag := by
  simp only [settledTags, List.mem_filterMap]
  constructor
  · rintro ⟨e, he, htag⟩
    cases e with
    | took a s => exact ⟨a, s, he, htag⟩
    | _ => cases htag
  · rintro ⟨a, s, hs, htag⟩
    exact ⟨_, hs, htag⟩

/-- A tag that one actor alone settles. -/
theorem count_settledTags {past : List Happening} {a : Actor} {tag : Nat}
    (h : ∀ b s, .took b s ∈ past → s.request.settledTag? = some tag → b = a) :
    (settledTags past).count tag = ((stepsOf a past).filterMap (·.request.settledTag?)).count tag := by
  induction past with
  | nil => rfl
  | cons e past ih =>
    have ih := ih fun b s hs => h b s (List.mem_cons_of_mem _ hs)
    have hcons : stepsOf a (e :: past) = stepsOf a [e] ++ stepsOf a past := stepsOf_append a [e] past
    have hcons' : settledTags (e :: past) = settledTags [e] ++ settledTags past := settledTags_append [e] past
    rw [hcons, hcons', List.filterMap_append, List.count_append, List.count_append, ih]
    congr 1
    cases e with
    | took b s =>
      by_cases hb : b = a
      · subst hb
        rw [stepsOf_took_self]
        rfl
      · -- another actor's step settles another tag
        rw [stepsOf_took_ne _ hb]
        refine List.count_eq_zero_of_not_mem fun hmem => hb ?_
        obtain ⟨b', s', hs', htag⟩ := mem_settledTags.1 hmem
        obtain ⟨rfl, rfl⟩ : b' = b ∧ s' = s := by simpa using hs'
        exact h _ _ List.mem_cons_self htag
    | _ => rfl

/-- The items before the end of a stream. -/
theorem prefix_of_map_some {α : Type} {xs ys : List α} (h : xs.map some <+: ys.map some ++ [none]) : xs <+: ys := by
  induction xs generalizing ys with
  | nil => exact List.nil_prefix
  | cons x xs ih =>
    cases ys with
    | nil => simp at h
    | cons y ys =>
      simp only [List.map_cons, List.cons_append, List.cons_prefix_cons, Option.some.injEq] at h
      exact List.cons_prefix_cons.2 ⟨h.1, ih h.2⟩

theorem eq_of_map_some_end {α : Type} {xs ys : List α} (h : xs.map some ++ [none] <+: ys.map some ++ [none]) :
    xs = ys := by
  induction xs generalizing ys with
  | nil =>
    cases ys with
    | nil => rfl
    | cons y ys => simp at h
  | cons x xs ih =>
    cases ys with
    | nil => simp at h
    | cons y ys =>
      simp only [List.map_cons, List.cons_append, List.cons_prefix_cons, Option.some.injEq] at h
      rw [h.1, ih h.2]

section
variable {stream : StreamId} {s : Settings.Consumer} {c : ChannelId} {token : TokenId} {first : List TaskId}
  {own : List Step} {inFlight : List TaskId} {state : TaskState}

/-- What the stream gave in the turns, and how many steps these took. -/
theorem TookIn.items (h : TookIn stream s c token first own inFlight) :
    ∃ items, given own = items.map some ∧ delivered own = deliveries items ∧
      own.length + inFlight.length ≤ first.length + 3 * items.length := by
  induction h with
  | start => exact ⟨[], rfl, rfl, by simp⟩
  | delivery h d t ih =>
    obtain ⟨items, hg, hd, hl⟩ := ih
    refine ⟨items ++ [.ok d], ?_, ?_, ?_⟩
    · simp [hg, Step.item?, Arrival.item?]
    · simp [hd, deliveries, Step.delivery?, Except.toOption]
    · simp only [List.length_append, List.length_cons, List.length_nil]
      omega
  | fault h f ih =>
    obtain ⟨items, hg, hd, hl⟩ := ih
    refine ⟨items ++ [.error f], ?_, ?_, ?_⟩
    · simp [hg, Step.item?, Arrival.item?]
    · simp [hd, deliveries, Step.delivery?, Except.toOption]
    · simp only [List.length_append, List.length_cons, List.length_nil]
      omega
  | finished h ht ih =>
    obtain ⟨items, hg, hd, hl⟩ := ih
    refine ⟨items, ?_, ?_, ?_⟩
    · simp [hg, Step.item?, Arrival.item?]
    · simp [hd, Step.delivery?]
    · have := List.length_pos_of_mem ht
      simp only [List.length_append, List.length_cons, List.length_nil, List.length_erase_of_mem ht]
      omega

/-- What the stream gave, and how many steps were taken. -/
theorem TakesIn.items (h : TakesIn stream s c token first own state) :
    ∃ items, (given own = items.map some ∨ given own = items.map some ++ [none]) ∧
      delivered own = deliveries items ∧ own.length ≤ first.length + 3 * items.length + 3 := by
  have hlast : ∀ inFlight (x : Arrival), x.isLast = true →
      (Step.asked (.arrival stream token inFlight) x).delivery? = none ∧
        (x.item?.toList = [] ∨ x.item?.toList = [none]) := by
    intro inFlight x hx
    cases x with
    | ended => exact ⟨rfl, .inr rfl⟩
    | cancelled => exact ⟨rfl, .inl rfl⟩
    | _ => cases hx
  cases h with
  | waiting h =>
    obtain ⟨items, hg, hd, hl⟩ := h.items
    exact ⟨items, .inl hg, hd, by omega⟩
  | taking h d =>
    obtain ⟨items, hg, hd, hl⟩ := h.items
    refine ⟨items ++ [.ok d], .inl ?_, ?_, ?_⟩
    · simp [hg, Step.item?, Arrival.item?]
    · simp [hd, deliveries, Step.delivery?, Except.toOption]
    · simp only [List.length_append, List.length_cons, List.length_nil]
      omega
  | @draining _ inFlight h x hx | @leaving _ inFlight h x hx | @ended _ inFlight h x hx =>
    obtain ⟨items, hg, hd, hl⟩ := h.items
    obtain ⟨hnone, hitem⟩ := hlast inFlight x hx
    refine ⟨items, ?_, ?_, ?_⟩
    · simpa [hg, Step.item?] using hitem
    · simp only [noted_append, hd, noted_cons, hnone]
      simp [Step.delivery?]
    · simp only [List.length_append, List.length_cons, List.length_nil]
      omega

/-- A task that takes deliveries in ends once its token is cancelled or the stream has ended. -/
theorem TakesIn.items_of_ended (h : TakesIn stream s c token first own .ended) :
    (∃ inFlight, .asked (.arrival stream token inFlight) .cancelled ∈ own) ∨
      ∃ items, given own = items.map some ++ [none] ∧ delivered own = deliveries items := by
  cases h with
  | @ended _ inFlight h x hx =>
    obtain ⟨items, hg, hd, -⟩ := h.items
    cases x with
    | cancelled => exact .inl ⟨inFlight, by simp⟩
    | ended => exact .inr ⟨items, by simp [hg, Step.item?, Arrival.item?], by simp [hd, Step.delivery?]⟩
    | _ => cases hx

end

/-! ## Nobody is stuck -/

namespace System

variable {α : Type} {σ : System α}

/-- Whatever the processing of a delivery asks for next, there is a reply. -/
theorem exists_takes {β : Type} {p : Program β} {d : Delivery} {c : ChannelId}
    (hp : p.Only fun r => r.toHandler = true ∨ d.Asks c r) (hnd : ∀ a, p ≠ .done a)
    (answer : ChannelId → Call → Except Fault Unit) (σ : System α) :
    ∃ step q, p.Takes step q ∧ σ.Admits step ∧ step.Undisturbed answer := by
  obtain ⟨id, hid⟩ := exists_fresh_text σ.known
  let w := Surroundings.alone answer (.ok ()) id []
  have hreply : ∀ r, (r.toHandler = true ∨ d.Asks c r) →
      σ.CanReply r (w.reply [] r) ∧ ∀ x, r.makes? (w.reply [] r) = some x → x ∉ σ.known := by
    intro r hr
    cases r with
    | freshId =>
      refine ⟨trivial, fun x hx => ?_⟩
      cases hx
      exact hid
    | call | handle | sleep | traceContext | span => exact ⟨trivial, nofun⟩
    | _ => exact (hr.resolve_left Bool.false_ne_true).elim
  cases p with
  | done a => exact absurd rfl (hnd a)
  | ask r k =>
    obtain ⟨hcan, hnew⟩ := hreply r hp.1
    exact ⟨_, _, .asked r k (w.reply [] r), .asked hcan hnew, Step.undisturbed_of_answered (.asked [] r)⟩
  | race t r k =>
    obtain ⟨hcan, hnew⟩ := hreply r hp.1
    exact ⟨_, _, .raced t r k (some (w.reply [] r)), .raced hcan hnew, Step.undisturbed_of_answered (.raced [] t r)⟩

/-- A task that takes deliveries in waits for its stream, or can go on, or waits for a task of its own. -/
theorem exists_next_of_takesIn {stream : StreamId} {s : Settings.Consumer} {c : ChannelId} {token : TokenId}
    {first : List TaskId} {own : List Step} {p : Program (Option Job)} {t : TaskId} {j : Job}
    (ht : σ.tasks[t.number]? = some ⟨j, .busy p⟩) (h : TakesIn stream s c token first own (.busy p)) :
    (∃ inFlight, TookIn stream s c token first own inFlight ∧ ∀ x : Arrival, x.item? ≠ none →
      ∃ σ', σ.Next (.took (.task t) (.asked (.arrival stream token inFlight) x)) σ') ∨
    (∃ step σ', σ.Next (.took (.task t) step) σ' ∧ step.item? = none ∧ ∀ answer, step.Undisturbed answer) ∨
    ∃ u, ¬σ.Over u ∧ (u ∈ first ∨ ∃ j, (j, u) ∈ spawned own) := by
  cases h with
  | @waiting _ inFlight h =>
    rw [Job.takeInOnce_eq] at ht
    refine .inl ⟨inFlight, h, fun x hx => ?_⟩
    have hcan : σ.CanReply (.arrival stream token inFlight) x := by
      cases x with
      | cancelled | finished => exact absurd rfl hx
      | _ => trivial
    exact ⟨_, .asked x ht hcan (nothing_new rfl)⟩
  | taking h d =>
    have hcan : σ.CanReply (.spawn (.process s c d token)) ⟨σ.tasks.length⟩ := rfl
    exact .inr (.inl ⟨_, _, .asked _ ht hcan (nothing_new rfl), rfl,
      fun answer => ⟨by simp, fun c x a ha => by cases ha⟩⟩)
  | @draining _ inFlight h x hx =>
    by_cases hall : ∀ u ∈ inFlight, σ.Over u
    · have hcan : σ.CanReply (.join inFlight) () := hall
      exact .inr (.inl ⟨_, _, .asked _ ht hcan (nothing_new rfl), rfl,
        fun answer => ⟨by simp, fun c x a ha => by cases ha⟩⟩)
    · simp only [not_forall, exists_prop] at hall
      obtain ⟨u, hu, hover⟩ := hall
      exact .inr (.inr ⟨u, hover, (h.of_inFlight hu).imp_right fun ⟨j, hj⟩ => ⟨j, by simp [hj]⟩⟩)
  | leaving h hx =>
    have hcan : σ.CanReply (.leave stream) () := trivial
    exact .inr (.inl ⟨_, _, .asked _ ht hcan (nothing_new rfl), rfl,
      fun answer => ⟨by simp, fun c x a ha => by cases ha⟩⟩)

/-- As long as a task that takes deliveries in is not over, it or a task of its own can go on. -/
theorem Leads.exists_next_of_not_over {σ₀ : System α} (h : σ₀.Leads σ) (h₀ : σ₀.past = [])
    (hjobs : ∃ jobs : List Job, σ₀.tasks = jobs.map .spawned) {t : TaskId} {stream : StreamId} {s : Settings.Consumer}
    {c : ChannelId} {token : TokenId} {state : TaskState}
    (ht : σ.tasks[t.number]? = some ⟨.takeIn stream s c token [], state⟩) (hover : ¬σ.Over t) :
    ∃ a step σ', σ.Next (.took a step) σ' := by
  have hstands : TakesIn stream s c token [] (stepsOf (.task t) σ.past) state := h.task_stands h₀ hjobs ht
  cases state with
  | ended => exact absurd ⟨_, ht, Task.isOver_ended _⟩ hover
  | broken => exact absurd ⟨_, ht, Task.isOver_broken _⟩ hover
  | busy p =>
    rcases exists_next_of_takesIn ht hstands with ⟨inFlight, -, hnext⟩ | ⟨step, σ', hn, -⟩ | ⟨u, hu, hspawned⟩
    · obtain ⟨σ', hn⟩ := hnext .ended (by simp [Arrival.item?])
      exact ⟨_, _, σ', hn⟩
    · exact ⟨_, _, σ', hn⟩
    · -- a delivery is still being processed
      obtain ⟨j, hj⟩ := hspawned.resolve_left (by simp)
      obtain ⟨d, -, hjob⟩ := hstands.job_of_spawned hj
      obtain rfl : j = .process s c d token := hjob
      obtain ⟨step, hstep, hspawn⟩ := mem_noted.1 hj
      obtain ⟨state, hstate⟩ := h.task_of_spawn h₀ (mem_stepsOf.1 hstep) hspawn
      obtain ⟨p', rfl, hnd, honly⟩ := h.busy_of_processing h₀ hjobs hstate hu
      obtain ⟨step', q, htakes, hadmits, -⟩ := exists_takes honly hnd (fun _ _ => .ok ()) σ
      exact ⟨_, _, _, .task hstate (htakes.bind _) hadmits⟩

end System

/-! ## A consumer's run -/

/-- What has happened to a task that takes in deliveries, the first one that there is: its stream gives the items in
order and then ends, nothing is cancelled from outside, and the channel's answer to a call depends on the call alone. -/
structure Fed (items : List (Except Fault Delivery)) (answer : ChannelId → Call → Except Fault Unit)
    (past : List Happening) : Prop where
  inOrder : given (stepsOf (.task ⟨0⟩) past) <+: items.map some ++ [none]
  uncancelled : ∀ t, .cancelled t ∉ past
  answered : ∀ a s c x r, .took a s ∈ past → s.done? = some ⟨.call c x, r⟩ → r = answer c x

theorem Fed.concat {items : List (Except Fault Delivery)} {answer : ChannelId → Call → Except Fault Unit}
    {past : List Happening} (hfed : Fed items answer past) {a : Actor} {step : Step}
    (hans : step.Undisturbed answer)
    (hitem : given (stepsOf (.task ⟨0⟩) (past ++ [.took a step])) <+: items.map some ++ [none]) :
    Fed items answer (past ++ [.took a step]) where
  inOrder := hitem
  uncancelled t ht := (List.mem_append.1 ht).elim (hfed.uncancelled t) (by simp)
  answered b step' c x r hs hd := by
    rcases List.mem_append.1 hs with hs | hs
    · exact hfed.answered b step' c x r hs hd
    · obtain ⟨-, rfl⟩ : b = a ∧ step' = step := by simpa using hs
      exact hans.answered c x r hd

namespace System

/-- A system that takes in the deliveries of a stream. -/
def consuming {α : Type} (stream : StreamId) (s : Settings.Consumer) (c : ChannelId) (token : TokenId)
    (known : List Thing) (cells : (c : Cell) → c.Content) : System α :=
  start [] [.takeIn stream s c token []] known cells

section
variable {α : Type} {stream : StreamId} {s : Settings.Consumer} {c : ChannelId} {token : TokenId} {known : List Thing}
  {cells : (c : Cell) → c.Content} {σ : System α}

theorem consuming_jobs : ∃ jobs : List Job,
    (consuming (α := α) stream s c token known cells).tasks = jobs.map .spawned := ⟨_, rfl⟩

/-- The first task takes deliveries in. -/
theorem loop_stands (h : (consuming stream s c token known cells).Leads σ) :
    ∃ state, σ.tasks[0]? = some ⟨.takeIn stream s c token [], state⟩ ∧
      TakesIn stream s c token [] (stepsOf (.task ⟨0⟩) σ.past) state := by
  have hfirst : (consuming (α := α) stream s c token known cells).tasks[(⟨0⟩ : TaskId).number]? =
      some (.spawned (.takeIn stream s c token [])) := rfl
  obtain ⟨state, hstate⟩ := h.job hfirst
  exact ⟨state, hstate, h.task_stands rfl consuming_jobs hstate⟩

/-- A task that the first one spawned processes a delivery that came. -/
theorem job_of_spawned {own : List Step} {state : TaskState} (hstands : TakesIn stream s c token [] own state)
    (hjobs : σ.tasks.map (·.job) = .takeIn stream s c token [] :: (spawned own).map (·.1)) {t : TaskId} {task : Task}
    (ht : σ.tasks[t.number]? = some task) (hne : t ≠ ⟨0⟩) :
    ∃ d ∈ delivered own, task.job = .process s c d token := by
  obtain ⟨_ | n⟩ := t
  · exact absurd rfl hne
  have hget : (σ.tasks.map (·.job))[n + 1]? = some task.job := by rw [List.getElem?_map, ht]; rfl
  rw [hjobs, List.getElem?_cons_succ] at hget
  obtain ⟨e, he, heq⟩ := List.mem_map.1 (List.mem_of_getElem? hget)
  exact heq ▸ hstands.job_of_spawned he

/-- The other tasks are those that it spawned. -/
theorem jobs_of_consuming (h : (consuming stream s c token known cells).Leads σ) :
    σ.tasks.map (·.job) =
      .takeIn stream s c token [] :: (spawned (stepsOf (.task ⟨0⟩) σ.past)).map (·.1) := by
  suffices hspawned : σ.past.filterMap Happening.spawn? = spawned (stepsOf (.task ⟨0⟩) σ.past) by
    rw [h.jobs rfl, hspawned]
    rfl
  -- on the events: only the first task spawns, as the others were spawned by it to process deliveries
  induction h with
  | refl => rfl
  | @next σ σ' e h hn ih =>
    rw [hn.past, List.filterMap_append, stepsOf_append, spawned, noted_append, ih]
    congr 1
    cases hn with
    | @caller n p q step hp hs ha =>
      have hlt := (List.getElem?_eq_some_iff.1 hp).1
      rw [h.length_callers] at hlt
      exact absurd hlt (Nat.not_lt_zero n)
    | @task t j p q step hp hs ha =>
      by_cases ht : t = ⟨0⟩
      · subst ht
        rw [stepsOf_took_self]
        rfl
      · rw [stepsOf_took_ne _ (by simpa using ht)]
        obtain ⟨state, -, hloop⟩ := loop_stands h
        obtain ⟨d, -, rfl⟩ := job_of_spawned hloop (by rw [h.jobs rfl, ih]; rfl) hp ht
        have hasks := (Processes.takes (h.task_stands rfl consuming_jobs hp) hs).asks step (by simp)
        exact List.filterMap_cons_none (spawn?_of_processing hasks)
    | broke hp => rfl
    | cancelled t => rfl

/-- Who took a step, and what for. -/
theorem actor_of_consuming (h : (consuming stream s c token known cells).Leads σ) {a : Actor} {step : Step}
    (hs : .took a step ∈ σ.past) :
    (a = .task ⟨0⟩ ∧ TookIn.Asks step.request) ∨
      ∃ t d state, a = .task t ∧ σ.tasks[t.number]? = some ⟨.process s c d token, state⟩ ∧
        (step.request.toHandler = true ∨ d.Asks c step.request) := by
  rcases h.actor_of_took rfl hs with ⟨n, p, -, hn⟩ | ⟨t, task, rfl, ht⟩
  · have hlt := (List.getElem?_eq_some_iff.1 hn).1
    rw [h.length_callers] at hlt
    exact absurd hlt (Nat.not_lt_zero n)
  obtain ⟨state, hget, hloop⟩ := loop_stands h
  by_cases hne : t = ⟨0⟩
  · subst hne
    exact .inl ⟨rfl, hloop.asks step (mem_stepsOf.2 hs)⟩
  · obtain ⟨d, -, hjob⟩ := job_of_spawned hloop (jobs_of_consuming h) ht hne
    have hstands := h.task_stands rfl consuming_jobs ht
    rw [hjob] at hstands
    refine .inr ⟨t, d, task.state, rfl, ?_, Processes.asks hstands step (mem_stepsOf.2 hs)⟩
    rw [ht, ← hjob]

/-- Nobody cancels anything. -/
theorem not_cancelled (h : (consuming stream s c token known cells).Leads σ) (hc : ∀ t, .cancelled t ∉ σ.past)
    (t : TokenId) : ¬Cancelled σ.past t := by
  have hasks : ∀ {a step}, .took a step ∈ σ.past →
      (∀ u, step.request ≠ .cancel u) ∧ ∀ u, step.request ≠ .childToken u := by
    intro a step hs
    rcases actor_of_consuming h hs with ⟨-, hreq⟩ | ⟨-, d, -, -, -, hreq⟩
    · exact ⟨fun u heq => by rw [heq] at hreq; exact hreq, fun u heq => by rw [heq] at hreq; exact hreq⟩
    · exact ⟨fun u heq => by rw [heq] at hreq; exact hreq.elim Bool.false_ne_true id,
        fun u heq => by rw [heq] at hreq; exact hreq.elim Bool.false_ne_true id⟩
  intro hcancelled
  cases hcancelled with
  | outside h => exact hc t h
  | requested h hs => exact (hasks h).1 t (request_of_done? hs)
  | @child _ parent _ _ h hs _ => exact (hasks h).2 parent (request_of_done? hs)

variable {items : List (Except Fault Delivery)} {answer : ChannelId → Call → Except Fault Unit}

theorem undisturbed_of_fed (h : (consuming stream s c token known cells).Leads σ) (hfed : Fed items answer σ.past)
    {a : Actor} {step : Step} (hs : .took a step ∈ σ.past) : step.Undisturbed answer :=
  ⟨h.not_lost rfl (not_cancelled h hfed.uncancelled) hs, fun c x r hd => hfed.answered a step c x r hs hd⟩

/-! ### One task for each delivery -/

/-- What was taken in so far is the beginning of what the stream gives, and all of it once the first task is over. -/
theorem taken_of_fed (h : (consuming stream s c token known cells).Leads σ) (hfed : Fed items answer σ.past) :
    ∃ taken, taken <+: items ∧ (σ.Over ⟨0⟩ → taken = items) ∧
      σ.tasks.map (·.job) =
        .takeIn stream s c token [] :: (deliveries taken).map fun d => .process s c d token := by
  obtain ⟨state, hget, hloop⟩ := loop_stands h
  obtain ⟨pending, hpending, hlen, hended⟩ := hloop.jobs_spawned
  by_cases hover : state = .ended
  · subst hover
    -- nothing was cancelled, so the stream has ended
    rcases hloop.items_of_ended with ⟨inFlight, hcancelled⟩ | ⟨all, hg, hd⟩
    · obtain ⟨σ₁, σ₂, -, hn, h₂⟩ := h.moment rfl (mem_stepsOf.1 hcancelled)
      have hreply : Cancelled σ₁.past token := hn.admits.reply _ _ rfl
      exact absurd (hreply.mono fun e he => (Leads.refl.next hn |>.trans h₂).mem_past he)
        (not_cancelled h hfed.uncancelled token)
    · have hall : all = items := eq_of_map_some_end (hg ▸ hfed.inOrder)
      refine ⟨items, List.prefix_rfl, fun _ => rfl, ?_⟩
      rw [jobs_of_consuming h, ← hall, ← hd, hpending, hended rfl, List.append_nil]
  · obtain ⟨all, hg, hd, -⟩ := hloop.items
    have hall : all <+: items := by
      refine prefix_of_map_some (List.IsPrefix.trans ?_ hfed.inOrder)
      rcases hg with hg | hg
      · exact hg ▸ List.prefix_rfl
      · exact hg ▸ List.prefix_append _ _
    have hprefix : (spawned (stepsOf (.task ⟨0⟩) σ.past)).map (·.1) <+:
        (deliveries all).map fun d => .process s c d token := ⟨pending, by rw [← hpending, hd]⟩
    obtain ⟨ds, hds, hjobs⟩ := List.prefix_map_iff.1 hprefix
    obtain ⟨taken, htaken, rfl⟩ := List.prefix_filterMap_iff.1 hds
    exact ⟨taken, htaken.trans hall, fun ho => absurd (h.ended_of_over (t := ⟨0⟩) rfl consuming_jobs hget ho) hover,
      by rw [jobs_of_consuming h, hjobs]; rfl⟩

/-- A task does what its delivery does alone. -/
theorem alone_of_fed (h : (consuming stream s c token known cells).Leads σ) (hfed : Fed items answer σ.past)
    {t : TaskId} {d : Delivery} {state : TaskState}
    (ht : σ.tasks[t.number]? = some ⟨.process s c d token, state⟩) :
    let own := stepsOf (.task t) σ.past
    (∃ outcome id context,
      let r := (d.process s c token).run (.alone answer outcome id context)
      own <+: r.steps ∧ (state = .ended → own = r.steps)) ∧ (state = .broken → own = []) := by
  have hsteps : ∀ step ∈ stepsOf (.task t) σ.past, step.Undisturbed answer :=
    fun step hs => undisturbed_of_fed h hfed (mem_stepsOf.1 hs)
  have hstands : Processes d s c token (stepsOf (.task t) σ.past) state := h.task_stands rfl consuming_jobs ht
  generalize stepsOf (.task t) σ.past = own at hsteps hstands
  cases hstands with
  | busy hreach hp =>
    obtain ⟨outcome, id, context, hr, -⟩ := Delivery.as_alone hreach hsteps
    exact ⟨⟨outcome, id, context, hr, nofun⟩, nofun⟩
  | ended hreach =>
    obtain ⟨outcome, id, context, hr, hend⟩ := Delivery.as_alone hreach hsteps
    exact ⟨⟨outcome, id, context, hr, fun _ => (hend _ rfl).1⟩, nofun⟩
  | broken hh => exact ⟨⟨.ok (), "", [], List.nil_prefix, nofun⟩, fun _ => rfl⟩

/-! ### One settlement for each delivery -/

/-- A delivery is settled by its own task. -/
theorem settler_of_consuming (h : (consuming stream s c token known cells).Leads σ) {a : Actor} {step : Step}
    (hs : .took a step ∈ σ.past) {tag : Nat} (htag : step.request.settledTag? = some tag) :
    ∃ t d state, a = .task t ∧ σ.tasks[t.number]? = some ⟨.process s c d token, state⟩ ∧ tag = d.tag := by
  rcases actor_of_consuming h hs with ⟨-, hreq⟩ | ⟨t, d, state, rfl, ht, hreq⟩
  · cases hr : step.request <;> rw [hr] at hreq htag <;> first | exact hreq.elim | cases htag
  · exact ⟨t, d, state, rfl, ht, Delivery.tag_of_asks hreq htag⟩

/-- What a task settles is at most its own delivery, and that at most once. -/
theorem settledTags_own (h : (consuming stream s c token known cells).Leads σ) {t : TaskId} {d : Delivery}
    {state : TaskState} (ht : σ.tasks[t.number]? = some ⟨.process s c d token, state⟩) :
    (stepsOf (.task t) σ.past).filterMap (·.request.settledTag?) <+: [d.tag] := by
  have hstands : Processes d s c token (stepsOf (.task t) σ.past) state := h.task_stands rfl consuming_jobs ht
  obtain ⟨p, hp⟩ := hstands.reaches
  exact Delivery.settledTags_of_reaches d s c token hp

/-- The task of a delivery stands where the delivery came. -/
theorem index_of_task {ds : List Delivery}
    (hjobs : σ.tasks.map (·.job) = .takeIn stream s c token [] :: ds.map fun d => .process s c d token) {t : TaskId}
    {d : Delivery} {state : TaskState} (ht : σ.tasks[t.number]? = some ⟨.process s c d token, state⟩) :
    ∃ n, t = ⟨n + 1⟩ ∧ ds[n]? = some d := by
  have hget : (σ.tasks.map (·.job))[t.number]? = some (.process s c d token) := by rw [List.getElem?_map, ht]; rfl
  obtain ⟨_ | n⟩ := t
  · rw [hjobs] at hget
    cases hget
  · refine ⟨n, rfl, ?_⟩
    rw [hjobs, List.getElem?_cons_succ, List.getElem?_map, Option.map_eq_some_iff] at hget
    obtain ⟨d', hd', heq⟩ := hget
    injection heq with _ _ heq
    rw [hd', heq]

/-- No delivery is settled twice. -/
theorem nodup_settledTags (h : (consuming stream s c token known cells).Leads σ) (hfed : Fed items answer σ.past)
    (htags : ((deliveries items).map (·.tag)).Nodup) : (settledTags σ.past).Nodup := by
  obtain ⟨taken, htaken, -, hjobs⟩ := taken_of_fed h hfed
  have htags : ((deliveries taken).map (·.tag)).Nodup :=
    htags.sublist ((htaken.filterMap _).map _).sublist
  refine List.nodup_iff_count_le_one.2 fun tag => ?_
  by_cases hmem : tag ∈ settledTags σ.past
  · obtain ⟨a, step, hs, htag⟩ := mem_settledTags.1 hmem
    obtain ⟨t, d, state, rfl, ht, rfl⟩ := settler_of_consuming h hs htag
    obtain ⟨n, rfl, hn⟩ := index_of_task hjobs ht
    -- whoever settles the tag has the same place among the deliveries, so it is the same task
    have hby : ∀ b step', .took b step' ∈ σ.past → step'.request.settledTag? = some d.tag → b = .task ⟨n + 1⟩ := by
      intro b step' hs' htag'
      obtain ⟨t', d', state', rfl, ht', heq⟩ := settler_of_consuming h hs' htag'
      obtain ⟨n', rfl, hn'⟩ := index_of_task hjobs ht'
      have hlt : n < ((deliveries taken).map (·.tag)).length := by
        rw [List.length_map]
        exact (List.getElem?_eq_some_iff.1 hn).1
      have heq : n = n' := (List.getElem?_inj hlt htags).1 (by simp [hn, hn', heq])
      rw [heq]
    rw [count_settledTags hby]
    exact ((settledTags_own h ht).sublist.count_le d.tag).trans (by simp)
  · rw [List.count_eq_zero_of_not_mem hmem]
    exact Nat.zero_le 1

/-! ### The run's end -/

/-- Once the first task is over, all tasks are. -/
theorem over_of_consuming (h : (consuming stream s c token known cells).Leads σ) (ho : σ.Over ⟨0⟩) {t : TaskId}
    (ht : t.number < σ.tasks.length) : σ.Over t := by
  rcases h.spawn_of_task (List.getElem?_eq_getElem ht) with hlt | ⟨a, step, hs, hspawn⟩
  · obtain rfl : t = ⟨0⟩ := by
      obtain ⟨n⟩ := t
      exact congrArg TaskId.mk (Nat.lt_one_iff.1 hlt)
    exact ho
  · rcases actor_of_consuming h hs with ⟨rfl, -⟩ | ⟨-, d, -, -, -, hreq⟩
    · obtain ⟨state, hget, -⟩ := loop_stands h
      obtain rfl := h.ended_of_over (t := ⟨0⟩) rfl consuming_jobs hget ho
      exact h.over_spawned (t := ⟨0⟩) rfl consuming_jobs hget (mem_noted.2 ⟨step, mem_stepsOf.2 hs, hspawn⟩)
    · rw [spawn?_of_processing hreq] at hspawn
      cases hspawn

/-- The first task takes at most three steps for an item, and three at the end. -/
theorem length_loop_le (h : (consuming stream s c token known cells).Leads σ) (hfed : Fed items answer σ.past) :
    (stepsOf (.task ⟨0⟩) σ.past).length ≤ 3 * items.length + 3 := by
  obtain ⟨state, -, hloop⟩ := loop_stands h
  obtain ⟨all, hg, -, hl⟩ := hloop.items
  have hall : all <+: items := by
    refine prefix_of_map_some (List.IsPrefix.trans ?_ hfed.inOrder)
    rcases hg with hg | hg
    · exact hg ▸ List.prefix_rfl
    · exact hg ▸ List.prefix_append _ _
  have := hall.length_le
  simp only [List.length_nil] at hl
  omega

/-- Any other task takes at most eight steps. -/
theorem length_processing_le (h : (consuming stream s c token known cells).Leads σ) {t : TaskId} (hne : t ≠ ⟨0⟩)
    (ht : t.number < σ.tasks.length) : (stepsOf (.task t) σ.past).length ≤ 8 := by
  obtain ⟨state, -, hloop⟩ := loop_stands h
  have hget := List.getElem?_eq_getElem ht
  obtain ⟨d, -, hjob⟩ := job_of_spawned hloop (jobs_of_consuming h) hget hne
  have hstands := h.task_stands rfl consuming_jobs hget
  rw [hjob] at hstands
  obtain ⟨p, hp⟩ := Processes.reaches hstands
  exact (d.within_process s c token).length_le hp

/-- At most one handler breaks off for each task but the first. -/
theorem countP_isBroke_lt (h : (consuming stream s c token known cells).Leads σ) :
    σ.past.countP Happening.isBroke < σ.tasks.length := by
  obtain ⟨state, hget, hloop⟩ := loop_stands h
  rw [h.countP_isBroke rfl consuming_jobs]
  cases htasks : σ.tasks with
  | nil =>
    rw [htasks] at hget
    cases hget
  | cons first rest =>
    rw [htasks] at hget
    obtain rfl := Option.some.inj hget
    have hfirst : Task.isBroken ⟨.takeIn stream s c token [], state⟩ = false := by
      cases state with
      | broken => exact absurd hloop TakesIn.not_broken
      | _ => rfl
    rw [List.countP_cons_of_neg (by simp [hfirst]), List.length_cons]
    exact Nat.lt_succ_of_le List.countP_le_length

/-- The run has an end: nothing goes on for ever. -/
theorem length_past_le (h : (consuming stream s c token known cells).Leads σ) (hfed : Fed items answer σ.past) :
    σ.past.length ≤ 12 * items.length + 3 := by
  obtain ⟨taken, htaken, -, hjobs⟩ := taken_of_fed h hfed
  have hlen : σ.tasks.length = (deliveries taken).length + 1 := by
    simpa using congrArg List.length hjobs
  have hcount : (deliveries taken).length ≤ items.length :=
    (List.length_filterMap_le _ _).trans htaken.length_le
  have hfirst := length_loop_le h hfed
  have hothers : ∑ n ∈ Finset.range (deliveries taken).length, (stepsOf (.task ⟨n + 1⟩) σ.past).length ≤
      (deliveries taken).length * 8 := by
    refine (Finset.sum_le_card_nsmul _ _ 8 fun n hn => length_processing_le h (by simp) ?_).trans (by simp)
    rw [hlen]
    exact Nat.succ_lt_succ (Finset.mem_range.1 hn)
  have hbroke := countP_isBroke_lt h
  have hactors : ∀ a step, .took a step ∈ σ.past → ∃ t < σ.tasks.length, a = .task ⟨t⟩ := by
    intro a step hs
    rcases h.actor_of_took rfl hs with ⟨n, p, -, hn⟩ | ⟨t, task, rfl, ht⟩
    · have hlt := (List.getElem?_eq_some_iff.1 hn).1
      rw [h.length_callers] at hlt
      exact absurd hlt (Nat.not_lt_zero n)
    · exact ⟨t.number, (List.getElem?_eq_some_iff.1 ht).1, rfl⟩
  rw [length_eq_sum hactors hfed.uncancelled, hlen, Finset.sum_range_succ']
  omega

/-- Until the first task is over, somebody can go on. -/
theorem exists_next_of_fed (h : (consuming stream s c token known cells).Leads σ) (hfed : Fed items answer σ.past) :
    σ.Over ⟨0⟩ ∨ ∃ e σ', σ.Next e σ' ∧ Fed items answer σ'.past := by
  obtain ⟨state, hget, hloop⟩ := loop_stands h
  rw [or_iff_not_imp_left]
  intro hover
  cases state with
  | ended => exact absurd ⟨_, hget, Task.isOver_ended _⟩ hover
  | broken => exact absurd ⟨_, hget, Task.isOver_broken _⟩ hover
  | busy p =>
    rcases exists_next_of_takesIn (t := ⟨0⟩) hget hloop with ⟨inFlight, htook, hnext⟩ | ⟨step, σ', hn, hitem, hans⟩ |
        ⟨u, hu, hspawned⟩
    · -- the stream gives its next item, or ends
      obtain ⟨before, hg, -⟩ := htook.items
      obtain ⟨rest, hrest⟩ := prefix_of_map_some (hg ▸ hfed.inOrder)
      have hgoes : ∀ x : Arrival, x.item? ≠ none → before.map some ++ x.item?.toList <+: items.map some ++ [none] →
          ∃ e σ', σ.Next e σ' ∧ Fed items answer σ'.past := by
        intro x hx hprefix
        obtain ⟨σ', hn⟩ := hnext x hx
        refine ⟨_, σ', hn, ?_⟩
        rw [hn.past]
        refine hfed.concat ⟨nofun, fun c x a ha => by cases ha⟩ ?_
        simpa [hg, Step.item?] using hprefix
      cases rest with
      | nil => exact hgoes .ended (by simp [Arrival.item?]) (by simp [Arrival.item?, ← hrest])
      | cons item rest =>
        cases item with
        | ok d => exact hgoes (.delivery d) (by simp [Arrival.item?]) (by simp [Arrival.item?, ← hrest])
        | error f => exact hgoes (.fault f) (by simp [Arrival.item?]) (by simp [Arrival.item?, ← hrest])
    · refine ⟨_, σ', hn, ?_⟩
      rw [hn.past]
      refine hfed.concat (hans answer) ?_
      simpa [hitem] using hfed.inOrder
    · -- a delivery is still being processed
      obtain ⟨j, hj⟩ := hspawned.resolve_left (by simp)
      obtain ⟨step, hstep, hspawn⟩ := mem_noted.1 hj
      obtain ⟨state, hstate⟩ := h.task_of_spawn rfl (mem_stepsOf.1 hstep) hspawn
      obtain ⟨d, -, hjob⟩ := hloop.job_of_spawned hj
      obtain rfl : j = .process s c d token := hjob
      have hne : u ≠ ⟨0⟩ := by
        rintro rfl
        rw [hget] at hstate
        cases hstate
      obtain ⟨p', rfl, hnd, honly⟩ := h.busy_of_processing rfl consuming_jobs hstate hu
      obtain ⟨step', q, htakes, hadmits, hans⟩ := exists_takes honly hnd answer σ
      refine ⟨_, _, .task hstate (htakes.bind _) hadmits, ?_⟩
      refine hfed.concat hans ?_
      rw [stepsOf_append, stepsOf_took_ne _ (by simpa using hne), List.append_nil]
      exact hfed.inOrder

/-- Whatever the interleaving and however handlers end, taking in the deliveries of a stream gives each delivery one
task and nothing else one. Each task does what its delivery does alone, to the end unless its handler breaks off before
anything else was done, and it alone settles its delivery, once. The run ends, and only when all the tasks have. -/
theorem consumer_run (htags : ((deliveries items).map (·.tag)).Nodup)
    (h : (consuming stream s c token known cells).Leads σ) (hfed : Fed items answer σ.past) :
    (∃ taken, taken <+: items ∧ (σ.Over ⟨0⟩ → taken = items) ∧
      σ.tasks.map (·.job) =
        .takeIn stream s c token [] :: (deliveries taken).map fun d => .process s c d token) ∧
    (∀ t d state, σ.tasks[t.number]? = some ⟨.process s c d token, state⟩ →
      let own := stepsOf (.task t) σ.past
      (∃ outcome id context,
        let r := (d.process s c token).run (.alone answer outcome id context)
        own <+: r.steps ∧ (state = .ended → own = r.steps)) ∧ (state = .broken → own = [])) ∧
    (∀ a step tag, .took a step ∈ σ.past → step.request.settledTag? = some tag →
      ∃ t d state, a = .task t ∧ σ.tasks[t.number]? = some ⟨.process s c d token, state⟩ ∧ tag = d.tag) ∧
    (settledTags σ.past).Nodup ∧
    (σ.Over ⟨0⟩ → ∀ t : TaskId, t.number < σ.tasks.length → σ.Over t) ∧
    σ.past.length ≤ 12 * items.length + 3 ∧
    (σ.Over ⟨0⟩ ∨ ∃ e σ', σ.Next e σ' ∧ Fed items answer σ'.past) :=
  ⟨taken_of_fed h hfed, fun _ _ _ => alone_of_fed h hfed, fun _ _ _ hs htag => settler_of_consuming h hs htag,
    nodup_settledTags h hfed htags, fun ho _ => over_of_consuming h ho, length_past_le h hfed, exists_next_of_fed h hfed⟩

end

end System

namespace Sample

/-- A delivery of a type that nobody subscribes to. -/
def stray (tag : Nat) : Delivery := ⟨tag, ⟨"orders.Unknown", true, 0, none, .empty⟩, []⟩

/-- What a stream gives: an order, a fault, and another delivery. -/
def orderAndStray : List (Except Fault Delivery) := [.ok (order 0), .error (.connection "lost"), .ok (stray 8)]

/-- A run in which the handler of the order breaks off while the other delivery is settled. -/
def brokenRun : List Happening :=
  let arrival (inFlight : List TaskId) (x : Arrival) : Happening :=
    .took (.task ⟨0⟩) (.asked (.arrival ⟨0⟩ ⟨0⟩ inFlight) x)
  let spawn (d : Delivery) (t : TaskId) : Happening :=
    .took (.task ⟨0⟩) (.asked (.spawn (.process (warehouse 3).settings ⟨0⟩ d ⟨0⟩)) t)
  [arrival [] (.delivery (order 0)), spawn (order 0) ⟨1⟩, arrival [⟨1⟩] (.fault (.connection "lost")),
    arrival [⟨1⟩] (.delivery (stray 8)), spawn (stray 8) ⟨2⟩,
    .took (.task ⟨2⟩) (.asked (.call ⟨0⟩ (.ack 8)) (.ok ())), .broke ⟨1⟩, arrival [⟨1⟩, ⟨2⟩] .ended,
    .took (.task ⟨2⟩) (.asked (.span ⟨"orders.Unknown", .empty, none⟩) ()),
    .took (.task ⟨0⟩) (.asked (.join [⟨1⟩, ⟨2⟩]) ()), .took (.task ⟨0⟩) (.asked (.leave ⟨0⟩) ())]

end Sample

open Sample in
theorem System.leads_brokenRun :
    ∃ σ : System Unit, (consuming ⟨0⟩ (warehouse 3).settings ⟨0⟩ ⟨0⟩ [] Cell.initial).Leads σ ∧
      σ.past = brokenRun ∧ σ.Over ⟨0⟩ := by
  have h₀ : (consuming (α := Unit) ⟨0⟩ (warehouse 3).settings ⟨0⟩ ⟨0⟩ [] Cell.initial).Leads _ := .refl
  have h₁ := h₀.next (.asked (t := ⟨0⟩) (r := .arrival ⟨0⟩ ⟨0⟩ []) (.delivery (order 0)) rfl trivial (nothing_new rfl))
  have h₂ := h₁.next
    (.asked (t := ⟨0⟩) (r := .spawn (.process (warehouse 3).settings ⟨0⟩ (order 0) ⟨0⟩)) ⟨1⟩ rfl rfl (nothing_new rfl))
  have h₃ := h₂.next
    (.asked (t := ⟨0⟩) (r := .arrival ⟨0⟩ ⟨0⟩ [⟨1⟩]) (.fault (.connection "lost")) rfl trivial (nothing_new rfl))
  have h₄ := h₃.next
    (.asked (t := ⟨0⟩) (r := .arrival ⟨0⟩ ⟨0⟩ [⟨1⟩]) (.delivery (stray 8)) rfl trivial (nothing_new rfl))
  have h₅ := h₄.next
    (.asked (t := ⟨0⟩) (r := .spawn (.process (warehouse 3).settings ⟨0⟩ (stray 8) ⟨0⟩)) ⟨2⟩ rfl rfl (nothing_new rfl))
  have h₆ := h₅.next (.asked (t := ⟨2⟩) (r := .call ⟨0⟩ (.ack 8)) (.ok ()) rfl trivial (nothing_new rfl))
  have h₇ := h₆.next (.broke (t := ⟨1⟩) rfl)
  have h₈ := h₇.next (.asked (t := ⟨0⟩) (r := .arrival ⟨0⟩ ⟨0⟩ [⟨1⟩, ⟨2⟩]) .ended rfl trivial (nothing_new rfl))
  have h₉ := h₈.next (.asked (t := ⟨2⟩) (r := .span _) () rfl trivial (nothing_new rfl))
  have h₁₀ := h₉.next (.asked (t := ⟨0⟩) (r := .join [⟨1⟩, ⟨2⟩]) () rfl
    (List.forall_mem_cons.2 ⟨⟨_, rfl, Task.isOver_broken _⟩,
      List.forall_mem_singleton.2 ⟨_, rfl, Task.isOver_ended _⟩⟩) (nothing_new rfl))
  have h₁₁ := h₁₀.next (.asked (t := ⟨0⟩) (r := .leave ⟨0⟩) () rfl trivial (nothing_new rfl))
  exact ⟨_, h₁₁, rfl, _, rfl, Task.isOver_ended _⟩

open Sample in
/-- In that run the other delivery is settled, and in the end all tasks are over. -/
theorem System.stray_settled :
    ∃ σ : System Unit, (consuming ⟨0⟩ (warehouse 3).settings ⟨0⟩ ⟨0⟩ [] Cell.initial).Leads σ ∧
      Fed orderAndStray (fun _ _ => .ok ()) σ.past ∧ .broke ⟨1⟩ ∈ σ.past ∧ settledTags σ.past = [8] ∧
      ∀ t : TaskId, t.number < 3 → σ.Over t := by
  obtain ⟨σ, h, hpast, hfirst⟩ := leads_brokenRun
  have hfed : Fed orderAndStray (fun _ _ => .ok ()) σ.past := by
    rw [hpast]
    refine ⟨⟨[], rfl⟩, by simp [brokenRun], fun a s c x r hs hd => ?_⟩
    simp only [brokenRun, List.mem_cons, List.not_mem_nil, or_false, Happening.took.injEq, reduceCtorEq, false_or] at hs
    rcases hs with ⟨-, rfl⟩ | ⟨-, rfl⟩ | ⟨-, rfl⟩ | ⟨-, rfl⟩ | ⟨-, rfl⟩ | ⟨-, rfl⟩ | ⟨-, rfl⟩ | ⟨-, rfl⟩ | ⟨-, rfl⟩ |
      ⟨-, rfl⟩ <;> cases hd
    rfl
  obtain ⟨⟨taken, -, htaken, hjobs⟩, -, -, -, hover, -⟩ := consumer_run (by decide) h hfed
  have hlen : σ.tasks.length = 3 := by
    rw [← List.length_map, hjobs, htaken hfirst]
    rfl
  exact ⟨σ, h, hfed, hpast ▸ by simp [brokenRun], hpast ▸ rfl, fun t ht => hover hfirst t (hlen ▸ ht)⟩

end MessageBus
