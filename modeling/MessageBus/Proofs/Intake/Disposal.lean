import MessageBus.Proofs.Delivery.Outcome
import MessageBus.Proofs.Intake.TakingIn
import MessageBus.Proofs.Intake.Tending
/-!
# A disposal loses no retry

A consumer is started, or fails to start, and at some later moment it is disposed of, whatever its tasks are doing then
(`Intake.life`). `System.disposal_loses_no_retry` says what holds in every interleaving: the channel is closed once,
when every subscription was cancelled and all tasks are over, so that each delivery that was acknowledged for another
attempt has been put back by then; and a delivery that was not taken in is not settled.
-/

namespace MessageBus

/-! ## The steps of a consumer's life -/

namespace Intake

/-- The life of a consumer: it is started under each of the tokens, and disposed of. -/
def life : List TokenId → Intake → Program Intake
  | [], i => i.dispose
  | parent :: parents, i => do
    let (_, i) ← (start parent).run.run i
    life parents i

/-- What a consumer's life comes to before its tasks are waited for: every subscription is cancelled. -/
structure Quits (s : Settings.Consumer) (c : ChannelId) (front : List Step) : Prop where
  asks : ∀ step ∈ front, Tends step.request
  cancels : unsubscribed front = subscribed front
  jobs : ∀ e ∈ spawned front, ∃ stream token, e.1 = .takeIn stream s c token []

/-- The steps of a consumer's life: after the others, all tasks are waited for and the channel is closed. -/
inductive Lives (s : Settings.Consumer) (c : ChannelId) : List Step → Prop
  | intro {front : List Step} (h : Quits s c front) (a : Except Fault Unit) :
      Lives s c (front ++ [.asked (.join ((spawned front).map (·.2))) (), .asked (.call c .close) a])

/-- How some starts go, one after the other. -/
inductive Restarts : List TokenId → Intake → List Step → Intake → Prop
  | none (i : Intake) : Restarts [] i [] i
  | more {parent : TokenId} {parents : List TokenId} {i i₁ i' : Intake} {first rest : List Step} {r : Except Fault Unit}
      (h : Starts parent i first r i₁) (h' : Restarts parents i₁ rest i') :
      Restarts (parent :: parents) i (first ++ rest) i'

theorem Restarts.gains {parents : List TokenId} {i i' : Intake} {steps : List Step}
    (h : Restarts parents i steps i') : Gains i steps i' := by
  induction h with
  | none i => exact .refl i
  | more h _ ih => exact h.gains.trans ih

theorem reaches_life {parents : List TokenId} {i i' : Intake} {steps : List Step}
    (h : (life parents i).Reaches steps (.done i')) :
    ∃ started i₁ disposal, steps = started ++ disposal ∧ Restarts parents i started i₁ ∧ Disposes i₁ disposal := by
  induction parents generalizing i steps with
  | nil => exact ⟨[], i, steps, rfl, .none i, (reaches_dispose h).1⟩
  | cons parent parents ih =>
    obtain ⟨first, ⟨r, i₁⟩, rest, rfl, hfirst, hrest⟩ := Program.Reaches.bind_done h
    obtain ⟨started, i₂, disposal, rfl, hstarted, hdisposes⟩ := ih hrest
    exact ⟨first ++ started, i₂, disposal, by simp, .more (reaches_start hfirst) hstarted, hdisposes⟩

theorem lives_of_reaches {parents : List TokenId} {s : Settings.Consumer} {c : ChannelId} {i' : Intake}
    {steps : List Step} (h : (life parents (idle s c)).Reaches steps (.done i')) : Lives s c steps := by
  obtain ⟨started, i, disposal, rfl, hstarted, hdisposes⟩ := reaches_life h
  have hgains := hstarted.gains
  obtain ⟨new, hnew, hsub, htasks⟩ := hgains.subscriptions
  obtain ⟨hset, hc⟩ : i.settings = s ∧ i.channel = c := ⟨hgains.settings, hgains.channel⟩
  have hnew : i.subscriptions = new := hnew
  cases hdisposes with
  | @intro cancels raised a hcancels hall hraised =>
    -- cancelling brings no subscription and no task
    have hquiet : ∀ step ∈ cancels ++ raised,
        Tends step.request ∧ step.subscribed? = none ∧ step.spawn? = none := by
      intro step hstep
      rcases List.mem_append.1 hstep with hstep | hstep
      · obtain ⟨tag, x, rfl⟩ := hcancels step hstep
        exact ⟨trivial, rfl, rfl⟩
      · rw [hraised] at hstep
        obtain ⟨t, -, rfl⟩ := List.mem_map.1 hstep
        exact ⟨trivial, rfl, rfl⟩
    have hnone : noted Step.subscribed? (cancels ++ raised) = [] ∧ noted Step.spawn? (cancels ++ raised) = [] :=
      ⟨List.filterMap_eq_nil_iff.2 fun step hs => (hquiet step hs).2.1,
        List.filterMap_eq_nil_iff.2 fun step hs => (hquiet step hs).2.2⟩
    have hraised : unsubscribed raised = [] := by
      rw [hraised]
      cases i.token <;> rfl
    have hspawned : spawned (started ++ (cancels ++ raised)) = spawned started := by
      rw [spawned, noted_append, hnone.2, List.append_nil]
    rw [← List.append_assoc, hc, show i.subscriptions.map (·.2) = (spawned (started ++ (cancels ++ raised))).map (·.2) by
      rw [hspawned, htasks, hnew]]
    refine .intro ⟨fun step hstep => ?_, ?_, fun e he => ?_⟩ a
    · exact (List.mem_append.1 hstep).elim (hgains.asks step) fun hs => (hquiet step hs).1
    · rw [subscribed, noted_append, hnone.1, List.append_nil]
      simp only [noted_append, hgains.cancels, hsub, hall, hraised, List.nil_append, List.append_nil, hnew, hc]
      rfl
    · rw [hspawned] at he
      exact hgains.jobs e he

theorem Lives.asks {s : Settings.Consumer} {c : ChannelId} {steps : List Step} (h : Lives s c steps) :
    ∀ step ∈ steps, Tends step.request ∨ (∃ ts, step = .asked (.join ts) ()) ∨ ∃ a, step = .asked (.call c .close) a := by
  cases h with
  | intro h a =>
    intro step hstep
    rcases List.mem_append.1 hstep with hstep | hstep
    · exact .inl (h.asks step hstep)
    · simp only [List.mem_cons, List.not_mem_nil, or_false] at hstep
      rcases hstep with rfl | rfl
      · exact .inr (.inl ⟨_, rfl⟩)
      · exact .inr (.inr ⟨a, rfl⟩)

theorem Lives.jobs {s : Settings.Consumer} {c : ChannelId} {steps : List Step} (h : Lives s c steps) :
    ∀ e ∈ spawned steps, ∃ stream token, e.1 = .takeIn stream s c token [] := by
  cases h with
  | intro h a =>
    intro e he
    exact h.jobs e (by simpa [Step.spawn?, Step.done?] using he)

/-- A step of a consumer's life: one of the first, the wait for the tasks, or the closing, which is the last. -/
theorem Lives.step_cases {s : Settings.Consumer} {c : ChannelId} {own rest : List Step} {step : Step}
    (h : Lives s c (own ++ step :: rest)) :
    Tends step.request ∨ (Quits s c own ∧ step = .asked (.join ((spawned own).map (·.2))) ()) ∨
      ∃ front a, Quits s c front ∧ own = front ++ [.asked (.join ((spawned front).map (·.2))) ()] ∧
        step = .asked (.call c .close) a ∧ rest = [] := by
  generalize hsteps : own ++ step :: rest = steps at h
  cases h with
  | @intro front h a =>
    rcases List.append_eq_append_iff.1 hsteps with ⟨mid, rfl, hrest⟩ | ⟨mid, rfl, hrest⟩
    · cases mid with
      | nil =>
        obtain ⟨rfl, -⟩ := List.cons.inj hrest
        rw [List.append_nil] at h ⊢
        exact .inr (.inl ⟨h, rfl⟩)
      | cons x mid =>
        obtain ⟨rfl, -⟩ := List.cons.inj hrest
        exact .inl (h.asks _ (by simp))
    · rcases mid with _ | ⟨x, _ | ⟨y, mid⟩⟩
      · obtain ⟨rfl, -⟩ := List.cons.inj hrest
        rw [List.append_nil]
        exact .inr (.inl ⟨h, rfl⟩)
      · simp only [List.cons_append, List.nil_append, List.cons.injEq] at hrest
        obtain ⟨rfl, rfl, rfl⟩ := hrest
        exact .inr (.inr ⟨front, a, h, rfl, rfl, rfl⟩)
      · simp at hrest

end Intake

/-! ## A consumer and its tasks -/

/-- Where the handler failed and the acknowledgement worked, the message is put back, if another attempt is allowed. -/
theorem Delivery.Settled.put_back {d : Delivery} {s : Settings.Consumer} {c : ChannelId} {token : TokenId}
    {calls handlings : List Step} {r : Except Fault Disposition} (h : Settled d s c token calls handlings r)
    (hm : 0 < s.maxRetryCount) (hfailed : ∃ step ∈ handlings, step.handlerFailed = true)
    (hack : .asked (.call c (.ack d.tag)) (.ok ()) ∈ calls) :
    ∃ (n : UInt32) (a : Except Fault Unit), n.toNat = d.properties.retryCount.toNat + 1 ∧
      .asked (.call c (.publish (d.again s n))) a ∈ calls := by
  obtain ⟨step, hstep, hstepFailed⟩ := hfailed
  cases h with
  | retried hd hm' e p x n hn a => exact ⟨n, a, hn, by simp⟩
  | dropped hd hm' => exact absurd hm' (UInt32.pos_iff_ne_zero.1 hm)
  | unacknowledged => simp at hack
  | handled =>
    obtain rfl := List.mem_singleton.1 hstep
    cases hstepFailed
  | _ => cases hstep

theorem asked_close_of_closed? {step : Step} (h : step.closed? ≠ none) :
    ∃ c x, step = .asked (.call c .close) x := by
  cases step with
  | asked r x =>
    cases r with
    | call c y =>
      cases y with
      | close => exact ⟨c, x, rfl⟩
      | _ => exact absurd rfl h
    | _ => exact absurd rfl h
  | raced => exact absurd rfl h

/-- A step in which a handler failed is one with a handler. -/
theorem toHandler_of_handlerFailed {step : Step} (h : step.handlerFailed = true) : step.request.toHandler = true := by
  cases step with
  | asked r x => cases r <;> first | rfl | cases h
  | raced => cases h

namespace System

/-- Whatever tending a consumer asks for, there is a reply. -/
theorem exists_reply_of_tends {α : Type} {σ : System α} {r : Request} (h : Intake.Tends r) :
    ∃ x, σ.CanReply r x ∧ ∀ y, r.makes? x = some y → y ∉ σ.known := by
  obtain ⟨x, hcan, hnew, -⟩ := σ.exists_reply (r := r) (fun c heq => by rw [heq] at h; exact h) fun tasks heq => by
    rw [heq] at h
    exact h
  exact ⟨x, hcan, hnew⟩

/-- A system with a consumer that is started and disposed of. -/
def disposing (parents : List TokenId) (s : Settings.Consumer) (c : ChannelId) (known : List Thing)
    (cells : (c : Cell) → c.Content) : System Intake :=
  start [Intake.life parents (.idle s c)] [] known cells

section
variable {parents : List TokenId} {s : Settings.Consumer} {c : ChannelId} {known : List Thing}
  {cells : (c : Cell) → c.Content} {σ : System Intake}

/-- What the caller still has to do ends its life. -/
theorem caller_lives (h : (disposing parents s c known cells).Leads σ) :
    ∃ q, σ.callers[0]? = some q ∧ (∀ rest i, q.Reaches rest (.done i) →
      Intake.Lives s c (stepsOf (.caller 0) σ.past ++ rest)) := by
  obtain ⟨q, hq, hreach⟩ := h.caller_reaches (n := 0) rfl rfl
  exact ⟨q, hq, fun rest i hrest => Intake.lives_of_reaches (hreach.trans hrest)⟩

theorem eq_zero_of_caller (h : (disposing parents s c known cells).Leads σ) {n : Nat} {step : Step}
    (hs : .took (.caller n) step ∈ σ.past) : n = 0 := by
  rcases h.actor_of_took rfl hs with ⟨m, p, heq, hm⟩ | ⟨t, -, heq, -⟩
  · cases heq
    have hlt := (List.getElem?_eq_some_iff.1 hm).1
    rw [h.length_callers] at hlt
    exact Nat.lt_one_iff.1 hlt
  · cases heq

/-- The caller's steps are among those of its life. -/
theorem asks_of_caller (h : (disposing parents s c known cells).Leads σ) {step : Step}
    (hs : step ∈ stepsOf (.caller 0) σ.past) :
    Intake.Tends step.request ∨ (∃ ts, step = .asked (.join ts) ()) ∨ ∃ a, step = .asked (.call c .close) a := by
  obtain ⟨q, -, hlives⟩ := caller_lives h
  obtain ⟨rest, i, hrest⟩ := q.exists_reaches_done
  exact (hlives rest i hrest).asks step (List.mem_append_left _ hs)

/-- Once the caller has waited for the tasks that it spawned, all tasks are over. -/
theorem over_of_joined (h : (disposing parents s c known cells).Leads σ) {front rest : List Step}
    (hown : stepsOf (.caller 0) σ.past = front ++ .asked (.join ((spawned front).map (·.2))) () :: rest)
    (hrest : spawned rest = []) {t : TaskId} (ht : t.number < σ.tasks.length) : σ.Over t := by
  refine h.over_of_callers rfl rfl (fun n e he => ?_) ht
  obtain ⟨step, hstep, hspawn⟩ := mem_noted.1 he
  obtain rfl := eq_zero_of_caller h (mem_stepsOf.1 hstep)
  refine h.over_of_awaited rfl (a := .caller 0) (s := .asked (.join ((spawned front).map (·.2))) ()) ?_ ?_
  · rw [← mem_stepsOf, hown]
    simp
  · rw [hown] at he
    have he : e ∈ spawned front := by simpa [hrest, Step.spawn?, Step.done?] using he
    exact List.mem_map_of_mem he

/-- The caller closes its channel in its last step, when all tasks are over. -/
theorem over_of_closing (h : (disposing parents s c known cells).Leads σ) {own : List Step} {c' : ChannelId}
    {x : Except Fault Unit} (hown : stepsOf (.caller 0) σ.past = own ++ [.asked (.call c' .close) x]) :
    c' = c ∧ (∃ front, Intake.Quits s c front ∧ own = front ++ [.asked (.join ((spawned front).map (·.2))) ()]) ∧
      (∃ i, σ.callers[0]? = some (.done i)) ∧ ∀ t : TaskId, t.number < σ.tasks.length → σ.Over t := by
  obtain ⟨q, hq, hlives⟩ := caller_lives h
  obtain ⟨rest, i, hreach⟩ := q.exists_reaches_done
  have hall := hlives rest i hreach
  rw [hown, List.append_assoc, List.singleton_append] at hall
  rcases hall.step_cases with hasks | ⟨-, hjoin⟩ | ⟨front, a, hquits, rfl, hclose, hnil⟩
  · exact hasks.elim
  · cases hjoin
  · cases hclose
    obtain rfl : rest = [] := hnil
    refine ⟨rfl, ⟨front, hquits, rfl⟩, ?_, fun t ht => ?_⟩
    · generalize hnone : ([] : List Step) = steps at hreach
      cases hreach with
      | here => exact ⟨i, hq⟩
      | next => cases hnone
    · rw [List.append_assoc, List.singleton_append] at hown
      exact over_of_joined h hown rfl ht

/-- Whoever asks to close a channel is the caller, and nothing follows. -/
theorem closing_of_disposing (h : (disposing parents s c known cells).Leads σ) {before after : List Happening}
    {a : Actor} {c' : ChannelId} {x : Except Fault Unit}
    (hpast : σ.past = before ++ .took a (.asked (.call c' .close) x) :: after) :
    a = .caller 0 ∧ c' = c ∧
      (∃ front, Intake.Quits s c front ∧
        stepsOf (.caller 0) before = front ++ [.asked (.join ((spawned front).map (·.2))) ()]) ∧
      (∀ e ∈ after, ∃ t, e = .cancelled t) ∧ ∀ t : TaskId, t.number < σ.tasks.length → σ.Over t := by
  have hpast' : σ.past = (disposing parents s c known cells).past ++ before ++
      .took a (.asked (.call c' .close) x) :: after := hpast
  obtain ⟨σ₁, σ₂, h₁, hp₁, hn, h₂⟩ := h.split hpast'
  have hp₁ : σ₁.past = before := hp₁
  have hlead : (disposing parents s c known cells).Leads σ₂ := h₁.next hn
  have hp₂ : σ₂.past = before ++ [.took a (.asked (.call c' .close) x)] := by rw [hn.past, hp₁]
  -- it is no task
  obtain rfl : a = .caller 0 := by
    rcases hlead.actor_of_took rfl (a := a) (s := .asked (.call c' .close) x) (by simp [hp₂]) with
      ⟨n, -, rfl, -⟩ | ⟨t, task, rfl, ht⟩
    · have hmem : .took (.caller n) (.asked (.call c' .close) x) ∈ σ₂.past := by simp [hp₂]
      rw [eq_zero_of_caller hlead hmem]
    · have hmem : .asked (.call c' .close) x ∈ stepsOf (.task t) σ₂.past := mem_stepsOf.2 (by simp [hp₂])
      exact absurd hmem (hlead.not_closing rfl ⟨[], rfl⟩ ht)
  have hown : stepsOf (.caller 0) σ₂.past = stepsOf (.caller 0) before ++ [.asked (.call c' .close) x] := by
    rw [hp₂, stepsOf_append, stepsOf_took_self]
  obtain ⟨rfl, hfront, ⟨i, hi⟩, hover⟩ := over_of_closing hlead hown
  -- nothing is left to do for the caller either
  have hdone : ∀ (n : Nat) (p : Program Intake), σ₂.callers[n]? = some p → ∃ a, p = .done a := by
    intro n p hp
    have hlt := (List.getElem?_eq_some_iff.1 hp).1
    rw [hlead.length_callers] at hlt
    obtain rfl : n = 0 := Nat.lt_one_iff.1 hlt
    exact ⟨i, Option.some.inj (hp.symm.trans hi)⟩
  obtain ⟨-, htasks, after', hafter, hall⟩ := h₂.quiet hdone hover
  have heq : after = after' := by
    rw [hpast, hp₂, List.append_assoc] at hafter
    simpa using hafter
  exact ⟨rfl, rfl, hfront, heq ▸ hall, fun t ht => h₂.over (hover t (htasks ▸ ht))⟩

/-! ### What is settled, and what is put back -/

/-- Each task takes deliveries in, or processes one that was taken in. -/
theorem job_of_disposing (h : (disposing parents s c known cells).Leads σ) {t : TaskId} {task : Task}
    (ht : σ.tasks[t.number]? = some task) :
    (∃ stream token, task.job = .takeIn stream s c token []) ∨
      ∃ u d token, d ∈ delivered (stepsOf (.task u) σ.past) ∧ task.job = .process s c d token := by
  have hcaller : ∀ {n : Nat} {e : Job × TaskId}, e ∈ spawned (stepsOf (.caller n) σ.past) →
      ∃ stream token, e.1 = .takeIn stream s c token [] := by
    intro n e he
    obtain ⟨step, hstep, hspawn⟩ := mem_noted.1 he
    obtain rfl := eq_zero_of_caller h (mem_stepsOf.1 hstep)
    obtain ⟨q, -, hlives⟩ := caller_lives h
    obtain ⟨rest, i, hrest⟩ := q.exists_reaches_done
    exact (hlives rest i hrest).jobs e (by simp [he])
  rcases h.origin rfl rfl ht with ⟨n, hn⟩ | ⟨u, stream, s', c', token, first, state, d, hu, -, hd, hjob⟩
  · exact .inl (hcaller hn)
  · rcases h.origin rfl rfl hu with ⟨n, hn⟩ | ⟨_, _, _, _, _, _, _, _, _, _, _, hjob'⟩
    · obtain ⟨stream', token', heq⟩ := hcaller hn
      cases heq
      exact .inr ⟨u, d, token, hd, hjob⟩
    · cases hjob'

/-- What is settled is a delivery that was taken in, by its own task. -/
theorem taken_of_settled (h : (disposing parents s c known cells).Leads σ) {a : Actor} {step : Step}
    (hs : .took a step ∈ σ.past) {tag : Nat} (htag : step.request.settledTag? = some tag) :
    ∃ t u d token state, a = .task t ∧ σ.tasks[t.number]? = some ⟨.process s c d token, state⟩ ∧
      d ∈ delivered (stepsOf (.task u) σ.past) ∧ tag = d.tag := by
  rcases h.actor_of_took rfl hs with ⟨n, -, rfl, -⟩ | ⟨t, ⟨j, state⟩, rfl, ht⟩
  · obtain rfl := eq_zero_of_caller h hs
    rcases asks_of_caller h (mem_stepsOf.2 hs) with hasks | ⟨ts, rfl⟩ | ⟨a, rfl⟩
    · cases hr : step.request with
      | call c' x => cases x <;> rw [hr] at hasks htag <;> first | exact hasks.elim | cases htag
      | _ => rw [hr] at htag; cases htag
    · cases htag
    · cases htag
  · have hasks := h.asks_of_task rfl ⟨[], rfl⟩ ht (mem_stepsOf.2 hs)
    rcases job_of_disposing h ht with ⟨stream, token, hjob⟩ | ⟨u, d, token, hd, hjob⟩ <;>
      obtain rfl : j = _ := hjob
    · cases hr : step.request <;> rw [hr] at hasks htag <;> first | exact hasks.elim | cases htag
    · exact ⟨t, u, d, token, state, rfl, ht, hd, Delivery.tag_of_asks hasks htag⟩

/-- A delivery whose task is over, whose handler failed and which was acknowledged has been put back, where the settings
allow another attempt. -/
theorem put_back_of_over {α : Type} {σ₀ σ : System α} (h : σ₀.Leads σ) (h₀ : σ₀.past = [])
    (hjobs : ∃ jobs : List Job, σ₀.tasks = jobs.map .spawned) {t : TaskId} {d : Delivery} {s : Settings.Consumer}
    {c : ChannelId} {token : TokenId} {state : TaskState}
    (ht : σ.tasks[t.number]? = some ⟨.process s c d token, state⟩) (ho : σ.Over t) (hm : 0 < s.maxRetryCount)
    (hfailed : ∃ step ∈ stepsOf (.task t) σ.past, step.handlerFailed = true)
    (hack : .asked (.call c (.ack d.tag)) (.ok ()) ∈ stepsOf (.task t) σ.past) :
    ∃ (n : UInt32) (a : Except Fault Unit), n.toNat = d.properties.retryCount.toNat + 1 ∧
      .asked (.call c (.publish (d.again s n))) a ∈ stepsOf (.task t) σ.past := by
  have hstands : Processes d s c token (stepsOf (.task t) σ.past) state := h.task_stands h₀ hjobs ht
  obtain ⟨task, htask, hover⟩ := ho
  obtain rfl := Option.some.inj (ht.symm.trans htask)
  generalize stepsOf (.task t) σ.past = own at hstands hfailed hack
  cases hstands with
  | busy => exact absurd rfl (hover _)
  | broken => cases hack
  | ended hreach =>
    obtain ⟨step, hstep, hfailed⟩ := hfailed
    obtain ⟨n, a, hn, hmem⟩ := (Delivery.settled_of_reaches d s c token hreach).put_back hm
      ⟨step, List.mem_filter.2 ⟨hstep, toHandler_of_handlerFailed hfailed⟩, hfailed⟩ (List.mem_filter.2 ⟨hack, rfl⟩)
    exact ⟨n, a, hn, (List.mem_filter.1 hmem).1⟩

/-! ### The end of a life -/

/-- A disposal that has returned has closed the channel. -/
theorem closed_of_done (h : (disposing parents s c known cells).Leads σ) {i : Intake}
    (hdone : σ.callers[0]? = some (.done i)) : ∃ x, .took (.caller 0) (.asked (.call c .close) x) ∈ σ.past := by
  obtain ⟨q, hq, hlives⟩ := caller_lives h
  obtain rfl := Option.some.inj (hq.symm.trans hdone)
  have hown := hlives [] i (.here _)
  rw [List.append_nil] at hown
  generalize hsteps : stepsOf (.caller 0) σ.past = own at hown
  cases hown with
  | intro _ a => exact ⟨a, mem_stepsOf.1 (by rw [hsteps]; simp)⟩

/-- Until the channel is closed, the caller or a task can go on. -/
theorem exists_next_of_disposing (h : (disposing parents s c known cells).Leads σ) :
    (∃ x, .took (.caller 0) (.asked (.call c .close) x) ∈ σ.past) ∨ ∃ a step σ', σ.Next (.took a step) σ' := by
  obtain ⟨q, hq, hlives⟩ := caller_lives h
  cases q with
  | done i => exact .inl (closed_of_done h hq)
  | ask r k =>
    right
    obtain ⟨rest, i, hrest⟩ := (k r.plainReply).exists_reaches_done
    rcases (hlives _ i (.next (.asked r k _) hrest)).step_cases with hasks | ⟨hquits, hjoin⟩ | ⟨front, a, -, -, hclose, -⟩
    · obtain ⟨x, hcan, hnew⟩ := exists_reply_of_tends (σ := σ) hasks
      exact ⟨_, _, _, .caller hq (.asked r k x) (.asked hcan hnew)⟩
    · cases hjoin
      by_cases hall : ∀ t ∈ (spawned (stepsOf (.caller 0) σ.past)).map (·.2), σ.Over t
      · exact ⟨_, _, _, .caller hq (.asked _ k ()) (.asked (r := .join _) hall (nothing_new rfl))⟩
      · -- a task that takes deliveries in is not over yet
        simp only [List.forall_mem_map, not_forall] at hall
        obtain ⟨e, he, hover⟩ := hall
        obtain ⟨stream, token, hjob⟩ := hquits.jobs e he
        obtain ⟨step, hstep, hspawn⟩ := mem_noted.1 he
        obtain ⟨state, hstate⟩ := h.task_of_spawn (j := e.1) (t := e.2) rfl (mem_stepsOf.1 hstep) hspawn
        rw [hjob] at hstate
        exact h.exists_next_of_not_over rfl ⟨[], rfl⟩ hstate hover
    · cases hclose
      exact ⟨_, _, _, .caller hq (.asked _ k (.ok ())) (.asked (r := .call c .close) trivial (nothing_new rfl))⟩
  | race t r k =>
    right
    obtain ⟨rest, i, hrest⟩ := (k none).exists_reaches_done
    rcases (hlives _ i (.next (.raced t r k none) hrest)).step_cases with hasks | ⟨-, hjoin⟩ | ⟨front, a, -, -, hclose, -⟩
    · obtain ⟨x, hcan, hnew⟩ := exists_reply_of_tends (σ := σ) hasks
      exact ⟨_, _, _, .caller hq (.raced t r k (some x)) (.raced hcan hnew)⟩
    · cases hjoin
    · cases hclose

/-- However a consumer's start went and whatever its tasks are doing when it is disposed of, the channel is closed once
and nothing follows: by then each subscription was cancelled, all tasks are over, and each delivery whose handler failed
and which was acknowledged has been put back, where the settings allow another attempt. A delivery that was not taken
in is not settled. A disposal that has returned has closed the channel, and as long as the channel is not closed,
somebody can go on. -/
theorem disposal_loses_no_retry (h : (disposing parents s c known cells).Leads σ) :
    (∀ a step tag, .took a step ∈ σ.past → step.request.settledTag? = some tag →
      ∃ t u d token state, a = .task t ∧ σ.tasks[t.number]? = some ⟨.process s c d token, state⟩ ∧
        d ∈ delivered (stepsOf (.task u) σ.past) ∧ tag = d.tag) ∧
    (∀ before a c' x after, σ.past = before ++ .took a (.asked (.call c' .close) x) :: after →
      a = .caller 0 ∧ c' = c ∧
      unsubscribed (stepsOf (.caller 0) before) = subscribed (stepsOf (.caller 0) before) ∧
      (∀ b step, .took b step ∈ before → step.closed? = none) ∧
      (∀ e ∈ after, ∃ t, e = .cancelled t) ∧
      (∀ t : TaskId, t.number < σ.tasks.length → σ.Over t) ∧
      ∀ t s' c' d token state, σ.tasks[t.number]? = some ⟨.process s' c' d token, state⟩ → 0 < s'.maxRetryCount →
        (∃ step ∈ stepsOf (.task t) before, step.handlerFailed = true) →
        .asked (.call c' (.ack d.tag)) (.ok ()) ∈ stepsOf (.task t) before →
        ∃ (n : UInt32) (x : Except Fault Unit), n.toNat = d.properties.retryCount.toNat + 1 ∧
          .asked (.call c' (.publish (d.again s' n))) x ∈ stepsOf (.task t) before) ∧
    (∀ i, σ.callers[0]? = some (.done i) → ∃ x, .took (.caller 0) (.asked (.call c .close) x) ∈ σ.past) ∧
    ((∃ x, .took (.caller 0) (.asked (.call c .close) x) ∈ σ.past) ∨ ∃ a step σ', σ.Next (.took a step) σ') := by
  refine ⟨fun a step tag hs htag => taken_of_settled h hs htag, ?_, fun i => closed_of_done h,
    exists_next_of_disposing h⟩
  intro before a c' x after hpast
  obtain ⟨rfl, rfl, ⟨front, hquits, hown⟩, hafter, hover⟩ := closing_of_disposing h hpast
  refine ⟨rfl, rfl, ?_, fun b step hs => ?_, hafter, hover, ?_⟩
  · rw [hown]
    simp [hquits.cancels, Step.unsubscribed?, Step.subscribed?]
  · -- an earlier closing would have had nothing after it
    by_contra hne
    obtain ⟨c'', y, rfl⟩ := asked_close_of_closed? hne
    obtain ⟨before', after', rfl⟩ := List.append_of_mem hs
    rw [List.append_assoc, List.cons_append] at hpast
    obtain ⟨-, -, -, hnone, -⟩ := closing_of_disposing h hpast
    obtain ⟨t, ht⟩ := hnone (.took (.caller 0) (.asked (.call c' .close) x)) (by simp)
    cases ht
  · intro t s' c' d token state ht hm hfailed hack
    -- the task's steps are all before the closing
    have hsteps : stepsOf (.task t) σ.past = stepsOf (.task t) before := by
      have hnone : stepsOf (.task t) after = [] :=
        List.filterMap_eq_nil_iff.2 fun e he => by obtain ⟨u, rfl⟩ := hafter e he; rfl
      rw [hpast, ← List.singleton_append, stepsOf_append, stepsOf_append, hnone, stepsOf_took_ne _ (by simp)]
      simp
    rw [← hsteps] at hfailed hack ⊢
    exact put_back_of_over h rfl ⟨[], rfl⟩ ht (hover t (List.getElem?_eq_some_iff.1 ht).1) hm hfailed hack

end

end System

namespace Sample

/-- A run in which a consumer cannot subscribe to its second queue and is disposed of while the handler of an order
fails. The order is acknowledged and put back, without its report and without a delay. -/
def strandedRun : List Happening :=
  let s := (warehouse 3).settings
  let call (a : Actor) (x : Call) (r : Except Fault Unit) : Happening := .took a (.asked (.call ⟨0⟩ x) r)
  [.took (.caller 0) (.asked (.childToken ⟨0⟩) ⟨1⟩), call (.caller 0) (.setPrefetch 10) (.ok ()),
    .took (.caller 0) (.asked .freshId "a"),
    .took (.caller 0) (.asked (.consume ⟨0⟩ "warehouse" "warehouse-a") (.ok ⟨0⟩)),
    .took (.caller 0) (.asked (.spawn (.takeIn ⟨0⟩ s ⟨0⟩ ⟨1⟩ [])) ⟨0⟩),
    call (.caller 0) (.setPrefetch 10) (.error (.connection "gone")),
    .took (.task ⟨0⟩) (.asked (.arrival ⟨0⟩ ⟨1⟩ []) (.delivery (order 0))),
    .took (.task ⟨0⟩) (.asked (.spawn (.process s ⟨0⟩ (order 0) ⟨1⟩)) ⟨1⟩),
    call (.caller 0) (.cancel "warehouse-a") (.ok ()),
    .took (.task ⟨1⟩) (.asked (.handle orders (.object [("id", .number 1)]) ⟨1⟩)
      (.error ⟨⟨"reservation failed", ""⟩, []⟩)),
    .took (.caller 0) (.asked (.cancel ⟨1⟩) ()), .took (.task ⟨0⟩) (.asked (.arrival ⟨0⟩ ⟨1⟩ [⟨1⟩]) .cancelled),
    .took (.task ⟨1⟩) (.asked .freshId "b"), .took (.task ⟨1⟩) (.asked .traceContext []),
    .took (.task ⟨1⟩) (.raced ⟨1⟩ (.call ⟨0⟩ (.publish (Delivery.reportOf s ⟨⟨"reservation failed", ""⟩, []⟩
      (.persistentOf Report.typeName "b")))) none),
    call (.task ⟨1⟩) (.ack 7) (.ok ()), .took (.task ⟨1⟩) (.raced ⟨1⟩ (.sleep (.ofMillis 5)) none),
    call (.task ⟨1⟩) (.publish ((order 0).again s 1)) (.ok ()),
    .took (.task ⟨1⟩) (.asked (.span ⟨"orders.OrderPlaced", .empty, none⟩) ()),
    .took (.task ⟨0⟩) (.asked (.join [⟨1⟩]) ()), .took (.task ⟨0⟩) (.asked (.leave ⟨0⟩) ()),
    .took (.caller 0) (.asked (.join [⟨0⟩]) ())]

end Sample

open Sample in
theorem System.leads_strandedRun :
    ∃ σ : System Intake, (disposing [⟨0⟩] (warehouse 3).settings ⟨0⟩ [.token ⟨0⟩] Cell.initial).Leads σ ∧
      σ.past = strandedRun ++ [.took (.caller 0) (.asked (.call ⟨0⟩ .close) (.error (.connection "gone")))] ∧
      σ.tasks[1]? = some ⟨.process (warehouse 3).settings ⟨0⟩ (order 0) ⟨1⟩, .ended⟩ := by
  have hcancelled : ∀ {τ : System Intake}, .took (.caller 0) (.asked (.cancel ⟨1⟩) ()) ∈ τ.past →
      Cancelled τ.past ⟨1⟩ := fun h => .requested h rfl
  have h₀ : (disposing [⟨0⟩] (warehouse 3).settings ⟨0⟩ [.token ⟨0⟩] Cell.initial).Leads _ := .refl
  have h₁ := h₀.next (.called (n := 0) (r := .childToken ⟨0⟩) ⟨1⟩ rfl trivial fun y hy => by cases hy; decide)
  have h₂ := h₁.next (.called (n := 0) (r := .call ⟨0⟩ (.setPrefetch 10)) (.ok ()) rfl trivial (nothing_new rfl))
  have h₃ := h₂.next (.called (n := 0) (r := .freshId) "a" rfl trivial fun y hy => by cases hy; decide)
  have h₄ := h₃.next (.called (n := 0) (r := .consume ⟨0⟩ "warehouse" "warehouse-a") (.ok ⟨0⟩) rfl trivial
    fun y hy => by cases hy; decide)
  have h₅ := h₄.next (.called (n := 0) (r := .spawn (.takeIn ⟨0⟩ (warehouse 3).settings ⟨0⟩ ⟨1⟩ [])) ⟨0⟩ rfl rfl
    (nothing_new rfl))
  have h₆ := h₅.next (.called (n := 0) (r := .call ⟨0⟩ (.setPrefetch 10)) (.error (.connection "gone")) rfl trivial
    (nothing_new rfl))
  have h₇ := h₆.next (.asked (t := ⟨0⟩) (r := .arrival ⟨0⟩ ⟨1⟩ []) (.delivery (order 0)) rfl trivial (nothing_new rfl))
  have h₈ := h₇.next
    (.asked (t := ⟨0⟩) (r := .spawn (.process (warehouse 3).settings ⟨0⟩ (order 0) ⟨1⟩)) ⟨1⟩ rfl rfl (nothing_new rfl))
  have h₉ := h₈.next
    (.called (n := 0) (r := .call ⟨0⟩ (.cancel "warehouse-a")) (.ok ()) rfl trivial (nothing_new rfl))
  have h₁₀ := h₉.next (.asked (t := ⟨1⟩) (r := .handle orders (.object [("id", .number 1)]) ⟨1⟩)
    (.error ⟨⟨"reservation failed", ""⟩, []⟩) rfl trivial (nothing_new rfl))
  have h₁₁ := h₁₀.next (.called (n := 0) (r := .cancel ⟨1⟩) () rfl trivial (nothing_new rfl))
  have h₁₂ := h₁₁.next (.asked (t := ⟨0⟩) (r := .arrival ⟨0⟩ ⟨1⟩ [⟨1⟩]) .cancelled rfl
    (hcancelled (by simp [record])) (nothing_new rfl))
  have h₁₃ := h₁₂.next (.asked (t := ⟨1⟩) (r := .freshId) "b" rfl trivial fun y hy => by cases hy; decide)
  have h₁₄ := h₁₃.next (.asked (t := ⟨1⟩) (r := .traceContext) [] rfl trivial (nothing_new rfl))
  have h₁₅ := h₁₄.next (.task (t := ⟨1⟩) rfl (.raced ⟨1⟩ (.call ⟨0⟩ (.publish _)) _ none)
    (.lost_of_cancelled (hcancelled (by simp [record])) _))
  have h₁₆ := h₁₅.next (.asked (t := ⟨1⟩) (r := .call ⟨0⟩ (.ack 7)) (.ok ()) rfl trivial (nothing_new rfl))
  have h₁₇ := h₁₆.next (.task (t := ⟨1⟩) rfl (.raced ⟨1⟩ (.sleep (.ofMillis 5)) _ none)
    (.lost_of_cancelled (hcancelled (by simp [record])) _))
  have h₁₈ := h₁₇.next (.asked (t := ⟨1⟩) (r := .call ⟨0⟩ (.publish ((order 0).again (warehouse 3).settings 1)))
    (.ok ()) rfl trivial (nothing_new rfl))
  have h₁₉ := h₁₈.next (.asked (t := ⟨1⟩) (r := .span _) () rfl trivial (nothing_new rfl))
  have h₂₀ := h₁₉.next (.asked (t := ⟨0⟩) (r := .join [⟨1⟩]) () rfl
    (List.forall_mem_singleton.2 ⟨_, rfl, Task.isOver_ended _⟩) (nothing_new rfl))
  have h₂₁ := h₂₀.next (.asked (t := ⟨0⟩) (r := .leave ⟨0⟩) () rfl trivial (nothing_new rfl))
  have h₂₂ := h₂₁.next (.called (n := 0) (r := .join [⟨0⟩]) () rfl
    (List.forall_mem_singleton.2 ⟨_, rfl, Task.isOver_ended _⟩) (nothing_new rfl))
  have h₂₃ := h₂₂.next (.called (n := 0) (r := .call ⟨0⟩ .close) (.error (.connection "gone")) rfl trivial
    (nothing_new rfl))
  exact ⟨_, h₂₃, rfl, rfl⟩

open Sample in
/-- In that run the order is back in the retry queue before the channel is closed. -/
theorem System.stranded_order_put_back :
    ∃ σ : System Intake, (disposing [⟨0⟩] (warehouse 3).settings ⟨0⟩ [.token ⟨0⟩] Cell.initial).Leads σ ∧
      σ.past = strandedRun ++ [.took (.caller 0) (.asked (.call ⟨0⟩ .close) (.error (.connection "gone")))] ∧
      unsubscribed (stepsOf (.caller 0) strandedRun) = subscribed (stepsOf (.caller 0) strandedRun) ∧
      ∃ (n : UInt32) (x : Except Fault Unit), n.toNat = 1 ∧
        .asked (.call ⟨0⟩ (.publish ((order 0).again (warehouse 3).settings n))) x ∈
          stepsOf (.task ⟨1⟩) strandedRun := by
  obtain ⟨σ, h, hpast, htask⟩ := leads_strandedRun
  obtain ⟨-, -, hcancels, -, -, -, hback⟩ := (disposal_loses_no_retry h).2.1 _ _ _ _ _ hpast
  exact ⟨σ, h, hpast, hcancels, hback ⟨1⟩ _ _ _ _ _ htask (by decide)
    ⟨_, mem_stepsOf.2 (List.mem_of_getElem? (i := 9) rfl), rfl⟩ (mem_stepsOf.2 (List.mem_of_getElem? (i := 15) rfl))⟩

end MessageBus
