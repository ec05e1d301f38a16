import MessageBus.Proofs.Delivery.Alone
import MessageBus.Proofs.Program.Interleaving
/-!
# The tasks of a consumer

A task that takes deliveries in goes from turn to turn (`TookIn`): it gives each delivery to a task of its own, passes
over faults, and forgets the tasks that have ended. After the last turn it waits for those that are left (`TakesIn`). A
task that processes a delivery does what `Delivery.process` does (`Processes`); a handler that breaks off does so before
anything was asked of the broker.

`System.Leads.task_stands` says this of every task in every interleaving, and `System.Leads.over_spawned` follows: once
a task that takes deliveries in has ended, so have all the tasks that it spawned.
-/

namespace MessageBus

namespace Arrival

/-- Whether nothing is taken in after it. -/
def isLast : Arrival → Bool
  | ended | cancelled => true
  | _ => false

end Arrival

namespace Step

/-- The delivery that the step brought. -/
def delivery? : Step → Option Delivery
  | asked (.arrival _ _ _) (.delivery d) => some d
  | _ => none

end Step

/-- The deliveries that some steps brought. -/
abbrev delivered (steps : List Step) : List Delivery := noted Step.delivery? steps

/-! ## Taking in -/

theorem Job.takeInOnce_eq (stream : StreamId) (s : Settings.Consumer) (c : ChannelId) (token : TokenId)
    (inFlight : List TaskId) :
    Job.takeInOnce stream s c token inFlight = .ask (.arrival stream token inFlight) fun
      | .delivery d => .ask (.spawn (.process s c d token)) fun t =>
        .done (some (.takeIn stream s c token (inFlight ++ [t])))
      | .fault _ => .done (some (.takeIn stream s c token inFlight))
      | .finished t => .done (some (.takeIn stream s c token (inFlight.erase t)))
      | .ended | .cancelled => .ask (.join inFlight) fun _ => .ask (.leave stream) fun _ => .done none := by
  refine congrArg (Program.ask _) (funext fun x => ?_)
  cases x <;> rfl

section
variable (stream : StreamId) (s : Settings.Consumer) (c : ChannelId) (token : TokenId) (first : List TaskId)

/-- The turns of a task that takes deliveries in: what it did in them, and the tasks that it waits for after them. -/
inductive TookIn : List Step → List TaskId → Prop
  | start : TookIn [] first
  | delivery {own : List Step} {inFlight : List TaskId} (h : TookIn own inFlight) (d : Delivery) (t : TaskId) :
      TookIn (own ++ [.asked (.arrival stream token inFlight) (.delivery d), .asked (.spawn (.process s c d token)) t])
        (inFlight ++ [t])
  | fault {own : List Step} {inFlight : List TaskId} (h : TookIn own inFlight) (f : Fault) :
      TookIn (own ++ [.asked (.arrival stream token inFlight) (.fault f)]) inFlight
  | finished {own : List Step} {inFlight : List TaskId} (h : TookIn own inFlight) {t : TaskId} (ht : t ∈ inFlight) :
      TookIn (own ++ [.asked (.arrival stream token inFlight) (.finished t)]) (inFlight.erase t)

/-- How a task that takes deliveries in stands after its own steps. -/
inductive TakesIn : List Step → TaskState → Prop
  | waiting {own : List Step} {inFlight : List TaskId} (h : TookIn stream s c token first own inFlight) :
      TakesIn own (.busy (Job.takeInOnce stream s c token inFlight))
  | taking {own : List Step} {inFlight : List TaskId} (h : TookIn stream s c token first own inFlight) (d : Delivery) :
      TakesIn (own ++ [.asked (.arrival stream token inFlight) (.delivery d)])
        (.busy (.ask (.spawn (.process s c d token)) fun t => .done (some (.takeIn stream s c token (inFlight ++ [t])))))
  | draining {own : List Step} {inFlight : List TaskId} (h : TookIn stream s c token first own inFlight) {x : Arrival}
      (hx : x.isLast = true) :
      TakesIn (own ++ [.asked (.arrival stream token inFlight) x])
        (.busy (.ask (.join inFlight) fun _ => .ask (.leave stream) fun _ => .done none))
  | leaving {own : List Step} {inFlight : List TaskId} (h : TookIn stream s c token first own inFlight) {x : Arrival}
      (hx : x.isLast = true) :
      TakesIn (own ++ [.asked (.arrival stream token inFlight) x, .asked (.join inFlight) ()])
        (.busy (.ask (.leave stream) fun _ => .done none))
  | ended {own : List Step} {inFlight : List TaskId} (h : TookIn stream s c token first own inFlight) {x : Arrival}
      (hx : x.isLast = true) :
      TakesIn (own ++ [.asked (.arrival stream token inFlight) x, .asked (.join inFlight) (),
        .asked (.leave stream) ()]) .ended

end

namespace TookIn

variable {stream : StreamId} {s : Settings.Consumer} {c : ChannelId} {token : TokenId} {first : List TaskId}
  {own : List Step} {inFlight : List TaskId}

/-- Each delivery has a task of its own, in the order in which they came. -/
theorem jobs_spawned (h : TookIn stream s c token first own inFlight) :
    (spawned own).map (·.1) = (delivered own).map fun d => .process s c d token := by
  induction h with
  | start => rfl
  | delivery h d t ih => simp [ih, Step.spawn?, Step.done?, Step.delivery?]
  | fault h f ih => simpa [Step.spawn?, Step.done?, Step.delivery?] using ih
  | finished h ht ih => simpa [Step.spawn?, Step.done?, Step.delivery?] using ih

/-- No task is lost sight of: it is waited for until its end is known. -/
theorem inFlight_or_awaited (h : TookIn stream s c token first own inFlight) {e : Job × TaskId}
    (he : e ∈ spawned own) : e.2 ∈ inFlight ∨ e.2 ∈ awaited own := by
  induction h with
  | start => simp at he
  | @delivery own inFlight h d t ih =>
    have he : e ∈ spawned own ∨ e = (.process s c d token, t) := by simpa [Step.spawn?, Step.done?] using he
    rcases he with he | rfl
    · exact (ih he).imp (List.mem_append_left _) fun hout => by simp [hout]
    · exact .inl (by simp)
  | @fault own inFlight h f ih =>
    have he : e ∈ spawned own := by simpa [Step.spawn?, Step.done?] using he
    exact (ih he).imp_right fun hout => by simp [hout]
  | @finished own inFlight h t ht ih =>
    have he : e ∈ spawned own := by simpa [Step.spawn?, Step.done?] using he
    rcases ih he with hin | hout
    · by_cases heq : e.2 = t
      · exact .inr (by simp [Step.awaited, Step.done?, Request.awaits, heq])
      · exact .inl ((List.mem_erase_of_ne heq).2 hin)
    · exact .inr (by simp [hout])

/-- Only its own tasks are waited for. -/
theorem of_inFlight (h : TookIn stream s c token first own inFlight) {t : TaskId} (ht : t ∈ inFlight) :
    t ∈ first ∨ ∃ j, (j, t) ∈ spawned own := by
  induction h with
  | start => exact .inl ht
  | @delivery own inFlight h d u ih =>
    rcases List.mem_append.1 ht with ht | ht
    · exact (ih ht).imp_right fun ⟨j, hj⟩ => ⟨j, by simp [hj]⟩
    · obtain rfl := List.mem_singleton.1 ht
      exact .inr ⟨.process s c d token, by simp [Step.spawn?, Step.done?]⟩
  | fault h f ih => exact (ih ht).imp_right fun ⟨j, hj⟩ => ⟨j, by simp [hj]⟩
  | finished h hu ih => exact (ih (List.mem_of_mem_erase ht)).imp_right fun ⟨j, hj⟩ => ⟨j, by simp [hj]⟩

/-- What a task that takes deliveries in asks for. -/
def Asks : Request → Prop
  | .arrival _ _ _ | .spawn _ | .join _ | .leave _ => True
  | _ => False

theorem asks (h : TookIn stream s c token first own inFlight) : ∀ step ∈ own, Asks step.request := by
  induction h with
  | start => simp
  | delivery h d t ih | fault h f ih | finished h ht ih => simpa [or_imp, forall_and, Step.request, Asks] using ih

end TookIn

namespace TakesIn

variable {stream : StreamId} {s : Settings.Consumer} {c : ChannelId} {token : TokenId} {first : List TaskId}
  {own : List Step} {state : TaskState}

theorem takes {α : Type} {p q : Program (Option Job)} {step : Step}
    (h : TakesIn stream s c token first own (.busy p)) (ht : p.Takes step q) (ha : ∃ τ : System α, τ.Admits step) :
    TakesIn stream s c token first (own ++ [step]) (.after q) := by
  cases h with
  | waiting h =>
    cases ht with
    | asked _ _ x =>
      cases x with
      | delivery d => exact .taking h d
      | fault f => exact .waiting (h.fault f)
      | finished t =>
        obtain ⟨τ, hτ⟩ := ha
        exact .waiting (h.finished (hτ.reply _ _ rfl).1)
      | ended | cancelled => exact .draining h rfl
  | taking h d =>
    cases ht with
    | asked _ _ t =>
      rw [List.append_assoc]
      exact .waiting (h.delivery d t)
  | draining h hx =>
    cases ht
    rw [List.append_assoc]
    exact .leaving h hx
  | leaving h hx =>
    cases ht
    rw [List.append_assoc]
    exact .ended h hx

theorem not_handling {subscription : Settings.Subscription} {message : Json} {t : TokenId}
    {k : Except HandlerError Unit → Program (Option Job)} :
    ¬TakesIn stream s c token first own (.busy (.ask (.handle subscription message t) k)) := by
  intro h
  generalize hp : TaskState.busy (.ask (.handle subscription message t) k) = state at h
  cases h <;> cases hp

/-- Each delivery has a task of its own, but for the one that is being taken in. -/
theorem jobs_spawned (h : TakesIn stream s c token first own state) :
    ∃ pending, (delivered own).map (fun d => .process s c d token) = (spawned own).map (·.1) ++ pending ∧
      pending.length ≤ 1 ∧ (state = .ended → pending = []) := by
  have hlast : ∀ inFlight (x : Arrival), x.isLast = true →
      (Step.asked (.arrival stream token inFlight) x).delivery? = none := by
    intro inFlight x hx
    cases x with
    | ended | cancelled => rfl
    | _ => cases hx
  have hjoin : ∀ inFlight, (Step.asked (.join inFlight) ()).delivery? = none := fun _ => rfl
  have hleave : (Step.asked (.leave stream) ()).delivery? = none := rfl
  cases h with
  | waiting h => exact ⟨[], by simp [h.jobs_spawned], by simp, nofun⟩
  | taking h d =>
    exact ⟨[.process s c d token], by simp [h.jobs_spawned, Step.spawn?, Step.done?, Step.delivery?], by simp, nofun⟩
  | draining h hx =>
    exact ⟨[], by simp [h.jobs_spawned, Step.spawn?, Step.done?, hlast _ _ hx], by simp, fun _ => rfl⟩
  | leaving h hx =>
    exact ⟨[], by simp [h.jobs_spawned, Step.spawn?, Step.done?, hlast _ _ hx, hjoin], by simp, fun _ => rfl⟩
  | ended h hx =>
    exact ⟨[], by simp [h.jobs_spawned, Step.spawn?, Step.done?, hlast _ _ hx, hjoin, hleave], by simp, fun _ => rfl⟩

theorem asks (h : TakesIn stream s c token first own state) : ∀ step ∈ own, TookIn.Asks step.request := by
  cases h with
  | waiting h => exact h.asks
  | taking h | draining h | leaving h | ended h =>
    simpa [or_imp, forall_and, Step.request, TookIn.Asks] using h.asks

theorem job_of_spawned (h : TakesIn stream s c token first own state) {e : Job × TaskId} (he : e ∈ spawned own) :
    ∃ d ∈ delivered own, e.1 = .process s c d token := by
  obtain ⟨pending, hpending, -⟩ := h.jobs_spawned
  have hmem : e.1 ∈ (delivered own).map fun d => .process s c d token :=
    hpending ▸ List.mem_append_left _ (List.mem_map_of_mem he)
  obtain ⟨d, hd, heq⟩ := List.mem_map.1 hmem
  exact ⟨d, hd, heq.symm⟩

theorem not_broken : ¬TakesIn stream s c token first own .broken := nofun

/-- When it has ended, the end of every task that it spawned is known. -/
theorem awaited_of_ended (h : TakesIn stream s c token first own .ended) {e : Job × TaskId} (he : e ∈ spawned own) :
    e.2 ∈ awaited own := by
  cases h with
  | ended h hx =>
    have he := h.inFlight_or_awaited (by simpa [Step.spawn?, Step.done?] using he)
    rcases he with hin | hout
    · simp [Step.awaited, Step.done?, Request.awaits, hin]
    · simp [hout]

end TakesIn

/-! ## Processing -/

/-- How a task that processes a delivery stands after its own steps. -/
inductive Processes (d : Delivery) (s : Settings.Consumer) (c : ChannelId) (token : TokenId) :
    List Step → TaskState → Prop
  | busy {own : List Step} {p : Program (Except Fault Disposition)} (h : (d.process s c token).Reaches own p)
      (hp : ∀ r, p ≠ .done r) : Processes d s c token own (.busy (p >>= fun _ => .done none))
  | ended {own : List Step} {r : Except Fault Disposition} (h : (d.process s c token).Reaches own (.done r)) :
      Processes d s c token own .ended
  | broken {subscription : Settings.Subscription} {message : Json} (h : d.Handles s subscription message) :
      Processes d s c token [] .broken

namespace Processes

variable {d : Delivery} {s : Settings.Consumer} {c : ChannelId} {token : TokenId} {own : List Step} {state : TaskState}

theorem start : Processes d s c token [] (.busy (Job.process s c d token).program) := by
  refine .busy (.here _) fun r hr => ?_
  -- the span of the trace is still to come
  have h : (d.process s c token).Reaches [] (.done r) := hr ▸ .here _
  rw [Delivery.process] at h
  obtain ⟨first, x, second, hnil, -, hsecond⟩ := h.bind_done
  obtain ⟨y, rest, hrest, -⟩ := hsecond.of_request_bind
  simp [hrest] at hnil

theorem takes {p q : Program (Option Job)} {step : Step} (h : Processes d s c token own (.busy p))
    (ht : p.Takes step q) : Processes d s c token (own ++ [step]) (.after q) := by
  cases h with
  | @busy _ p' h hp =>
    obtain ⟨p'', ht', rfl⟩ := ht.of_bind.resolve_left fun ⟨r, hr⟩ => hp r hr
    have h' := h.concat ht'
    cases p'' with
    | done r => exact .ended h'
    | ask r k => exact .busy h' (by simp)
    | race t r k => exact .busy h' (by simp)

theorem breaks {subscription : Settings.Subscription} {message : Json} {t : TokenId}
    {k : Except HandlerError Unit → Program (Option Job)}
    (h : Processes d s c token own (.busy (.ask (.handle subscription message t) k))) :
    Processes d s c token own .broken := by
  generalize hst : TaskState.busy (.ask (.handle subscription message t) k) = state at h
  cases h with
  | @busy _ p h hp =>
    injection hst with hst
    cases p with
    | ask r k' =>
      injection hst with hr hk
      subst hr
      obtain ⟨rfl, hh⟩ := Delivery.of_reaches_handle d s c token h
      exact .broken hh
    | _ => cases hst
  | _ => cases hst

/-- However it stands, it has done what it does alone. -/
theorem reaches (h : Processes d s c token own state) : ∃ p, (d.process s c token).Reaches own p := by
  cases h with
  | busy h hp => exact ⟨_, h⟩
  | ended h => exact ⟨_, h⟩
  | broken h => exact ⟨_, .here _⟩

theorem asks (h : Processes d s c token own state) :
    ∀ step ∈ own, step.request.toHandler = true ∨ d.Asks c step.request := by
  obtain ⟨p, hp⟩ := h.reaches
  exact ((d.only_process s c token).reaches hp).1

end Processes

/-- Processing a delivery spawns nothing. -/
theorem System.spawn?_of_processing {d : Delivery} {c : ChannelId} {step : Step}
    (h : step.request.toHandler = true ∨ d.Asks c step.request) : step.spawn? = none := by
  rw [Option.eq_none_iff_forall_ne_some]
  intro e he
  rw [request_of_done? (done?_of_spawn? he)] at h
  exact h.elim Bool.false_ne_true id

/-! ## Every task -/

/-- How a task that cancels a token after a while stands after its own steps. -/
inductive CancelsLater (d : Duration) (token : TokenId) : List Step → TaskState → Prop
  | waiting : CancelsLater d token [] (.busy (.ask (.sleep d) fun _ => .ask (.cancel token) fun _ => .done none))
  | due : CancelsLater d token [.asked (.sleep d) ()] (.busy (.ask (.cancel token) fun _ => .done none))
  | ended : CancelsLater d token [.asked (.sleep d) (), .asked (.cancel token) ()] .ended

/-- How a task with the job stands after its own steps. -/
def Job.Stands : Job → List Step → TaskState → Prop
  | .process s c d token => Processes d s c token
  | .takeIn stream s c token inFlight => TakesIn stream s c token inFlight
  | .cancelAfter d token => CancelsLater d token

/-- What a task with the job asks for. -/
def Job.Asks : Job → Request → Prop
  | .process _ c d _, r => r.toHandler = true ∨ d.Asks c r
  | .takeIn _ _ _ _ _, r => TookIn.Asks r
  | .cancelAfter d token, r => r = .sleep d ∨ r = .cancel token

namespace System.Leads

variable {α : Type} {σ₀ σ : System α}

/-- In every interleaving, each task stands as its own steps have brought it. -/
theorem task_stands (h : σ₀.Leads σ) (h₀ : σ₀.past = []) (hjobs : ∃ jobs : List Job, σ₀.tasks = jobs.map .spawned)
    {t : TaskId} {task : Task} (ht : σ.tasks[t.number]? = some task) :
    task.job.Stands (stepsOf (.task t) σ.past) task.state := by
  refine h.task_local Job.Stands ?_ ?_ ?_ h₀ hjobs ht
  · intro j
    cases j with
    | process s c d token => exact Processes.start
    | takeIn stream s c token inFlight => exact .waiting .start
    | cancelAfter d token => exact CancelsLater.waiting
  · intro j own p step q hj hstep ha
    cases j with
    | process s c d token => exact Processes.takes hj hstep
    | takeIn stream s c token inFlight => exact TakesIn.takes hj hstep ha
    | cancelAfter d token =>
      cases hj with
      | waiting =>
        cases hstep
        exact CancelsLater.due
      | due =>
        cases hstep
        exact CancelsLater.ended
  · intro j own subscription message t k hj
    cases j with
    | process s c d token => exact Processes.breaks hj
    | takeIn stream s c token inFlight => exact (TakesIn.not_handling hj).elim
    | cancelAfter d token => cases hj

/-- What a task asks for. -/
theorem asks_of_task (h : σ₀.Leads σ) (h₀ : σ₀.past = []) (hjobs : ∃ jobs : List Job, σ₀.tasks = jobs.map .spawned)
    {t : TaskId} {task : Task} (ht : σ.tasks[t.number]? = some task) {step : Step}
    (hs : step ∈ stepsOf (.task t) σ.past) : task.job.Asks step.request := by
  have hstands := h.task_stands h₀ hjobs ht
  obtain ⟨j, state⟩ := task
  cases j with
  | process s c d token => exact Processes.asks hstands step hs
  | takeIn stream s c token first => exact TakesIn.asks hstands step hs
  | cancelAfter d token =>
    generalize stepsOf (.task t) σ.past = own at hstands hs
    cases hstands with
    | waiting => cases hs
    | due =>
      obtain rfl := List.mem_singleton.1 hs
      exact .inl rfl
    | ended =>
      simp only [List.mem_cons, List.not_mem_nil, or_false] at hs
      rcases hs with rfl | rfl
      · exact .inl rfl
      · exact .inr rfl

theorem not_closing (h : σ₀.Leads σ) (h₀ : σ₀.past = []) (hjobs : ∃ jobs : List Job, σ₀.tasks = jobs.map .spawned)
    {t : TaskId} {task : Task} (ht : σ.tasks[t.number]? = some task) {c : ChannelId} {x : Except Fault Unit} :
    .asked (.call c .close) x ∉ stepsOf (.task t) σ.past := by
  intro hs
  have hasks := h.asks_of_task h₀ hjobs ht hs
  obtain ⟨j, state⟩ := task
  cases j with
  | process s c d token => exact hasks.elim Bool.false_ne_true id
  | takeIn stream s c token first => exact hasks
  | cancelAfter d token => exact hasks.elim nofun nofun

/-- Where no task is there from the start, a caller spawned it, or a task that takes deliveries in spawned it for one of
these. -/
theorem origin (h : σ₀.Leads σ) (h₀ : σ₀.past = []) (hnone : σ₀.tasks = []) {t : TaskId} {task : Task}
    (ht : σ.tasks[t.number]? = some task) :
    (∃ n, (task.job, t) ∈ spawned (stepsOf (.caller n) σ.past)) ∨
      ∃ u stream s c token first state d, σ.tasks[u.number]? = some ⟨.takeIn stream s c token first, state⟩ ∧
        (task.job, t) ∈ spawned (stepsOf (.task u) σ.past) ∧ d ∈ delivered (stepsOf (.task u) σ.past) ∧
        task.job = .process s c d token := by
  have hjobs : ∃ jobs : List Job, σ₀.tasks = jobs.map .spawned := ⟨[], hnone⟩
  rcases h.spawn_of_task ht with hlt | ⟨a, step, hs, hspawn⟩
  · rw [hnone] at hlt
    exact absurd hlt (Nat.not_lt_zero _)
  have hmem : (task.job, t) ∈ spawned (stepsOf a σ.past) := mem_noted.2 ⟨step, mem_stepsOf.2 hs, hspawn⟩
  rcases h.actor_of_took h₀ hs with ⟨n, -, rfl, -⟩ | ⟨u, ⟨j, state⟩, rfl, hu⟩
  · exact .inl ⟨n, hmem⟩
  have hstands := h.task_stands h₀ hjobs hu
  cases j with
  | process s c d token =>
    rw [spawn?_of_processing (Processes.asks hstands step (mem_stepsOf.2 hs))] at hspawn
    cases hspawn
  | takeIn stream s c token first =>
    obtain ⟨d, hd, hjob⟩ := TakesIn.job_of_spawned hstands hmem
    exact .inr ⟨u, stream, s, c, token, first, state, d, hu, hmem, hd, hjob⟩
  | cancelAfter d token =>
    generalize stepsOf (.task u) σ.past = own at hstands hmem
    cases hstands <;> cases hmem

/-- A task that processes a delivery and is not over has its own part of it still to do. -/
theorem busy_of_processing (h : σ₀.Leads σ) (h₀ : σ₀.past = [])
    (hjobs : ∃ jobs : List Job, σ₀.tasks = jobs.map .spawned) {t : TaskId} {d : Delivery} {s : Settings.Consumer}
    {c : ChannelId} {token : TokenId} {state : TaskState}
    (ht : σ.tasks[t.number]? = some ⟨.process s c d token, state⟩) (hover : ¬σ.Over t) :
    ∃ p : Program (Except Fault Disposition), state = .busy (p >>= fun _ => .done none) ∧ (∀ r, p ≠ .done r) ∧
      p.Only fun r => r.toHandler = true ∨ d.Asks c r := by
  have hstands : Processes d s c token (stepsOf (.task t) σ.past) state := h.task_stands h₀ hjobs ht
  generalize stepsOf (.task t) σ.past = own at hstands
  cases hstands with
  | busy hreach hp => exact ⟨_, rfl, hp, ((d.only_process s c token).reaches hreach).2⟩
  | ended => exact absurd ⟨_, ht, Task.isOver_ended _⟩ hover
  | broken => exact absurd ⟨_, ht, Task.isOver_broken _⟩ hover

/-- Once a task that takes deliveries in has ended, all the tasks that it spawned are over. -/
theorem over_spawned (h : σ₀.Leads σ) (h₀ : σ₀.past = []) (hjobs : ∃ jobs : List Job, σ₀.tasks = jobs.map .spawned)
    {t u : TaskId} {stream : StreamId} {s : Settings.Consumer} {c : ChannelId} {token : TokenId}
    {first : List TaskId} (ht : σ.tasks[t.number]? = some ⟨.takeIn stream s c token first, .ended⟩)
    {j : Job} (hu : (j, u) ∈ spawned (stepsOf (.task t) σ.past)) : σ.Over u := by
  have hstands : TakesIn stream s c token first (stepsOf (.task t) σ.past) .ended := h.task_stands h₀ hjobs ht
  obtain ⟨step, hstep, hu⟩ := mem_awaited.1 (hstands.awaited_of_ended hu)
  exact h.over_of_awaited h₀ (mem_stepsOf.1 hstep) hu

/-- A task that takes deliveries in is over when it has ended. -/
theorem ended_of_over (h : σ₀.Leads σ) (h₀ : σ₀.past = []) (hjobs : ∃ jobs : List Job, σ₀.tasks = jobs.map .spawned)
    {t : TaskId} {stream : StreamId} {s : Settings.Consumer} {c : ChannelId} {token : TokenId} {first : List TaskId}
    {state : TaskState} (ht : σ.tasks[t.number]? = some ⟨.takeIn stream s c token first, state⟩) (ho : σ.Over t) :
    state = .ended := by
  have hstands : TakesIn stream s c token first (stepsOf (.task t) σ.past) state := h.task_stands h₀ hjobs ht
  obtain ⟨task, htask, hover⟩ := ho
  obtain rfl := Option.some.inj (ht.symm.trans htask)
  cases state with
  | busy p => exact absurd rfl (hover p)
  | ended => rfl
  | broken => exact absurd hstands TakesIn.not_broken

/-- Where no task is there from the start: once the tasks that the callers spawned are over, all are. -/
theorem over_of_callers (h : σ₀.Leads σ) (h₀ : σ₀.past = []) (hnone : σ₀.tasks = [])
    (hspawned : ∀ n, ∀ e ∈ spawned (stepsOf (.caller n) σ.past), σ.Over e.2) {t : TaskId}
    (ht : t.number < σ.tasks.length) : σ.Over t := by
  have hjobs : ∃ jobs : List Job, σ₀.tasks = jobs.map .spawned := ⟨[], hnone⟩
  rcases h.origin h₀ hnone (List.getElem?_eq_getElem ht) with ⟨n, hn⟩ |
    ⟨u, stream, s, c, token, first, state, d, hu, hmem, -, -⟩
  · exact hspawned n _ hn
  · -- a task that takes deliveries in was spawned by a caller
    rcases h.origin h₀ hnone hu with ⟨n, hn⟩ | ⟨u', _, _, _, _, _, _, d', _, _, _, hjob⟩
    · obtain rfl := h.ended_of_over h₀ hjobs hu (hspawned n _ hn)
      exact h.over_spawned h₀ hjobs hu hmem
    · cases hjob

end System.Leads

end MessageBus
