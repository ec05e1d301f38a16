import MessageBus.Proofs.Intake.Prefetch
import MessageBus.Proofs.Lifecycle.FailedStart
/-!
# A consumer that is started again

Each start of a consumer makes a token of its own, under which the tasks of its subscriptions run, and the consumer
keeps the last such token only, while it keeps the subscriptions of all starts (`Intake.Marks`). So a disposal cancels
the tasks of the last start and waits for those of all. `System.stopped_iff` says what that comes to once the token was
cancelled: the tasks of an earlier start hold a cancelled token just if the parent of that start was cancelled, or the
token itself from outside. `System.order_not_stopped` shows a second start that fails at once, and a disposal after
it that waits for a handler of the first start which is never told to stop.
-/

namespace MessageBus

namespace Step

/-- The token that the step brought, after its parent. -/
def child? (s : Step) : Option (TokenId × TokenId) :=
  match s.done? with
  | some ⟨.childToken parent, t⟩ => some (parent, t)
  | _ => none

theorem made_of_child? {s : Step} {e : TokenId × TokenId} (h : s.child? = some e) : s.made = [.token e.2] := by
  unfold child? at h
  split at h
  · rename_i hd
    cases h
    rw [made, hd]
    rfl
  · cases h

end Step

/-- The tokens that some steps brought, each after its parent. -/
abbrev children (steps : List Step) : List (TokenId × TokenId) := noted Step.child? steps

/-- The token under which a task does its job, or which it cancels. -/
def Job.token : Job → TokenId
  | process _ _ _ t | takeIn _ _ _ t _ | cancelAfter _ t => t

namespace Intake

/-! ## The tokens of starts -/

/-- What starts come to for tokens: each makes one, the consumer keeps the last, and all tasks are spawned under those
that were made. Nothing is cancelled. -/
structure Marks (parents : List TokenId) (i : Intake) (steps : List Step) (i' : Intake) : Prop where
  parents : (children steps).map (·.1) = parents
  kept : i'.token = ((children steps).map (·.2)).getLast?.or i.token
  jobs : ∀ e ∈ spawned steps, ∃ x ∈ children steps, e.1.token = x.2
  cancels : noted Step.cancelled? steps = []

theorem Marks.refl (i : Intake) : Marks [] i [] i := ⟨rfl, rfl, by simp, rfl⟩

theorem Marks.trans {parents parents' : List TokenId} {i i₁ i₂ : Intake} {steps steps' : List Step}
    (h : Marks parents i steps i₁) (h' : Marks parents' i₁ steps' i₂) :
    Marks (parents ++ parents') i (steps ++ steps') i₂ where
  parents := by simp [h.parents, h'.parents]
  kept := by
    simp only [noted_append, List.map_append, List.getLast?_append]
    rw [h'.kept, h.kept, Option.or_assoc]
  jobs e he := by
    simp only [noted_append, List.mem_append] at he ⊢
    rcases he with he | he
    · obtain ⟨x, hx, heq⟩ := h.jobs e he
      exact ⟨x, .inl hx, heq⟩
    · obtain ⟨x, hx, heq⟩ := h'.jobs e he
      exact ⟨x, .inr hx, heq⟩
  cancels := by rw [noted_append, h.cancels, h'.cancels, List.append_nil]

/-- A subscription leaves the token as it is, and its task runs under that of the start. -/
theorem Subscribes.under {token : TokenId} {queue : String} {i i' : Intake} {steps : List Step} {r : Except Fault Unit}
    (h : Subscribes token queue i steps r i') :
    children steps = [] ∧ i'.token = i.token ∧ (∀ e ∈ spawned steps, e.1.token = token) ∧
      noted Step.cancelled? steps = [] := by
  cases h with
  | unlimited f | refused id f => exact ⟨rfl, rfl, by simp [Step.spawn?, Step.done?], rfl⟩
  | subscribed id stream t => exact ⟨rfl, rfl, by simp [Step.spawn?, Step.done?, Job.token], rfl⟩

theorem Starts.marks {parent : TokenId} {i i' : Intake} {steps : List Step} {r : Except Fault Unit}
    (h : Starts parent i steps r i') : Marks [parent] i steps i' := by
  have hchild : ∀ t, (Step.asked (.childToken parent) t).child? = some (parent, t) := fun _ => rfl
  have hquiet : ∀ t, (Step.asked (.childToken parent) t).cancelled? = none ∧
      (Step.asked (.childToken parent) t).spawn? = none := fun _ => ⟨rfl, rfl⟩
  cases h with
  | @first token steps f i' h =>
    obtain ⟨hnone, htoken, hjobs, hcancels⟩ := h.under
    refine ⟨by simp [hchild, hnone], by simp [hchild, hnone, htoken], fun e he => ?_, by simp [hquiet, hcancels]⟩
    exact ⟨(parent, token), by simp [hchild], hjobs e (by simpa [hquiet] using he)⟩
  | @both token steps steps' i₁ i' r h h' =>
    obtain ⟨hnone, htoken, hjobs, hcancels⟩ := h.under
    obtain ⟨hnone', htoken', hjobs', hcancels'⟩ := h'.under
    refine ⟨by simp [hchild, hnone, hnone'], by simp [hchild, hnone, hnone', htoken, htoken'], fun e he => ?_,
      by simp [hquiet, hcancels, hcancels']⟩
    have he : e ∈ spawned steps ∨ e ∈ spawned steps' := by simpa [hquiet] using he
    exact ⟨(parent, token), by simp [hchild], he.elim (hjobs e) (hjobs' e)⟩

theorem Restarts.marks {parents : List TokenId} {i i' : Intake} {steps : List Step}
    (h : Restarts parents i steps i') : Marks parents i steps i' := by
  induction h with
  | none i => exact .refl i
  | more h _ ih => exact h.marks.trans ih

/-! ## The token of a disposal -/

/-- A disposal makes no token and spawns nothing. -/
theorem nothing_of_winds {s : Step} (h : Winds s.request) : s.child? = none ∧ s.spawn? = none := by
  constructor
  · unfold Step.child?
    split
    · rename_i hd
      rw [System.request_of_done? hd] at h
      exact h.elim
    · rfl
  · unfold Step.spawn?
    split
    · rename_i hd
      rw [System.request_of_done? hd] at h
      exact h.elim
    · rfl

/-- A disposal cancels the token that the consumer keeps, and no other. -/
theorem Disposes.cancelled {i : Intake} {steps : List Step} (h : Disposes i steps) :
    noted Step.cancelled? steps = i.token.toList := by
  cases h with
  | @intro cancels raised a hcancels hall hraised =>
    have hnone : noted Step.cancelled? cancels = [] := List.filterMap_eq_nil_iff.2 fun s hs => by
      obtain ⟨tag, x, rfl⟩ := hcancels s hs
      rfl
    rw [noted_append, noted_append, hnone, hraised]
    cases i.token <;> rfl

/-- As soon as a consumer has cancelled a token, all its starts are over, and the token is that of the last one. -/
theorem tokens_of_cancelled {parents : List TokenId} {s : Settings.Consumer} {c : ChannelId} {i' : Intake}
    {own rest : List Step} (h : (life parents (idle s c)).Reaches (own ++ rest) (.done i')) {t : TokenId}
    (ht : t ∈ noted Step.cancelled? own) :
    (children own).map (·.1) = parents ∧ ((children own).map (·.2)).getLast? = some t ∧
      (∀ e ∈ spawned own, ∃ x ∈ children own, e.1.token = x.2) ∧ noted Step.cancelled? own = [t] := by
  obtain ⟨started, i, disposal, heq, hstarted, hdisposes⟩ := reaches_life h
  have hmarks := hstarted.marks
  rcases List.append_eq_append_iff.1 heq with ⟨mid, rfl, -⟩ | ⟨mid, rfl, rfl⟩
  · -- starts cancel nothing
    have hnone := hmarks.cancels
    rw [noted_append, List.append_eq_nil_iff] at hnone
    rw [hnone.1] at ht
    cases ht
  · have hquiet : children mid = [] ∧ spawned mid = [] :=
      ⟨List.filterMap_eq_nil_iff.2 fun s hs => (nothing_of_winds (hdisposes.winds s (List.mem_append_left _ hs))).1,
        List.filterMap_eq_nil_iff.2 fun s hs => (nothing_of_winds (hdisposes.winds s (List.mem_append_left _ hs))).2⟩
    have hcancelled := hdisposes.cancelled
    rw [noted_append] at hcancelled
    rw [noted_append, hmarks.cancels, List.nil_append] at ht
    obtain ⟨htoken, hall⟩ : i.token = some t ∧ noted Step.cancelled? mid = [t] := by
      cases htoken : i.token with
      | none =>
        rw [htoken, Option.toList_none, List.append_eq_nil_iff] at hcancelled
        rw [hcancelled.1] at ht
        cases ht
      | some u =>
        rw [htoken, Option.toList_some, List.append_eq_singleton_iff] at hcancelled
        rcases hcancelled with ⟨hnil, -⟩ | ⟨hone, -⟩
        · rw [hnil] at ht
          cases ht
        · rw [hone] at ht
          obtain rfl := List.mem_singleton.1 ht
          exact ⟨rfl, hone⟩
    have hkept : ((children started).map (·.2)).getLast? = some t := by
      have hkept := hmarks.kept
      rw [htoken, idle, Option.or_none] at hkept
      exact hkept.symm
    simp only [noted_append, hquiet.1, hquiet.2, hmarks.cancels, hall, List.append_nil, List.nil_append]
    exact ⟨hmarks.parents, hkept, hmarks.jobs, trivial⟩

end Intake

/-! ## Who is told to stop -/

namespace System

section
variable {parents : List TokenId} {s : Settings.Consumer} {c : ChannelId} {known : List Thing}
  {cells : (c : Cell) → c.Content} {σ : System Intake}

/-- Tokens are the caller's business. -/
theorem eq_caller_of_disposing (h : (disposing parents s c known cells).Leads σ) {a : Actor} {step : Step}
    (hs : .took a step ∈ σ.past) (hr : ¬step.request.OfTask) : a = .caller 0 := by
  rcases h.actor_of_took rfl hs with ⟨n, -, rfl, -⟩ | ⟨t, ⟨j, state⟩, rfl, ht⟩
  · rw [eq_zero_of_caller h hs]
  · have hasks := h.asks_of_task rfl ⟨[], rfl⟩ ht (mem_stepsOf.2 hs)
    refine absurd ?_ hr
    rcases job_of_disposing h ht with ⟨stream, token, hjob⟩ | ⟨_, d, token, -, hjob⟩ <;> obtain rfl : j = _ := hjob
    · exact TookIn.ofTask_of_asks hasks
    · exact Delivery.ofTask_of_asks hasks

/-- No two starts have the same token. -/
theorem nodup_children (h : (disposing parents s c known cells).Leads σ) :
    ((children (stepsOf (.caller 0) σ.past)).map (·.2)).Nodup := by
  have hsub : ((children (stepsOf (.caller 0) σ.past)).map fun e => Thing.token e.2).Sublist (made σ.past) :=
    (((stepsOf_sublist _ σ.past).filterMap _).map _).trans (sublist_made (fun _ _ => Step.made_of_child?) σ.past)
  refine .of_map Thing.token ?_
  rw [List.map_map]
  exact (h.nodup_made rfl).1.sublist hsub

/-- Each task runs under the token of a start. -/
theorem token_of_task (h : (disposing parents s c known cells).Leads σ)
    (hjobs : ∀ e ∈ spawned (stepsOf (.caller 0) σ.past), ∃ x ∈ children (stepsOf (.caller 0) σ.past), e.1.token = x.2)
    {t : TaskId} {task : Task} (ht : σ.tasks[t.number]? = some task) :
    ∃ x ∈ children (stepsOf (.caller 0) σ.past), task.job.token = x.2 := by
  have hcaller : ∀ {n : Nat} {e : Job × TaskId}, e ∈ spawned (stepsOf (.caller n) σ.past) →
      ∃ x ∈ children (stepsOf (.caller 0) σ.past), e.1.token = x.2 := by
    intro n e he
    obtain ⟨step, hstep, -⟩ := mem_noted.1 he
    obtain rfl := eq_zero_of_caller h (mem_stepsOf.1 hstep)
    exact hjobs e he
  rcases h.origin rfl rfl ht with ⟨n, hn⟩ | ⟨u, stream, s', c', token, first, state, d, hu, -, -, hjob⟩
  · exact hcaller hn
  · -- the task of a delivery has the token of the task that took it in
    rw [hjob]
    rcases h.origin rfl rfl hu with ⟨n, hn⟩ | ⟨_, _, _, _, _, _, _, _, _, _, _, hjob'⟩
    · exact hcaller hn
    · cases hjob'

variable {own : TokenId} (h : (disposing parents s c known cells).Leads σ)
  (hown : .took (.caller 0) (.asked (.cancel own) ()) ∈ σ.past)
include h hown

/-- What the caller has done when it has cancelled a token. -/
theorem tokens_of_disposing :
    (children (stepsOf (.caller 0) σ.past)).map (·.1) = parents ∧
      ((children (stepsOf (.caller 0) σ.past)).map (·.2)).getLast? = some own ∧
      (∀ e ∈ spawned (stepsOf (.caller 0) σ.past),
        ∃ x ∈ children (stepsOf (.caller 0) σ.past), e.1.token = x.2) ∧
      noted Step.cancelled? (stepsOf (.caller 0) σ.past) = [own] := by
  obtain ⟨q, -, hreach⟩ := h.caller_reaches (n := 0) rfl rfl
  obtain ⟨rest, i, hrest⟩ := q.exists_reaches_done
  exact Intake.tokens_of_cancelled (hreach.trans hrest) (mem_noted.2 ⟨_, mem_stepsOf.2 hown, rfl⟩)

/-- A token is cancelled by the disposal, or from outside, or with the parent of the start that made it. -/
theorem cancelled_cases {t : TokenId} (hc : Cancelled σ.past t) :
    t = own ∨ .cancelled t ∈ σ.past ∨
      ∃ parent, (parent, t) ∈ children (stepsOf (.caller 0) σ.past) ∧ Cancelled σ.past parent := by
  cases hc with
  | outside hc => exact .inr (.inl hc)
  | @requested _ a step hs hd =>
    obtain rfl := eq_caller_of_disposing h hs (by rw [request_of_done? hd]; exact id)
    have hmem : t ∈ noted Step.cancelled? (stepsOf (.caller 0) σ.past) :=
      mem_noted.2 ⟨step, mem_stepsOf.2 hs, by simp [Step.cancelled?, hd]⟩
    rw [(tokens_of_disposing h hown).2.2.2] at hmem
    exact .inl (List.mem_singleton.1 hmem)
  | @child _ parent a step hs hd hp =>
    obtain rfl := eq_caller_of_disposing h hs (by rw [request_of_done? hd]; exact id)
    exact .inr (.inr ⟨parent, mem_noted.2 ⟨step, mem_stepsOf.2 hs, by simp [Step.child?, hd]⟩, hp⟩)

/-- The token of a start is cancelled if it is that of the last, or with the parent of the start, or from outside. -/
theorem cancelled_child_iff {e : TokenId × TokenId} (he : e ∈ children (stepsOf (.caller 0) σ.past)) :
    Cancelled σ.past e.2 ↔ e.2 = own ∨ Cancelled σ.past e.1 ∨ .cancelled e.2 ∈ σ.past := by
  constructor
  · intro hc
    rcases cancelled_cases h hown hc with heq | hout | ⟨parent, hmem, hp⟩
    · exact .inl heq
    · exact .inr (.inr hout)
    · have heq := List.inj_on_of_nodup_map (nodup_children h) hmem he rfl
      exact .inr (.inl (heq ▸ hp))
  · rintro (heq | hp | hout)
    · exact heq ▸ .requested hown rfl
    · obtain ⟨step, hstep, hchild⟩ := mem_noted.1 he
      unfold Step.child? at hchild
      split at hchild
      · rename_i hd
        cases hchild
        exact .child (mem_stepsOf.1 hstep) hd hp
      · cases hchild
    · exact .outside hout

/-- A consumer was started under each of the parent tokens, however each start went, and is disposed of. Once the
disposal has cancelled its token, each start has made one token, a child of its parent, and the last of them is the one
that was cancelled. Each task, of a subscription or of a delivery, holds one of these. So the tasks all hold a cancelled
token if and only if each start but the last, if there is still a task of it, is one whose parent was cancelled, or
its token from outside. -/
theorem stopped_iff :
    let tokens := children (stepsOf (.caller 0) σ.past)
    tokens.map (·.1) = parents ∧ (tokens.map (·.2)).Nodup ∧ (tokens.map (·.2)).getLast? = some own ∧
    (∀ t task, σ.tasks[TaskId.number t]? = some task → ∃ e ∈ tokens, task.job.token = e.2) ∧
    (∀ e ∈ tokens, Cancelled σ.past e.2 ↔ e.2 = own ∨ Cancelled σ.past e.1 ∨ .cancelled e.2 ∈ σ.past) ∧
    ((∀ t task, σ.tasks[TaskId.number t]? = some task → Cancelled σ.past task.job.token) ↔
      ∀ e ∈ tokens, e.2 ≠ own → (∃ t task, σ.tasks[TaskId.number t]? = some task ∧ task.job.token = e.2) →
        Cancelled σ.past e.1 ∨ .cancelled e.2 ∈ σ.past) := by
  intro tokens
  obtain ⟨hparents, hlast, hjobs, -⟩ := tokens_of_disposing h hown
  have htoken : ∀ t task, σ.tasks[TaskId.number t]? = some task → ∃ e ∈ tokens, task.job.token = e.2 :=
    fun t task ht => token_of_task h hjobs ht
  have hiff : ∀ e ∈ tokens, Cancelled σ.past e.2 ↔ e.2 = own ∨ Cancelled σ.past e.1 ∨ .cancelled e.2 ∈ σ.past :=
    fun e he => cancelled_child_iff h hown he
  refine ⟨hparents, nodup_children h, hlast, htoken, hiff, ?_, ?_⟩
  · rintro hall e he hne ⟨t, task, ht, heq⟩
    exact ((hiff e he).1 (heq ▸ hall t task ht)).resolve_left hne
  · intro hall t task ht
    obtain ⟨e, he, heq⟩ := htoken t task ht
    rw [heq, hiff e he]
    by_cases hlast : e.2 = own
    · exact .inl hlast
    · exact .inr (hall e he hlast ⟨t, task, ht, heq⟩)

end

end System

open Sample in
/-- In the run in which a consumer is started once and cannot subscribe to its second queue, all tasks are told to
stop. -/
theorem System.stranded_tasks_stopped :
    ∃ σ : System Intake, (disposing [⟨0⟩] (warehouse 3).settings ⟨0⟩ [.token ⟨0⟩] Cell.initial).Leads σ ∧
      .took (.caller 0) (.asked (.cancel ⟨1⟩) ()) ∈ σ.past ∧ σ.tasks.length = 2 ∧
      ∀ t task, σ.tasks[TaskId.number t]? = some task → Cancelled σ.past task.job.token := by
  obtain ⟨σ, h, hpast, -⟩ := leads_strandedRun
  have hown : .took (.caller 0) (.asked (.cancel ⟨1⟩) ()) ∈ σ.past := hpast ▸ List.mem_of_getElem? (i := 10) rfl
  obtain ⟨hparents, -, hlast, -, -, hiff⟩ := stopped_iff h hown
  refine ⟨σ, h, hown, ?_, hiff.2 fun e he hne => absurd ?_ hne⟩
  · rw [← List.length_map (f := Task.job), h.jobs rfl, hpast]
    rfl
  · -- there is no token but that of the only start
    generalize children (stepsOf (.caller 0) σ.past) = tokens at hparents hlast he
    obtain ⟨x, rfl⟩ := List.length_eq_one_iff.1 (by simpa using congrArg List.length hparents : tokens.length = 1)
    obtain rfl := List.mem_singleton.1 he
    simpa using hlast

open Sample in
/-- A consumer is started, an order is given to its handler, both streams end, and the consumer is started again. That
fails at once, and the consumer is disposed of, up to the wait for its tasks. Then the handler succeeds, the tasks end
one after another, and the disposal is done. -/
theorem System.leads_restarted :
    ∃ σ σ' : System Intake,
      (disposing [⟨0⟩, ⟨0⟩] (warehouse 3).settings ⟨0⟩ [.token ⟨0⟩] Cell.initial).Leads σ ∧ σ.Leads σ' ∧
      .took (.caller 0) (.asked (.childToken ⟨0⟩) ⟨1⟩) ∈ σ.past ∧
      .took (.caller 0) (.asked (.cancel ⟨2⟩) ()) ∈ σ.past ∧
      (∃ p, σ.callers[0]? = some p ∧ p.request? = some (.join [⟨0⟩, ⟨1⟩])) ∧
      (∃ p, σ.tasks[0]? = some ⟨.takeIn ⟨0⟩ (warehouse 3).settings ⟨0⟩ ⟨1⟩ [], .busy p⟩) ∧
      (∃ p, σ.tasks[2]? = some ⟨.process (warehouse 3).settings ⟨0⟩ (order 0) ⟨1⟩, .busy p⟩ ∧
        p.request? = some (.handle orders (.object [("id", .number 1)]) ⟨1⟩)) ∧
      (∃ i, σ'.callers[0]? = some (.done i)) ∧
      .took (.task ⟨2⟩) (.asked (.handle orders (.object [("id", .number 1)]) ⟨1⟩) (.ok ())) ∈ σ'.past ∧
      ∀ t, .cancelled t ∉ σ'.past := by
  have h₀ : (disposing [⟨0⟩, ⟨0⟩] (warehouse 3).settings ⟨0⟩ [.token ⟨0⟩] Cell.initial).Leads _ := .refl
  have h₁ := h₀.next (.called (n := 0) (r := .childToken ⟨0⟩) ⟨1⟩ rfl trivial fun y hy => by cases hy; decide)
  have h₂ := h₁.next (.called (n := 0) (r := .call ⟨0⟩ (.setPrefetch 10)) (.ok ()) rfl trivial (nothing_new rfl))
  have h₃ := h₂.next (.called (n := 0) (r := .freshId) "a" rfl trivial fun y hy => by cases hy; decide)
  have h₄ := h₃.next (.called (n := 0) (r := .consume ⟨0⟩ "warehouse" "warehouse-a") (.ok ⟨0⟩) rfl trivial
    fun y hy => by cases hy; decide)
  have h₅ := h₄.next (.called (n := 0) (r := .spawn (.takeIn ⟨0⟩ (warehouse 3).settings ⟨0⟩ ⟨1⟩ [])) ⟨0⟩ rfl rfl
    (nothing_new rfl))
  have h₆ := h₅.next (.called (n := 0) (r := .call ⟨0⟩ (.setPrefetch 10)) (.ok ()) rfl trivial (nothing_new rfl))
  have h₇ := h₆.next (.called (n := 0) (r := .freshId) "b" rfl trivial fun y hy => by cases hy; decide)
  have h₈ := h₇.next (.called (n := 0) (r := .consume ⟨0⟩ "warehouse.Retry" "warehouse.Retry-b") (.ok ⟨1⟩) rfl trivial
    fun y hy => by cases hy; decide)
  have h₉ := h₈.next (.called (n := 0) (r := .spawn (.takeIn ⟨1⟩ (warehouse 3).settings ⟨0⟩ ⟨1⟩ [])) ⟨1⟩ rfl rfl
    (nothing_new rfl))
  have h₁₀ := h₉.next
    (.asked (t := ⟨0⟩) (r := .arrival ⟨0⟩ ⟨1⟩ []) (.delivery (order 0)) rfl trivial (nothing_new rfl))
  have h₁₁ := h₁₀.next
    (.asked (t := ⟨0⟩) (r := .spawn (.process (warehouse 3).settings ⟨0⟩ (order 0) ⟨1⟩)) ⟨2⟩ rfl rfl (nothing_new rfl))
  have h₁₂ := h₁₁.next (.asked (t := ⟨1⟩) (r := .arrival ⟨1⟩ ⟨1⟩ []) .ended rfl trivial (nothing_new rfl))
  have h₁₃ := h₁₂.next (.asked (t := ⟨1⟩) (r := .join []) () rfl (List.forall_mem_nil _) (nothing_new rfl))
  have h₁₄ := h₁₃.next (.asked (t := ⟨1⟩) (r := .leave ⟨1⟩) () rfl trivial (nothing_new rfl))
  have h₁₅ := h₁₄.next (.asked (t := ⟨0⟩) (r := .arrival ⟨0⟩ ⟨1⟩ [⟨2⟩]) .ended rfl trivial (nothing_new rfl))
  have h₁₆ := h₁₅.next (.called (n := 0) (r := .childToken ⟨0⟩) ⟨2⟩ rfl trivial fun y hy => by cases hy; decide)
  have h₁₇ := h₁₆.next (.called (n := 0) (r := .call ⟨0⟩ (.setPrefetch 10)) (.error (.connection "gone")) rfl trivial
    (nothing_new rfl))
  have h₁₈ := h₁₇.next
    (.called (n := 0) (r := .call ⟨0⟩ (.cancel "warehouse-a")) (.ok ()) rfl trivial (nothing_new rfl))
  have h₁₉ := h₁₈.next
    (.called (n := 0) (r := .call ⟨0⟩ (.cancel "warehouse.Retry-b")) (.ok ()) rfl trivial (nothing_new rfl))
  have h₂₀ := h₁₉.next (.called (n := 0) (r := .cancel ⟨2⟩) () rfl trivial (nothing_new rfl))
  -- from here on the disposal waits, and what follows is a way of its own
  have here : ∀ {τ τ' : System Intake}, τ.Leads τ' → τ'.Leads τ' := fun _ => .refl
  have g₀ := here h₂₀
  have g₁ := g₀.next (.asked (t := ⟨2⟩) (r := .handle orders (.object [("id", .number 1)]) ⟨1⟩) (.ok ()) rfl trivial
    (nothing_new rfl))
  have g₂ := g₁.next (.asked (t := ⟨2⟩) (r := .call ⟨0⟩ (.ack 7)) (.ok ()) rfl trivial (nothing_new rfl))
  have g₃ := g₂.next (.asked (t := ⟨2⟩) (r := .span _) () rfl trivial (nothing_new rfl))
  have g₄ := g₃.next (.asked (t := ⟨0⟩) (r := .join [⟨2⟩]) () rfl
    (List.forall_mem_singleton.2 ⟨_, rfl, Task.isOver_ended _⟩) (nothing_new rfl))
  have g₅ := g₄.next (.asked (t := ⟨0⟩) (r := .leave ⟨0⟩) () rfl trivial (nothing_new rfl))
  have g₆ := g₅.next (.called (n := 0) (r := .join [⟨0⟩, ⟨1⟩]) () rfl
    (List.forall_mem_cons.2 ⟨⟨_, rfl, Task.isOver_ended _⟩,
      List.forall_mem_singleton.2 ⟨_, rfl, Task.isOver_ended _⟩⟩) (nothing_new rfl))
  have g₇ := g₆.next (.called (n := 0) (r := .call ⟨0⟩ .close) (.ok ()) rfl trivial (nothing_new rfl))
  refine ⟨_, _, h₂₀, g₇, List.mem_of_getElem? (i := 0) rfl, List.mem_of_getElem? (i := 19) rfl, ⟨_, rfl, rfl⟩,
    ⟨_, rfl⟩, ⟨_, rfl, rfl⟩, ⟨_, rfl⟩, List.mem_of_getElem? (i := 20) rfl, fun t ht => ?_⟩
  simp [record, disposing, System.start] at ht

open Sample in
/-- That disposal has cancelled its token and waits for the tasks of the first start, whose handler of the order is not
told to stop, whatever happens, unless somebody cancels a token from outside. It may come to an end by itself, and the
disposal with it; its token is not cancelled then either. -/
theorem System.order_not_stopped :
    ∃ σ : System Intake, (disposing [⟨0⟩, ⟨0⟩] (warehouse 3).settings ⟨0⟩ [.token ⟨0⟩] Cell.initial).Leads σ ∧
      .took (.caller 0) (.asked (.cancel ⟨2⟩) ()) ∈ σ.past ∧
      (∃ p, σ.callers[0]? = some p ∧ p.request? = some (.join [⟨0⟩, ⟨1⟩])) ∧
      (∃ p, σ.tasks[0]? = some ⟨.takeIn ⟨0⟩ (warehouse 3).settings ⟨0⟩ ⟨1⟩ [], .busy p⟩) ∧
      (∃ p, σ.tasks[2]? = some ⟨.process (warehouse 3).settings ⟨0⟩ (order 0) ⟨1⟩, .busy p⟩ ∧
        p.request? = some (.handle orders (.object [("id", .number 1)]) ⟨1⟩)) ∧
      (∀ σ', σ.Leads σ' → (∀ t, .cancelled t ∉ σ'.past) → ¬Cancelled σ'.past ⟨1⟩) ∧
      ∃ σ', σ.Leads σ' ∧ (∃ i, σ'.callers[0]? = some (.done i)) ∧
        .took (.task ⟨2⟩) (.asked (.handle orders (.object [("id", .number 1)]) ⟨1⟩) (.ok ())) ∈ σ'.past ∧
        ¬Cancelled σ'.past ⟨1⟩ := by
  obtain ⟨σ, σ', h, hends, hchild, hown, hjoin, htaker, hhandler, hdone, hended, hinside⟩ := leads_restarted
  have hnever : ∀ τ, σ.Leads τ → (∀ t, .cancelled t ∉ τ.past) → ¬Cancelled τ.past ⟨1⟩ := by
    intro τ hl hnone hc
    have h' := h.trans hl
    have hown' := hl.mem_past hown
    have he : (⟨0⟩, ⟨1⟩) ∈ children (stepsOf (.caller 0) τ.past) :=
      mem_noted.2 ⟨_, mem_stepsOf.2 (hl.mem_past hchild), rfl⟩
    rcases (cancelled_child_iff h' hown' he).1 hc with heq | hparent | hout
    · cases heq
    · -- the parent was there from the beginning, so no start has made it
      rcases cancelled_cases h' hown' hparent with heq | hout | ⟨parent, hmem, -⟩
      · cases heq
      · exact hnone _ hout
      · obtain ⟨step, hstep, hmade⟩ := mem_noted.1 hmem
        refine (h'.nodup_made rfl).2 (.token ⟨0⟩) (mem_made (mem_stepsOf.1 hstep) ?_) List.mem_cons_self
        rw [Step.made_of_child? hmade]
        exact List.mem_singleton_self _
    · exact hnone _ hout
  exact ⟨σ, h, hown, hjoin, htaker, hhandler, hnever, σ', hends, hdone, hended, hnever σ' hends hinside⟩

end MessageBus
