import MessageBus.Proofs.Program.System
import Mathlib.Algebra.BigOperators.Group.Finset.Piecewise
import Mathlib.Data.List.Perm.Basic
import Mathlib.Logic.Hydra
/-!
# What holds in every interleaving

Whatever a system comes to, each of its programs has only done what it could have done alone: `Leads.caller_reaches`
says so of callers, and `Leads.task_local` carries what one turn of a task preserves to all of its turns. What an event
is to one task is said once, by `Next.befalls`. Tasks that are over stay so (`Leads.over`), and after a wait for tasks these
are over (`Leads.over_of_awaited`). `Leads.split` leads an event of the past back to the moment at which it happened.
Callers of which one can always go on come to be over, as none goes on forever (`exists_leads_to`, `exists_leads_over`).
-/

namespace MessageBus.System

variable {α : Type} {σ σ' σ₀ : System α} {e : Happening}

/-! ## One event -/

theorem Next.past (h : σ.Next e σ') : σ'.past = σ.past ++ [e] := by
  cases h <;> rfl

theorem Next.length_tasks_le (h : σ.Next e σ') : σ.tasks.length ≤ σ'.tasks.length := by
  cases h <;> simp [record]

/-- The reply of an actor's step is one that the system could give. -/
theorem Next.admits {a : Actor} {s : Step} (h : σ.Next (.took a s) σ') : σ.Admits s := by
  cases h with
  | caller _ _ ha => exact ha
  | task _ _ ha => exact ha

/-- A reply that the system can give, with nothing in it that there is already. -/
theorem Admits.asked {r : Request} {x : r.Reply} (h : σ.CanReply r x)
    (hnew : ∀ y, r.makes? x = some y → y ∉ σ.known) : σ.Admits (.asked r x) where
  reply r' x' hd := by
    cases hd
    exact h
  lost := nofun
  new y hy := hnew y (by simpa [Step.made, Step.done?] using hy)

theorem Admits.raced {t : TokenId} {r : Request} {x : r.Reply} (h : σ.CanReply r x)
    (hnew : ∀ y, r.makes? x = some y → y ∉ σ.known) : σ.Admits (.raced t r (some x)) where
  reply r' x' hd := by
    cases hd
    exact h
  lost := nofun
  new y hy := hnew y (by simpa [Step.made, Step.done?] using hy)

/-- A reply that brings nothing brings nothing that is known. -/
theorem nothing_new {known : List Thing} {r : Request} {x : r.Reply} (h : r.makes? x = none) :
    ∀ y, r.makes? x = some y → y ∉ known := by
  intro y hy
  rw [h] at hy
  cases hy

/-- A race is lost to a cancelled token. -/
theorem Admits.lost_of_cancelled {t : TokenId} (h : Cancelled σ.past t) (r : Request) :
    σ.Admits (.raced t r none) where
  reply r' x' hd := by cases hd
  lost t' r' heq := by
    cases heq
    exact h
  new y hy := by cases hy

/-- A caller that asks for something goes on with the reply. -/
theorem Next.called {n : Nat} {r : Request} {k : r.Reply → Program α} (x : r.Reply)
    (hp : σ.callers[n]? = some (.ask r k)) (h : σ.CanReply r x) (hnew : ∀ y, r.makes? x = some y → y ∉ σ.known) :
    σ.Next (.took (.caller n) (.asked r x))
      { σ.record (.caller n) (.asked r x) with callers := σ.callers.set n (k x) } :=
  .caller hp (.asked r k x) (.asked h hnew)

/-- So does a caller that wins a race for it. -/
theorem Next.called_racing {n : Nat} {t : TokenId} {r : Request} {k : Option r.Reply → Program α} (x : r.Reply)
    (hp : σ.callers[n]? = some (.race t r k)) (h : σ.CanReply r x) (hnew : ∀ y, r.makes? x = some y → y ∉ σ.known) :
    σ.Next (.took (.caller n) (.raced t r (some x)))
      { σ.record (.caller n) (.raced t r (some x)) with callers := σ.callers.set n (k (some x)) } :=
  .caller hp (.raced t r k (some x)) (.raced h hnew)

/-- A task that asks for something goes on with the reply. -/
theorem Next.asked {t : TaskId} {j : Job} {r : Request} {k : r.Reply → Program (Option Job)} (x : r.Reply)
    (ht : σ.tasks[t.number]? = some ⟨j, .busy (.ask r k)⟩) (h : σ.CanReply r x)
    (hnew : ∀ y, r.makes? x = some y → y ∉ σ.known) :
    σ.Next (.took (.task t) (.asked r x))
      ({ σ with tasks := σ.tasks.set t.number ⟨j, .after (k x)⟩ }.record (.task t) (.asked r x)) :=
  .task ht (.asked r k x) (.asked h hnew)

theorem request_of_done? {s : Step} {r : Request} {x : r.Reply} (h : s.done? = some ⟨r, x⟩) : s.request = r := by
  cases s with
  | asked r' y =>
    cases h
    rfl
  | raced t r' y =>
    cases y <;> cases h
    rfl

theorem done?_of_spawn? {s : Step} {j : Job} {t : TaskId} (h : s.spawn? = some (j, t)) :
    s.done? = some ⟨.spawn j, t⟩ := by
  unfold Step.spawn? at h
  split at h
  · rename_i hdone
    cases h
    exact hdone
  · cases h

/-- A task that a step added is the one that was spawned in it. -/
theorem Admits.of_added {s : Step} (ha : σ.Admits s) {t : TaskId} {task : Task} (hlen : σ.tasks.length ≤ t.number)
    (hget : (s.spawn?.map fun e => Task.spawned e.1).toList[t.number - σ.tasks.length]? = some task) :
    ∃ j, s.spawn? = some (j, t) ∧ task = .spawned j ∧ t.number = σ.tasks.length := by
  cases hspawn : s.spawn? with
  | none => simp [hspawn] at hget
  | some e =>
    obtain ⟨j, u⟩ := e
    obtain rfl : u = ⟨σ.tasks.length⟩ := ha.reply _ _ (done?_of_spawn? hspawn)
    have hlt := (List.getElem?_eq_some_iff.1 hget).1
    simp only [hspawn, Option.map_some, Option.toList_some, List.length_singleton] at hlt
    have hnumber : t.number = σ.tasks.length := by omega
    have htask : some (Task.spawned j) = some task := by simpa [hspawn, hnumber] using hget
    exact ⟨j, by rw [← hnumber], (Option.some.inj htask).symm, hnumber⟩

/-- What an event is to a task that is there after it: the task stays as it is, or is new, or goes on, or breaks off. -/
inductive Befalls (σ : System α) (t : TaskId) : Happening → Task → Prop
  | kept {e : Happening} {task : Task} (ht : σ.tasks[t.number]? = some task) (he : stepsOf (.task t) [e] = []) :
      Befalls σ t e task
  | new {a : Actor} {s : Step} {j : Job} (hlen : t.number = σ.tasks.length) (hs : s.spawn? = some (j, t))
      (he : stepsOf (.task t) [.took a s] = []) : Befalls σ t (.took a s) (.spawned j)
  | went {j : Job} {p q : Program (Option Job)} {s : Step} (ht : σ.tasks[t.number]? = some ⟨j, .busy p⟩)
      (hs : p.Takes s q) (ha : σ.Admits s) : Befalls σ t (.took (.task t) s) ⟨j, .after q⟩
  | broke {j : Job} {subscription : Settings.Subscription} {message : Json} {token : TokenId}
      {k : Except HandlerError Unit → Program (Option Job)}
      (ht : σ.tasks[t.number]? = some ⟨j, .busy (.ask (.handle subscription message token) k)⟩) :
      Befalls σ t (.broke t) ⟨j, .broken⟩

theorem Next.befalls (h : σ.Next e σ') {t : TaskId} {task : Task} (ht : σ'.tasks[t.number]? = some task) :
    σ.Befalls t e task := by
  have hne : ∀ {u : TaskId}, u ≠ t → u.number ≠ t.number :=
    fun {u} hut heq => hut (by cases u; cases t; simpa using heq)
  cases h with
  | @caller n p q s hp hs ha =>
    have he : stepsOf (.task t) [.took (.caller n) s] = [] := stepsOf_took_ne _ (by simp) s
    simp only [record] at ht
    by_cases hlt : t.number < σ.tasks.length
    · rw [List.getElem?_append_left hlt] at ht
      exact .kept ht he
    · rw [List.getElem?_append_right (Nat.le_of_not_lt hlt)] at ht
      obtain ⟨j, hj, rfl, hlen⟩ := ha.of_added (Nat.le_of_not_lt hlt) ht
      exact .new hlen hj he
  | @task u j p q s hp hs ha =>
    have hu := (List.getElem?_eq_some_iff.1 hp).1
    simp only [record] at ht
    by_cases hlt : t.number < σ.tasks.length
    · rw [List.getElem?_append_left (by simpa using hlt)] at ht
      by_cases hut : u = t
      · subst hut
        rw [List.getElem?_set_self hlt] at ht
        obtain rfl := Option.some.inj ht
        exact .went hp hs ha
      · rw [List.getElem?_set_ne (hne hut)] at ht
        exact .kept ht (stepsOf_took_ne _ (by simpa using hut) s)
    · have hut : u ≠ t := fun heq => hlt (heq ▸ hu)
      rw [List.getElem?_append_right (by simpa using Nat.le_of_not_lt hlt), List.length_set] at ht
      obtain ⟨j, hj, rfl, hlen⟩ := ha.of_added (Nat.le_of_not_lt hlt) ht
      exact .new hlen hj (stepsOf_took_ne _ (by simpa using hut) s)
  | @broke u j subscription message token k hp =>
    by_cases hut : u = t
    · subst hut
      rw [List.getElem?_set_self (List.getElem?_eq_some_iff.1 hp).1] at ht
      obtain rfl := Option.some.inj ht
      exact .broke hp
    · rw [List.getElem?_set_ne (hne hut)] at ht
      exact .kept ht (stepsOf_broke _ u)
  | cancelled u => exact .kept ht (stepsOf_cancelled _ u)

/-- A task that was there before the event is there after it. -/
theorem Next.befalls_of_get (h : σ.Next e σ') {t : TaskId} {task : Task} (ht : σ.tasks[t.number]? = some task) :
    ∃ task', σ'.tasks[t.number]? = some task' ∧ σ.Befalls t e task' := by
  have hlt := (List.getElem?_eq_some_iff.1 ht).1.trans_le h.length_tasks_le
  exact ⟨_, List.getElem?_eq_getElem hlt, h.befalls (List.getElem?_eq_getElem hlt)⟩

/-- A task that is over stays as it is. -/
theorem Next.over_of_over (h : σ.Next e σ') {t : TaskId} {task : Task} (ht : σ.tasks[t.number]? = some task)
    (ho : task.IsOver) : σ'.tasks[t.number]? = some task := by
  have hidle : ∀ {j : Job} {p : Program (Option Job)}, σ.tasks[t.number]? ≠ some ⟨j, .busy p⟩ := by
    intro j p hbusy
    obtain rfl := Option.some.inj (ht.symm.trans hbusy)
    exact ho p rfl
  obtain ⟨task', ht', hbefalls⟩ := h.befalls_of_get ht
  cases hbefalls with
  | kept hbefore _ => exact ht'.trans (hbefore.symm.trans ht)
  | new hlen => exact absurd (List.getElem?_eq_some_iff.1 ht).1 hlen.not_lt
  | went hbefore => exact absurd hbefore hidle
  | broke hbefore => exact absurd hbefore hidle

theorem Next.over (h : σ.Next e σ') {t : TaskId} (ht : σ.Over t) : σ'.Over t := by
  obtain ⟨task, hget, ho⟩ := ht
  exact ⟨task, h.over_of_over hget ho, ho⟩

/-- A task keeps its job. -/
theorem Next.job (h : σ.Next e σ') {t : TaskId} {j : Job} {state : TaskState}
    (ht : σ.tasks[t.number]? = some ⟨j, state⟩) : ∃ state', σ'.tasks[t.number]? = some ⟨j, state'⟩ := by
  have hjob : ∀ {j' : Job} {state' : TaskState}, σ.tasks[t.number]? = some ⟨j', state'⟩ → j' = j := by
    intro j' state' ht'
    cases ht.symm.trans ht'
    rfl
  obtain ⟨task', ht', hbefalls⟩ := h.befalls_of_get ht
  cases hbefalls with
  | kept hbefore he =>
    obtain rfl := Option.some.inj (ht.symm.trans hbefore)
    exact ⟨state, ht'⟩
  | new hlen => exact absurd (List.getElem?_eq_some_iff.1 ht).1 hlen.not_lt
  | went hbefore => exact ⟨_, hjob hbefore ▸ ht'⟩
  | broke hbefore => exact ⟨_, hjob hbefore ▸ ht'⟩

/-! ## Many events -/

theorem Leads.trans {σ₁ σ₂ : System α} (h : σ₀.Leads σ₁) (h' : σ₁.Leads σ₂) : σ₀.Leads σ₂ := by
  induction h' with
  | refl => exact h
  | next _ hn ih => exact .next ih hn

theorem Leads.past (h : σ₀.Leads σ) : ∃ events, σ.past = σ₀.past ++ events := by
  induction h with
  | refl => exact ⟨[], by simp⟩
  | next _ hn ih =>
    obtain ⟨events, ih⟩ := ih
    exact ⟨events ++ [_], by rw [hn.past, ih, List.append_assoc]⟩

/-- An event of the past and the moment at which it happened. -/
theorem Leads.split (h : σ₀.Leads σ) {before after : List Happening}
    (hp : σ.past = σ₀.past ++ before ++ e :: after) :
    ∃ σ₁ σ₂, σ₀.Leads σ₁ ∧ σ₁.past = σ₀.past ++ before ∧ σ₁.Next e σ₂ ∧ σ₂.Leads σ := by
  induction h generalizing after with
  | refl => simp at hp
  | @next σ σ' e' h hn ih =>
    rw [hn.past] at hp
    rcases split_concat hp with ⟨hpast, rfl⟩ | ⟨after', hpast⟩
    · exact ⟨σ, σ', h, hpast, hn, .refl⟩
    · obtain ⟨σ₁, σ₂, h₁, hpast, hn', h₂⟩ := ih hpast
      exact ⟨σ₁, σ₂, h₁, hpast, hn', .next h₂ hn⟩

/-- The moment at which an actor took a step. -/
theorem Leads.moment (h : σ₀.Leads σ) (h₀ : σ₀.past = []) {a : Actor} {s : Step} (hs : .took a s ∈ σ.past) :
    ∃ σ₁ σ₂, σ₀.Leads σ₁ ∧ σ₁.Next (.took a s) σ₂ ∧ σ₂.Leads σ := by
  obtain ⟨before, after, hp⟩ := List.append_of_mem hs
  obtain ⟨σ₁, σ₂, h₁, -, hn, h₂⟩ := h.split (by rw [h₀, hp]; rfl : σ.past = σ₀.past ++ before ++ _ :: after)
  exact ⟨σ₁, σ₂, h₁, hn, h₂⟩

theorem Leads.mem_past (h : σ₀.Leads σ) (he : e ∈ σ₀.past) : e ∈ σ.past := by
  obtain ⟨events, hp⟩ := h.past
  exact hp ▸ List.mem_append_left _ he

/-- A token that somebody was told is cancelled, or lost a race to, is cancelled. -/
theorem Leads.cancelled_of_told (h : σ₀.Leads σ) (h₀ : σ₀.past = []) {a : Actor} {s : Step} (hs : .took a s ∈ σ.past)
    {t : TokenId} (ht : s = .asked (.isCancelled t) true ∨ ∃ r, s = .raced t r none) : Cancelled σ.past t := by
  obtain ⟨σ₁, σ₂, -, hn, h₂⟩ := h.moment h₀ hs
  have hthen : Cancelled σ₁.past t := by
    rcases ht with rfl | ⟨r, rfl⟩
    · exact (hn.admits.reply (.isCancelled t) true rfl).1 rfl
    · exact hn.admits.lost t r rfl
  exact hthen.mono fun e he => (Leads.refl.next hn |>.trans h₂).mem_past he

/-- Where nothing was cancelled, no race was lost. -/
theorem Leads.not_lost (h : σ₀.Leads σ) (h₀ : σ₀.past = []) (hc : ∀ t, ¬Cancelled σ.past t) {a : Actor} {s : Step}
    (hs : .took a s ∈ σ.past) (t : TokenId) (r : Request) : s ≠ .raced t r none :=
  fun heq => hc t (h.cancelled_of_told h₀ hs (.inr ⟨r, heq⟩))

theorem Leads.over (h : σ₀.Leads σ) {t : TaskId} (ht : σ₀.Over t) : σ.Over t := by
  induction h with
  | refl => exact ht
  | next _ hn ih => exact hn.over ih

/-- What was waited for is over. -/
theorem Leads.over_of_awaited (h : σ₀.Leads σ) (h₀ : σ₀.past = []) {a : Actor} {s : Step} (hs : .took a s ∈ σ.past)
    {t : TaskId} (ht : t ∈ s.awaited) : σ.Over t := by
  obtain ⟨σ₁, σ₂, -, hn, h₂⟩ := h.moment h₀ hs
  -- the reply was given at a moment at which the task was over, and it stays so
  refine h₂.over (hn.over ?_)
  unfold Step.awaited at ht
  split at ht
  · rename_i r x hdone
    have hreply := hn.admits.reply r x hdone
    unfold Request.awaits at ht
    split at ht
    · exact hreply t ht
    · simp only [List.mem_singleton] at ht
      exact ht ▸ hreply.2
    · simp at ht
  · simp at ht

/-! ## Callers -/

/-- A caller has done what its program does. -/
theorem Leads.caller_reaches (h : σ₀.Leads σ) (h₀ : σ₀.past = []) {n : Nat} {p : Program α}
    (hp : σ₀.callers[n]? = some p) :
    ∃ q, σ.callers[n]? = some q ∧ p.Reaches (stepsOf (.caller n) σ.past) q := by
  induction h with
  | refl => exact ⟨p, hp, by rw [h₀]; exact .here p⟩
  | @next σ σ' e h hn ih =>
    obtain ⟨q, hq, hreach⟩ := ih
    rw [hn.past, stepsOf_append]
    cases hn with
    | @caller m p' q' s hp' hs ha =>
      by_cases hm : m = n
      · subst hm
        obtain rfl := Option.some.inj (hp'.symm.trans hq)
        have hlt : m < σ.callers.length := (List.getElem?_eq_some_iff.1 hq).1
        refine ⟨q', by simp [hlt], ?_⟩
        rw [stepsOf_took_self]
        exact hreach.concat hs
      · refine ⟨q, ?_, ?_⟩
        · simp only [List.getElem?_set_ne hm]
          exact hq
        · rw [stepsOf_took_ne (Actor.caller n) (by simpa using hm)]
          simpa using hreach
    | task hp' hs ha =>
      refine ⟨q, hq, ?_⟩
      rw [stepsOf_took_ne (Actor.caller n) (by simp)]
      simpa using hreach
    | broke hp' => exact ⟨q, hq, by simpa using hreach⟩
    | cancelled t => exact ⟨q, hq, by simpa using hreach⟩

/-- A caller that is over stays so. -/
theorem Next.done (h : σ.Next e σ') {n : Nat} {a : α} (hn : σ.callers[n]? = some (.done a)) :
    σ'.callers[n]? = some (.done a) := by
  cases h with
  | @caller m p q s hp hs ha =>
    by_cases hm : m = n
    · subst hm
      cases hp.symm.trans hn
      exact absurd hs Program.Takes.not_done
    · exact (List.getElem?_set_ne hm).trans hn
  | task | broke | cancelled => exact hn

theorem Leads.done (h : σ₀.Leads σ) {n : Nat} {a : α} (hn : σ₀.callers[n]? = some (.done a)) :
    σ.callers[n]? = some (.done a) := by
  induction h with
  | refl => exact hn
  | next _ hnext ih => exact hnext.done ih

theorem Leads.length_callers (h : σ₀.Leads σ) : σ.callers.length = σ₀.callers.length := by
  induction h with
  | refl => rfl
  | next h hn ih =>
    rw [← ih]
    cases hn <;> simp [record]

/-- After a caller's step there is less of one caller left, and as much of the others. -/
theorem Next.callers_less {n : Nat} {s : Step} (h : σ.Next (.took (.caller n) s) σ') :
    Relation.CutExpand (fun q p : Program α => ∃ s, p.Takes s q) ↑σ'.callers ↑σ.callers := by
  cases h with
  | @caller _ p q _ hp hs ha =>
    obtain ⟨hlt, rfl⟩ := List.getElem?_eq_some_iff.1 hp
    let others : Multiset (Program α) := ↑(σ.callers.eraseIdx n)
    have hafter : (↑(σ.callers.set n q) : Multiset (Program α)) = {q} + others :=
      Multiset.coe_eq_coe.2 (List.set_perm_cons_eraseIdx hlt q)
    have hbefore : (↑σ.callers : Multiset (Program α)) = {σ.callers[n]} + others :=
      Multiset.coe_eq_coe.2 (List.getElem_cons_eraseIdx_perm hlt).symm
    refine ⟨{q}, σ.callers[n], fun q' hq' => ⟨s, Multiset.mem_singleton.1 hq' ▸ hs⟩, ?_⟩
    change (↑(σ.callers.set n q) : Multiset (Program α)) + _ = ↑σ.callers + _
    rw [hafter, hbefore, add_assoc, add_comm, add_comm others]

/-- Where one of the callers can go on until a system is as wanted, it comes to be so. -/
theorem exists_leads_to {P T : System α → Prop}
    (hgoes : ∀ {σ}, P σ → T σ ∨ ∃ n s σ', σ.Next (.took (.caller n) s) σ' ∧ P σ') (h : P σ) :
    ∃ σ', σ.Leads σ' ∧ P σ' ∧ T σ' := by
  -- on what is left of the callers
  have hwf := InvImage.wf (fun σ : System α => (↑σ.callers : Multiset (Program α))) Program.wellFounded_takes.cutExpand
  induction σ using hwf.induction with
  | _ σ ih =>
    rcases hgoes h with hwanted | ⟨n, s, σ', hn, h'⟩
    · exact ⟨σ, .refl, h, hwanted⟩
    · obtain ⟨σ'', hl, hwanted⟩ := ih σ' hn.callers_less h'
      exact ⟨σ'', (Leads.refl.next hn).trans hl, hwanted⟩

/-- Where one of the callers can go on until all are over, all come to be over. -/
theorem exists_leads_over {P : System α → Prop} (hnext : ∀ {σ σ' e}, P σ → σ.Next e σ' → P σ')
    (hgoes : ∀ {σ}, P σ → (∀ p ∈ σ.callers, ∃ a, p = .done a) ∨ ∃ n s σ', σ.Next (.took (.caller n) s) σ') (h : P σ) :
    ∃ σ', σ.Leads σ' ∧ ∀ p ∈ σ'.callers, ∃ a, p = .done a := by
  obtain ⟨σ', hl, -, hover⟩ := exists_leads_to (T := fun σ => ∀ p ∈ σ.callers, ∃ a, p = .done a) (fun hP =>
    (hgoes hP).imp_right fun ⟨n, s, σ', hn⟩ => ⟨n, s, σ', hn, hnext hP hn⟩) h
  exact ⟨σ', hl, hover⟩

/-! ## Tasks -/

/-- Only tasks that there are take steps. -/
theorem Leads.stepsOf_eq_nil (h : σ₀.Leads σ) (h₀ : σ₀.past = []) {t : TaskId} (ht : σ.tasks.length ≤ t.number) :
    stepsOf (.task t) σ.past = [] := by
  induction h with
  | refl => rw [h₀]; rfl
  | next h hn ih =>
    have hle := hn.length_tasks_le
    rw [hn.past, stepsOf_append, ih (by omega), List.nil_append]
    cases hn with
    | caller => exact stepsOf_took_ne _ (by simp) _
    | @task u j p q s hp _ _ =>
      refine stepsOf_took_ne _ (fun heq => ?_) _
      obtain rfl : u = t := by simpa using heq
      have := (List.getElem?_eq_some_iff.1 hp).1
      omega
    | broke => rfl
    | cancelled => rfl

/-- Whoever took a step is a caller or a task that there is. -/
theorem Leads.actor_of_took (h : σ₀.Leads σ) (h₀ : σ₀.past = []) {a : Actor} {s : Step} (hs : .took a s ∈ σ.past) :
    (∃ n p, a = .caller n ∧ σ.callers[n]? = some p) ∨ ∃ t task, a = .task t ∧ σ.tasks[t.number]? = some task := by
  cases a with
  | caller n =>
    obtain ⟨σ₁, σ₂, h₁, hn, h₂⟩ := h.moment h₀ hs
    refine .inl ⟨n, _, rfl, List.getElem?_eq_getElem ?_⟩
    rw [h₂.length_callers, (Leads.refl.next hn).length_callers]
    cases hn with
    | caller hp => exact (List.getElem?_eq_some_iff.1 hp).1
  | task t =>
    refine .inr ⟨t, _, rfl, List.getElem?_eq_getElem (Nat.lt_of_not_le fun hle => ?_)⟩
    have hnil := h.stepsOf_eq_nil h₀ hle
    rw [← mem_stepsOf, hnil] at hs
    cases hs

/-- What holds of every task when it is spawned, and is preserved by its steps and by its breaking off, holds of every
task at any time. -/
theorem Leads.task_local (I : Job → List Step → TaskState → Prop) (hstart : ∀ j, I j [] (.busy j.program))
    (hstep : ∀ j own p s q, I j own (.busy p) → p.Takes s q → (∃ τ : System α, τ.Admits s) → I j (own ++ [s]) (.after q))
    (hbroke : ∀ j own subscription message token k,
      I j own (.busy (.ask (.handle subscription message token) k)) → I j own .broken)
    (h : σ₀.Leads σ) (h₀ : σ₀.past = []) (hjobs : ∃ jobs : List Job, σ₀.tasks = jobs.map .spawned)
    {t : TaskId} {task : Task} (ht : σ.tasks[t.number]? = some task) :
    I task.job (stepsOf (.task t) σ.past) task.state := by
  induction h generalizing task with
  | refl =>
    obtain ⟨jobs, hjobs⟩ := hjobs
    rw [hjobs, List.getElem?_map, Option.map_eq_some_iff] at ht
    obtain ⟨j, -, rfl⟩ := ht
    rw [h₀]
    exact hstart j
  | next h hn ih =>
    rw [hn.past, stepsOf_append]
    cases hn.befalls ht with
    | kept hbefore he =>
      rw [he, List.append_nil]
      exact ih hbefore
    | new hlen hs he =>
      rw [he, List.append_nil, h.stepsOf_eq_nil h₀ hlen.ge]
      exact hstart _
    | went hbefore hs ha =>
      rw [stepsOf_took_self]
      exact hstep _ _ _ _ _ (ih hbefore) hs ⟨_, ha⟩
    | broke hbefore =>
      rw [stepsOf_broke, List.append_nil]
      exact hbroke _ _ _ _ _ _ (ih hbefore)

/-- The jobs of the tasks, in the order in which they were spawned. -/
theorem Leads.jobs (h : σ₀.Leads σ) (h₀ : σ₀.past = []) :
    σ.tasks.map (·.job) = σ₀.tasks.map (·.job) ++ (σ.past.filterMap Happening.spawn?).map (·.1) := by
  induction h with
  | refl => simp [h₀]
  | @next σ σ' e h hn ih =>
    rw [hn.past, List.filterMap_append, List.map_append, ← List.append_assoc, ← ih]
    -- a task that goes on or breaks off keeps its job
    have hset : ∀ {t : TaskId} {j : Job} {st st' : TaskState}, σ.tasks[t.number]? = some ⟨j, st⟩ →
        (σ.tasks.set t.number ⟨j, st'⟩).map (·.job) = σ.tasks.map (·.job) := by
      intro t j st st' ht
      obtain ⟨hlt, hget⟩ := List.getElem?_eq_some_iff.1 ht
      have hlt' : t.number < (σ.tasks.map (·.job)).length := by simpa using hlt
      have hj : (σ.tasks.map (·.job))[t.number] = j := by simp [hget]
      rw [List.map_set, ← hj, List.set_getElem_self]
    cases hn with
    | @caller n p q s hp hs ha =>
      simp only [record, List.map_append, List.append_cancel_left_eq]
      cases hspawn : s.spawn? <;> simp [Happening.spawn?, hspawn, Task.spawned]
    | @task t j p q s hp hs ha =>
      simp only [record, List.map_append, hset hp, List.append_cancel_left_eq]
      cases hspawn : s.spawn? <;> simp [Happening.spawn?, hspawn, Task.spawned]
    | broke hp => simp [hset hp, Happening.spawn?]
    | cancelled t => simp [Happening.spawn?]

theorem Leads.job (h : σ₀.Leads σ) {t : TaskId} {j : Job} {state : TaskState}
    (ht : σ₀.tasks[t.number]? = some ⟨j, state⟩) : ∃ state', σ.tasks[t.number]? = some ⟨j, state'⟩ := by
  induction h with
  | refl => exact ⟨state, ht⟩
  | next _ hn ih =>
    obtain ⟨state', hstate⟩ := ih
    exact hn.job hstate

/-- A task is added when it is spawned, under the next number. -/
theorem Next.of_spawn {a : Actor} {s : Step} (h : σ.Next (.took a s) σ') {j : Job} {t : TaskId}
    (hj : s.spawn? = some (j, t)) : t.number = σ.tasks.length ∧ σ'.tasks[t.number]? = some (.spawned j) := by
  have hreply : t = ⟨σ.tasks.length⟩ := h.admits.reply _ _ (done?_of_spawn? hj)
  refine ⟨congrArg TaskId.number hreply, ?_⟩
  subst hreply
  cases h <;> simp [record, hj]

/-- A task that somebody spawned is there, with its job. -/
theorem Leads.task_of_spawn (h : σ₀.Leads σ) (h₀ : σ₀.past = []) {a : Actor} {s : Step} (hs : .took a s ∈ σ.past)
    {j : Job} {t : TaskId} (hj : s.spawn? = some (j, t)) : ∃ state, σ.tasks[t.number]? = some ⟨j, state⟩ := by
  obtain ⟨σ₁, σ₂, -, hn, h₂⟩ := h.moment h₀ hs
  exact h₂.job (hn.of_spawn hj).2

/-- Who spawned a task that was not there at the start. -/
theorem Leads.spawn_of_task (h : σ₀.Leads σ) {t : TaskId} {task : Task}
    (ht : σ.tasks[t.number]? = some task) :
    t.number < σ₀.tasks.length ∨ ∃ a s, .took a s ∈ σ.past ∧ s.spawn? = some (task.job, t) := by
  induction h generalizing task with
  | refl => exact .inl (List.getElem?_eq_some_iff.1 ht).1
  | @next σ σ' e h hn ih =>
    rw [hn.past]
    -- a task that was there before has kept its job
    have hold : ∀ {j : Job} {state : TaskState}, σ.tasks[t.number]? = some ⟨j, state⟩ → t.number < σ₀.tasks.length ∨
        ∃ a s, .took a s ∈ σ.past ++ [e] ∧ s.spawn? = some (j, t) := fun hold =>
      (ih hold).imp_right fun ⟨a, s, hs, hj⟩ => ⟨a, s, List.mem_append_left _ hs, hj⟩
    cases hn.befalls ht with
    | kept hbefore => exact hold hbefore
    | @new a s j hlen hs => exact .inr ⟨a, s, by simp, hs⟩
    | went hbefore => exact hold hbefore
    | broke hbefore => exact hold hbefore

/-- When all callers are done and all tasks are over, all that can happen is a cancellation from outside. -/
theorem Leads.quiet (h : σ₀.Leads σ)
    (hcallers : ∀ (n : Nat) (p : Program α), σ₀.callers[n]? = some p → ∃ a, p = .done a)
    (htasks : ∀ t : TaskId, t.number < σ₀.tasks.length → σ₀.Over t) :
    σ.callers = σ₀.callers ∧ σ.tasks = σ₀.tasks ∧
      ∃ after, σ.past = σ₀.past ++ after ∧ ∀ e ∈ after, ∃ t, e = .cancelled t := by
  induction h with
  | refl => exact ⟨rfl, rfl, [], by simp, by simp⟩
  | next h hn ih =>
    obtain ⟨hc, ht, after, hp, hafter⟩ := ih
    have hbusy : ∀ {t : TaskId} {j : Job} {p : Program (Option Job)}, σ₀.tasks[t.number]? ≠ some ⟨j, .busy p⟩ := by
      intro t j p hget
      obtain ⟨task, htask, hover⟩ := htasks t (List.getElem?_eq_some_iff.1 hget).1
      obtain rfl := Option.some.inj (hget.symm.trans htask)
      exact hover p rfl
    cases hn with
    | caller hp' hs ha =>
      rw [hc] at hp'
      obtain ⟨a, rfl⟩ := hcallers _ _ hp'
      exact absurd hs Program.Takes.not_done
    | task hp' hs ha => exact absurd (ht ▸ hp') hbusy
    | broke hp' => exact absurd (ht ▸ hp') hbusy
    | cancelled t =>
      refine ⟨hc, ht, after ++ [.cancelled t], by rw [← List.append_assoc, ← hp], fun e he => ?_⟩
      rcases List.mem_append.1 he with he | he
      · exact hafter e he
      · exact ⟨t, List.mem_singleton.1 he⟩

/-! ## How much has happened -/

@[simp] theorem isBroken_after (j : Job) (q : Program (Option Job)) : Task.isBroken ⟨j, .after q⟩ = false := by
  cases q with
  | done x => cases x <;> rfl
  | _ => rfl

/-- Each handler that breaks off leaves one task broken. -/
theorem Leads.countP_isBroke (h : σ₀.Leads σ) (h₀ : σ₀.past = [])
    (hjobs : ∃ jobs : List Job, σ₀.tasks = jobs.map .spawned) :
    σ.past.countP Happening.isBroke = σ.tasks.countP Task.isBroken := by
  have hnew : ∀ s : Step, (s.spawn?.map fun e => Task.spawned e.1).toList.countP Task.isBroken = 0 := by
    intro s
    cases s.spawn? <;> rfl
  -- a task that was busy is not broken
  have hset : ∀ {tasks : List Task} {t : TaskId} {j : Job} {p : Program (Option Job)} {state : TaskState},
      tasks[t.number]? = some ⟨j, .busy p⟩ →
      (tasks.set t.number ⟨j, state⟩).countP Task.isBroken =
        tasks.countP Task.isBroken + if Task.isBroken ⟨j, state⟩ then 1 else 0 := by
    intro tasks t j p state ht
    obtain ⟨hlt, hget⟩ := List.getElem?_eq_some_iff.1 ht
    rw [List.countP_set hlt, hget]
    simp [Task.isBroken]
  induction h with
  | refl =>
    obtain ⟨jobs, hjobs⟩ := hjobs
    rw [h₀, hjobs, List.countP_map]
    exact (List.countP_eq_zero.2 fun j _ => Bool.false_ne_true).symm
  | next h hn ih =>
    rw [hn.past, List.countP_append, ih]
    cases hn with
    | caller hp hs ha => simp [record, hnew, Happening.isBroke]
    | task hp hs ha => simp [record, hnew, hset hp, Happening.isBroke]
    | broke hp => simp [hset hp, Happening.isBroke, Task.isBroken]
    | cancelled t => simp [Happening.isBroke]

/-- Where only tasks are at work, what has happened is their steps and the handlers that broke off. -/
theorem length_eq_sum {past : List Happening} {n : Nat} (hsteps : ∀ a s, .took a s ∈ past → ∃ t < n, a = .task ⟨t⟩)
    (hc : ∀ t, .cancelled t ∉ past) :
    past.length = ∑ t ∈ Finset.range n, (stepsOf (.task ⟨t⟩) past).length + past.countP Happening.isBroke := by
  induction past with
  | nil => simp
  | cons e past ih =>
    have ih := ih (fun a s hs => hsteps a s (List.mem_cons_of_mem _ hs)) fun t ht => hc t (List.mem_cons_of_mem _ ht)
    have hcons : ∀ a, stepsOf a (e :: past) = stepsOf a [e] ++ stepsOf a past := fun a => stepsOf_append a [e] past
    simp only [hcons, List.length_append, Finset.sum_add_distrib, List.length_cons, List.countP_cons]
    cases e with
    | took a s =>
      obtain ⟨t, ht, rfl⟩ := hsteps a s List.mem_cons_self
      have hone : ∀ u, (stepsOf (.task ⟨u⟩) [.took (.task ⟨t⟩) s]).length = if u = t then 1 else 0 := by
        intro u
        split
        · rename_i heq
          rw [heq, stepsOf_took_self]
          rfl
        · rename_i hne
          rw [stepsOf_took_ne _ (by simpa using fun heq => hne heq.symm)]
          rfl
      simp only [hone, Finset.sum_ite_eq', Finset.mem_range, ht, if_true, Happening.isBroke]
      simp only [Bool.false_eq_true, if_false]
      omega
    | broke t =>
      simp only [stepsOf_broke, List.length_nil, Finset.sum_const_zero, Happening.isBroke, if_true]
      omega
    | cancelled t => exact absurd List.mem_cons_self (hc t)

/-! ## Things -/

/-- What came into being in some events, in order. -/
def made (past : List Happening) : List Thing :=
  past.flatMap fun
    | .took _ s => s.made
    | _ => []

theorem Leads.known (h : σ₀.Leads σ) (h₀ : σ₀.past = []) : σ.known = σ₀.known ++ made σ.past := by
  induction h with
  | refl => simp [h₀, made]
  | next h hn ih =>
    rw [hn.past]
    cases hn <;> simp [record, made, ih]

theorem nodup_made_of_step (s : Step) : s.made.Nodup := by
  unfold Step.made
  cases s.done?.bind fun d => d.1.makes? d.2 <;> simp

/-- No thing comes into being twice, nor one that there was already. -/
theorem Leads.nodup_made (h : σ₀.Leads σ) (h₀ : σ₀.past = []) :
    (made σ.past).Nodup ∧ ∀ x ∈ made σ.past, x ∉ σ₀.known := by
  induction h with
  | refl => simp [h₀, made]
  | @next σ σ' e h hn ih =>
    have hstep : ∀ (a : Actor) (s : Step), σ.Admits s →
        (made (σ.past ++ [.took a s])).Nodup ∧ ∀ x ∈ made (σ.past ++ [.took a s]), x ∉ σ₀.known := by
      intro a s ha
      have hnew : ∀ x ∈ s.made, x ∉ σ₀.known ++ made σ.past := h.known h₀ ▸ ha.new
      have hmade : made (σ.past ++ [.took a s]) = made σ.past ++ s.made := by simp [made]
      rw [hmade]
      refine ⟨List.nodup_append.2 ⟨ih.1, nodup_made_of_step s, fun x hx y hy hxy => ?_⟩, fun x hx => ?_⟩
      · exact hnew y hy (List.mem_append_right _ (hxy ▸ hx))
      · exact (List.mem_append.1 hx).elim (ih.2 x) fun hx hk => hnew x hx (List.mem_append_left _ hk)
    rw [hn.past]
    cases hn with
    | caller hp hs ha => exact hstep _ _ ha
    | task hp hs ha => exact hstep _ _ ha
    | broke => simpa [made] using ih
    | cancelled => simpa [made] using ih

/-! ## Replies -/

/-- Of infinitely many things there is always one that is not known. -/
theorem exists_fresh {β : Type} [Infinite β] {f : β → Thing} (hf : f.Injective) (known : List Thing) :
    ∃ x, f x ∉ known := by
  obtain ⟨x, hx⟩ := Infinite.exists_notMem_finset (known.toFinset.preimage f hf.injOn)
  exact ⟨x, fun hmem => hx (Finset.mem_preimage.2 (List.mem_toFinset.2 hmem))⟩

/-- There is always an id that nothing has. -/
theorem exists_fresh_text (known : List Thing) : ∃ id, Thing.text id ∉ known :=
  exists_fresh (fun _ _ h => Thing.text.inj h) known

/-- There is always a token that nobody knows. -/
theorem exists_fresh_token (known : List Thing) : ∃ t, Thing.token t ∉ known := by
  obtain ⟨n, hn⟩ := exists_fresh (f := fun n : Nat => .token ⟨n⟩) (fun _ _ h => by cases h; rfl) known
  exact ⟨_, hn⟩

/-- There is always a stream that nobody listens to. -/
theorem exists_fresh_stream (known : List Thing) : ∃ stream, Thing.stream stream ∉ known := by
  obtain ⟨n, hn⟩ := exists_fresh (f := fun n : Nat => .stream ⟨n⟩) (fun _ _ h => by cases h; rfl) known
  exact ⟨_, hn⟩

/-- Whoever does not wait for a cell or for tasks can be replied to; what is wanted can always fail, and channels can turn
out to be closed. -/
theorem exists_reply (σ : System α) {r : Request} (hlock : ∀ c, r ≠ .lock c) (hjoin : ∀ tasks, r ≠ .join tasks) :
    ∃ x, σ.CanReply r x ∧ (∀ y, r.makes? x = some y → y ∉ σ.known) ∧
      ∀ c, (⟨r, x⟩ : (r : Request) × r.Reply) ≠ ⟨.isOpen c, true⟩ := by
  cases r with
  | lock c => exact absurd rfl (hlock c)
  | join tasks => exact absurd rfl (hjoin tasks)
  | isOpen c => exact ⟨false, trivial, nothing_new rfl, by simp⟩
  | freshId =>
    obtain ⟨id, hid⟩ := exists_fresh_text σ.known
    refine ⟨id, trivial, fun y hy => ?_, nofun⟩
    cases hy
    exact hid
  | childToken parent =>
    obtain ⟨t, ht⟩ := exists_fresh_token σ.known
    refine ⟨t, trivial, fun y hy => ?_, nofun⟩
    cases hy
    exact ht
  | isCancelled t =>
    by_cases h : Cancelled σ.past t
    · exact ⟨true, by simp [CanReply, h], nothing_new rfl, nofun⟩
    · exact ⟨false, by simp [CanReply, h], nothing_new rfl, nofun⟩
  | spawn j => exact ⟨⟨σ.tasks.length⟩, rfl, nothing_new rfl, nofun⟩
  | call | consume | createChannel | connect | openChannel => exact ⟨.error .cancelled, trivial, nothing_new rfl, nofun⟩
  | handle => exact ⟨.ok (), trivial, nothing_new rfl, nofun⟩
  | isConnected => exact ⟨true, trivial, nothing_new rfl, nofun⟩
  | traceContext => exact ⟨[], trivial, nothing_new rfl, nofun⟩
  | arrival => exact ⟨.ended, trivial, nothing_new rfl, nofun⟩
  | shutdown | disconnect | sleep | span | cancel | put | unlock | leave => exact ⟨(), trivial, nothing_new rfl, nofun⟩

end MessageBus.System
