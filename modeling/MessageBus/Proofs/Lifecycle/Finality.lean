import MessageBus.Proofs.Lifecycle.Conduct
import MessageBus.Proofs.Lifecycle.Life
import MessageBus.Proofs.Program.Progress
import MessageBus.Proofs.Publishing.Refusal
/-!
# After the stop

Calls on a bus and on its publisher go on side by side (`System.atWork`). A publication that was under way when the bus
was stopped may leave its channel with the publisher. That channel can no longer be used, as its connection was opened
before the pool was given up and so has been closed. `System.stop_is_final` says what becomes of a publication that is
called once a stop has returned: it opens nothing, publishes nothing, and fails.
-/

namespace MessageBus

/-- Requests that open nothing and use no channel. -/
def Request.OpensNothing : Request → Prop
  | .connect | .createChannel | .openChannel _ | .call _ _ => False
  | _ => True

theorem Request.OfTask.isApart {r : Request} (h : r.OfTask) : r.IsApart := by
  cases r <;> trivial

/-- Whether the event tells somebody that a channel can be used. -/
def Happening.isOpen : Happening → Bool
  | took _ s => match s.done? with
    | some ⟨.isOpen _, true⟩ => true
    | _ => false
  | _ => false

/-- Closing a connection works: from then on none of its channels can be used, even if whoever closed it did not wait for
the end. -/
def ClosedForGood (past : List Happening) : Prop :=
  Throughout past fun before _ s =>
    ∀ c k, s.done? = some ⟨.isOpen c, true⟩ → OpenedOn before c k → k ∉ disconnected before

namespace ClosedForGood

variable {past : List Happening} {e : Happening}

theorem concat (h : ClosedForGood past) (he : ∀ a s, e = .took a s → ∀ c, s.done? ≠ some ⟨.isOpen c, true⟩) :
    ClosedForGood (past ++ [e]) :=
  Throughout.concat_iff.2 ⟨h, fun a s heq c _ hd => absurd hd (he a s heq c)⟩

theorem of_not_isOpen (h : past.any Happening.isOpen = false) : ClosedForGood past := by
  intro before a s after hp c k hd
  have hopen : Happening.isOpen (.took a s) = true := by simp [Happening.isOpen, hd]
  simp [hp, hopen] at h

end ClosedForGood

/-! ## Whoever comes late -/

/-- Whatever the actor did, it did when the pool had been given up and all connections had been closed. -/
def CameLate (past : List Happening) (a : Actor) : Prop :=
  Throughout past fun before b _ => b = a → Late before

/-- Whoever has done nothing by the time that the pool is given up comes late. -/
theorem Late.cameLate {p : Publisher} {errand : Publisher.Errands} {past rest : List Happening} {a : Actor}
    (h : Late past) (hobserved : (p.agreement errand).Observed (past ++ rest)) (hnew : stepsOf a past = []) :
    CameLate (past ++ rest) a := by
  intro before b s after hp heq
  subst heq
  rcases List.append_eq_append_iff.1 hp with ⟨later, rfl, -⟩ | ⟨since, rfl, hafter⟩
  · have hon : (p.agreement errand).Onward b (fun _ => True) past (past ++ later) :=
      ⟨(hp ▸ hobserved).of_append, later, rfl, fun _ _ => trivial⟩
    exact h.onward hon
  · cases since with
    | nil => rwa [List.append_nil] at h
    | cons e since =>
      obtain rfl := (List.cons.inj hafter).1
      have hmem : s ∈ stepsOf b (before ++ .took b s :: since) := mem_stepsOf.2 (by simp)
      rw [hnew] at hmem
      exact absurd hmem List.not_mem_nil

theorem ChannelSource.pooled_ne_direct (size : Nat) : ChannelSource.pooled size ≠ .direct := by
  intro h
  have hcreate := congrArg (fun source => source.create.run.request?) h
  cases hcreate

namespace Publisher

open MessageBus.System (request_of_done?)

variable {p : Publisher} {errand : Errands} {size : Nat} {past : List Happening} {a : Actor}

theorem not_admitted (hobserved : (p.agreement errand).Observed past) (hlate : CameLate past a) : ¬Admitted past a := by
  rintro ⟨s, hs, v, hd, hv⟩
  obtain ⟨before, after, rfl⟩ := List.append_of_mem (mem_stepsOf.1 hs)
  obtain ⟨-, hlock⟩ := hobserved before a s after rfl
  have hdisposed := (hlate before a s after rfl rfl).disposed
  rw [← (hlock .pool v hd).2, hv] at hdisposed
  cases hdisposed

/-- Whoever comes late to a pool finds no channel: those of the pool's connections cannot be used, and it gives no new
one. -/
theorem not_served (hp : p.source = .pooled size) (hobserved : (p.agreement errand).Observed past)
    (hlate : CameLate past a) (hclosed : ClosedForGood past) (c : ChannelId) : ¬Served past a c := by
  have hcreate : ∀ {b s}, .took b s ∈ past → s.request ≠ .createChannel := by
    intro b s hs hr
    obtain ⟨before, after, rfl⟩ := List.append_of_mem hs
    have hdirect := (hobserved before b s after rfl).1.allowed.1.creates hr
    exact ChannelSource.pooled_ne_direct size (hp.symm.trans hdirect)
  rintro ⟨s, hs, hd⟩
  have hs := mem_stepsOf.1 hs
  obtain ⟨before, after, hpast⟩ := List.append_of_mem hs
  have hask := (hobserved before a s after hpast).1
  rcases hd with hd | hd | ⟨k, hd⟩
  · rcases hask.allowed.1.looks c (request_of_done? hd) with ⟨b, s', he, hd'⟩ | ⟨k, hk, hopened⟩
    · exact hcreate (hpast ▸ List.mem_append_left _ he) (request_of_done? hd')
    · exact hclosed before a s after hpast c k hd hopened ((hlate before a s after hpast rfl).closed k hk)
  · exact hcreate hs (request_of_done? hd)
  · subst hpast
    exact not_admitted hobserved.of_append hlate.of_append (hask.allowed.1.opens k (request_of_done? hd)).2

/-- A publication that comes late opens nothing and publishes nothing. -/
theorem opensNothing_of_late (hp : p.source = .pooled size) (hobserved : (p.agreement errand).Observed past)
    (hlate : CameLate past a) (hclosed : ClosedForGood past) (hgone : Late past) {r : Request}
    (hask : (p.agreement errand).MayAsk past a r) {audience : Audience} {t : String}
    (herrand : errand a = some (audience, t)) : r.OpensNothing := by
  cases r with
  | connect =>
    have hopen := (hask.allowed.1.connects rfl).2
    cases hopen.symm.trans hgone.disposed
  | createChannel => exact ChannelSource.pooled_ne_direct size (hp.symm.trans (hask.allowed.1.creates rfl))
  | openChannel k => exact not_admitted hobserved hlate (hask.allowed.1.opens k rfl).2
  | call c x => exact not_served hp hobserved hlate hclosed c ((hask.allowed.2 _ _ herrand).calls c x rfl).1
  | _ => trivial

theorem foundGone_of_late (hp : p.source = .pooled size) (hobserved : (p.agreement errand).Observed past)
    (hlate : CameLate past a) (hclosed : ClosedForGood past) : FoundGone (stepsOf a past) where
  shut s hs c hd := not_served hp hobserved hlate hclosed c ⟨s, hs, .inl hd⟩
  disposed s hs v hd := by
    by_contra hv
    exact not_admitted hobserved hlate ⟨s, hs, v, hd, by simpa using hv⟩

end Publisher

/-! ## A bus at work -/

namespace Bus

open Agreement

/-- A call on a bus or on its publisher. -/
inductive Work where
  | onBus (o : Op)
  | onPublisher (o : Publisher.Op)

/-- What such a call gives. -/
inductive Outcome where
  | ofBus (a : Answer)
  | ofPublisher (a : Publisher.Answer)

namespace Work

/-- What is done in a call. -/
def program (b : Bus) : Work → Program Outcome
  | onBus o => .ofBus <$> o.program b
  | onPublisher o => .ofPublisher <$> o.program b.publisher

/-- For whom a message is published, and its type. -/
def errand? : Work → Option (Audience × String)
  | onBus _ => none
  | onPublisher o => o.errand?

end Work

/-- What each caller publishes. -/
abbrev errands (works : List Work) : Publisher.Errands := .of Work.errand? works

/-- How a call ends: with nothing locked, and a stop with the pool given up. -/
def Ends (b : Bus) (works : List Work) (n : Nat) (x : Outcome) (past : List Happening) : Prop :=
  b.publisher.Keeps (errands works) (.caller n) [] past ∧ (x = .ofBus .stopped → Late past)

theorem Work.spawnsIntakes {b : Bus} (hs : b.source.Offered) (w : Work) : (w.program b).Only SpawnsIntakes := by
  cases w with
  | onBus o => exact (o.only_program hs).map _
  | onPublisher o =>
    refine ((o.only_program (p := b.publisher) hs).mono fun r hr j hj => ?_).map _
    exact absurd hj (hr.1 j)

theorem Work.abides {b : Bus} {size : Nat} (hb : b.source = .pooled size) {works : List Work} {n : Nat} {w : Work}
    (hw : works[n]? = some w) :
    (b.publisher.agreement (errands works)).Abides (.caller n) (b.Ends works n) (w.program b) [] := by
  have herrand : errands works (.caller n) = w.errand? := by simp [Publisher.Errands.of, hw]
  cases w with
  | onBus o =>
    refine Abides.map ((abides_op hb herrand o).imp ?_)
    rintro x past ⟨hkeeps, hlate⟩
    exact ⟨hkeeps, fun heq => hlate (by cases heq; rfl)⟩
  | onPublisher o =>
    have hs : b.source.Offered := hb ▸ .pooled size
    refine Abides.map ((Publisher.abides_op (p := b.publisher) hs herrand).imp ?_)
    exact fun x past h => ⟨h, fun heq => by cases heq⟩

end Bus

/-- A system with a bus on which calls are made, and on its publisher. -/
def System.atWork (b : Bus) (works : List Bus.Work) (known : List Thing) : System Bus.Outcome :=
  start (works.map (Bus.Work.program b)) [] known Cell.initial

namespace Bus

open Agreement MessageBus.System

variable {b : Bus} {size : Nat} {works : List Work} {known : List Thing} {σ σ' : System Outcome} {n : Nat}

theorem caller_of_work {w : Work} (hn : works[n]? = some w) :
    (System.atWork b works known).callers[n]? = some (w.program b) := by
  simp [System.atWork, System.start, hn]

theorem ofTask_of_work (hs : b.source.Offered) (h : (System.atWork b works known).Leads σ) {t : TaskId} {s : Step}
    (ht : .took (.task t) s ∈ σ.past) : s.request.OfTask := by
  refine ofTask_of_start (fun q (hq : q ∈ works.map (Work.program b)) => ?_) h ht
  obtain ⟨w, -, rfl⟩ := List.mem_map.1 hq
  exact w.spawnsIntakes hs

/-- In every interleaving the agreement is observed, and what is left of each call abides by it. -/
theorem observed_of_work (hb : b.source = .pooled size) (h : (System.atWork b works known).Leads σ) :
    (b.publisher.agreement (errands works)).Observed σ.past ∧ ∀ n q, σ.callers[n]? = some q →
      (b.publisher.agreement (errands works)).Abides (.caller n) (b.Ends works n) q σ.past := by
  have hs : b.source.Offered := hb ▸ .pooled size
  refine h.observed (fun n x past past' hm hends => ?_) (fun n q hq => ?_) fun {σ} h t s ht past => ?_
  · exact ⟨hends.1.meanwhile hm, fun hx => (hends.2 hx).onward hm⟩
  · obtain ⟨w, hw, rfl⟩ := Option.map_eq_some_iff.1 ((List.getElem?_map ..).symm.trans hq)
    exact w.abides hb hw
  · have hapart := (ofTask_of_work hs h ht).isApart
    refine .of_apart ⟨.of_isApart hapart nofun, fun _ _ he => ?_⟩ hapart.not_touches
    cases he

/-- Whoever has a cell locked that comes after the stage waits for a reply, and not for tasks. -/
theorem asks_of_holder (hb : b.source = .pooled size) (h : (System.atWork b works known).Leads σ) {c : Cell} {a : Actor}
    (hc : 1 ≤ c.rank) (hholder : holderIn σ.past c = some a) : ∃ n r, a = .caller n ∧ σ.Asks n r ∧
      (b.publisher.agreement (errands works)).MayAsk σ.past a r ∧ ∀ tasks, r ≠ .join tasks := by
  have hs : b.source.Offered := hb ▸ .pooled size
  obtain ⟨hobserved, habides⟩ := observed_of_work hb h
  obtain ⟨s, hs', hlock⟩ := hobserved.locked hholder
  rcases h.actor_of_took rfl hs' with ⟨n, q, rfl, hq⟩ | ⟨t, task, rfl, -⟩
  · cases q with
    | done x =>
      -- whoever is done has nothing locked
      have hends : b.Ends works n x σ.past := habides n _ hq
      exact absurd ((hends.1.holds.mem_iff c).1 hholder) List.not_mem_nil
    | ask r k | race t r k =>
      have hask := (habides n _ hq).mayAsk hobserved (r := r) rfl
      refine ⟨n, r, rfl, ⟨_, hq, rfl⟩, hask, fun tasks hr => ?_⟩
      obtain rfl := hask.allowed.1.joins n tasks rfl hr c hholder
      exact absurd hc (by decide)
  · have htask := ofTask_of_work hs h hs'
    rw [hlock] at htask
    exact htask.elim

theorem errand_of_publish {audience : Audience} {t : String} {message : Json} {token : TokenId}
    (hn : works[n]? = some (.onPublisher (.publish audience t message token))) :
    errands works (.caller n) = some (audience, t) := by
  simp [Publisher.Errands.of, hn, Work.errand?, Publisher.Op.errand?]

/-- Once a stop has returned the pool is given up, and whoever has done nothing until then comes late. -/
theorem late_of_stopped (hb : b.source = .pooled size) (h : (System.atWork b works known).Leads σ) {m : Nat}
    (hm : σ.callers[m]? = some (.done (.ofBus .stopped))) (hnew : stepsOf (.caller n) σ.past = []) (h' : σ.Leads σ') :
    Late σ'.past ∧ CameLate σ'.past (.caller n) := by
  obtain ⟨-, habides⟩ := observed_of_work hb h
  obtain ⟨hobserved, -⟩ := observed_of_work hb (h.trans h')
  have hlate : Late σ.past := (habides m _ hm : b.Ends works m _ σ.past).2 rfl
  obtain ⟨rest, hpast⟩ := h'.past
  have hon : (b.publisher.agreement (errands works)).Onward (.caller n) (fun _ => True) σ.past σ'.past :=
    ⟨hobserved, rest, hpast, fun _ _ => trivial⟩
  refine ⟨hlate.onward hon, ?_⟩
  rw [hpast] at hobserved ⊢
  exact hlate.cameLate hobserved hnew

/-- While a publication is not over, it or another call can go on. -/
theorem exists_next_of_publication (hb : b.source = .pooled size) (h : (System.atWork b works known).Leads σ)
    (hclosed : ClosedForGood σ.past) {audience : Audience} {t : String} {message : Json} {token : TokenId}
    (hn : works[n]? = some (.onPublisher (.publish audience t message token))) :
    (∃ x, σ.callers[n]? = some (.done x)) ∨
      ∃ m s σ', σ.Next (.took (.caller m) s) σ' ∧ ClosedForGood σ'.past := by
  obtain ⟨hobserved, habides⟩ := observed_of_work hb h
  obtain ⟨q, hq, -⟩ := h.caller_reaches rfl (caller_of_work hn)
  cases q with
  | done x => exact .inl ⟨x, hq⟩
  | ask r k | race t' r k =>
    have hasks : σ.Asks n r := ⟨_, hq, rfl⟩
    have hstays := (((habides n _ hq).mayAsk hobserved (r := r) rfl).allowed.2 _ _ (errand_of_publish hn)).stays
    -- it does not wait for the stage, which may be locked by who waits for tasks
    obtain ⟨m, s, σ', hnext, hopen⟩ := exists_next_of_asks (m := 1) (Leads.cells_eq h).1
      (fun c a => asks_of_holder hb h) hasks hstays.2 fun c hc => by
        cases c with
        | stage => exact absurd hc hstays.1
        | outlet | pool | declared => simp [Cell.rank]
    refine .inr ⟨m, s, σ', hnext, ?_⟩
    rw [hnext.past]
    refine hclosed.concat fun a s' heq => ?_
    cases heq
    exact hopen

/-- A publication can come to its end, whatever has happened. -/
theorem exists_leads_done (hb : b.source = .pooled size) (h : (System.atWork b works known).Leads σ)
    (hclosed : ClosedForGood σ.past) {audience : Audience} {t : String} {message : Json} {token : TokenId}
    (hn : works[n]? = some (.onPublisher (.publish audience t message token))) :
    ∃ σ' x, σ.Leads σ' ∧ ClosedForGood σ'.past ∧ σ'.callers[n]? = some (.done x) := by
  have hgoes : ∀ {σ : System Outcome}, (System.atWork b works known).Leads σ ∧ ClosedForGood σ.past →
      (∃ x, σ.callers[n]? = some (.done x)) ∨ ∃ m s σ', σ.Next (.took (.caller m) s) σ' ∧
        (System.atWork b works known).Leads σ' ∧ ClosedForGood σ'.past := by
    rintro σ ⟨h, hclosed⟩
    refine (exists_next_of_publication hb h hclosed hn).imp_right ?_
    rintro ⟨m, s, σ', hnext, hclosed'⟩
    exact ⟨m, s, σ', hnext, h.next hnext, hclosed'⟩
  obtain ⟨σ', hl, ⟨-, hclosed'⟩, x, hx⟩ := exists_leads_to hgoes ⟨h, hclosed⟩
  exact ⟨σ', x, hl, hclosed', hx⟩

end Bus

open Bus in
/-- However calls on a bus and on its publisher are interleaved, a stop is final. Whoever publishes a message once a stop
has returned never opens a connection or a channel, nor uses one; it can always come to its end, and what it then gives is
a fault of publishing, unless its message could not be written or its own token was cancelled. -/
theorem System.stop_is_final {b : Bus} {size : Nat} (hb : b.source = .pooled size) {works : List Work}
    {known : List Thing} {σ σ' : System Outcome} (h : (atWork b works known).Leads σ) {m : Nat}
    (hm : σ.callers[m]? = some (.done (.ofBus .stopped))) {n : Nat} {audience : Audience} {t : String} {message : Json}
    {token : TokenId} (hn : works[n]? = some (.onPublisher (.publish audience t message token)))
    (hnew : stepsOf (.caller n) σ.past = []) (h' : σ.Leads σ') (hclosed : ClosedForGood σ'.past) :
    (∀ r, σ'.Asks n r ∨ (∃ s, .took (.caller n) s ∈ σ'.past ∧ s.request = r) → r.OpensNothing) ∧
      (∀ x, σ'.callers[n]? = some (.done x) → ∃ r, x = .ofPublisher (.published r) ∧
        b.publisher.Refuses t message (Cancelled σ'.past token) r) ∧
      ∃ σ'' x, σ'.Leads σ'' ∧ ClosedForGood σ''.past ∧ σ''.callers[n]? = some (.done x) := by
  have hreach := h.trans h'
  have herrand := errand_of_publish hn
  obtain ⟨hobserved, habides⟩ := observed_of_work hb hreach
  obtain ⟨hlate, hcame⟩ := late_of_stopped hb h hm hnew h'
  refine ⟨?_, fun x hx => ?_, exists_leads_done hb hreach hclosed hn⟩
  · rintro r (⟨q, hq, hr⟩ | ⟨s, hs, rfl⟩)
    · have hask := (habides n q hq).mayAsk hobserved hr
      exact Publisher.opensNothing_of_late hb hobserved hcame hclosed hlate hask herrand
    · obtain ⟨before, after, hsplit⟩ := List.append_of_mem hs
      have hask := (hobserved before _ s after hsplit).1
      have hbefore := hcame before _ s after hsplit rfl
      rw [hsplit] at hobserved hcame hclosed
      exact Publisher.opensNothing_of_late hb hobserved.of_append hcame.of_append hclosed.of_append hbefore hask herrand
  · obtain ⟨q, hq, hsteps⟩ := hreach.caller_reaches rfl (caller_of_work hn)
    cases hx.symm.trans hq
    obtain ⟨answer, hanswer, rfl⟩ := hsteps.map_done
    obtain ⟨r, hr, rfl⟩ := Program.Reaches.map_done hanswer
    refine ⟨r, rfl, ?_⟩
    have hgone := Publisher.foundGone_of_late hb hobserved hcame hclosed
    refine (Publisher.refuses_of_publish hb hr hgone).mono ?_
    rintro ⟨s, hs, htold⟩
    exact hreach.cancelled_of_told rfl (mem_stepsOf.1 hs) htold

namespace Sample

/-- A publication that a stop overtakes, and one that is called after the stop. -/
def rush : List Bus.Work :=
  [.onPublisher (.publish .subscribers "orders.OrderPlaced" (.object [("id", .number 1)]) ⟨1⟩), .onBus .stop,
    .onPublisher (.publish .subscribers "orders.OrderPlaced" (.object [("id", .number 1)]) ⟨2⟩)]

end Sample

open Sample Program Bus in
theorem System.leads_rush : ∃ σ σ' : System Bus.Outcome, (System.atWork outpost rush []).Leads σ ∧
    σ.callers[1]? = some (.done (.ofBus .stopped)) ∧ stepsOf (.caller 2) σ.past = [] ∧ σ.Leads σ' ∧
    ClosedForGood σ'.past ∧ ¬Cancelled σ'.past ⟨2⟩ ∧ ∃ x, σ'.callers[2]? = some (.done x) := by
  have h₀ : (System.atWork outpost rush []).Leads _ := .refl
  have h₁ := h₀.next (.called (n := 1) (r := .lock .stage) Stage.idle rfl ⟨rfl, rfl⟩ (nothing_new rfl))
  have h₂ := h₁.next (.called (n := 1) (r := .put .stage .stopped) () rfl trivial (nothing_new rfl))
  have h₃ := h₂.next (.called (n := 1) (r := .cancel ⟨0⟩) () rfl trivial (nothing_new rfl))
  have h₄ := h₃.next (.called (n := 1) (r := .lock .outlet) none rfl ⟨rfl, rfl⟩ (nothing_new rfl))
  have h₅ := h₄.next (.called (n := 1) (r := .unlock .outlet) () rfl trivial (nothing_new rfl))
  have h₆ := h₅.next (.called (n := 0) (r := .freshId) "a" rfl trivial fun y hy => by cases hy; decide)
  have h₇ := h₆.next (.called (n := 0) (r := .traceContext) [] rfl trivial (nothing_new rfl))
  have h₈ := h₇.next (.called (n := 0) (r := .isCancelled ⟨1⟩) false rfl
    (uncancelled_of_not_mem_raised (by decide)) (nothing_new rfl))
  have h₉ := h₈.next (.called_racing (n := 0) (r := .lock .outlet) none
    (congrArg (fun m => some (Program.bind (Program.bind m _) _)) (waits_then rfl)) ⟨rfl, rfl⟩ (nothing_new rfl))
  have h₁₀ := h₉.next (.called_racing (n := 0) (r := .lock .pool) Pool.empty
    (congrArg (fun m => some (Program.bind (Program.bind m _) _)) (waits_then rfl)) ⟨rfl, rfl⟩ (nothing_new rfl))
  have h₁₁ := h₁₀.next (.called_racing (n := 0) (r := .connect) (.ok ⟨0⟩)
    (congrArg (fun m => some (Program.bind (Program.bind m _) _)) (waits_then rfl)) trivial
    fun y hy => by cases hy; decide)
  have h₁₂ := h₁₁.next (.called (n := 0) (r := .put .pool _) ()
    (congrArg (fun m => some (Program.bind (Program.bind m _) _)) (asks_then rfl)) trivial (nothing_new rfl))
  have h₁₃ := h₁₂.next (.called (n := 0) (r := .unlock .pool) ()
    (congrArg (fun m => some (Program.bind (Program.bind m _) _)) (asks_then rfl)) trivial (nothing_new rfl))
  have h₁₄ := h₁₃.next (.called (n := 1) (r := .lock .pool) ⟨[⟨0⟩], false⟩ rfl ⟨rfl, rfl⟩ (nothing_new rfl))
  have h₁₅ := h₁₄.next (.called (n := 1) (r := .put .pool _) () rfl trivial (nothing_new rfl))
  have h₁₆ := h₁₅.next (.called (n := 1) (r := .put .pool _) () rfl trivial (nothing_new rfl))
  have h₁₇ := h₁₆.next (.called (n := 1) (r := .disconnect ⟨0⟩) () rfl trivial (nothing_new rfl))
  have h₁₈ := h₁₇.next (.called (n := 1) (r := .unlock .pool) () rfl trivial (nothing_new rfl))
  have h₁₉ := h₁₈.next (.called (n := 1) (r := .unlock .stage) () rfl trivial (nothing_new rfl))
  -- the stop has returned, and only now the channel is given that was asked for before
  have hstopped : ∀ {σ₀ σ : System Outcome}, σ₀.Leads σ → σ.Leads σ := fun _ => .refl
  have h₂₀ := (hstopped h₁₉).next (.called_racing (n := 0) (r := .openChannel ⟨0⟩) (.ok ⟨0⟩)
    (congrArg (fun m => some (Program.bind (Program.bind m _) _)) (waits_then rfl)) trivial
    fun y hy => by cases hy; decide)
  have h₂₁ := h₂₀.next (.called (n := 0) (r := .put .outlet (some ⟨0⟩)) ()
    (congrArg (fun m => some (Program.bind (Program.bind m _) _)) (asks_then rfl)) trivial (nothing_new rfl))
  have h₂₂ := h₂₁.next (.called (n := 0) (r := .unlock .outlet) ()
    (congrArg (fun m => some (Program.bind (Program.bind m _) _)) (asks_then rfl)) trivial (nothing_new rfl))
  have h₂₃ := h₂₂.next (.called (n := 2) (r := .freshId) "b" rfl trivial fun y hy => by cases hy; decide)
  have h₂₄ := h₂₃.next (.called (n := 2) (r := .traceContext) [] rfl trivial (nothing_new rfl))
  have h₂₅ := h₂₄.next (.called (n := 2) (r := .isCancelled ⟨2⟩) false rfl
    (uncancelled_of_not_mem_raised (by decide)) (nothing_new rfl))
  have h₂₆ := h₂₅.next (.called_racing (n := 2) (r := .lock .outlet) (some ⟨0⟩)
    (congrArg (fun m => some (Program.bind (Program.bind m _) _)) (waits_then rfl)) ⟨rfl, rfl⟩ (nothing_new rfl))
  have h₂₇ := h₂₆.next (.called (n := 2) (r := .isOpen ⟨0⟩) false
    (congrArg (fun m => some (Program.bind (Program.bind m _) _)) (asks_then rfl)) trivial (nothing_new rfl))
  have h₂₈ := h₂₇.next (.called_racing (n := 2) (r := .lock .pool) ⟨[], true⟩
    (congrArg (fun m => some (Program.bind (Program.bind m _) _)) (waits_then rfl)) ⟨rfl, rfl⟩ (nothing_new rfl))
  have h₂₉ := h₂₈.next (.called (n := 2) (r := .unlock .pool) ()
    (congrArg (fun m => some (Program.bind (Program.bind m _) _)) (asks_then rfl)) trivial (nothing_new rfl))
  have h₃₀ := h₂₉.next (.called (n := 2) (r := .unlock .outlet) ()
    (congrArg (fun m => some (Program.bind (Program.bind m _) _)) (asks_then rfl)) trivial (nothing_new rfl))
  exact ⟨_, _, h₁₉, rfl, rfl, h₃₀, .of_not_isOpen rfl, fun h => absurd h.mem_raised (by decide), _, rfl⟩

open Sample Bus in
/-- A channel that was asked for before the stop is given after it. The next order is refused all the same. -/
theorem System.order_refused : ∃ σ σ' : System Outcome, (System.atWork outpost rush []).Leads σ ∧
    σ.callers[1]? = some (.done (.ofBus .stopped)) ∧ σ.Leads σ' ∧
    σ'.callers[2]? = some (.done (.ofPublisher (.published (.error
      (.publish "orders.OrderPlaced" Pool.disposedFault.message))))) ∧
    ∀ s, .took (.caller 2) s ∈ σ'.past → s.request.OpensNothing := by
  obtain ⟨σ, σ', h, hstopped, hnew, h', hclosed, huncancelled, x, hx⟩ := leads_rush
  obtain ⟨hnothing, hrefused, -⟩ := stop_is_final (b := outpost) rfl h hstopped rfl hnew h' hclosed
  obtain ⟨r, rfl, hr⟩ := hrefused x hx
  refine ⟨σ, σ', h, hstopped, h', ?_, fun s hs => hnothing _ (.inr ⟨s, hs, rfl⟩)⟩
  rcases hr with rfl | ⟨-, hcancelled⟩
  · exact hx
  · exact absurd hcancelled huncancelled

end MessageBus
