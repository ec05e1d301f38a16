import MessageBus.Proofs.Delivery.Refusal
import MessageBus.Proofs.Lifecycle.Calls
/-!
# A start that fails

A start of an idle bus that fails leaves nothing behind (`System.failed_start_leaves_nothing`): its fault is the first
that it met with, all that it opened is closed, all that it subscribed to is cancelled, no task is left, and the bus is
idle, so that the next start goes the same way from the beginning.
-/

namespace MessageBus

/-! ## What comes into being once -/

theorem Step.made_of_opened? {s : Step} {c : ChannelId} (h : s.opened? = some c) : s.made = [.channel c] := by
  cases s with
  | raced => cases h
  | asked r x =>
    cases r with
    | createChannel | openChannel =>
      cases x with
      | ok c' =>
        cases h
        rfl
      | error => cases h
    | _ => cases h

theorem Step.made_of_token? {s : Step} {t : TokenId} (h : s.token? = some t) : s.made = [.token t] := by
  unfold token? at h
  split at h
  · rename_i hd
    cases h
    rw [made, hd]
    rfl
  · cases h

/-! ## The turn of a failed start -/

/-- A start that fails on an idle bus has begun and given up again. -/
theorem Bus.Goes.of_failed {b : Bus} {o : Bus.Op} {t : Turn .stage Bus.Answer} (h : b.Goes o t) {f : Fault}
    (hr : t.result = .started (.error f)) (hidle : .asked (.lock .stage) .idle ∈ t.all) :
    ∃ body, t = Bus.turn t.caller .idle body (.started (.error f)) ∧ b.startIdle.run.Reaches body (.done (.error f)) := by
  cases h with
  | failed n h =>
    cases hr
    exact ⟨_, rfl, h⟩
  | busy | late => simp [Bus.turn, Turn.all] at hidle
  | started | stopped | looked => cases hr

/-- The steps of its turn: what it opened it closed, what it subscribed to it cancelled before it closed the channel, and
it met with one fault. -/
theorem Bus.failed_turn {b : Bus} (hs : b.source.Offered) {body : List Step} {f : Fault}
    (h : b.startIdle.run.Reaches body (.done (.error f))) (n : Nat) (a : Bus.Answer) :
    let own := (Bus.turn n .idle body a).all
    (Bus.turn n .idle body a).left = .idle ∧ faults own = [f] ∧ opened own = closed own ∧
      ∀ e ∈ subscribed own, ∃ front x rest,
        own = front ++ .asked (.call e.1 .close) x :: rest ∧ e ∈ unsubscribed front := by
  obtain ⟨cs, is, htags, hledger, horder⟩ := Bus.ledger_of_failed hs h
  have hall : ledger (Bus.turn n .idle body a).all =
      { Bus.undone cs is f with strays := [.lock .stage, .unlock .stage] } := by
    rw [Bus.ledger_turn, hledger]
    rfl
  refine ⟨by rw [Bus.left_turn, hledger]; rfl, congrArg Ledger.faults hall,
    (congrArg Ledger.opened hall).trans (congrArg Ledger.closed hall).symm, fun e he => ?_⟩
  have hown : subscribed (Bus.turn n .idle body a).all = unsubscribed body :=
    (congrArg Ledger.subscribed hall).trans (congrArg Ledger.unsubscribed hledger).symm
  obtain ⟨front, x, rest, rfl, hfront⟩ := horder e (hown ▸ he)
  refine ⟨.asked (.lock .stage) .idle :: front, x, rest ++ [.asked (.unlock .stage) ()], ?_, by simpa using .inr hfront⟩
  simp [Bus.turn, Turn.all]

namespace System

variable {b : Bus} {ops : List Bus.Op} {known : List Thing} {σ σ' : System Bus.Answer}

theorem mem_made {past : List Happening} {a : Actor} {s : Step} (h : .took a s ∈ past) {x : Thing} (hx : x ∈ s.made) :
    x ∈ made past := List.mem_flatMap.2 ⟨_, h, hx⟩

/-- What steps show to be a thing that they brought is among what came into being, in the same order. -/
theorem sublist_made {β : Type} {f : Step → Option β} {g : β → Thing} (hf : ∀ s x, f s = some x → s.made = [g x])
    (past : List Happening) : ((noted f (steps past)).map g).Sublist (made past) := by
  induction past with
  | nil => exact .slnil
  | cons e past ih =>
    cases e with
    | took a s =>
      have hsteps : steps (.took a s :: past) = s :: steps past := rfl
      have hmade : made (.took a s :: past) = s.made ++ made past := rfl
      rw [hsteps, hmade, noted_cons, List.map_append]
      refine .append ?_ ih
      cases h : f s with
      | none => exact List.nil_sublist _
      | some x => rw [hf s x h]; exact .refl _
    | broke | cancelled => exact ih

/-- No channel is opened twice. -/
theorem nodup_opened (h : (bus b ops known).Leads σ) : (opened (steps σ.past)).Nodup :=
  .of_map _ ((h.nodup_made rfl).1.sublist (sublist_made (fun _ _ => Step.made_of_opened?) σ.past))

/-- The token of the bus is cancelled from outside only, as long as the bus has cancelled no token but those that it
made. -/
theorem cancelled_iff (hs : b.source.Offered) (hk : .token b.token ∈ known) (h : (bus b ops known).Leads σ)
    (htokens : (ledger (callerSteps σ.past)).tokens = (ledger (callerSteps σ.past)).cancelled) :
    Cancelled σ.past b.token ↔ .cancelled b.token ∈ σ.past := by
  -- the token was there before all else
  have hnot : .token b.token ∉ made σ.past := fun hmade => (h.nodup_made rfl).2 _ hmade hk
  refine ⟨fun hc => ?_, .outside⟩
  cases hc with
  | outside hc => exact hc
  | @requested _ a s hs' hd =>
    have hcancelled : s.cancelled? = some b.token := by simp [Step.cancelled?, hd]
    cases a with
    | task t =>
      rw [(Step.nothing_of_task (ofTask_of_took hs h hs')).2.2.2] at hcancelled
      cases hcancelled
    | caller n =>
      have hmem : b.token ∈ (ledger (callerSteps σ.past)).cancelled :=
        mem_noted.2 ⟨s, mem_callerSteps.2 ⟨n, hs'⟩, hcancelled⟩
      rw [← htokens] at hmem
      obtain ⟨s', hs', htoken⟩ := mem_noted.1 hmem
      obtain ⟨m, hm⟩ := mem_callerSteps.1 hs'
      exact absurd (mem_made hm (by rw [Step.made_of_token? htoken]; exact List.mem_singleton_self _)) hnot
  | @child _ parent a s hs' hd =>
    have htoken : s.token? = some b.token := by simp [Step.token?, hd]
    exact absurd (mem_made hs' (by rw [Step.made_of_token? htoken]; exact List.mem_singleton_self _)) hnot

/-- The moment at which a start that failed on an idle bus returns: its turn was the last, and the bus is idle and
free. -/
theorem failed_return (hs : b.source.Offered) (h : (bus b ops known).Leads σ) {n : Nat} {s : Step}
    (hn : σ.Next (.took (.caller n) s) σ') {f : Fault} (hfailed : σ'.callers[n]? = some (.done (.started (.error f))))
    (hidle : .asked (.lock .stage) .idle ∈ stepsOf (.caller n) σ'.past) :
    ∃ turns body, (bus b ops known).Takings .stage σ' turns .idle [] ∧ σ'.holder .stage = none ∧
      σ'.cells .stage = .idle ∧ b.startIdle.run.Reaches body (.done (.error f)) ∧
      Bus.turn n .idle body (.started (.error f)) ∈ turns ∧
      stepsOf (.caller n) σ'.past = (Bus.turn n .idle body (.started (.error f))).all := by
  obtain ⟨turns, w, now, ht⟩ := (h.next hn).bus_takings hs
  obtain ⟨t, hmem, rfl, hresult⟩ := ht.of_done (locksFirst_of_bus hs) hfailed
  have hown := ht.stepsOf_eq hmem
  obtain ⟨o, -, hg⟩ := InTurn.goes rfl ht.inTurn hmem
  obtain ⟨body, hturn, hbody⟩ := hg.of_failed hresult (hown ▸ hidle)
  have hleft : t.left = .idle := hturn ▸ (Bus.failed_turn hs hbody _ _).1
  -- its last step unlocks the stage
  obtain rfl : s = .asked (.unlock .stage) () := by
    rw [hn.past, stepsOf_append, stepsOf_took_self, hturn, Bus.turn, Turn.all, ← List.cons_append] at hown
    exact List.singleton_inj.1 (List.append_inj' hown rfl).2
  obtain ⟨rfl, hfree, hcells, rfl⟩ := ht.after_unlock hn hmem rfl
  rw [hleft] at ht hcells
  exact ⟨turns, body, ht, hfree, hcells, hbody, hturn ▸ hmem, hturn ▸ hown⟩

/-- A start that has not begun goes the whole way, if the bus is idle and free. -/
theorem exists_next_start {turns : List (Turn .stage Bus.Answer)}
    (ht : (bus b ops known).Takings .stage σ turns .idle []) (hfree : σ.holder .stage = none)
    (hcells : σ.cells .stage = .idle) {m : Nat} (hm : ops[m]? = some .start) (hnone : stepsOf (.caller m) σ.past = []) :
    ∃ σ', σ.Next (.took (.caller m) (.asked (.lock .stage) .idle)) σ' ∧
      σ'.callers[m]? = some (Bus.Op.start.seeing b .idle) := by
  have hnew : m ∉ turns.map (·.caller) := by
    intro hm
    obtain ⟨u, hu, rfl⟩ := List.mem_map.1 hm
    rw [ht.stepsOf_eq hu] at hnone
    cases hnone
  have hcaller : σ.callers[m]? = some (.ask (.lock .stage) fun stage => Bus.Op.start.seeing b stage) := by
    rw [ht.waiting m hnew (by simp [hfree]), ← Bus.Op.program_eq]
    exact (List.getElem?_map ..).trans (congrArg (Option.map _) hm)
  refine ⟨_, .called (r := .lock .stage) Stage.idle hcaller ⟨hfree, hcells.symm⟩ (nothing_new rfl), ?_⟩
  exact List.getElem?_set_self (List.getElem?_eq_some_iff.1 hcaller).1

/-- When a start of an idle bus fails, its fault is the one that it met with first, apart from cancellings and closings;
each channel that it opened was closed once, each of its subscriptions was cancelled once, and before its channel was
closed; all tasks are over; and the bus is idle again, with its token as it was, so that another start begins like the
first. -/
theorem failed_start_leaves_nothing (hs : b.source.Offered) (hk : .token b.token ∈ known)
    (h : (bus b ops known).Leads σ) {n : Nat} {s : Step} (hn : σ.Next (.took (.caller n) s) σ') {f : Fault}
    (hfailed : σ'.callers[n]? = some (.done (.started (.error f))))
    (hidle : .asked (.lock .stage) .idle ∈ stepsOf (.caller n) σ'.past) :
    faults (stepsOf (.caller n) σ'.past) = [f] ∧
    (∀ c ∈ opened (stepsOf (.caller n) σ'.past),
      c ∈ closed (stepsOf (.caller n) σ'.past) ∧ (closed (steps σ'.past)).count c = 1) ∧
    (∀ e ∈ subscribed (stepsOf (.caller n) σ'.past), (unsubscribed (steps σ'.past)).count e = 1 ∧
      ∃ front x rest, stepsOf (.caller n) σ'.past = front ++ .asked (.call e.1 .close) x :: rest ∧
        e ∈ unsubscribed front) ∧
    (∀ t : TaskId, t.number < σ'.tasks.length → σ'.Over t) ∧
    σ'.holder .stage = none ∧ σ'.cells .stage = .idle ∧
    (Cancelled σ'.past b.token ↔ .cancelled b.token ∈ σ'.past) ∧
    ∀ m, ops[m]? = some .start → stepsOf (.caller m) σ'.past = [] →
      ∃ σ'', σ'.Next (.took (.caller m) (.asked (.lock .stage) .idle)) σ'' ∧
        σ''.callers[m]? = some (Bus.Op.start.seeing b .idle) := by
  have h' := h.next hn
  obtain ⟨turns, body, ht, hfree, hcells, hbody, hmem, hown⟩ := failed_return hs h hn hfailed hidle
  obtain ⟨-, hfaults, hbalance, horder⟩ := Bus.failed_turn hs hbody n (.started (.error f))
  rw [← hown] at hfaults hbalance horder
  have hsteps : callerSteps σ'.past = turns.flatMap Turn.all := by rw [ht.callerSteps_eq, List.map_nil, List.append_nil]
  have heven : (ledger (callerSteps σ'.past)).Even := hsteps ▸ InTurn.accounts hs rfl ht.inTurn
  have hopens : opened (callerSteps σ'.past) = closed (callerSteps σ'.past) := heven.opened
  have hsubscribes : subscribed (callerSteps σ'.past) = unsubscribed (callerSteps σ'.past) := heven.subscribed
  obtain ⟨hopened, hclosed, hunsubscribed⟩ := noted_of_bus hs h'
  have hnodup : (opened (callerSteps σ'.past)).Nodup := hopened ▸ nodup_opened h'
  refine ⟨hfaults, fun c hc => ⟨hbalance ▸ hc, ?_⟩, fun e he => ⟨?_, horder e he⟩, fun u => over_of_accounts h' ?_,
    hfree, hcells, cancelled_iff hs hk h' heven.tokens, fun m => exists_next_start ht hfree hcells⟩
  · rw [hclosed, ← hopens]
    exact List.count_eq_one_of_mem hnodup (mem_noted_callerSteps hc)
  · rw [hunsubscribed, ← hsubscribes]
    exact List.count_eq_one_of_mem (heven.nodup hnodup) (mem_noted_callerSteps he)
  · rw [heven.spawned]
    exact List.Subset.refl _

end System

namespace Sample

/-- A bus with a warehouse, whose token is the first. -/
def shop : Bus := ⟨⟨"amqp://localhost", none, .start, [(warehouse 3).settings]⟩, .direct, ⟨0⟩⟩

end Sample

open Sample in
theorem System.leads_refusedStart :
    ∃ σ σ' : System Bus.Answer, (bus shop [.start, .start] [.token ⟨0⟩]).Leads σ ∧
      σ.Next (.took (.caller 0) (.asked (.unlock .stage) ())) σ' ∧
      σ'.callers[0]? = some (.done (.started (.error (.connection "gone")))) ∧
      stepsOf (.caller 1) σ'.past = [] ∧ σ'.tasks.length = 1 ∧
      opened (stepsOf (.caller 0) σ'.past) = [⟨0⟩, ⟨1⟩] ∧
      subscribed (stepsOf (.caller 0) σ'.past) = [(⟨1⟩, "warehouse-a")] ∧
      .asked (.lock .stage) .idle ∈ stepsOf (.caller 0) σ'.past := by
  have hcancelled : ∀ {τ : System Bus.Answer}, .took (.caller 0) (.asked (.cancel ⟨1⟩) ()) ∈ τ.past →
      Cancelled τ.past ⟨1⟩ := fun h => .requested h rfl
  have h₀ : (bus shop [.start, .start] [.token ⟨0⟩]).Leads _ := .refl
  have h₁ := h₀.next (.called (n := 0) (r := .lock .stage) Stage.idle rfl ⟨rfl, rfl⟩ (nothing_new rfl))
  have h₂ := h₁.next (.called (n := 0) (r := .createChannel) (.ok ⟨0⟩) rfl trivial fun y hy => by cases hy; decide)
  have h₃ := h₂.next (.called (n := 0) (r := .call ⟨0⟩ (.declareExchange _)) (.ok ()) rfl trivial (nothing_new rfl))
  have h₄ := h₃.next (.called (n := 0) (r := .call ⟨0⟩ (.declareExchange _)) (.ok ()) rfl trivial (nothing_new rfl))
  have h₅ := h₄.next (.called (n := 0) (r := .call ⟨0⟩ (.declareQueue _)) (.ok ()) rfl trivial (nothing_new rfl))
  have h₆ := h₅.next (.called (n := 0) (r := .call ⟨0⟩ (.bindQueue _)) (.ok ()) rfl trivial (nothing_new rfl))
  have h₇ := h₆.next (.called (n := 0) (r := .call ⟨0⟩ (.declareExchange _)) (.ok ()) rfl trivial (nothing_new rfl))
  have h₈ := h₇.next (.called (n := 0) (r := .call ⟨0⟩ .close) (.error .cancelled) rfl trivial (nothing_new rfl))
  have h₉ := h₈.next (.called (n := 0) (r := .createChannel) (.ok ⟨1⟩) rfl trivial fun y hy => by cases hy; decide)
  have h₁₀ := h₉.next (.called (n := 0) (r := .call ⟨1⟩ (.declareQueue _)) (.ok ()) rfl trivial (nothing_new rfl))
  have h₁₁ := h₁₀.next (.called (n := 0) (r := .call ⟨1⟩ (.declareQueue _)) (.ok ()) rfl trivial (nothing_new rfl))
  have h₁₂ := h₁₁.next (.called (n := 0) (r := .call ⟨1⟩ (.bindQueue _)) (.ok ()) rfl trivial (nothing_new rfl))
  have h₁₃ := h₁₂.next (.called (n := 0) (r := .childToken ⟨0⟩) ⟨1⟩ rfl trivial fun y hy => by cases hy; decide)
  have h₁₄ := h₁₃.next (.called (n := 0) (r := .call ⟨1⟩ (.setPrefetch 10)) (.ok ()) rfl trivial (nothing_new rfl))
  have h₁₅ := h₁₄.next (.called (n := 0) (r := .freshId) "a" rfl trivial fun y hy => by cases hy; decide)
  have h₁₆ := h₁₅.next (.called (n := 0) (r := .consume ⟨1⟩ "warehouse" "warehouse-a") (.ok ⟨0⟩) rfl trivial
    fun y hy => by cases hy; decide)
  have h₁₇ := h₁₆.next (.called (n := 0) (r := .spawn (.takeIn ⟨0⟩ (warehouse 3).settings ⟨1⟩ ⟨1⟩ [])) ⟨0⟩ rfl rfl
    (nothing_new rfl))
  have h₁₈ := h₁₇.next (.called (n := 0) (r := .call ⟨1⟩ (.setPrefetch 10)) (.error (.connection "gone")) rfl trivial
    (nothing_new rfl))
  have h₁₉ := h₁₈.next (.called (n := 0) (r := .call ⟨1⟩ (.cancel "warehouse-a")) (.error .cancelled) rfl trivial
    (nothing_new rfl))
  have h₂₀ := h₁₉.next (.called (n := 0) (r := .cancel ⟨1⟩) () rfl trivial (nothing_new rfl))
  have h₂₁ := h₂₀.next (.asked (t := ⟨0⟩) (r := .arrival ⟨0⟩ ⟨1⟩ []) .cancelled rfl (hcancelled (by simp [record]))
    (nothing_new rfl))
  have h₂₂ := h₂₁.next (.asked (t := ⟨0⟩) (r := .join []) () rfl (List.forall_mem_nil _) (nothing_new rfl))
  have h₂₃ := h₂₂.next (.asked (t := ⟨0⟩) (r := .leave ⟨0⟩) () rfl trivial (nothing_new rfl))
  have h₂₄ := h₂₃.next (.called (n := 0) (r := .join [⟨0⟩]) () rfl
    (List.forall_mem_singleton.2 ⟨_, rfl, Task.isOver_ended _⟩) (nothing_new rfl))
  have h₂₅ := h₂₄.next (.called (n := 0) (r := .call ⟨1⟩ .close) (.ok ()) rfl trivial (nothing_new rfl))
  exact ⟨_, _, h₂₅, .called (n := 0) (r := .unlock .stage) () rfl trivial (nothing_new rfl), rfl, rfl, rfl, rfl, rfl,
    List.mem_of_getElem? (i := 0) rfl⟩

open Sample in
/-- A start that could not subscribe to its second queue: both channels were closed once, the first subscription was
cancelled, its task is over, and the other start can begin. -/
theorem System.refused_start_released :
    ∃ σ σ' : System Bus.Answer, (bus shop [.start, .start] [.token ⟨0⟩]).Leads σ ∧
      σ.Next (.took (.caller 0) (.asked (.unlock .stage) ())) σ' ∧
      σ'.callers[0]? = some (.done (.started (.error (.connection "gone")))) ∧
      (closed (steps σ'.past)).count ⟨0⟩ = 1 ∧ (closed (steps σ'.past)).count ⟨1⟩ = 1 ∧
      (unsubscribed (steps σ'.past)).count (⟨1⟩, "warehouse-a") = 1 ∧ σ'.Over ⟨0⟩ ∧
      ∃ σ'', σ'.Next (.took (.caller 1) (.asked (.lock .stage) .idle)) σ'' := by
  obtain ⟨σ, σ', h, hn, hfailed, hwaiting, htasks, hopened, hsubscribed, hidle⟩ := leads_refusedStart
  obtain ⟨-, hclosed, hcancelled, hover, -, -, -, hnext⟩ :=
    failed_start_leaves_nothing .direct List.mem_cons_self h hn hfailed hidle
  rw [hopened] at hclosed
  rw [hsubscribed] at hcancelled
  obtain ⟨σ'', hσ'', -⟩ := hnext 1 rfl hwaiting
  exact ⟨σ, σ', h, hn, hfailed, (hclosed _ (by simp)).2, (hclosed _ (by simp)).2, (hcancelled _ (by simp)).1,
    hover ⟨0⟩ (htasks ▸ Nat.one_pos), σ'', hσ''⟩

end MessageBus
