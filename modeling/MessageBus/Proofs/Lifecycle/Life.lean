import MessageBus.Proofs.Lifecycle.Calls
/-!
# The life of a bus

However starts, stops and looks at a bus are interleaved, and whatever the broker replies, they take effect one after
another, and the bus goes from idle to running to stopped (`System.bus_life`): it starts at most once, never after a
stop, and when a stop returns, its token is cancelled, its channels were closed and its tasks are over.
-/

namespace MessageBus

/-- How far a bus is in its life. -/
def Stage.rank : Stage → Nat
  | idle => 0
  | running _ => 1
  | stopped => 2

namespace Bus

theorem Op.Moves.rank_le {o : Op} {stage stage' : Stage} {a : Answer} (h : o.Moves stage a stage') :
    stage.rank ≤ stage'.rank := by
  cases h with
  | started | failed | busy | late | looked => simp [Stage.rank]
  | stopped => cases stage <;> simp [Stage.rank]

theorem Op.Moves.of_started {o : Op} {stage stage' : Stage} (h : o.Moves stage (.started (.ok ())) stage') :
    stage.rank = 0 ∧ stage'.rank = 1 := by
  cases h with
  | started made => exact ⟨rfl, rfl⟩

theorem Op.Moves.of_stopped {o : Op} {stage stage' : Stage} (h : o.Moves stage .stopped stage') :
    stage' = .stopped := by
  cases h
  rfl

theorem Op.Moves.of_running {o : Op} {stage stage' : Stage} (h : o.Moves stage (.running true) stage') :
    stage.rank = 1 := by
  generalize ha : Answer.running true = a at h
  cases h with
  | looked stage =>
    cases stage with
    | running => rfl
    | _ => cases ha
  | _ => cases ha

/-- Nothing is started after a start or a stop, and after a stop nothing is seen running, as the stage never goes
back. -/
theorem Op.Moves.never_again {o o' : Op} {stage stage' next next' : Stage} {a a' : Answer} (h : o.Moves stage a stage')
    (h' : o'.Moves next a' next') (hle : stage'.rank ≤ next.rank) :
    (a = .started (.ok ()) ∨ a = .stopped → a' ≠ .started (.ok ())) ∧ (a = .stopped → a' ≠ .running true) := by
  refine ⟨fun hr hr' => ?_, fun hr hr' => ?_⟩
  · rw [hr'] at h'
    have hidle := h'.of_started.1
    rcases hr with hr | hr <;> rw [hr] at h
    · have hrunning := h.of_started.2
      omega
    · rw [h.of_stopped, hidle] at hle
      cases hle
  · rw [hr] at h
    rw [hr'] at h'
    rw [h.of_stopped, h'.of_running, Stage.rank] at hle
    omega

/-- A bus that is not idle begins nothing. -/
theorem Goes.begins_nothing {b : Bus} (hs : b.source.Offered) {o : Op} {t : Turn .stage Answer} (h : b.Goes o t)
    (hf : t.found.rank ≠ 0) : (ledger t.all).opened = [] ∧ (ledger t.all).spawned = [] := by
  cases h with
  | failed | started => exact absurd rfl hf
  | busy | late | looked => exact ⟨rfl, rfl⟩
  | stopped n stage h =>
    obtain ⟨cs, fs, hledger⟩ := ledger_of_stopped hs h
    rw [ledger_turn, hledger]
    exact ⟨rfl, rfl⟩

end Bus

/-- The stage of a bus never goes back. -/
theorem InTurn.rank_le {b : Bus} (hs : b.source.Offered) {ops : List Bus.Op} {known : List Thing}
    {callers : List (Program Bus.Answer)} (hc : callers = (System.bus b ops known).callers)
    {turns : List (Turn .stage Bus.Answer)} {w : Stage} (h : InTurn .stage callers .idle turns w) :
    (∀ t ∈ turns, t.left.rank ≤ w.rank) ∧ turns.Pairwise fun t t' => t.left.rank ≤ t'.found.rank := by
  induction h with
  | nil => simp
  | @concat turns t p h hnew hp hreach ih =>
    rw [hc] at hp
    obtain ⟨o, -, rfl⟩ := System.op_of_caller hp
    have hmoves := (Bus.goes_of_reaches hreach).moves hs
    refine ⟨fun t' ht' => ?_, List.pairwise_append.2 ⟨ih.2, List.pairwise_singleton _ _, fun t' ht' u hu => ?_⟩⟩
    · rcases List.mem_append.1 ht' with ht' | ht'
      · exact (ih.1 t' ht').trans hmoves.rank_le
      · rw [List.mem_singleton.1 ht']
    · rw [List.mem_singleton.1 hu]
      exact ih.1 t' ht'

theorem Step.done?_of_cancelled? {s : Step} {t : TokenId} (h : s.cancelled? = some t) :
    s.done? = some ⟨.cancel t, ()⟩ := by
  unfold cancelled? at h
  split at h
  · rename_i hd
    cases h
    exact hd
  · cases h

namespace System

variable {b : Bus} {ops : List Bus.Op} {known : List Thing} {σ : System Bus.Answer}

/-- A caller that has a bus that is not idle begins nothing. -/
theorem now_begins_nothing (hs : b.source.Offered) {turns : List (Turn .stage Bus.Answer)} {w : Stage}
    {now : List (Nat × Step)} (h : (bus b ops known).Takings .stage σ turns w now) (hw : w.rank ≠ 0) :
    (ledger (now.map (·.2))).opened = [] ∧ (ledger (now.map (·.2))).spawned = [] := by
  cases h.cell with
  | free => exact ⟨rfl, rfl⟩
  | @taken n own hv =>
    obtain ⟨p, q, hp, hreach, -⟩ := hv.under_way
    obtain ⟨o, -, rfl⟩ := op_of_caller hp
    -- what it has done so far is the beginning of a turn
    obtain ⟨rest, a, hrest⟩ := q.exists_reaches_done
    have hgoes : b.Goes o ⟨n, w, own ++ rest, a⟩ := Bus.goes_of_reaches (hreach.trans hrest)
    have hnone := hgoes.begins_nothing hs hw
    rw [Turn.all, ← List.cons_append, ledger_append] at hnone
    simpa [Ledger.append_def] using ⟨(List.append_eq_nil_iff.1 hnone.1).1, (List.append_eq_nil_iff.1 hnone.2).1⟩

/-- Once a stop has had its turn, the token of the bus is cancelled, all channels that were opened have been closed, and
all tasks are over. -/
theorem at_rest_of_stopped (hs : b.source.Offered) (h : (bus b ops known).Leads σ)
    {turns : List (Turn .stage Bus.Answer)} {w : Stage} {now : List (Nat × Step)}
    (ht : (bus b ops known).Takings .stage σ turns w now) (hw : w = .stopped) :
    Cancelled σ.past b.token ∧ opened (callerSteps σ.past) ⊆ closed (callerSteps σ.past) ∧
      ∀ t : TaskId, t.number < σ.tasks.length → σ.Over t := by
  subst hw
  obtain ⟨hopened, hspawned, htoken⟩ := InTurn.accounts hs rfl ht.inTurn
  obtain ⟨hopens, hspawns⟩ := now_begins_nothing hs ht (by simp [Stage.rank])
  have hall : ledger (callerSteps σ.past) = ledger (turns.flatMap Turn.all) ++ ledger (now.map (·.2)) := by
    rw [ht.callerSteps_eq, ledger_append]
  refine ⟨?_, ?_, fun t => over_of_accounts h ?_⟩
  · have hcancelled : b.token ∈ (ledger (callerSteps σ.past)).cancelled := by
      rw [hall]
      exact List.mem_append_left _ htoken
    obtain ⟨s, hs, hcancel⟩ := mem_noted.1 hcancelled
    obtain ⟨n, hn⟩ := mem_callerSteps.1 hs
    exact .requested hn (Step.done?_of_cancelled? hcancel)
  · show (ledger (callerSteps σ.past)).opened ⊆ (ledger (callerSteps σ.past)).closed
    rw [hall]
    simp only [Ledger.append_def, hopens, List.append_nil]
    exact List.Subset.trans hopened (List.subset_append_left _ _)
  · rw [hall]
    simp only [Ledger.append_def, hspawns, List.append_nil]
    exact List.Subset.trans hspawned (List.subset_append_left _ _)

/-- In every interleaving of calls on a bus, they take effect one after another. A start works on an idle bus only, and
otherwise fails or is refused, in which case it asks for nothing; of all starts at most one works, and none after a
stop, after which the bus is not seen running either. When a stop has returned, the token of the bus is cancelled, all
channels that starts have opened were closed, and all tasks are over. -/
theorem bus_life (hs : b.source.Offered) (h : (bus b ops known).Leads σ) :
    ∃ turns w now, (bus b ops known).Takings .stage σ turns w now ∧
      (∀ (n : Nat) (a : Bus.Answer), σ.callers[n]? = some (.done a) → ∃ t ∈ turns, t.caller = n ∧ t.result = a) ∧
      (∀ t ∈ turns, ∃ o, ops[t.caller]? = some o ∧ o.Moves t.found t.result t.left ∧
        (o = .start → t.found ≠ .idle → t.steps = [.asked (.unlock .stage) ()])) ∧
      turns.Pairwise (fun t t' =>
        (t.result = .started (.ok ()) ∨ t.result = .stopped → t'.result ≠ .started (.ok ())) ∧
        (t.result = .stopped → t'.result ≠ .running true)) ∧
      ∀ n : Nat, σ.callers[n]? = some (.done .stopped) →
        Cancelled σ.past b.token ∧ opened (callerSteps σ.past) ⊆ closed (callerSteps σ.past) ∧
        ∀ t : TaskId, t.number < σ.tasks.length → σ.Over t := by
  obtain ⟨turns, w, now, ht⟩ := h.bus_takings hs
  have hreturned : ∀ (n : Nat) (a : Bus.Answer), σ.callers[n]? = some (.done a) →
      ∃ t ∈ turns, t.caller = n ∧ t.result = a := by
    exact fun n a => ht.of_done (locksFirst_of_bus hs)
  have hgoes : ∀ t ∈ turns, ∃ o, ops[t.caller]? = some o ∧ b.Goes o t := fun t => InTurn.goes rfl ht.inTurn
  obtain ⟨hrank, hpairs⟩ := InTurn.rank_le hs rfl ht.inTurn
  refine ⟨turns, w, now, ht, hreturned, fun t hmem => ?_, ?_, fun n hn => ?_⟩
  · obtain ⟨o, ho, hg⟩ := hgoes t hmem
    refine ⟨o, ho, hg.moves hs, fun hstart hfound => ?_⟩
    subst hstart
    cases hg with
    | failed | started => exact absurd rfl hfound
    | busy | late => rfl
  · refine hpairs.imp_of_mem fun {t t'} hmem hmem' hle => ?_
    obtain ⟨o, -, hg⟩ := hgoes t hmem
    obtain ⟨o', -, hg'⟩ := hgoes t' hmem'
    exact (hg.moves hs).never_again (hg'.moves hs) hle
  · obtain ⟨t, hmem, -, hresult⟩ := hreturned n _ hn
    obtain ⟨o, -, hg⟩ := hgoes t hmem
    have hmoves := hg.moves hs
    rw [hresult] at hmoves
    have hle := hrank t hmem
    rw [hmoves.of_stopped] at hle
    refine at_rest_of_stopped hs h ht ?_
    cases w with
    | stopped => rfl
    | _ => simp [Stage.rank] at hle

end System

namespace Sample

/-- A bus without consumers, over a pool of one connection, whose token is the first. -/
def outpost : Bus := ⟨⟨"amqp://localhost", none, .start, []⟩, .pooled 1, ⟨0⟩⟩

end Sample

open Sample in
theorem System.leads_outpost :
    ∃ σ : System Bus.Answer, (bus outpost [.start, .isRunning, .stop, .start] [.token ⟨0⟩]).Leads σ ∧
      σ.callers = [.done (.started (.ok ())), .done (.running true), .done .stopped,
        .done (.started (.error Bus.stoppedFault))] := by
  have h₀ : (bus outpost [.start, .isRunning, .stop, .start] [.token ⟨0⟩]).Leads _ := .refl
  have h₁ := h₀.next (.called (n := 0) (r := .lock .stage) Stage.idle rfl ⟨rfl, rfl⟩ (nothing_new rfl))
  have h₂ := h₁.next (.called (n := 0) (r := .lock .pool) Pool.empty rfl ⟨rfl, rfl⟩ (nothing_new rfl))
  have h₃ := h₂.next (.called (n := 0) (r := .connect) (.ok ⟨0⟩) rfl trivial fun y hy => by cases hy; decide)
  have h₄ := h₃.next (.called (n := 0) (r := .put .pool _) () rfl trivial (nothing_new rfl))
  have h₅ := h₄.next (.called (n := 0) (r := .unlock .pool) () rfl trivial (nothing_new rfl))
  have h₆ := h₅.next (.called (n := 0) (r := .openChannel ⟨0⟩) (.ok ⟨0⟩) rfl trivial fun y hy => by cases hy; decide)
  have h₇ := h₆.next (.called (n := 0) (r := .call ⟨0⟩ (.declareExchange _)) (.ok ()) rfl trivial (nothing_new rfl))
  have h₈ := h₇.next (.called (n := 0) (r := .call ⟨0⟩ (.declareExchange _)) (.ok ()) rfl trivial (nothing_new rfl))
  have h₉ := h₈.next (.called (n := 0) (r := .call ⟨0⟩ (.declareQueue _)) (.ok ()) rfl trivial (nothing_new rfl))
  have h₁₀ := h₉.next (.called (n := 0) (r := .call ⟨0⟩ (.bindQueue _)) (.ok ()) rfl trivial (nothing_new rfl))
  have h₁₁ := h₁₀.next (.called (n := 0) (r := .call ⟨0⟩ .close) (.ok ()) rfl trivial (nothing_new rfl))
  have h₁₂ := h₁₁.next (.called (n := 0) (r := .put .stage (.running [])) () rfl trivial (nothing_new rfl))
  have h₁₃ := h₁₂.next (.called (n := 0) (r := .unlock .stage) () rfl trivial (nothing_new rfl))
  have h₁₄ := h₁₃.next (.called (n := 1) (r := .lock .stage) (.running []) rfl ⟨rfl, rfl⟩ (nothing_new rfl))
  have h₁₅ := h₁₄.next (.called (n := 1) (r := .unlock .stage) () rfl trivial (nothing_new rfl))
  have h₁₆ := h₁₅.next (.called (n := 2) (r := .lock .stage) (.running []) rfl ⟨rfl, rfl⟩ (nothing_new rfl))
  have h₁₇ := h₁₆.next (.called (n := 2) (r := .put .stage .stopped) () rfl trivial (nothing_new rfl))
  have h₁₈ := h₁₇.next (.called (n := 2) (r := .cancel ⟨0⟩) () rfl trivial (nothing_new rfl))
  have h₁₉ := h₁₈.next (.called (n := 2) (r := .lock .outlet) none rfl ⟨rfl, rfl⟩ (nothing_new rfl))
  have h₂₀ := h₁₉.next (.called (n := 2) (r := .unlock .outlet) () rfl trivial (nothing_new rfl))
  have h₂₁ := h₂₀.next (.called (n := 2) (r := .lock .pool) ⟨[⟨0⟩], false⟩ rfl ⟨rfl, rfl⟩ (nothing_new rfl))
  have h₂₂ := h₂₁.next (.called (n := 2) (r := .put .pool _) () rfl trivial (nothing_new rfl))
  have h₂₃ := h₂₂.next (.called (n := 2) (r := .put .pool _) () rfl trivial (nothing_new rfl))
  have h₂₄ := h₂₃.next (.called (n := 2) (r := .disconnect ⟨0⟩) () rfl trivial (nothing_new rfl))
  have h₂₅ := h₂₄.next (.called (n := 2) (r := .unlock .pool) () rfl trivial (nothing_new rfl))
  have h₂₆ := h₂₅.next (.called (n := 2) (r := .unlock .stage) () rfl trivial (nothing_new rfl))
  have h₂₇ := h₂₆.next (.called (n := 3) (r := .lock .stage) Stage.stopped rfl ⟨rfl, rfl⟩ (nothing_new rfl))
  have h₂₈ := h₂₇.next (.called (n := 3) (r := .unlock .stage) () rfl trivial (nothing_new rfl))
  exact ⟨_, h₂₈, rfl⟩

open Sample in
/-- A bus that was started, looked at, stopped, and then refused to start again. -/
theorem System.outpost_at_rest :
    ∃ σ : System Bus.Answer, (bus outpost [.start, .isRunning, .stop, .start] [.token ⟨0⟩]).Leads σ ∧
      σ.callers = [.done (.started (.ok ())), .done (.running true), .done .stopped,
        .done (.started (.error Bus.stoppedFault))] ∧
      Cancelled σ.past ⟨0⟩ ∧ opened (callerSteps σ.past) ⊆ closed (callerSteps σ.past) := by
  obtain ⟨σ, h, hcallers⟩ := leads_outpost
  obtain ⟨turns, w, now, -, -, -, -, hrest⟩ := bus_life (.pooled 1) h
  obtain ⟨hcancelled, hclosed, -⟩ := hrest 2 (by rw [hcallers]; rfl)
  exact ⟨σ, h, hcallers, hcancelled, hclosed⟩

end MessageBus
