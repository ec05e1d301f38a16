import MessageBus.Proofs.Publishing.Shared
/-!
# When the channel is replaced

A publisher replaces a channel that can no longer be used. It does not forget with it which exchanges it has declared.
`System.declared_over_iff` says what that comes to: when a message is broadcast over a channel, the exchange of its
type was declared over that channel just if it was not declared over another one before, and it is never declared
again.

So an exchange that the broker has deleted in the meantime stays deleted. `System.order_undeclared` shows a publisher
whose exchanges delete themselves with their last binding, and that broadcasts over its second channel without
declaring.
-/

namespace MessageBus

namespace Publisher

/-- Somebody has declared the exchange of the type over the channel, and was told that it worked. -/
def DeclaredOver (p : Publisher) (past : List Happening) (c : ChannelId) (messageType : String) : Prop :=
  ∃ a s, .took a s ∈ past ∧
    s.done? = some ⟨.call c (.declareExchange (Topology.messageExchange messageType p.settings)), .ok ()⟩

variable {p : Publisher} {ops : List Op} {known : List Thing} {σ : System Answer} {past : List Happening} {n : Nat}
  {t : String} {c c' : ChannelId}

theorem hasDeclared_iff_over : p.HasDeclared past t ↔ ∃ c, p.DeclaredOver past c t :=
  ⟨fun ⟨a, s, c, h⟩ => ⟨c, a, s, h⟩, fun ⟨c, a, s, h⟩ => ⟨a, s, c, h⟩⟩

/-- Whoever declares an exchange finds that nobody has declared it. -/
theorem not_hasDeclared_of_asks (hs : p.source.Offered) (h : (System.publishing p ops known).Leads σ)
    (hasks : σ.Asks n (.call c (.declareExchange (Topology.messageExchange t p.settings)))) :
    ¬p.HasDeclared σ.past t := by
  obtain ⟨audience, t', he⟩ := exists_errand hs h hasks (.inr (.inl ⟨c, _, rfl⟩))
  obtain ⟨heq, -, hnot⟩ := (serves_of_asks hs h hasks he).declares c _ rfl
  obtain rfl := messageExchange_injective heq
  exact fun hdeclared => hnot ((hasDeclared_iff hs h).1 hdeclared)

/-- A happening in which an exchange was declared comes before any other of the kind. -/
theorem not_hasDeclared_of_next (hs : p.source.Offered) (h : (System.publishing p ops known).Leads σ) {a : Actor}
    {s : Step} {σ' : System Answer} (hn : σ.Next (.took a s) σ')
    (hd : s.done? = some ⟨.call c (.declareExchange (Topology.messageExchange t p.settings)), .ok ()⟩) :
    ¬p.HasDeclared σ.past t := by
  cases hn with
  | @caller n q q' _ hq ht _ =>
    have hasks : σ.Asks n s.request := ⟨q, hq, by cases ht <;> rfl⟩
    rw [System.request_of_done? hd] at hasks
    exact not_hasDeclared_of_asks hs h hasks
  | task ht =>
    rw [tasks_of_publishing hs h] at ht
    cases ht

/-- An exchange is declared over one channel only. -/
theorem declaredOver_unique (hs : p.source.Offered) (h : (System.publishing p ops known).Leads σ)
    (hc : p.DeclaredOver σ.past c t) (hc' : p.DeclaredOver σ.past c' t) : c = c' := by
  induction h with
  | refl =>
    obtain ⟨a, s, he, -⟩ := hc
    cases he
  | @next σ σ' e h hn ih =>
    obtain ⟨a, s, he, hd⟩ := hc
    obtain ⟨a', s', he', hd'⟩ := hc'
    rw [hn.past, List.mem_append, List.mem_singleton] at he he'
    -- who declares it in the last step finds it undeclared, so the other was not before it
    rcases he with he | rfl <;> rcases he' with he' | heq
    · exact ih ⟨a, s, he, hd⟩ ⟨a', s', he', hd'⟩
    · exact absurd ⟨a, s, c, he, hd⟩ (not_hasDeclared_of_next hs h (heq ▸ hn) hd')
    · exact absurd ⟨a', s', c', he', hd'⟩ (not_hasDeclared_of_next hs h hn hd)
    · cases heq
      cases hd.symm.trans hd'
      rfl

end Publisher

open Publisher in
/-- When a message is broadcast over a channel, the exchange of its type was declared over that channel if it was not
declared over another one before, and otherwise not. Whatever comes of the exchange, nobody declares it again. -/
theorem System.declared_over_iff {p : Publisher} {ops : List Op} {known : List Thing} {σ : System Answer}
    (hs : p.source.Offered) (h : (publishing p ops known).Leads σ) {n : Nat} {t : String} {message : Json}
    {token : TokenId} {c : ChannelId} {m : Outbound} (hop : ops[n]? = some (.publish .subscribers t message token))
    (hasks : σ.Asks n (.call c (.publish m))) :
    (p.DeclaredOver σ.past c t ↔ ∀ c', p.DeclaredOver σ.past c' t → c' = c) ∧
      ∀ {σ' : System Answer}, σ.Leads σ' → ∀ {n' c'},
        ¬σ'.Asks n' (.call c' (.declareExchange (Topology.messageExchange t p.settings))) := by
  have he : errands ops (.caller n) = some (.subscribers, t) := by simp [Errands.of, hop, Op.errand?]
  have hdeclared : p.HasDeclared σ.past t :=
    (hasDeclared_iff hs h).2 ((serves_of_asks hs h hasks he).publishes c m rfl rfl)
  refine ⟨⟨fun hc c' hc' => declaredOver_unique hs h hc' hc, fun hall => ?_⟩, fun h' n' c' hasks' => ?_⟩
  · obtain ⟨c', hc'⟩ := hasDeclared_iff_over.1 hdeclared
    exact hall c' hc' ▸ hc'
  · obtain ⟨a, s, c, he, hd⟩ := hdeclared
    exact not_hasDeclared_of_asks hs (h.trans h') hasks' ⟨a, s, c, h'.mem_past he, hd⟩

namespace Sample

/-- A publisher whose exchanges delete themselves with their last binding. -/
def newsagent : Publisher := ⟨.ofSteps [.autoDelete], .json, .direct⟩

end Sample

open Sample Program in
/-- An order is broadcast, then the channel is found shut and another one opened, over which the next order is about to
be broadcast. -/
theorem System.leads_replaced : ∃ σ : System Publisher.Answer, (System.publishing newsagent twice []).Leads σ ∧
    .took (.caller 1) (.asked (.isOpen ⟨0⟩) false) ∈ σ.past ∧
    newsagent.DeclaredOver σ.past ⟨0⟩ "orders.OrderPlaced" ∧ ∃ m, σ.Asks 1 (.call ⟨1⟩ (.publish m)) := by
  have h₀ : (publishing newsagent twice []).Leads _ := .refl
  have h₁ := h₀.next (.called (n := 0) (r := .freshId) "a" rfl trivial fun y hy => by cases hy; decide)
  have h₂ := h₁.next (.called (n := 0) (r := .traceContext) [] rfl trivial (nothing_new rfl))
  have h₃ := h₂.next (.called (n := 0) (r := .isCancelled ⟨0⟩) false rfl
    (uncancelled_of_not_mem_raised (by decide)) (nothing_new rfl))
  have h₄ := h₃.next (.called_racing (n := 0) (r := .lock .outlet) none
    (congrArg (fun m => some (Program.bind m _)) (waits_then rfl)) ⟨rfl, rfl⟩ (nothing_new rfl))
  have h₅ := h₄.next (.called_racing (n := 0) (r := .createChannel) (.ok ⟨0⟩)
    (congrArg (fun m => some (Program.bind m _)) (waits_then rfl)) trivial fun y hy => by cases hy; decide)
  have h₆ := h₅.next (.called (n := 0) (r := .put .outlet (some ⟨0⟩)) ()
    (congrArg (fun m => some (Program.bind m _)) (asks_then rfl)) trivial (nothing_new rfl))
  have h₇ := h₆.next (.called (n := 0) (r := .unlock .outlet) ()
    (congrArg (fun m => some (Program.bind m _)) (asks_then rfl)) trivial (nothing_new rfl))
  have h₈ := h₇.next (.called_racing (n := 0) (r := .lock .declared) []
    (congrArg (fun m => some (Program.bind m _)) (waits_then rfl)) ⟨rfl, rfl⟩ (nothing_new rfl))
  have h₉ := h₈.next (.called_racing (n := 0) (r := .call ⟨0⟩ (.declareExchange _)) (.ok ())
    (congrArg (fun m => some (Program.bind m _)) (waits_then rfl)) trivial (nothing_new rfl))
  have h₁₀ := h₉.next (.called (n := 0) (r := .put .declared ["orders.OrderPlaced"]) ()
    (congrArg (fun m => some (Program.bind m _)) (asks_then rfl)) trivial (nothing_new rfl))
  have h₁₁ := h₁₀.next (.called (n := 0) (r := .unlock .declared) ()
    (congrArg (fun m => some (Program.bind m _)) (asks_then rfl)) trivial (nothing_new rfl))
  have h₁₂ := h₁₁.next (.called_racing (n := 0) (r := .call ⟨0⟩ (.publish _)) (.ok ())
    (congrArg (fun m => some (Program.bind m _)) (waits_then rfl)) trivial (nothing_new rfl))
  have h₁₃ := h₁₂.next (.called (n := 1) (r := .freshId) "b" rfl trivial fun y hy => by cases hy; decide)
  have h₁₄ := h₁₃.next (.called (n := 1) (r := .traceContext) [] rfl trivial (nothing_new rfl))
  have h₁₅ := h₁₄.next (.called (n := 1) (r := .isCancelled ⟨1⟩) false rfl
    (uncancelled_of_not_mem_raised (by decide)) (nothing_new rfl))
  have h₁₆ := h₁₅.next (.called_racing (n := 1) (r := .lock .outlet) (some ⟨0⟩)
    (congrArg (fun m => some (Program.bind m _)) (waits_then rfl)) ⟨rfl, rfl⟩ (nothing_new rfl))
  have h₁₇ := h₁₆.next (.called (n := 1) (r := .isOpen ⟨0⟩) false
    (congrArg (fun m => some (Program.bind m _)) (asks_then rfl)) trivial (nothing_new rfl))
  have h₁₈ := h₁₇.next (.called_racing (n := 1) (r := .createChannel) (.ok ⟨1⟩)
    (congrArg (fun m => some (Program.bind m _)) (waits_then rfl)) trivial fun y hy => by cases hy; decide)
  have h₁₉ := h₁₈.next (.called (n := 1) (r := .put .outlet (some ⟨1⟩)) ()
    (congrArg (fun m => some (Program.bind m _)) (asks_then rfl)) trivial (nothing_new rfl))
  have h₂₀ := h₁₉.next (.called (n := 1) (r := .unlock .outlet) ()
    (congrArg (fun m => some (Program.bind m _)) (asks_then rfl)) trivial (nothing_new rfl))
  have h₂₁ := h₂₀.next (.called_racing (n := 1) (r := .lock .declared) ["orders.OrderPlaced"]
    (congrArg (fun m => some (Program.bind m _)) (waits_then rfl)) ⟨rfl, rfl⟩ (nothing_new rfl))
  have h₂₂ := h₂₁.next (.called (n := 1) (r := .unlock .declared) ()
    (congrArg (fun m => some (Program.bind m _)) (asks_then rfl)) trivial (nothing_new rfl))
  -- the ninth step declared the exchange, and the seventeenth found the channel shut
  exact ⟨_, h₂₂, List.mem_of_getElem? (i := 16) rfl,
    ⟨.caller 0, .raced ⟨0⟩ (.call ⟨0⟩ (.declareExchange _)) (some (.ok ())), List.mem_of_getElem? (i := 8) rfl, rfl⟩,
    _, _, congrArg (fun m => some (Program.bind m _)) (waits_then rfl), rfl⟩

open Sample in
/-- The channel of a publisher is found shut, and an order is broadcast over another one. Its exchange, which deletes
itself with its last binding, is not declared over that channel. -/
theorem System.order_undeclared : ∃ (σ : System Publisher.Answer) (m : Outbound),
    newsagent.settings.autoDeleteExchanges = true ∧ (System.publishing newsagent twice []).Leads σ ∧
      .took (.caller 1) (.asked (.isOpen ⟨0⟩) false) ∈ σ.past ∧ σ.Asks 1 (.call ⟨1⟩ (.publish m)) ∧
        ¬newsagent.DeclaredOver σ.past ⟨1⟩ "orders.OrderPlaced" := by
  obtain ⟨σ, h, hshut, hover, m, hasks⟩ := leads_replaced
  refine ⟨σ, m, rfl, h, hshut, hasks, fun hagain => ?_⟩
  cases Publisher.declaredOver_unique .direct h hover hagain

open Sample in
/-- Nor is it declared by anybody from then on. -/
theorem System.order_never_redeclared : ∃ (σ : System Publisher.Answer) (m : Outbound),
    newsagent.source.Offered ∧ (System.publishing newsagent twice []).Leads σ ∧
      twice[1]? = some (.publish .subscribers "orders.OrderPlaced" (.object [("id", .number 1)]) ⟨1⟩) ∧
        σ.Asks 1 (.call ⟨1⟩ (.publish m)) ∧ ∀ {σ' : System Publisher.Answer}, σ.Leads σ' → ∀ {n c}, ¬σ'.Asks n
          (.call c (.declareExchange (Topology.messageExchange "orders.OrderPlaced" newsagent.settings))) := by
  obtain ⟨σ, h, -, -, m, hasks⟩ := leads_replaced
  exact ⟨σ, m, .direct, h, rfl, hasks, (declared_over_iff .direct h rfl hasks).2⟩

end MessageBus
