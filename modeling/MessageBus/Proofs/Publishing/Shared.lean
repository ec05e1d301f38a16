import MessageBus.Proofs.Publishing.Conduct
/-!
# One publisher, many callers

Broadcasts, sends and closings of one publisher go on side by side, fail, and are cut short anywhere.
`System.publisher_in_order` says what holds of every interleaving: the exchange of a type is declared before the first
message of the type is broadcast, and only once; one channel is fetched at a time, and only where there is none that can
be used; and what is published goes over a channel that the publisher held when the call found it.
-/

namespace MessageBus

/-- Where no caller spawns a task, there are none. -/
theorem System.Leads.tasks_eq_nil {α : Type} {σ₀ σ : System α} (h : σ₀.Leads σ) (h₀ : σ₀.past = [])
    (htasks : σ₀.tasks = []) (honly : ∀ p ∈ σ₀.callers, p.Only fun r => ∀ j, r ≠ .spawn j) : σ.tasks = [] := by
  induction h with
  | refl => exact htasks
  | @next σ σ' e h hn ih =>
    cases hn with
    | @caller n p q s hp hs ha =>
      have hlt : n < σ₀.callers.length := h.length_callers ▸ (List.getElem?_eq_some_iff.1 hp).1
      obtain ⟨p', hp', hreach⟩ := h.caller_reaches h₀ (List.getElem?_eq_getElem hlt)
      cases hp.symm.trans hp'
      have hreq := (((honly _ (List.getElem_mem hlt)).reaches hreach).2.takes hs).1
      have hspawn : s.spawn? = none := by
        cases hd : s.spawn? with
        | none => rfl
        | some e => exact absurd (request_of_done? (done?_of_spawn? hd)) (hreq e.1)
      simp [record, ih, hspawn]
    | task hp | broke hp =>
      rw [ih] at hp
      cases hp
    | cancelled t => exact ih

namespace Publisher

/-- A call on a publisher. -/
inductive Op where
  | publish (audience : Audience) (messageType : String) (message : Json) (token : TokenId)
  /-- The publisher is closed; with a token this is dropped where it waits once the token is cancelled. -/
  | close (token : Option TokenId)

/-- What a call on a publisher gives. -/
inductive Answer where
  | published (r : Except Fault Unit)
  | closed
  | dropped

namespace Op

/-- What is done in a call. -/
def program (p : Publisher) : Op → Program Answer
  | publish audience messageType message token => .published <$> (p.publish audience messageType message token).run
  | close none => (fun _ => .closed) <$> Publisher.close
  | close (some t) => (fun o => if o.isSome then .closed else .dropped) <$> Program.interruptible t Publisher.close

/-- For whom a message is published, and its type. -/
def errand? : Op → Option (Audience × String)
  | publish audience messageType _ _ => some (audience, messageType)
  | close _ => none

end Op

/-- What each caller publishes. -/
abbrev errands (ops : List Op) : Errands := .of Op.errand? ops

/-- Somebody has declared the exchange of the type, and was told that it worked. -/
def HasDeclared (p : Publisher) (past : List Happening) (messageType : String) : Prop :=
  ∃ a s c, .took a s ∈ past ∧
    s.done? = some ⟨.call c (.declareExchange (Topology.messageExchange messageType p.settings)), .ok ()⟩

end Publisher

/-- Calls on one publisher side by side. -/
def System.publishing (p : Publisher) (ops : List Publisher.Op) (known : List Thing) : System Publisher.Answer :=
  start (ops.map (Publisher.Op.program p)) [] known Cell.initial

namespace Publisher

open Agreement

variable {p : Publisher} {ops : List Op} {known : List Thing} {σ : System Answer} {n : Nat}

theorem only_close : close.Only fun r => OfOutlet r ∨ ∃ c, r = .call c .close := by
  rw [run_close]
  refine ⟨.inl trivial, fun o => ?_⟩
  cases o with
  | none => exact ⟨.inl trivial, fun _ => trivial⟩
  | some c => exact ⟨.inl trivial, fun _ => ⟨.inr ⟨c, rfl⟩, fun _ => ⟨.inl trivial, fun _ => trivial⟩⟩⟩

/-- No call spawns a task, and one that publishes nothing has only to do with the outlet. -/
theorem Op.only_program (hs : p.source.Offered) (o : Op) : (o.program p).Only fun r =>
    (∀ j, r ≠ .spawn j) ∧ (o.errand? = none → (∃ c, r = .unlock c) ∨ OfOutlet r ∨ ∃ c, r = .call c .close) := by
  cases o with
  | publish audience messageType message token =>
    refine Program.Only.map (only_publish p audience messageType message token (hs.only_create.mono ?_) ?_ ?_ ?_ ?_ ?_ ?_
      ?_) _
    · exact fun r hr => ⟨fun j heq => by cases heq; exact hr, nofun⟩
    · exact fun r hr => ⟨fun j heq => by cases heq; exact hr, nofun⟩
    · exact fun c r hr => ⟨fun j heq => by cases heq; exact hr, nofun⟩
    · exact fun _ _ => ⟨nofun, nofun⟩
    · exact ⟨nofun, nofun⟩
    · exact ⟨nofun, nofun⟩
    · exact ⟨nofun, nofun⟩
    · exact fun _ => ⟨nofun, nofun⟩
  | close token =>
    have hclose : Publisher.close.Only fun r => (∀ j, r ≠ .spawn j) ∧
        ((none : Option (Audience × String)) = none → (∃ c, r = .unlock c) ∨ OfOutlet r ∨ ∃ c, r = .call c .close) := by
      refine only_close.mono fun r hr => ⟨fun j heq => ?_, fun _ => .inr hr⟩
      cases heq
      rcases hr with hr | ⟨c, hr⟩
      · exact hr
      · cases hr
    cases token with
    | none => exact hclose.map _
    | some t => exact (hclose.interruptible fun c => ⟨nofun, fun _ => .inl ⟨c, rfl⟩⟩).map _

theorem abides_op {errand : Errands} {a : Actor} (hs : p.source.Offered) {o : Op} (herrand : errand a = o.errand?) :
    (p.agreement errand).Abides a (fun _ => p.Keeps errand a []) (o.program p) [] := by
  have hnothing : p.Keeps errand a [] [] :=
    .of_nothing observed_nil ⟨List.nodup_nil, fun c => ⟨nofun, nofun⟩⟩
  cases o with
  | publish audience messageType message token =>
    exact Abides.map (abides_publish hs herrand message token hnothing)
  | close token =>
    have hclose := abides_close herrand hnothing nofun
    cases token with
    | none => exact Abides.map hclose
    | some t =>
      refine Abides.map (Abides.interruptible lasting (hclose.imp fun _ _ h => h) hnothing.holds ?_)
      exact fun past hobs hholds => .of_nothing hobs hholds

/-- What holds of a publisher whatever its callers come to. -/
structure InOrder (p : Publisher) (ops : List Op) (known : List Thing) (σ : System Answer) : Prop where
  /-- The exchange of a type is declared before a message of the type is broadcast. -/
  declared : ∀ {n messageType message token c m}, ops[n]? = some (.publish .subscribers messageType message token) →
    σ.Asks n (.call c (.publish m)) → p.HasDeclared σ.past messageType
  /-- A type whose declaration has never worked is not taken for declared, and who sees that declares it. -/
  undeclared : ∀ {messageType}, ¬p.HasDeclared σ.past messageType → messageType ∉ σ.cells .declared ∧
    ∀ {n message token own s types}, ops[n]? = some (.publish .subscribers messageType message token) →
      stepsOf (.caller n) σ.past = own ++ [s] → s.done? = some ⟨.lock .declared, types⟩ →
      ∃ c, σ.Asks n (.call c (.declareExchange (Topology.messageExchange messageType p.settings)))
  /-- Once it has worked, nobody declares it again. -/
  once : ∀ {n messageType c}, σ.Asks n (.call c (.declareExchange (Topology.messageExchange messageType p.settings))) →
    ¬p.HasDeclared σ.past messageType
  /-- A channel is fetched by whoever has the outlet, and found it empty or its channel closed. -/
  fetching : ∀ {n r}, σ.Asks n r → r.Fetches → σ.holder .outlet = some (.caller n) ∧
    ∀ c, σ.cells .outlet = some c → FoundShut σ.past (.caller n) c
  /-- No two channels are fetched at a time. -/
  alone : ∀ {n m r r'}, σ.Asks n r → r.Fetches → σ.Asks m r' → r'.Fetches → n = m
  /-- What is published goes over the channel that was in the outlet when the call let go of it. -/
  acquired : ∀ {n c m}, σ.Asks n (.call c (.publish m)) → ∃ σ₁ s σ₂, (System.publishing p ops known).Leads σ₁ ∧
    σ₁.Next (.took (.caller n) s) σ₂ ∧ σ₂.Leads σ ∧ s.done? = some ⟨.unlock .outlet, ()⟩ ∧
      σ₁.holder .outlet = some (.caller n) ∧ σ₁.cells .outlet = some c

/-- Whatever a caller asks for that publishes nothing has only to do with the outlet. -/
theorem asks_of_errand_none (hs : p.source.Offered) (h : (System.publishing p ops known).Leads σ) {r : Request}
    (hasks : σ.Asks n r) (herrand : errands ops (.caller n) = none) :
    (∃ c, r = .unlock c) ∨ OfOutlet r ∨ ∃ c, r = .call c .close := by
  obtain ⟨q, hq, hr⟩ := hasks
  have hlt : n < (System.publishing p ops known).callers.length :=
    h.length_callers ▸ (List.getElem?_eq_some_iff.1 hq).1
  have hfirst := List.getElem?_eq_getElem hlt
  obtain ⟨q', hq', hreach⟩ := h.caller_reaches rfl hfirst
  cases hq.symm.trans hq'
  obtain ⟨o, ho, hprogram⟩ := Option.map_eq_some_iff.1 ((List.getElem?_map ..).symm.trans hfirst)
  rw [← hprogram] at hreach
  have honly := ((o.only_program hs).reaches hreach).2
  have hnone : o.errand? = none := by simpa [Errands.of, ho] using herrand
  cases q with
  | done x => cases hr
  | ask r' k | race t r' k =>
    cases hr
    exact honly.1.2 hnone

theorem tasks_of_publishing (hs : p.source.Offered) (h : (System.publishing p ops known).Leads σ) : σ.tasks = [] :=
  h.tasks_eq_nil rfl rfl fun q hq => by
    obtain ⟨o, -, rfl⟩ := List.mem_map.1 hq
    exact (o.only_program hs).mono fun r hr => hr.1

/-- In every interleaving the agreement is observed, and what is left of each call abides by it. -/
theorem observed_of_publishing (hs : p.source.Offered) (h : (System.publishing p ops known).Leads σ) :
    (p.agreement (errands ops)).Observed σ.past ∧ ∀ n q, σ.callers[n]? = some q →
      (p.agreement (errands ops)).Abides (.caller n) (fun _ => p.Keeps (errands ops) (.caller n) []) q σ.past := by
  refine h.observed (fun n x _ _ hm h => Keeps.meanwhile h hm) (fun n q hq => ?_) fun {σ} h t s hs' => ?_
  · obtain ⟨o, ho, rfl⟩ := Option.map_eq_some_iff.1 ((List.getElem?_map ..).symm.trans hq)
    exact abides_op hs (by simp [Errands.of, ho])
  · -- there is no task that could take a step
    rcases h.actor_of_took rfl hs' with ⟨n, q, heq, -⟩ | ⟨u, task, -, hu⟩
    · cases heq
    · rw [tasks_of_publishing hs h] at hu
      cases hu

/-- Whoever fetches a channel, declares an exchange or publishes does so to publish a message. -/
theorem exists_errand (hs : p.source.Offered) (h : (System.publishing p ops known).Leads σ) {r : Request}
    (hasks : σ.Asks n r) (hr : r.Fetches ∨ (∃ c e, r = .call c (.declareExchange e)) ∨ ∃ c m, r = .call c (.publish m)) :
    ∃ audience messageType, errands ops (.caller n) = some (audience, messageType) := by
  cases he : errands ops (.caller n) with
  | some e => exact ⟨e.1, e.2, rfl⟩
  | none =>
    rcases asks_of_errand_none hs h hasks he with ⟨c, rfl⟩ | ho | ⟨c, rfl⟩
    · rcases hr with hr | ⟨_, _, hr⟩ | ⟨_, _, hr⟩
      · exact hr.elim
      · cases hr
      · cases hr
    · rcases hr with hr | ⟨_, _, rfl⟩ | ⟨_, _, rfl⟩
      · cases r with
        | lock c => cases c <;> first | exact hr.elim | exact ho.elim
        | _ => first | exact hr.elim | exact ho.elim
      · exact ho.elim
      · exact ho.elim
    · rcases hr with hr | ⟨_, _, hr⟩ | ⟨_, _, hr⟩
      · exact hr.elim
      · cases hr
      · cases hr

/-- Whoever has declared an exchange publishes a message. -/
theorem hasDeclared_iff (hs : p.source.Offered) (h : (System.publishing p ops known).Leads σ) {messageType : String} :
    p.HasDeclared σ.past messageType ↔ p.Declared (errands ops) σ.past messageType := by
  constructor
  · rintro ⟨a, s, c, he, hd⟩
    refine ⟨a, s, c, he, ?_, hd⟩
    obtain ⟨σ₁, σ₂, h₁, hn, -⟩ := h.moment rfl he
    have hreq := System.request_of_done? hd
    cases hn with
    | @caller n q q' _ hq ht ha =>
      have hasks : σ₁.Asks n s.request := ⟨q, hq, by cases ht <;> rfl⟩
      obtain ⟨audience, t, herrand⟩ := exists_errand hs h₁ hasks (.inr (.inl ⟨c, _, hreq⟩))
      exact herrand ▸ rfl
    | task ht =>
      rw [tasks_of_publishing hs h₁] at ht
      cases ht
  · rintro ⟨a, s, c, he, -, hd⟩
    exact ⟨a, s, c, he, hd⟩

theorem serves_of_asks (hs : p.source.Offered) (h : (System.publishing p ops known).Leads σ) {r : Request}
    (hasks : σ.Asks n r) {audience : Audience} {t : String} (he : errands ops (.caller n) = some (audience, t)) :
    p.Serves (errands ops) audience t σ.past (.caller n) r := by
  obtain ⟨hobserved, habides⟩ := observed_of_publishing hs h
  obtain ⟨q, hq, hr⟩ := hasks
  exact ((habides n q hq).mayAsk hobserved hr).allowed.2 audience t he

theorem fetching_of_asks (hs : p.source.Offered) (h : (System.publishing p ops known).Leads σ) {r : Request}
    (hasks : σ.Asks n r) (hr : r.Fetches) : Fetching σ.past (.caller n) := by
  obtain ⟨audience, t, he⟩ := exists_errand hs h hasks (.inl hr)
  exact (serves_of_asks hs h hasks he).fetches hr

/-- Whoever has just seen which types are declared, and not the own one among them, declares it. -/
theorem declares_of_not_declared (hs : p.source.Offered) (h : (System.publishing p ops known).Leads σ) {t : String}
    (hnot : ¬p.Declared (errands ops) σ.past t) (he : errands ops (.caller n) = some (.subscribers, t))
    {own : List Step} {s : Step} {types : List String} (hown : stepsOf (.caller n) σ.past = own ++ [s])
    (hd : s.done? = some ⟨.lock .declared, types⟩) :
    ∃ c, σ.Asks n (.call c (.declareExchange (Topology.messageExchange t p.settings))) := by
  obtain ⟨hobserved, habides⟩ := observed_of_publishing hs h
  obtain ⟨hlocked, hfound⟩ := hobserved.of_lock hown hd
  have hstep : .took (.caller n) s ∈ σ.past := mem_stepsOf.1 (by simp [hown])
  rcases h.actor_of_took rfl hstep with ⟨m, q, heq, hq⟩ | ⟨u, task, heq, -⟩
  · cases heq
    cases q with
    | done x =>
      -- who is done has nothing locked
      have hkeeps : p.Keeps (errands ops) (.caller n) [] σ.past := habides n _ hq
      exact absurd hlocked (hkeeps.holder_ne (by decide))
    | ask r k | race u r k =>
      have hasks : σ.Asks n r := ⟨_, hq, rfl⟩
      rcases (serves_of_asks hs h hasks he).settles with hsettled | ⟨c, rfl⟩
      · have hmem := hsettled own s types hown hd
        exact absurd (declared_of_content hobserved (hfound ▸ hmem)) hnot
      · exact ⟨c, hasks⟩
  · cases heq

/-- Whoever publishes found the channel in the outlet, and let go of it. -/
theorem acquired_of_asks (hs : p.source.Offered) (h : (System.publishing p ops known).Leads σ) {c : ChannelId}
    {m : Outbound} (hasks : σ.Asks n (.call c (.publish m))) :
    ∃ σ₁ s σ₂, (System.publishing p ops known).Leads σ₁ ∧ σ₁.Next (.took (.caller n) s) σ₂ ∧ σ₂.Leads σ ∧
      s.done? = some ⟨.unlock .outlet, ()⟩ ∧ σ₁.holder .outlet = some (.caller n) ∧ σ₁.cells .outlet = some c := by
  obtain ⟨audience, t, he⟩ := exists_errand hs h hasks (.inr (.inr ⟨c, m, rfl⟩))
  obtain ⟨-, before, s, after, hpast, hd, hcontent⟩ := (serves_of_asks hs h hasks he).calls c _ rfl
  obtain ⟨σ₁, σ₂, h₁, hpast₁, hn, h₂⟩ := h.split (hpast : σ.past = [] ++ before ++ _ :: after)
  obtain ⟨hholder₁, hcells₁⟩ := System.Leads.cells_eq h₁
  have hpast₁ : σ₁.past = before := hpast₁
  have hask := ((observed_of_publishing hs h).1 before _ s after hpast).1
  refine ⟨σ₁, s, σ₂, h₁, hn, h₂, hd, ?_, ?_⟩
  · rw [hholder₁, hpast₁]
    exact (hask.unlocks .outlet (System.request_of_done? hd)).1
  · rw [hcells₁, hpast₁, hcontent]

end Publisher

open Publisher in
/-- However broadcasts, sends and closings of one publisher are interleaved, whatever fails, and whichever of them are cut
short where they wait: exchanges are declared before they are used and only once, channels are fetched one at a time and
only where there is none to use, and messages go over the channel that the publisher held. -/
theorem System.publisher_in_order {p : Publisher} {ops : List Publisher.Op} {known : List Thing}
    {σ : System Publisher.Answer} (hs : p.source.Offered) (h : (publishing p ops known).Leads σ) :
    p.InOrder ops known σ := by
  obtain ⟨hobserved, -⟩ := observed_of_publishing hs h
  obtain ⟨hholder, hcells⟩ := Leads.cells_eq h
  have herrand : ∀ {n messageType message token},
      ops[n]? = some (.publish .subscribers messageType message token) →
        errands ops (.caller n) = some (.subscribers, messageType) := fun hop => by simp [Errands.of, hop, Op.errand?]
  have hdeclared : ∀ {t}, p.HasDeclared σ.past t ↔ p.Declared (errands ops) σ.past t := hasDeclared_iff hs h
  exact {
    declared := by
      intro n messageType message token c m hop hasks
      exact hdeclared.2 ((serves_of_asks hs h hasks (herrand hop)).publishes c m rfl rfl)
    undeclared := by
      intro messageType hnot
      rw [hdeclared] at hnot
      refine ⟨fun hmem => hnot (declared_of_content hobserved (hcells ▸ hmem)), ?_⟩
      intro n message token own s types hop hown hd
      exact declares_of_not_declared hs h hnot (herrand hop) hown hd
    once := by
      intro n messageType c hasks
      obtain ⟨audience, t, he⟩ := exists_errand hs h hasks (.inr (.inl ⟨c, _, rfl⟩))
      obtain ⟨heq, -, hnot⟩ := (serves_of_asks hs h hasks he).declares c _ rfl
      obtain rfl := messageExchange_injective heq
      exact fun hdecl => hnot (hdeclared.1 hdecl)
    fetching := by
      intro n r hasks hr
      rw [hholder, hcells]
      exact fetching_of_asks hs h hasks hr
    alone := by
      intro n m r r' hasks hr hasks' hr'
      have hsame := (fetching_of_asks hs h hasks hr).1.symm.trans (fetching_of_asks hs h hasks' hr').1
      cases hsame
      rfl
    acquired := acquired_of_asks hs h }

namespace Sample

/-- Two broadcasts of the same order. -/
def twice : List Publisher.Op :=
  [.publish .subscribers "orders.OrderPlaced" (.object [("id", .number 1)]) ⟨0⟩,
    .publish .subscribers "orders.OrderPlaced" (.object [("id", .number 1)]) ⟨1⟩]

end Sample

open Sample Program in
theorem System.leads_twice : ∃ σ : System Publisher.Answer, (System.publishing seller twice []).Leads σ ∧
    σ.callers[0]? = some (.done (.published (.error .cancelled))) ∧
    σ.Asks 1 (.call ⟨0⟩ (.declareExchange (Topology.messageExchange "orders.OrderPlaced" .start))) := by
  have h₀ : (publishing seller twice []).Leads _ := .refl
  have h₁ := h₀.next (.called (n := 0) (r := .freshId) "a" rfl trivial fun y hy => by cases hy; decide)
  have h₂ := h₁.next (.called (n := 0) (r := .traceContext) [] rfl trivial (nothing_new rfl))
  have h₃ := h₂.next (.called (n := 0) (r := .isCancelled ⟨0⟩) false rfl
    (uncancelled_of_not_mem_raised (by decide)) (nothing_new rfl))
  have h₄ := h₃.next (.called_racing (n := 0) (r := .lock .outlet) none
    (congrArg (fun m => some (Program.bind m _)) (waits_then rfl)) ⟨rfl, rfl⟩ (nothing_new rfl))
  have h₅ := h₄.next (.called_racing (n := 0) (r := .createChannel) (.ok ⟨0⟩)
    (congrArg (fun m => some (Program.bind m _)) (waits_then rfl)) trivial fun y hy => by cases hy; decide)
  have h₆ := h₅.next (.called (n := 0) (r := .put .outlet (some ⟨0⟩)) ()
    (congrArg (fun m => some (Program.bind m _)) (asks_then rfl)) trivial (nothing_new rfl))
  have h₇ := h₆.next (.called (n := 0) (r := .unlock .outlet) ()
    (congrArg (fun m => some (Program.bind m _)) (asks_then rfl)) trivial (nothing_new rfl))
  have h₈ := h₇.next (.called_racing (n := 0) (r := .lock .declared) []
    (congrArg (fun m => some (Program.bind m _)) (waits_then rfl)) ⟨rfl, rfl⟩ (nothing_new rfl))
  have h₉ := h₈.next (.cancelled _ ⟨0⟩)
  have h₁₀ := h₉.next (.caller (n := 0)
    (congrArg (fun m => some (Program.bind m _)) (waits_then (r := .call ⟨0⟩ (.declareExchange _)) rfl))
    (.raced ⟨0⟩ _ _ none) (.lost_of_cancelled (.outside (by simp)) _))
  have h₁₁ := h₁₀.next (.called (n := 0) (r := .unlock .declared) () rfl trivial (nothing_new rfl))
  have h₁₂ := h₁₁.next (.called (n := 1) (r := .freshId) "b" rfl trivial fun y hy => by cases hy; decide)
  have h₁₃ := h₁₂.next (.called (n := 1) (r := .traceContext) [] rfl trivial (nothing_new rfl))
  have h₁₄ := h₁₃.next (.called (n := 1) (r := .isCancelled ⟨1⟩) false rfl
    (uncancelled_of_not_mem_raised (by decide)) (nothing_new rfl))
  have h₁₅ := h₁₄.next (.called_racing (n := 1) (r := .lock .outlet) (some ⟨0⟩)
    (congrArg (fun m => some (Program.bind m _)) (waits_then rfl)) ⟨rfl, rfl⟩ (nothing_new rfl))
  have h₁₆ := h₁₅.next (.called (n := 1) (r := .isOpen ⟨0⟩) true
    (congrArg (fun m => some (Program.bind m _)) (asks_then rfl)) trivial (nothing_new rfl))
  have h₁₇ := h₁₆.next (.called (n := 1) (r := .unlock .outlet) ()
    (congrArg (fun m => some (Program.bind m _)) (asks_then rfl)) trivial (nothing_new rfl))
  have h₁₈ := h₁₇.next (.called_racing (n := 1) (r := .lock .declared) []
    (congrArg (fun m => some (Program.bind m _)) (waits_then rfl)) ⟨rfl, rfl⟩ (nothing_new rfl))
  exact ⟨_, h₁₈, rfl, _, congrArg (fun m => some (Program.bind m _)) (waits_then rfl), rfl⟩

open Sample in
/-- A broadcast is cancelled while it waits for its declaration to work. The next one of the type declares it again. -/
theorem System.order_declared_again : ∃ σ : System Publisher.Answer, (System.publishing seller twice []).Leads σ ∧
    σ.callers[0]? = some (.done (.published (.error .cancelled))) ∧
    σ.Asks 1 (.call ⟨0⟩ (.declareExchange (Topology.messageExchange "orders.OrderPlaced" .start))) ∧
    ¬seller.HasDeclared σ.past "orders.OrderPlaced" ∧ "orders.OrderPlaced" ∉ σ.cells .declared := by
  obtain ⟨σ, h, hcancelled, hasks⟩ := leads_twice
  have horder := publisher_in_order .direct h
  have hnot := horder.once hasks
  exact ⟨σ, h, hcancelled, hasks, hnot, (horder.undeclared hnot).1⟩

end MessageBus
