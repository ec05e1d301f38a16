import MessageBus.Proofs.Pool.Conservation
import MessageBus.Proofs.Program.Abiding
import MessageBus.Proofs.Publishing.Receipt
/-!
# In whose custody channels and exchanges are

Publications side by side, on one publisher and its source of channels, observe an agreement (`Publisher.agreement`).
A channel is fetched only by whoever has the outlet locked and found it empty or its channel closed; a connection is
opened only by whoever has the pool locked, and while it was not given up; an exchange is declared only by whoever has the
list of declared types locked, and only once. All this is read off the history: which connections were opened and closed,
which exchange was declared, who was given which channel.
-/

namespace MessageBus

/-! ## What a history tells -/

section
variable {past past' : List Happening} {e : Happening}

theorem mem_connected {k : ConnectionId} :
    k ∈ connected past ↔ ∃ a s, .took a s ∈ past ∧ s.done? = some ⟨.connect, .ok k⟩ := by
  have hconnects : ∀ s : Step, s.connects? = some k ↔ s.done? = some ⟨.connect, .ok k⟩ := fun s => by
    unfold Step.connects?
    split
    · rename_i k' hd
      simp [hd]
    · rename_i hne
      exact ⟨nofun, fun hd => absurd hd (hne k)⟩
  induction past using List.reverseRecOn with
  | nil => simp [connected, System.made]
  | append_singleton past e ih =>
    cases e with
    | took a s => simp [connected_took, ih, or_and_right, exists_or, hconnects]
    | broke t =>
      have hsame : connected (past ++ [.broke t]) = connected past := by simp [connected, System.made]
      simp [hsame, ih]
    | cancelled t => simp [connected_cancelled, ih]

theorem mem_disconnected {k : ConnectionId} :
    k ∈ disconnected past ↔ ∃ a s, .took a s ∈ past ∧ s.request = .disconnect k := by
  have hdisconnects : ∀ r : Request, r.disconnects? = some k ↔ r = .disconnect k := fun r => by
    cases r <;> simp [Request.disconnects?]
  simp only [disconnected, List.mem_filterMap, Option.bind_eq_some_iff, hdisconnects]
  constructor
  · rintro ⟨e, he, s, hs, hr⟩
    cases e with
    | took a s' =>
      cases hs
      exact ⟨a, s, he, hr⟩
    | broke | cancelled => cases hs
  · rintro ⟨a, s, he, hr⟩
    exact ⟨_, he, s, rfl, hr⟩

/-- The channel was opened on the connection. -/
def OpenedOn (past : List Happening) (c : ChannelId) (k : ConnectionId) : Prop :=
  ∃ a s, .took a s ∈ past ∧ s.done? = some ⟨.openChannel k, .ok c⟩

/-- The channel came from the source itself, or from a connection that was opened. -/
def Opened (past : List Happening) (c : ChannelId) : Prop :=
  (∃ a s, .took a s ∈ past ∧ s.done? = some ⟨.createChannel, .ok c⟩) ∨ ∃ k ∈ connected past, OpenedOn past c k

/-- Whatever was opened is in the pool or was closed. -/
structure Pooled (p : Pool) (past : List Happening) : Prop where
  opened : ∀ k ∈ p.connections, k ∈ connected past
  somewhere : ∀ k ∈ connected past, k ∈ p.connections ∨ k ∈ disconnected past

/-- The pool was given up, and all connections were closed. -/
structure Late (past : List Happening) : Prop where
  disposed : (contentIn past .pool).disposed = true
  closed : ∀ k ∈ connected past, k ∈ disconnected past

theorem Opened.mono {c : ChannelId} (h : Opened past c) (hsub : ∀ e ∈ past, e ∈ past') : Opened past' c := by
  rcases h with ⟨a, s, he, hd⟩ | ⟨k, hk, a, s, he, hd⟩
  · exact .inl ⟨a, s, hsub _ he, hd⟩
  · obtain ⟨b, s', he', hd'⟩ := mem_connected.1 hk
    exact .inr ⟨k, mem_connected.2 ⟨b, s', hsub _ he', hd'⟩, a, s, hsub _ he, hd⟩

theorem mem_connected_concat {k : ConnectionId} (h : k ∈ connected (past ++ [e])) :
    k ∈ connected past ∨ ∃ a s, e = .took a s ∧ s.done? = some ⟨.connect, .ok k⟩ := by
  obtain ⟨a, s, he, hd⟩ := mem_connected.1 h
  rcases List.mem_append.1 he with he | he
  · exact .inl (mem_connected.2 ⟨a, s, he, hd⟩)
  · exact .inr ⟨a, s, (List.mem_singleton.1 he).symm, hd⟩

theorem connected_mono (hsub : ∀ e ∈ past, e ∈ past') {k : ConnectionId} (h : k ∈ connected past) :
    k ∈ connected past' := by
  obtain ⟨a, s, he, hd⟩ := mem_connected.1 h
  exact mem_connected.2 ⟨a, s, hsub _ he, hd⟩

theorem disconnected_mono (hsub : ∀ e ∈ past, e ∈ past') {k : ConnectionId} (h : k ∈ disconnected past) :
    k ∈ disconnected past' := by
  obtain ⟨a, s, he, hr⟩ := mem_disconnected.1 h
  exact mem_disconnected.2 ⟨a, s, hsub _ he, hr⟩

theorem mem_concat (past : List Happening) (e : Happening) : ∀ e' ∈ past, e' ∈ past ++ [e] :=
  fun _ => List.mem_append_left _

namespace Pooled

variable {p : Pool} {a : Actor} {s : Step} {k : ConnectionId} {ks : List ConnectionId} {d d' : Bool}

/-- Only opening a connection makes a difference. -/
theorem concat (h : Pooled p past) (he : ∀ a s k, e = .took a s → s.done? ≠ some ⟨.connect, .ok k⟩) :
    Pooled p (past ++ [e]) where
  opened k hk := connected_mono (mem_concat past e) (h.opened k hk)
  somewhere k hk := by
    rcases mem_connected_concat hk with hk | ⟨a, s, heq, hd⟩
    · exact (h.somewhere k hk).imp_right (disconnected_mono (mem_concat past e))
    · exact absurd hd (he a s k heq)

theorem took (h : Pooled p past) (hs : ∀ k, s.done? ≠ some ⟨.connect, .ok k⟩) : Pooled p (past ++ [.took a s]) :=
  h.concat fun _ _ k he => by
    cases he
    exact hs k

theorem congr {p' : Pool} (h : Pooled p past) (hp : ∀ k, k ∈ p'.connections ↔ k ∈ p.connections) : Pooled p' past where
  opened k hk := h.opened k ((hp k).1 hk)
  somewhere k hk := (h.somewhere k hk).imp_left (hp k).2

theorem connects (h : Pooled ⟨ks, d⟩ past) (hs : s.done? = some ⟨.connect, .ok k⟩) :
    Pooled ⟨ks ++ [k], d'⟩ (past ++ [.took a s]) where
  opened k' hk' := by
    rcases List.mem_append.1 hk' with hk' | hk'
    · exact connected_mono (mem_concat past _) (h.opened k' hk')
    · cases List.mem_singleton.1 hk'
      exact mem_connected.2 ⟨a, s, by simp, hs⟩
  somewhere k' hk' := by
    rcases mem_connected_concat hk' with hk' | ⟨b, s', heq, hd⟩
    · exact (h.somewhere k' hk').imp (List.mem_append_left _) (disconnected_mono (mem_concat past _))
    · cases heq
      cases hs.symm.trans hd
      exact .inl (by simp)

theorem disconnects (h : Pooled ⟨k :: ks, d⟩ past) (hs : s.request = .disconnect k) :
    Pooled ⟨ks, d'⟩ (past ++ [.took a s]) where
  opened k' hk' := connected_mono (mem_concat past _) (h.opened k' (List.mem_cons_of_mem _ hk'))
  somewhere k' hk' := by
    have hold : k' ∈ connected past := by
      rcases mem_connected_concat hk' with hk' | ⟨b, s', heq, hd⟩
      · exact hk'
      · cases heq
        cases (System.request_of_done? hd).symm.trans hs
    rcases h.somewhere k' hold with hmem | hmem
    · rcases List.mem_cons.1 hmem with rfl | hmem
      · exact .inr (mem_disconnected.2 ⟨a, s, by simp, hs⟩)
      · exact .inl hmem
    · exact .inr (disconnected_mono (mem_concat past _) hmem)

end Pooled

end

/-! ## The agreement -/

/-- The actor found the pool not given up. -/
def Admitted (past : List Happening) (a : Actor) : Prop :=
  ∃ s ∈ stepsOf a past, ∃ p : Pool, s.done? = some ⟨.lock .pool, p⟩ ∧ p.disposed = false

/-- The actor was given the channel, or told that it can still be used. -/
def Served (past : List Happening) (a : Actor) (c : ChannelId) : Prop :=
  ∃ s ∈ stepsOf a past, s.done? = some ⟨.isOpen c, true⟩ ∨ s.done? = some ⟨.createChannel, .ok c⟩ ∨
    ∃ k, s.done? = some ⟨.openChannel k, .ok c⟩

/-- The actor unlocked the outlet with the channel in it. -/
def Acquired (past : List Happening) (a : Actor) (c : ChannelId) : Prop :=
  ∃ before s after, past = before ++ .took a s :: after ∧ s.done? = some ⟨.unlock .outlet, ()⟩ ∧
    contentIn before .outlet = some c

/-- The actor was told that the channel can no longer be used, and has only sought another since. -/
def FoundShut (past : List Happening) (a : Actor) (c : ChannelId) : Prop :=
  ∃ own s sought, stepsOf a past = own ++ s :: sought ∧ s.done? = some ⟨.isOpen c, false⟩ ∧
    ∀ s' ∈ sought, ChannelSource.Seeks s'.request

/-- If the actor has just locked the list of declared types, the type is in it. -/
def Settled (past : List Happening) (a : Actor) (messageType : String) : Prop :=
  ∀ own s types, stepsOf a past = own ++ [s] → s.done? = some ⟨.lock .declared, types⟩ → messageType ∈ types

theorem Settled.took {past : List Happening} {a : Actor} {s : Step} {t : String}
    (h : ∀ types, s.done? = some ⟨.lock .declared, types⟩ → t ∈ types) : Settled (past ++ [.took a s]) a t := by
  intro own s' types hown hd
  rw [stepsOf_append, stepsOf_took_self] at hown
  obtain rfl := List.singleton_inj.1 (List.append_inj' hown rfl).2
  exact h types hd

theorem Settled.of_holder_ne {A : Agreement} {past : List Happening} {a : Actor} {t : String} (h : A.Observed past)
    (hdeclared : holderIn past .declared ≠ some a) : Settled past a t :=
  fun _ _ _ hown hd => absurd (h.of_lock hown hd).1 hdeclared

/-- The actor has the outlet locked, and there is no channel in it that can be used. -/
def Fetching (past : List Happening) (a : Actor) : Prop :=
  holderIn past .outlet = some a ∧
    ∀ c, contentIn past .outlet = some c → FoundShut past a c

section
variable {A : Agreement} {allowed : Request → Prop} {past past' : List Happening} {a : Actor} {c : ChannelId}

theorem Served.onward (h : Served past a c) (hon : A.Onward a allowed past past') : Served past' a c := by
  obtain ⟨s, hs, hd⟩ := h
  exact ⟨s, mem_stepsOf.2 (hon.mem (mem_stepsOf.1 hs)), hd⟩

theorem Acquired.onward (h : Acquired past a c) (hon : A.Onward a allowed past past') : Acquired past' a c := by
  obtain ⟨before, s, after, rfl, hd, hc⟩ := h
  obtain ⟨rest, rfl, -⟩ := hon.later
  exact ⟨before, s, after ++ rest, by simp, hd, hc⟩

end

/-- Whether the request is part of fetching a channel from outside. -/
def Request.Fetches : Request → Prop
  | .createChannel | .lock .pool | .isConnected _ | .disconnect _ | .connect | .openChannel _ => True
  | _ => False

/-- Requests that everybody may make at any time. -/
def Request.IsPlain : Request → Prop
  | .connect | .createChannel | .openChannel _ | .isOpen _ | .put .pool _ | .put .declared _ | .join _ => False
  | _ => True

namespace Publisher

/-- Whom each actor publishes a message to, and the type of the message. -/
abbrev Errands : Type := Actor → Option (Audience × String)

/-- Callers have errands by what they call, and tasks have none. -/
def Errands.of {β : Type} (errand? : β → Option (Audience × String)) (calls : List β) : Errands
  | .caller n => calls[n]?.bind errand?
  | .task _ => none

variable (p : Publisher) (errand : Errands)

/-- One of those who publish has declared the exchange of the type. -/
def Declared (past : List Happening) (messageType : String) : Prop :=
  ∃ a s c, .took a s ∈ past ∧ (errand a).isSome ∧
    s.done? = some ⟨.call c (.declareExchange (Topology.messageExchange messageType p.settings)), .ok ()⟩

/-- What anybody may ask for. -/
structure Permits (past : List Happening) (a : Actor) (r : Request) : Prop where
  connects : r = .connect → holderIn past .pool = some a ∧ (contentIn past .pool).disposed = false
  creates : r = .createChannel → p.source = .direct
  opens : ∀ k, r = .openChannel k → k ∈ connected past ∧ Admitted past a
  looks : ∀ c, r = .isOpen c → Opened past c
  puts : ∀ v, r = .put .pool v → (contentIn past .pool).disposed = true → v.disposed = true
  lists : ∀ types, r = .put .declared types → ∀ t ∈ types, p.Declared errand past t
  joins : ∀ n tasks, a = .caller n → r = .join tasks → ∀ c, holderIn past c = some a → c = .stage

/-- What an actor may ask for that publishes a message of the type. -/
structure Serves (audience : Audience) (messageType : String) (past : List Happening) (a : Actor) (r : Request) :
    Prop where
  fetches : r.Fetches → Fetching past a
  calls : ∀ c x, r = .call c x → Served past a c ∧ Acquired past a c
  declares : ∀ c e, r = .call c (.declareExchange e) →
    e = Topology.messageExchange messageType p.settings ∧ holderIn past .declared = some a ∧
      ¬p.Declared errand past messageType
  publishes : ∀ c m, r = .call c (.publish m) → audience = .subscribers → p.Declared errand past messageType
  stays : r ≠ .lock .stage ∧ ∀ tasks, r ≠ .join tasks
  settles : Settled past a messageType ∨
    ∃ c, r = .call c (.declareExchange (Topology.messageExchange messageType p.settings))

/-- What those who publish agree on, with each other and with who looks after the pool. -/
def agreement : Agreement where
  Kept
    | .pool, v, past => Pooled v past
    | .outlet, v, past => ∀ c, v = some c → Opened past c
    | .declared, types, past => ∀ t, t ∈ types ↔ p.Declared errand past t
    | .stage, _, _ => True
  Allows past a r := p.Permits errand past a r ∧
    ∀ audience messageType, errand a = some (audience, messageType) → p.Serves errand audience messageType past a r

variable {p errand}

section
variable {past past' : List Happening} {a : Actor} {s : Step} {e : Happening} {c : Cell} {r : Request}

theorem Declared.mono {t : String} (h : p.Declared errand past t) (hsub : ∀ e ∈ past, e ∈ past') :
    p.Declared errand past' t := by
  obtain ⟨a, s, c, he, ha, hd⟩ := h
  exact ⟨a, s, c, hsub _ he, ha, hd⟩

/-- What is kept of a cell is lost only by opening a connection or declaring an exchange. -/
theorem kept_concat {v : c.Content} (h : (p.agreement errand).Kept c v past)
    (hpool : c = .pool → ∀ a s k, e = .took a s → s.done? ≠ some ⟨.connect, .ok k⟩)
    (hdeclared : c = .declared → ∀ a s c' t, e = .took a s → (errand a).isSome →
      s.done? ≠ some ⟨.call c' (.declareExchange (Topology.messageExchange t p.settings)), .ok ()⟩) :
    (p.agreement errand).Kept c v (past ++ [e]) := by
  cases c with
  | pool => exact Pooled.concat h (hpool rfl)
  | outlet => exact fun c hc => (h c hc).mono (mem_concat past e)
  | stage => trivial
  | declared =>
    refine fun t => (h t).trans ⟨fun ht => ht.mono (mem_concat past e), ?_⟩
    rintro ⟨a, s, c', he, ha, hd⟩
    rcases List.mem_append.1 he with he | he
    · exact ⟨a, s, c', he, ha, hd⟩
    · exact absurd hd (hdeclared rfl a s c' t (List.mem_singleton.1 he).symm ha)

/-- Of a channel that the outlet holds, nothing is lost. -/
theorem kept_mono {v : c.Content} (h : (p.agreement errand).Kept c v past) (hc : c.rank < 2)
    (hsub : ∀ e ∈ past, e ∈ past') : (p.agreement errand).Kept c v past' := by
  cases c with
  | outlet => exact fun c hc => (h c hc).mono hsub
  | stage => trivial
  | pool => exact absurd hc (Nat.lt_irrefl 2)
  | declared => exact absurd hc (by decide)

theorem Permits.of_isPlain (h : r.IsPlain) : p.Permits errand past a r where
  connects hr := by cases hr; exact h.elim
  creates hr := by cases hr; exact h.elim
  opens k hr := by cases hr; exact h.elim
  looks c hr := by cases hr; exact h.elim
  puts v hr := by cases hr; exact h.elim
  lists types hr := by cases hr; exact h.elim
  joins n tasks _ hr := by cases hr; exact h.elim

/-- A type that is in the list of declared types has been declared. -/
theorem declared_of_content {t : String} (hobserved : (p.agreement errand).Observed past)
    (ht : t ∈ contentIn past .declared) : p.Declared errand past t := by
  induction past using List.reverseRecOn with
  | nil => exact absurd ht List.not_mem_nil
  | append_singleton past e ih =>
    have hold := fun ht => (ih hobserved.of_append ht).mono (mem_concat past e)
    cases e with
    | took a s =>
      cases hd : s.done? with
      | none =>
        rw [contentIn_of_not_touches past a (Step.not_touches_of_lost hd)] at ht
        exact hold ht
      | some d =>
        by_cases hput : ∃ types, d.1 = .put .declared types
        · obtain ⟨r, x⟩ := d
          obtain ⟨types, rfl⟩ := hput
          rw [contentIn_put past a hd] at ht
          have hask := ((Agreement.observed_concat.1 hobserved).2 a s rfl).1
          exact (hask.allowed.1.lists types (System.request_of_done? hd) t ht).mono (mem_concat past _)
        · rw [contentIn_of_done past a hd fun types heq => hput ⟨types, heq⟩] at ht
          exact hold ht
    | broke | cancelled =>
      rw [contentIn_other past (by simp)] at ht
      exact hold ht

theorem lasting : (p.agreement errand).Lasting where
  initial c := by
    cases c with
    | pool => exact ⟨nofun, nofun⟩
    | outlet => exact nofun
    | stage => trivial
    | declared => exact fun t => ⟨nofun, fun ⟨a, s, c, he, _⟩ => absurd he List.not_mem_nil⟩
  others {past e c v} hobserved hother h := by
    refine kept_concat h (fun hc a s k he hd => ?_) fun hc a s c' t he ha hd => ?_
    · subst hc
      have hask := ((Agreement.observed_concat.1 hobserved).2 a s he).1
      exact hother a s he (hask.allowed.1.connects (System.request_of_done? hd)).1
    · subst hc
      obtain ⟨⟨audience, messageType⟩, herrand⟩ := Option.isSome_iff_exists.1 ha
      have hask := ((Agreement.observed_concat.1 hobserved).2 a s he).1
      exact hother a s he ((hask.allowed.2 _ _ herrand).declares _ _ (System.request_of_done? hd)).2.1
  unlocking {past a s c c' v} hr h := by
    refine kept_concat h (fun _ b s' k he hd => ?_) fun _ b s' c'' t he _ hd => ?_
    · cases he
      cases (System.request_of_done? hd).symm.trans hr
    · cases he
      cases (System.request_of_done? hd).symm.trans hr
  unlock {past a c} hlast := by
    refine ⟨.of_isPlain trivial, fun audience messageType _ => ?_⟩
    exact {
      fetches := False.elim
      calls := nofun
      declares := nofun
      publishes := nofun
      stays := ⟨nofun, nofun⟩
      settles := .inl fun own s types hown hd => absurd hd (hlast own s _ _ hown) }

end

end Publisher

/-- Once the pool was given up and all connections were closed, it stays so. -/
theorem Late.onward {p : Publisher} {errand : Publisher.Errands} {a : Actor} {allowed : Request → Prop}
    {past past' : List Happening} (h : Late past) (hon : (p.agreement errand).Onward a allowed past past') :
    Late past' := by
  refine hon.keeps h fun past e hobserved _ h => ⟨?_, fun k hk => ?_⟩
  · by_cases he : ∃ b s v, e = .took b s ∧ s.done? = some ⟨.put .pool v, ()⟩
    · obtain ⟨b, s, v, rfl, hd⟩ := he
      have hask := ((Agreement.observed_concat.1 hobserved).2 b s rfl).1
      rw [contentIn_put past b hd]
      exact hask.allowed.1.puts v (System.request_of_done? hd) h.disposed
    · have hsame : contentIn (past ++ [e]) .pool = contentIn past .pool := by
        cases e with
        | took b s =>
          cases hd : s.done? with
          | none => exact contentIn_of_not_touches past b (Step.not_touches_of_lost hd)
          | some d =>
            refine contentIn_of_done past b hd fun v heq => he ⟨b, s, v, rfl, ?_⟩
            obtain ⟨r, x⟩ := d
            cases heq
            exact hd
        | broke | cancelled => rw [contentIn_other past (by simp)]
      rw [hsame]
      exact h.disposed
  · rcases mem_connected_concat hk with hk | ⟨b, s, he, hd⟩
    · exact disconnected_mono (mem_concat past e) (h.closed k hk)
    · have hask := ((Agreement.observed_concat.1 hobserved).2 b s he).1
      have hopen := (hask.allowed.1.connects (System.request_of_done? hd)).2
      cases hopen.symm.trans h.disposed

end MessageBus
