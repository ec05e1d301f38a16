import MessageBus.Proofs.Publishing.Custody
/-!
# Fetching a channel abides by the agreement

Fetching a channel from a source abides by `Publisher.agreement`, whatever others do meanwhile (`abides_create`), and so
does giving the pool up, after which every connection has been closed for good (`abides_dispose`). Whoever does so may
have cells locked that come before the pool.
-/

namespace MessageBus

namespace Publisher

open Agreement

variable {p : Publisher} {errand : Errands} {a : Actor} {past past' : List Happening} {held : List Cell} {s : Step}
  {r : Request} {α : Type} {ends : α → List Happening → Prop}

/-- The actor fetches a channel, or is about to. Apart from the pool it has cells locked that come before it, and leaves
what is agreed on in them. -/
structure Ready (p : Publisher) (errand : Errands) (a : Actor) (held : List Cell) (past : List Happening) : Prop where
  observed : (p.agreement errand).Observed past
  nodup : held.Nodup
  low : ∀ c ∈ held, c.rank < 2
  mem_iff : ∀ c, c ≠ .pool → (holderIn past c = some a ↔ c ∈ held)
  kept : ∀ c ∈ held, (p.agreement errand).Kept c (contentIn past c) past
  fetching : (errand a).isSome → Fetching past a

theorem not_touches_of_seeks {c : Cell} (hc : c ≠ .pool) (hr : ChannelSource.Seeks r) : ¬r.Touches c := by
  intro ht
  rcases Request.touches_iff.1 ht with rfl | rfl | ⟨v, rfl⟩ <;> cases c <;> first | exact hr | exact hc rfl

namespace Ready

theorem ne_pool (h : p.Ready errand a held past) {c : Cell} (hc : c ∈ held) : c ≠ .pool := by
  rintro rfl
  exact Nat.lt_irrefl 2 (h.low _ hc)

theorem declared_ne (h : p.Ready errand a held past) : holderIn past .declared ≠ some a := fun hd =>
  absurd (h.low _ ((h.mem_iff .declared (by decide)).1 hd)) (by decide)

/-- It stays so while the actor seeks a channel. -/
theorem onward (h : p.Ready errand a held past)
    (hon : (p.agreement errand).Onward a ChannelSource.Seeks past past') : p.Ready errand a held past' := by
  have hstays : ∀ {c}, c ≠ .pool → holderIn past c = some a →
      holderIn past' c = some a ∧ contentIn past' c = contentIn past c := fun hc =>
    hon.holder fun _ => not_touches_of_seeks hc
  refine ⟨hon.observed, h.nodup, h.low, fun c hc => ⟨fun hholder => ?_, fun hmem => ?_⟩, fun c hmem => ?_,
    fun herrand => ?_⟩
  · by_contra hmem
    have hlock : ¬ChannelSource.Seeks (.lock c) := fun hs => not_touches_of_seeks hc hs rfl
    exact hon.holder_ne hlock (fun hbefore => hmem ((h.mem_iff c hc).1 hbefore)) hholder
  · exact (hstays hc ((h.mem_iff c hc).2 hmem)).1
  · have hc := h.ne_pool hmem
    rw [(hstays hc ((h.mem_iff c hc).2 hmem)).2]
    exact kept_mono (h.kept c hmem) (h.low c hmem) fun _ => hon.mem
  · obtain ⟨houtlet, hshut⟩ := h.fetching herrand
    obtain ⟨hholder, hcontent⟩ := hstays (by decide) houtlet
    refine ⟨hholder, fun c hc => ?_⟩
    obtain ⟨own, s, sought, hown, hd, hsought⟩ := hshut c (hcontent ▸ hc)
    obtain ⟨more, hmore, hseeks⟩ := hon.stepsOf_eq
    refine ⟨own, s, sought ++ more, by rw [hmore, hown, List.append_assoc]; rfl, hd, fun s' hs' => ?_⟩
    exact (List.mem_append.1 hs').elim (hsought s') (hseeks s')

theorem meanwhile (h : p.Ready errand a held past) (hm : (p.agreement errand).Meanwhile a past past') :
    p.Ready errand a held past' := h.onward (hm.mono fun _ => False.elim)

theorem allows (h : p.Ready errand a held past) (hr : ChannelSource.Seeks r) (hpermits : p.Permits errand past a r) :
    (p.agreement errand).Allows past a r :=
  ⟨hpermits, fun audience t herrand => {
    fetches := fun _ => h.fetching (herrand ▸ rfl)
    calls := fun c x heq => by cases heq; exact hr.elim
    declares := fun c e heq => by cases heq; exact hr.elim
    publishes := fun c m heq => by cases heq; exact hr.elim
    stays := ⟨fun heq => by cases heq; exact hr.elim, fun tasks heq => by cases heq; exact hr.elim⟩
    settles := .inl (.of_holder_ne h.observed h.declared_ne) }⟩

/-- It can be dropped, if that breaks nothing of the pool. -/
theorem canDrop (h : p.Ready errand a held past) (hpool : holderIn past .pool = some a → ∀ s : Step, s.request = r →
    s.done? = none → Pooled (contentIn past .pool) (past ++ [.took a s])) : (p.agreement errand).CanDrop past a r := by
  intro c hc s hreq hd
  by_cases heq : c = .pool
  · subst heq
    exact hpool hc s hreq hd
  · have hmem := (h.mem_iff c heq).1 hc
    exact kept_mono (h.kept c hmem) (h.low c hmem) (mem_concat past _)

/-- The actor asks for something outside, without the pool. -/
theorem ask {k : r.Reply → Program α} (h : p.Ready errand a held past) (hapart : holderIn past .pool ≠ some a)
    (hr : ChannelSource.Seeks r) (htouch : ∀ c, ¬r.Touches c)
    (hpermits : ∀ past', (p.agreement errand).Meanwhile a past past' → p.Permits errand past' a r)
    (hrest : ∀ past' s x, s.done? = some ⟨r, x⟩ → (p.agreement errand).Meanwhile a past past' →
      p.Ready errand a held (past' ++ [.took a s]) → holderIn (past' ++ [.took a s]) .pool ≠ some a →
        (p.agreement errand).Abides a ends (k x) (past' ++ [.took a s])) :
    (p.agreement errand).Abides a ends (.ask r k) past := by
  intro past' hm
  have h' := h.meanwhile hm
  have hapart' := hm.holder_ne (c := .pool) id hapart
  refine ⟨.of_apart (h'.allows hr (hpermits past' hm)) htouch, fun _ => h'.canDrop fun hc => absurd hc hapart',
    fun s x hd hobs => hrest past' s x hd hm ?_ ?_⟩
  · exact h'.onward (.step hobs (System.request_of_done? hd ▸ hr))
  · have hs : ¬s.Touches .pool := Step.not_touches_of_request (System.request_of_done? hd ▸ htouch _)
    rwa [holderIn_of_not_touches past' a hs]

end Ready

/-- The actor fetches a channel and has the pool locked. It holds `v`, and `w` once what the actor is about to put into it
is there. -/
structure Tends (p : Publisher) (errand : Errands) (a : Actor) (held : List Cell) (v w : Pool)
    (past : List Happening) : Prop where
  ready : p.Ready errand a held past
  holder : holderIn past .pool = some a
  content : contentIn past .pool = v
  pooled : Pooled w past

namespace Tends

variable {v w : Pool} {k : r.Reply → Program α}

theorem meanwhile (h : p.Tends errand a held v w past) (hm : (p.agreement errand).Meanwhile a past past') :
    p.Tends errand a held v w past' := by
  obtain ⟨hholder, hcontent⟩ := hm.holder (fun _ => False.elim) h.holder
  exact ⟨h.ready.meanwhile hm, hholder, hcontent.trans h.content, hm.kept (c := .pool) lasting h.holder h.pooled⟩

/-- The actor asks for something outside, with the pool locked. -/
theorem ask (h : p.Tends errand a held v w past) (hr : ChannelSource.Seeks r) (hapart : ∀ c, ¬r.Touches c)
    (hpermits : ∀ past', p.Tends errand a held v w past' → p.Permits errand past' a r)
    (hdrop : ∀ past' s, Pooled w past' → s.request = r → s.done? = none → Pooled v (past' ++ [.took a s]))
    (hrest : ∀ past' s x, s.done? = some ⟨r, x⟩ → Pooled w past' →
      (∀ w', Pooled w' (past' ++ [.took a s]) → p.Tends errand a held v w' (past' ++ [.took a s])) →
        (p.agreement errand).Abides a ends (k x) (past' ++ [.took a s])) :
    (p.agreement errand).Abides a ends (.ask r k) past := by
  intro past' hm
  have h' := h.meanwhile hm
  refine ⟨.of_apart (h'.ready.allows hr (hpermits past' h')) hapart, fun _ => h'.ready.canDrop fun _ s hreq hd => ?_,
    fun s x hd hobs => hrest past' s x hd h'.pooled fun w' hw' => ?_⟩
  · rw [h'.content]
    exact hdrop past' s h'.pooled hreq hd
  · have hreq := System.request_of_done? hd
    have hs : ∀ c, ¬s.Touches c := fun c => Step.not_touches_of_request (hreq ▸ hapart c)
    refine ⟨h'.ready.onward (.step hobs (hreq ▸ hr)), ?_, ?_, hw'⟩
    · rw [holderIn_of_not_touches past' a (hs _), h'.holder]
    · rw [contentIn_of_not_touches past' a (hs _), h'.content]

/-- The actor puts into the pool what is to be there. -/
theorem put {v' : Pool} {k : Unit → Program α} (h : p.Tends errand a held v w past)
    (hdisposed : v.disposed = true → v'.disposed = true)
    (hrest : ∀ past', p.Tends errand a held v' w past' → (p.agreement errand).Abides a ends (k ()) past') :
    (p.agreement errand).Abides a ends (.ask (.put .pool v') k) past := by
  intro past' hm
  have h' := h.meanwhile hm
  have hpermits : p.Permits errand past' a (.put .pool v') := by
    refine ⟨nofun, nofun, nofun, nofun, fun v'' heq hd => ?_, nofun, nofun⟩
    cases heq
    exact hdisposed (h'.content ▸ hd)
  refine ⟨.put (h'.ready.allows trivial hpermits) h'.holder, nofun, fun s x hd hobs => hrest _ ⟨?_, ?_, ?_, ?_⟩⟩
  · exact h'.ready.onward (.step hobs (System.request_of_done? hd ▸ trivial))
  · rw [holderIn_of_done past' a hd nofun nofun, h'.holder]
  · exact contentIn_put past' a hd
  · exact h'.pooled.took fun k => by simp [hd]

theorem unlock {k : Unit → Program α} (h : p.Tends errand a held v v past)
    (hrest : ∀ past', (p.agreement errand).Onward a ChannelSource.Seeks past past' → p.Ready errand a held past' →
      holderIn past' .pool ≠ some a → (p.agreement errand).Abides a ends (k ()) past') :
    (p.agreement errand).Abides a ends (.ask (.unlock .pool) k) past := by
  intro past' hm
  have h' := h.meanwhile hm
  have hallows := h'.ready.allows (r := .unlock .pool) trivial (.of_isPlain trivial)
  refine ⟨.unlock hallows h'.holder (h'.content ▸ h'.pooled), nofun, fun s x hd hobs => ?_⟩
  have hon : (p.agreement errand).Onward a ChannelSource.Seeks past (past' ++ [.took a s]) :=
    (hm.mono fun _ => False.elim).trans (.step hobs (System.request_of_done? hd ▸ trivial))
  refine hrest _ hon (h.ready.onward hon) ?_
  rw [holderIn_unlock past' a hd]
  nofun

end Tends

theorem Ready.lock {k : Pool → Program α} (h : p.Ready errand a held past) (hapart : holderIn past .pool ≠ some a)
    (hrest : ∀ past' s v, .took a s ∈ past' → s.done? = some ⟨.lock .pool, v⟩ →
      p.Tends errand a held v v past' → (p.agreement errand).Abides a ends (k v) past') :
    (p.agreement errand).Abides a ends (.ask (.lock .pool) k) past := by
  intro past' hm
  have h' := h.meanwhile hm
  have hapart' := hm.holder_ne (c := .pool) id hapart
  have hallows := h'.allows (r := .lock .pool) trivial (.of_isPlain trivial)
  refine ⟨.lock hallows fun c hc => ?_, fun _ => h'.canDrop fun hc => absurd hc hapart', fun s v hd hobs => ?_⟩
  · by_cases heq : c = .pool
    · exact absurd (heq ▸ hc) hapart'
    · exact h'.low c ((h'.mem_iff c heq).1 hc)
  · obtain ⟨-, hlock⟩ := (observed_concat.1 hobs).2 a s rfl
    obtain ⟨hnone, hv⟩ := hlock .pool v hd
    have hcontent : contentIn (past' ++ [.took a s]) .pool = v := by
      rw [contentIn_of_done past' a hd nofun, hv]
    have hpooled : Pooled v past' := hv ▸ Observed.kept lasting h'.observed hnone
    refine hrest _ s v (by simp) hd ⟨?_, ?_, hcontent, ?_⟩
    · exact h'.onward (.step hobs (System.request_of_done? hd ▸ trivial))
    · exact holderIn_lock past' a hd
    · exact hpooled.took fun k => by simp [hd]

theorem abides_openInto {ks : List ConnectionId} (h : p.Tends errand a held ⟨ks, false⟩ ⟨ks, false⟩ past) :
    (p.agreement errand).Abides a (fun r past => p.Ready errand a held past ∧ holderIn past .pool ≠ some a ∧
      ∀ k, r = .ok k → k ∈ connected past) (Pool.openInto ks).run past := by
  rw [Pool.run_openInto]
  refine h.ask trivial (fun c => id) (fun past' h' => ?_) (fun past' s hw hreq hd => ?_) fun past' s x hd hw hafter => ?_
  · exact ⟨fun _ => ⟨h'.holder, h'.content ▸ rfl⟩, nofun, nofun, nofun, nofun, nofun, nofun⟩
  · exact hw.took fun k => by simp [hd]
  · cases x with
    | error f =>
      have hpooled := hw.took (a := a) (s := s) fun k => by simp [hd]
      exact (hafter _ hpooled).unlock fun past' _ hready hapart => ⟨hready, hapart, nofun⟩
    | ok k =>
      refine (hafter ⟨ks ++ [k], false⟩ (hw.connects hd)).put nofun fun past' h' => ?_
      refine h'.unlock fun past'' hon hready hapart => ⟨hready, hapart, fun k' heq => ?_⟩
      cases heq
      exact connected_mono (fun _ => hon.mem) (h'.pooled.opened k (by simp))

/-- The pool is full: its oldest connection is used again, or taken out and closed. -/
theorem abides_reuse {oldest : ConnectionId} {rest : List ConnectionId}
    (h : p.Tends errand a held ⟨oldest :: rest, false⟩ ⟨oldest :: rest, false⟩ past) :
    (p.agreement errand).Abides a (fun r past => p.Ready errand a held past ∧ holderIn past .pool ≠ some a ∧
      ∀ k, r = .ok k → k ∈ connected past)
      (.ask (.isConnected oldest) fun b =>
        if b then .ask (.put .pool ⟨rest ++ [oldest], false⟩) fun _ => .ask (.unlock .pool) fun _ => .done (.ok oldest)
        else .ask (.put .pool ⟨rest, false⟩) fun _ => .ask (.disconnect oldest) fun _ => (Pool.openInto rest).run)
      past := by
  refine h.ask trivial (fun _ => id) (fun _ _ => .of_isPlain trivial) (fun past₁ s hw hreq hd => ?_) ?_
  · exact hw.took fun k => by simp [hd]
  intro past₁ s usable hd hw hafter
  have hpooled : ∀ {v : Pool}, (∀ k, k ∈ v.connections ↔ k ∈ oldest :: rest) → Pooled v (past₁ ++ [.took a s]) := by
    intro v hv
    exact (hw.congr hv).took fun k => by simp [hd]
  cases usable with
  | true =>
    refine (hafter ⟨rest ++ [oldest], false⟩ (hpooled fun k => by simp [or_comm])).put nofun fun past₂ h₂ => ?_
    refine h₂.unlock fun past₃ hon hready hapart => ⟨hready, hapart, fun k heq => ?_⟩
    cases heq
    exact connected_mono (fun _ => hon.mem) (h₂.pooled.opened oldest (by simp))
  | false =>
    refine (hafter ⟨oldest :: rest, false⟩ (hpooled fun _ => .rfl)).put nofun fun past₂ h₂ => ?_
    refine h₂.ask trivial (fun _ => id) (fun _ _ => .of_isPlain trivial) (fun _ _ hw hreq _ => hw.disconnects hreq) ?_
    intro past₃ s₃ u hd₃ hw₃ hafter₃
    exact abides_openInto (hafter₃ _ (hw₃.disconnects (System.request_of_done? hd₃)))

theorem abides_acquire (size : Nat) (h : p.Ready errand a held past) (hapart : holderIn past .pool ≠ some a) :
    (p.agreement errand).Abides a (fun r past => p.Ready errand a held past ∧ holderIn past .pool ≠ some a ∧
      ∀ k, r = .ok k → k ∈ connected past ∧ Admitted past a) (Pool.acquire size).run past := by
  have honly := Pool.only_acquire size
  rw [Pool.run_acquire] at honly ⊢
  refine h.lock hapart fun past₁ s v hs hd h₁ => ?_
  obtain ⟨ks, disposed⟩ := v
  cases disposed with
  | true => exact h₁.unlock fun _ _ hready hapart => ⟨hready, hapart, nofun⟩
  | false =>
    -- what comes after this only seeks a channel, and the actor stays admitted
    refine Abides.mono (?_ : (p.agreement errand).Abides a (fun r past => p.Ready errand a held past ∧
      holderIn past .pool ≠ some a ∧ ∀ k, r = .ok k → k ∈ connected past) _ past₁) h₁.ready.observed
      (honly.2 ⟨ks, false⟩) ?_
    · cases ks with
      | nil => exact abides_openInto h₁
      | cons oldest rest =>
        rw [if_neg Bool.false_ne_true]
        dsimp only
        split
        · exact abides_openInto h₁
        · exact abides_reuse h₁
    · rintro r past₂ hon ⟨hready, hapart, hk⟩
      exact ⟨hready, hapart, fun k heq => ⟨hk k heq, s, mem_stepsOf.2 (hon.mem hs), _, hd, rfl⟩⟩

/-- Fetching a channel from a source that a bus can have. -/
theorem abides_create (hs : p.source.Offered) (h : p.Ready errand a held past) (hapart : holderIn past .pool ≠ some a) :
    (p.agreement errand).Abides a (fun r past => p.Ready errand a held past ∧ holderIn past .pool ≠ some a ∧
      ∀ c, r = .ok c → Opened past c ∧ Served past a c) p.source.create.run past := by
  obtain ⟨settings, serializer, source⟩ := p
  cases hs with
  | direct =>
    refine h.ask hapart (r := .createChannel) trivial (fun _ => id)
      (fun _ _ => ⟨nofun, fun _ => rfl, nofun, nofun, nofun, nofun, nofun⟩) fun past₁ s r hd hm hready hout => ?_
    refine ⟨hready, hout, fun c hc => ?_⟩
    cases hc
    have hmem : .took a s ∈ past₁ ++ [.took a s] := by simp
    exact ⟨.inl ⟨a, s, hmem, hd⟩, s, mem_stepsOf.2 hmem, .inr (.inl hd)⟩
  | pooled size =>
    refine Abides.attempt (Abides.mono (abides_acquire size h hapart) h.observed (Pool.only_acquire size) ?_)
    rintro (f | k) past₁ - ⟨hready, hout, hk⟩
    · exact ⟨hready, hout, nofun⟩
    · obtain ⟨hconnected, s₀, hs₀, hadmitted⟩ := hk k rfl
      refine hready.ask hout (r := .openChannel k) trivial (fun _ => id)
        (fun past' hm => ⟨nofun, nofun, fun k' heq => ?_, nofun, nofun, nofun, nofun⟩)
        fun past₂ s r hd hm hready₂ hout₂ => ⟨hready₂, hout₂, fun c hc => ?_⟩
      · cases heq
        exact ⟨connected_mono (fun _ => hm.mem) hconnected, s₀, mem_stepsOf.2 (hm.mem (mem_stepsOf.1 hs₀)), hadmitted⟩
      · cases hc
        have hmem : .took a s ∈ past₂ ++ [.took a s] := by simp
        refine ⟨.inr ⟨k, ?_, a, s, hmem, hd⟩, s, mem_stepsOf.2 hmem, .inr (.inr ⟨k, hd⟩)⟩
        exact connected_mono (fun _ he => List.mem_append_left _ (hm.mem he)) hconnected

/-! ## Giving the pool up -/

theorem abides_closeAll {ks : List ConnectionId} (h : p.Tends errand a held ⟨ks, true⟩ ⟨ks, true⟩ past) :
    (p.agreement errand).Abides a (fun _ past => p.Ready errand a held past ∧ holderIn past .pool ≠ some a ∧ Late past)
      (Pool.closeAll ks >>= fun _ => Program.request (.unlock .pool)) past := by
  induction ks generalizing past with
  | nil =>
    have hlate : Late past :=
      ⟨by rw [h.content], fun k hk => (h.pooled.somewhere k hk).resolve_left List.not_mem_nil⟩
    exact Tends.unlock (k := .done) h fun past' hon hready hapart => ⟨hready, hapart, hlate.onward hon⟩
  | cons k ks ih =>
    have hrun : (Pool.closeAll (k :: ks) >>= fun _ => Program.request (.unlock .pool)) =
        .ask (.put .pool ⟨ks, true⟩) fun _ => .ask (.disconnect k) fun _ =>
          Pool.closeAll ks >>= fun _ => Program.request (.unlock .pool) := rfl
    rw [hrun]
    refine h.put (fun _ => rfl) fun past₁ h₁ => ?_
    refine h₁.ask trivial (fun _ => id) (fun _ _ => .of_isPlain trivial) (fun _ _ hw hreq _ => hw.disconnects hreq) ?_
    exact fun past₂ s x hd hw hafter => ih (hafter _ (hw.disconnects (System.request_of_done? hd)))

/-- Giving the pool up closes every connection, for good. -/
theorem abides_dispose (h : p.Ready errand a held past) (hapart : holderIn past .pool ≠ some a) :
    (p.agreement errand).Abides a (fun _ past => p.Ready errand a held past ∧ holderIn past .pool ≠ some a ∧ Late past)
      Pool.dispose past := by
  have hrun : Pool.dispose = .ask (.lock .pool) fun v => .ask (.put .pool ⟨v.connections, true⟩) fun _ =>
      Pool.closeAll v.connections >>= fun _ => Program.request (.unlock .pool) := rfl
  rw [hrun]
  refine h.lock hapart fun past₁ s v hs hd h₁ => h₁.put (fun _ => rfl) fun past₂ h₂ => ?_
  exact abides_closeAll ⟨h₂.ready, h₂.holder, h₂.content, h₂.pooled.congr fun _ => .rfl⟩

end Publisher

end MessageBus
