import MessageBus.Proofs.Publishing.Fetching
/-!
# Publications abide by the agreement

Each part of a publication abides by `Publisher.agreement`, whatever others do meanwhile: finding a channel to publish on
(`abides_channel`), declaring an exchange (`abides_declare`), and the publication as a whole, which a token can cut short
anywhere (`abides_publish`). So does closing the publisher's channel (`abides_close`).
-/

namespace MessageBus

/-- Requests that are no part of fetching a channel, or of what a bus does with its stage, or of using a channel. -/
def Request.IsQuiet : Request → Prop
  | .createChannel | .lock .pool | .isConnected _ | .disconnect _ | .connect | .openChannel _ => False
  | .call _ _ | .lock .stage | .join _ => False
  | _ => True

namespace Publisher

open Agreement

variable {p : Publisher} {errand : Errands} {a : Actor} {past past' : List Happening} {held : List Cell} {s : Step}
  {r : Request} {α : Type} {ends : α → List Happening → Prop}

theorem Serves.of_isQuiet {audience : Audience} {t : String} (hsettled : Settled past a t) (hr : r.IsQuiet) :
    p.Serves errand audience t past a r where
  fetches hf := by
    cases r with
    | lock c => cases c <;> first | exact hr.elim | exact hf.elim
    | _ => first | exact hr.elim | exact hf.elim
  calls c x heq := by cases heq; exact hr.elim
  declares c e heq := by cases heq; exact hr.elim
  publishes c m heq := by cases heq; exact hr.elim
  stays := ⟨fun heq => by cases heq; exact hr.elim, fun tasks heq => by cases heq; exact hr.elim⟩
  settles := .inl hsettled

/-! ## The publisher's channel -/

/-- The actor has these cells locked, none of them the pool or the list of declared types, and leaves what is agreed on in
them. -/
structure Keeps (p : Publisher) (errand : Errands) (a : Actor) (held : List Cell) (past : List Happening) : Prop where
  observed : (p.agreement errand).Observed past
  holds : Holds a past held
  low : ∀ c ∈ held, c.rank < 2
  kept : ∀ c ∈ held, (p.agreement errand).Kept c (contentIn past c) past

namespace Keeps

theorem holder_ne (h : p.Keeps errand a held past) {c : Cell} (hc : 2 ≤ c.rank) : holderIn past c ≠ some a :=
  fun hholder => absurd (h.low c ((h.holds.mem_iff c).1 hholder)) (Nat.not_lt_of_le hc)

theorem ready (h : p.Keeps errand a held past) (hfetching : (errand a).isSome → Fetching past a) :
    p.Ready errand a held past := ⟨h.observed, h.holds.nodup, h.low, fun c _ => h.holds.mem_iff c, h.kept, hfetching⟩

theorem of_ready (h : p.Ready errand a held past) (hapart : holderIn past .pool ≠ some a) :
    p.Keeps errand a held past := by
  refine ⟨h.observed, ⟨h.nodup, fun c => ?_⟩, h.low, h.kept⟩
  by_cases hc : c = .pool
  · subst hc
    exact ⟨fun hholder => absurd hholder hapart, fun hmem => absurd rfl (h.ne_pool hmem)⟩
  · exact h.mem_iff c hc

theorem meanwhile (h : p.Keeps errand a held past) (hm : (p.agreement errand).Meanwhile a past past') :
    p.Keeps errand a held past' := by
  refine ⟨hm.observed, h.holds.meanwhile hm, h.low, fun c hc => ?_⟩
  rw [(hm.holder (fun _ => False.elim) ((h.holds.mem_iff c).2 hc)).2]
  exact hm.kept lasting ((h.holds.mem_iff c).2 hc) (h.kept c hc)

theorem took (h : p.Keeps errand a held past) {x : r.Reply} (hd : s.done? = some ⟨r, x⟩)
    (hobs : (p.agreement errand).Observed (past ++ [.took a s])) (hlow : ∀ c, r = .lock c → c.rank < 2)
    (hput : ∀ c v, r = .put c v → (p.agreement errand).Kept c v past) :
    p.Keeps errand a (Program.heldAfter held r) (past ++ [.took a s]) := by
  have hholds := h.holds.after hobs hd
  have hlock := ((observed_concat.1 hobs).2 a s rfl).2
  have hlow' : ∀ c ∈ Program.heldAfter held r, c.rank < 2 := fun c hc => by
    cases r with
    | lock c' =>
      rcases List.mem_cons.1 hc with rfl | hc
      · exact hlow c rfl
      · exact h.low c hc
    | unlock c' => exact h.low c (List.mem_of_mem_erase hc)
    | _ => exact h.low c hc
  refine ⟨hobs, hholds, hlow', fun c hc => kept_mono ?_ (hlow' c hc) (mem_concat past _)⟩
  -- what is in the cell was put there, or is what was found in it, or was there before
  by_cases hputs : ∃ v, r = .put c v
  · obtain ⟨v, rfl⟩ := hputs
    rw [contentIn_put past a hd]
    exact hput c v rfl
  · rw [contentIn_of_done past a hd fun v heq => hputs ⟨v, heq⟩]
    by_cases hmem : c ∈ held
    · exact h.kept c hmem
    · refine h.observed.kept lasting ?_
      cases r with
      | lock c' =>
        obtain rfl := (List.mem_cons.1 hc).resolve_right hmem
        exact (hlock c x hd).1
      | unlock c' => exact absurd (List.mem_of_mem_erase hc) hmem
      | _ => exact absurd hc hmem

/-- An actor that is dropped leaves what is agreed on in its cells. -/
theorem canDrop (h : p.Keeps errand a held past) (r : Request) : (p.agreement errand).CanDrop past a r :=
  fun c hc _ _ _ =>
    have hmem := (h.holds.mem_iff c).1 hc
    kept_mono (h.kept c hmem) (h.low c hmem) (mem_concat past _)

/-- The actor has done nothing with a cell. -/
theorem apart (h : p.Keeps errand a held past) (hobs : (p.agreement errand).Observed (past ++ [.took a s]))
    (hs : ∀ c, ¬s.Touches c) : p.Keeps errand a held (past ++ [.took a s]) where
  observed := hobs
  holds := ⟨h.holds.nodup, fun c => by rw [holderIn_of_not_touches past a (hs c), h.holds.mem_iff]⟩
  low := h.low
  kept c hc := by
    rw [contentIn_of_not_touches past a (hs c)]
    exact kept_mono (h.kept c hc) (h.low c hc) (mem_concat past _)

/-- The actor asks for something that is no part of fetching a channel. -/
theorem ask {k : r.Reply → Program α} (h : p.Keeps errand a held past)
    (hallows : ∀ past', (p.agreement errand).Meanwhile a past past' → p.Keeps errand a held past' →
      (p.agreement errand).Allows past' a r)
    (hlock : ∀ c, r = .lock c → c.rank < 2 ∧ ∀ c' ∈ held, c'.rank < c.rank)
    (hput : ∀ c v, r = .put c v → c ∈ held ∧ ∀ past', (p.agreement errand).Meanwhile a past past' →
      (p.agreement errand).Kept c v past')
    (hunlock : ∀ c, r = .unlock c → c ∈ held)
    (hrest : ∀ past' s x, s.done? = some ⟨r, x⟩ → (p.agreement errand).Meanwhile a past past' →
      p.Keeps errand a (Program.heldAfter held r) (past' ++ [.took a s]) →
        (p.agreement errand).Abides a ends (k x) (past' ++ [.took a s])) :
    (p.agreement errand).Abides a ends (.ask r k) past := by
  intro past' hm
  have h' := h.meanwhile hm
  refine ⟨⟨hallows past' hm h', fun c hr c' hc' => (hlock c hr).2 c' ((h'.holds.mem_iff c').1 hc'),
    fun c v hr => (h'.holds.mem_iff c).2 (hput c v hr).1, fun c hr => ?_⟩, fun _ => h'.canDrop r,
    fun s x hd hobs => hrest past' s x hd hm (h'.took hd hobs (fun c hr => (hlock c hr).1) fun c v hr => ?_)⟩
  · exact ⟨(h'.holds.mem_iff c).2 (hunlock c hr), h'.kept c (hunlock c hr)⟩
  · exact (hput c v hr).2 past' hm

/-- Whoever publishes may ask for what needs no channel. -/
theorem allows (h : p.Keeps errand a held past) (hr : r.IsPlain) (hquiet : r.IsQuiet) :
    (p.agreement errand).Allows past a r :=
  ⟨.of_isPlain hr, fun _ _ _ => .of_isQuiet (.of_holder_ne h.observed (h.holder_ne (by decide))) hquiet⟩

end Keeps

theorem run_openChannel (p : Publisher) : p.openChannel.run = p.source.create.run >>= fun
    | .error f => .ask (.unlock .outlet) fun _ => .done (.error f)
    | .ok c => .ask (.put .outlet (some c)) fun _ => .ask (.unlock .outlet) fun _ => .done (.ok c) := by
  refine (ExceptT.run_bind_lift _ _).trans (congrArg (p.source.create.run >>= ·) (funext fun r => ?_))
  cases r <;> rfl

theorem run_channel (p : Publisher) : p.channel.run = .ask (.lock .outlet) fun
    | none => p.openChannel.run
    | some c => .ask (.isOpen c) fun b =>
      if b then .ask (.unlock .outlet) fun _ => .done (.ok c) else p.openChannel.run := by
  refine congrArg (Program.ask _) (funext fun o => ?_)
  cases o with
  | none => rfl
  | some c =>
    refine congrArg (Program.ask _) (funext fun b => ?_)
    cases b <;> rfl

/-- Declares the exchange of a type that is not yet in the list of declared types, which is locked. -/
def declaring (p : Publisher) (c : ChannelId) (messageType : String) (types : List String) :
    Program (Except Fault Unit) :=
  .ask (.call c (.declareExchange (Topology.messageExchange messageType p.settings))) fun
    | .error f => .ask (.unlock .declared) fun _ => .done (.error f)
    | .ok () => .ask (.put .declared (messageType :: types)) fun _ => .ask (.unlock .declared) fun _ => .done (.ok ())

theorem run_declare (p : Publisher) (c : ChannelId) (messageType : String) :
    (p.declare c messageType).run = .ask (.lock .declared) fun types =>
      if messageType ∈ types then .ask (.unlock .declared) fun _ => .done (.ok ())
      else p.declaring c messageType types := by
  refine congrArg (Program.ask _) (funext fun types => ?_)
  change ExceptT.run (if messageType ∈ types then _ else _) = if messageType ∈ types then _ else _
  split
  · rfl
  · refine congrArg (Program.ask _) (funext fun r => ?_)
    cases r <;> rfl

theorem run_close : close = .ask (.lock .outlet) fun
    | none => .ask (.unlock .outlet) .done
    | some c => .ask (.put .outlet none) fun _ => .ask (.call c .close) fun _ => .ask (.unlock .outlet) .done := by
  refine congrArg (Program.ask _) (funext fun o => ?_)
  cases o <;> rfl

/-- A publication, up to its message. -/
def publication (p : Publisher) (audience : Audience) (messageType : String) (out : Outbound) : Attempt Unit :=
  match audience with
  | .subscribers => do
    let c ← p.channel
    p.declare c messageType
    Attempt.call c (.publish out)
  | .queue _ => do
    let c ← p.channel
    Attempt.call c (.publish out)

theorem run_guarded (messageType : String) (token : TokenId) (publication : Attempt Unit) :
    (guarded messageType token publication).run = .ask (.isCancelled token) fun b =>
      if b then .done (.error .cancelled)
      else Program.interruptible token publication.run >>= fun
        | none => .done (.error .cancelled)
        | some result => .done (result.mapError (Fault.ofPublishing messageType)) := by
  refine congrArg (Program.ask _) (funext fun b => ?_)
  cases b with
  | true => rfl
  | false =>
    refine congrArg (Program.interruptible token publication.run >>= ·) (funext fun o => ?_)
    cases o <;> rfl

theorem run_publish (p : Publisher) (audience : Audience) (messageType : String) (message : Json) (token : TokenId) :
    (p.publish audience messageType message token).run = match p.payload? message with
      | .error f => .done (.error f)
      | .ok none => .done (.ok ())
      | .ok (some payload) => .ask .freshId fun id => .ask .traceContext fun context =>
        (guarded messageType token (p.publication audience messageType (audience.outbound messageType payload
          ((Properties.persistentOf messageType id).withTrace context)))).run := by
  cases audience with
  | subscribers =>
    rw [publish, broadcast]
    rcases p.payload? message with f | (_ | payload) <;> rfl
  | queue name =>
    rw [publish, send]
    rcases p.payload? message with f | (_ | payload) <;> rfl

/-- What a publication asks for, by what its parts do. -/
theorem only_publish {allowed : Request → Prop} (p : Publisher) (audience : Audience) (messageType : String)
    (message : Json) (token : TokenId) (hs : p.source.create.run.Only allowed) (houtlet : ∀ r, OfOutlet r → allowed r)
    (hdeclared : ∀ c r, p.OfDeclared messageType c r → allowed r) (hcall : ∀ c m, allowed (.call c (.publish m)))
    (hfresh : allowed .freshId) (hcontext : allowed .traceContext) (htoken : allowed (.isCancelled token))
    (hunlock : ∀ c, allowed (.unlock c)) : (p.publish audience messageType message token).run.Only allowed := by
  rw [run_publish]
  rcases p.payload? message with f | (_ | payload)
  · trivial
  · trivial
  refine ⟨hfresh, fun id => ⟨hcontext, fun context => only_guarded ?_ htoken hunlock⟩⟩
  cases audience with
  | subscribers =>
    refine Attempt.only_bind (only_channel hs houtlet) fun c => ?_
    exact Attempt.only_bind ((p.only_declare c messageType).mono (hdeclared c)) fun _ => Attempt.only_call (hcall c _)
  | queue name => exact Attempt.only_bind (only_channel hs houtlet) fun c => Attempt.only_call (hcall c _)

theorem abides_openChannel (hs : p.source.Offered) (h : p.Keeps errand a [.outlet] past) (hf : Fetching past a) :
    (p.agreement errand).Abides a (fun r past => p.Keeps errand a [] past ∧
      ∀ c, r = .ok c → Served past a c ∧ Acquired past a c) p.openChannel.run past := by
  rw [run_openChannel]
  refine Abides.bind ((abides_create hs (h.ready fun _ => hf) (h.holder_ne (c := .pool) (by decide))).mono h.observed
    hs.only_create ?_)
  rintro (f | c) past₁ - ⟨hready, hapart, hc⟩
  · refine (Keeps.of_ready hready hapart).ask (fun _ _ h' => h'.allows trivial trivial) nofun nofun (fun c hc => ?_)
      fun past₂ s x hd hm h₂ => ⟨h₂, nofun⟩
    cases hc
    exact List.mem_singleton_self _
  · obtain ⟨hopened, hserved⟩ := hc c rfl
    refine (Keeps.of_ready hready hapart).ask (fun _ _ h' => h'.allows trivial trivial) nofun (fun c' v heq => ?_) nofun
      fun past₂ s₂ x hd₂ hm₂ h₂ => ?_
    · cases heq
      refine ⟨List.mem_singleton_self _, fun past' hm c' hc' => ?_⟩
      cases hc'
      exact hopened.mono fun _ => hm.mem
    refine h₂.ask (fun _ _ h' => h'.allows trivial trivial) nofun nofun (fun c hc => ?_) fun past₃ s₃ x hd₃ hm₃ h₃ => ?_
    · cases hc
      exact List.mem_singleton_self _
    refine ⟨h₃, fun c' heq => ?_⟩
    cases heq
    have hholder := (h₂.holds.mem_iff .outlet).2 (List.mem_singleton_self _)
    refine ⟨(hserved.onward (hm₂.concat h₂.observed)).onward (hm₃.concat h₃.observed), past₃, s₃, [], rfl, hd₃, ?_⟩
    rw [(hm₃.holder (fun _ => False.elim) hholder).2]
    exact contentIn_put past₂ a hd₂

/-- Finding a channel to publish on: it was just fetched, or could still be used. -/
theorem abides_channel (hs : p.source.Offered) (h : p.Keeps errand a [] past) :
    (p.agreement errand).Abides a (fun r past => p.Keeps errand a [] past ∧
      ∀ c, r = .ok c → Served past a c ∧ Acquired past a c) p.channel.run past := by
  rw [run_channel]
  refine h.ask (fun _ _ h' => h'.allows trivial trivial) (fun c hc => ?_) nofun nofun fun past₁ s₁ o hd₁ hm₁ h₁ => ?_
  · cases hc
    exact ⟨by decide, nofun⟩
  have hholder : holderIn (past₁ ++ [.took a s₁]) .outlet = some a := holderIn_lock past₁ a hd₁
  have hcontent : contentIn (past₁ ++ [.took a s₁]) .outlet = o := by
    rw [contentIn_of_done past₁ a hd₁ nofun, (((observed_concat.1 h₁.observed).2 a s₁ rfl).2 .outlet o hd₁).2]
  cases o with
  | none => exact abides_openChannel hs h₁ ⟨hholder, fun c hc => by rw [hcontent] at hc; cases hc⟩
  | some c =>
    have hunlock : ∀ c', Request.unlock .outlet = .unlock c' → c' ∈ [Cell.outlet] := fun c' hc => by
      cases hc
      exact List.mem_singleton_self _
    have hsame : ∀ {past'}, (p.agreement errand).Meanwhile a (past₁ ++ [.took a s₁]) past' →
        contentIn past' .outlet = some c := fun hm => (hm.holder (fun _ => False.elim) hholder).2.trans hcontent
    refine Keeps.ask (r := .isOpen c) h₁ (fun past' hm h' =>
      ⟨⟨nofun, nofun, nofun, fun c' heq => ?_, nofun, nofun, nofun⟩,
        fun _ _ _ => .of_isQuiet (.of_holder_ne h'.observed (h'.holder_ne (by decide))) trivial⟩) nofun nofun nofun
      fun past₂ s₂ usable hd₂ hm₂ h₂ => ?_
    · cases heq
      exact h'.kept .outlet (List.mem_singleton_self _) c (hsame hm)
    have hcontent₂ : contentIn (past₂ ++ [.took a s₂]) .outlet = some c := by
      rw [contentIn_of_done past₂ a hd₂ nofun, hsame hm₂]
    have hholder₂ := (h₂.holds.mem_iff .outlet).2 (List.mem_singleton_self _)
    cases usable with
    | false =>
      refine abides_openChannel hs h₂ ⟨hholder₂, fun c' hc' => ?_⟩
      obtain rfl : c = c' := Option.some.inj (hcontent₂.symm.trans hc')
      refine ⟨stepsOf a past₂, s₂, [], ?_, hd₂, fun _ hs => absurd hs List.not_mem_nil⟩
      rw [stepsOf_append, stepsOf_took_self]
    | true =>
      refine h₂.ask (fun _ _ h' => h'.allows trivial trivial) nofun nofun hunlock fun past₃ s₃ x hd₃ hm₃ h₃ => ?_
      refine ⟨h₃, fun c' heq => ?_⟩
      cases heq
      have hserved : Served (past₂ ++ [.took a s₂]) a c := ⟨s₂, mem_stepsOf.2 (by simp), .inl hd₂⟩
      refine ⟨hserved.onward (hm₃.concat h₃.observed), past₃, s₃, [], rfl, hd₃, ?_⟩
      rw [(hm₃.holder (fun _ => False.elim) hholder₂).2, hcontent₂]

/-- Closing the channel, if the actor publishes nothing itself. -/
theorem abides_close (herrand : errand a = none) (h : p.Keeps errand a held past)
    (hlow : ∀ c ∈ held, c.rank < 1) :
    (p.agreement errand).Abides a (fun _ => p.Keeps errand a held) close past := by
  have hallows : ∀ {past' r}, r.IsPlain → (p.agreement errand).Allows past' a r := fun hr =>
    ⟨.of_isPlain hr, fun _ _ he => by cases herrand.symm.trans he⟩
  have hunlock : ∀ c, Request.unlock .outlet = .unlock c → c ∈ .outlet :: held := fun c hc => by
    cases hc
    exact List.mem_cons_self
  rw [run_close]
  refine h.ask (fun _ _ _ => hallows trivial) (fun c hc => ?_) nofun nofun fun past₁ s₁ o hd₁ hm₁ h₁ => ?_
  · cases hc
    exact ⟨by decide, hlow⟩
  cases o with
  | none => exact h₁.ask (fun _ _ _ => hallows trivial) nofun nofun hunlock fun past₂ s₂ x hd₂ hm₂ h₂ => h₂
  | some c =>
    refine h₁.ask (fun _ _ _ => hallows trivial) nofun (fun c' v heq => ?_) nofun fun past₂ s₂ x hd₂ hm₂ h₂ => ?_
    · cases heq
      exact ⟨List.mem_cons_self, fun _ _ => nofun⟩
    refine Keeps.ask (r := .call c .close) h₂ (fun _ _ _ => hallows trivial) nofun nofun nofun
      fun past₃ s₃ x hd₃ hm₃ h₃ => ?_
    exact h₃.ask (fun _ _ _ => hallows trivial) nofun nofun hunlock fun past₄ s₄ x hd₄ hm₄ h₄ => h₄

/-! ## Declaring an exchange -/

theorem messageExchange_injective {t t' : String} {q : Settings.Publisher}
    (h : Topology.messageExchange t q = Topology.messageExchange t' q) : t = t' := congrArg Exchange.name h

theorem declared_concat {t t' : String} {c : ChannelId} (ha : (errand a).isSome)
    (hd : s.done? = some ⟨.call c (.declareExchange (Topology.messageExchange t p.settings)), .ok ()⟩) :
    p.Declared errand (past ++ [.took a s]) t' ↔ t' = t ∨ p.Declared errand past t' := by
  constructor
  · rintro ⟨b, s', c', he, hb, hd'⟩
    rcases List.mem_append.1 he with he | he
    · exact .inr ⟨b, s', c', he, hb, hd'⟩
    · cases List.mem_singleton.1 he
      have hcall := (System.request_of_done? hd').symm.trans (System.request_of_done? hd)
      simp only [Request.call.injEq, Call.declareExchange.injEq] at hcall
      exact .inl (messageExchange_injective hcall.2)
  · rintro (rfl | ht')
    · exact ⟨a, s, c, by simp, ha, hd⟩
    · exact ht'.mono (mem_concat past _)

/-- What is declared is not lost by a step that declares nothing. -/
theorem listed_concat {w : List String} (h : ∀ t, t ∈ w ↔ p.Declared errand past t)
    (hs : ∀ c e, s.done? ≠ some ⟨.call c (.declareExchange e), .ok ()⟩) :
    ∀ t, t ∈ w ↔ p.Declared errand (past ++ [.took a s]) t := by
  refine kept_concat (c := .declared) h nofun fun _ b s' c t he _ hd => ?_
  cases he
  exact hs c _ hd

/-- The actor has the list of declared types locked, and nothing else. It holds `v`, and `w` once what the actor is about
to put into it is there. -/
structure Declares (p : Publisher) (errand : Errands) (a : Actor) (v w : List String) (past : List Happening) : Prop where
  observed : (p.agreement errand).Observed past
  holds : Holds a past [.declared]
  content : contentIn past .declared = v
  kept : ∀ t, t ∈ w ↔ p.Declared errand past t

namespace Declares

variable {v w : List String} {t : String}

theorem holder (h : p.Declares errand a v w past) : holderIn past .declared = some a :=
  (h.holds.mem_iff .declared).2 (List.mem_singleton_self _)

theorem meanwhile (h : p.Declares errand a v w past) (hm : (p.agreement errand).Meanwhile a past past') :
    p.Declares errand a v w past' :=
  ⟨hm.observed, h.holds.meanwhile hm, (hm.holder (fun _ => False.elim) h.holder).2.trans h.content,
    hm.kept (c := .declared) lasting h.holder h.kept⟩

theorem settled (h : Settled past a t) (hm : (p.agreement errand).Meanwhile a past past') : Settled past' a t := by
  obtain ⟨own, hown, hnone⟩ := hm.stepsOf_eq
  obtain rfl : own = [] := List.eq_nil_iff_forall_not_mem.2 hnone
  rw [List.append_nil] at hown
  intro own s types hsteps
  exact h own s types (hown ▸ hsteps)

theorem unlock {k : Unit → Program α} (h : p.Declares errand a v v past) (hsettled : ∀ audience t,
      errand a = some (audience, t) → Settled past a t)
    (hrest : ∀ past', (p.agreement errand).Onward a (fun _ => True) past past' → p.Keeps errand a [] past' →
      (p.agreement errand).Abides a ends (k ()) past') :
    (p.agreement errand).Abides a ends (.ask (.unlock .declared) k) past := by
  intro past' hm
  have h' := h.meanwhile hm
  refine ⟨.unlock ⟨.of_isPlain trivial, fun _ t he => .of_isQuiet (settled (hsettled _ t he) hm) trivial⟩ h'.holder ?_,
    nofun, fun s x hd hobs => hrest _ (hm.concat hobs) ?_⟩
  · exact h'.content ▸ h'.kept
  · exact ⟨hobs, h'.holds.after hobs hd, nofun, nofun⟩

theorem put {k : Unit → Program α} (h : p.Declares errand a v w past) (hsettled : ∀ audience t,
      errand a = some (audience, t) → Settled past a t)
    (hrest : ∀ past', (p.agreement errand).Onward a (fun _ => True) past past' → p.Declares errand a w w past' →
      (∀ t, Settled past' a t) → (p.agreement errand).Abides a ends (k ()) past') :
    (p.agreement errand).Abides a ends (.ask (.put .declared w) k) past := by
  intro past' hm
  have h' := h.meanwhile hm
  have hpermits : p.Permits errand past' a (.put .declared w) := by
    refine ⟨nofun, nofun, nofun, nofun, nofun, fun types heq t ht => ?_, nofun⟩
    cases heq
    exact (h'.kept t).1 ht
  refine ⟨.put ⟨hpermits, fun _ t he => .of_isQuiet (settled (hsettled _ t he) hm) trivial⟩ h'.holder, nofun,
    fun s x hd hobs => hrest _ (hm.concat hobs) ⟨hobs, h'.holds.after hobs hd, contentIn_put past' a hd, ?_⟩
      fun t => .took (by simp [hd])⟩
  exact listed_concat h'.kept fun _ _ hd' => by cases hd.symm.trans hd'

end Declares

/-- The exchange is not among those that were declared, so it is declared now, and then added to them if that worked. -/
theorem abides_declaring {audience : Audience} {t : String} {c : ChannelId} {types : List String}
    (herrand : errand a = some (audience, t)) (h : p.Declares errand a types types past) (ht : t ∉ types)
    (hserved : Served past a c) (hacquired : Acquired past a c) :
    (p.agreement errand).Abides a (fun r past => p.Keeps errand a [] past ∧ ∀ u, r = .ok u → p.Declared errand past t)
      (p.declaring c t types) past := by
  intro past₁ hm
  have h₁ := h.meanwhile hm
  refine ⟨.of_apart ⟨.of_isPlain trivial, fun audience' t' he => ?_⟩ (fun _ => id), fun _ c' hc' s hreq hd => ?_,
    fun s x hd hobs => ?_⟩
  · cases herrand.symm.trans he
    exact {
      fetches := False.elim
      calls := fun c' x heq => by
        cases heq
        exact ⟨hserved.onward hm, hacquired.onward hm⟩
      declares := fun c' e heq => by
        cases heq
        exact ⟨rfl, h₁.holder, fun hdeclared => ht ((h₁.kept t).2 hdeclared)⟩
      publishes := nofun
      stays := ⟨nofun, nofun⟩
      settles := .inr ⟨c, rfl⟩ }
  · obtain rfl := List.mem_singleton.1 ((h₁.holds.mem_iff c').1 hc')
    exact listed_concat (h₁.content ▸ h₁.kept) fun _ _ hd' => by cases hd.symm.trans hd'
  have hsettled : ∀ t', Settled (past₁ ++ [.took a s]) a t' := fun t' => .took (by simp [hd])
  have hafter : ∀ {w}, (∀ t', t' ∈ w ↔ p.Declared errand (past₁ ++ [.took a s]) t') →
      p.Declares errand a types w (past₁ ++ [.took a s]) := fun hw =>
    ⟨hobs, h₁.holds.after hobs hd, by rw [contentIn_of_done past₁ a hd nofun, h₁.content], hw⟩
  cases x with
  | error f =>
    have hkept := listed_concat (a := a) h₁.kept fun _ _ hd' => by cases hd.symm.trans hd'
    exact (hafter hkept).unlock (fun _ t' _ => hsettled t') fun past₂ _ h₂ => ⟨h₂, nofun⟩
  | ok u =>
    have hnew : ∀ t', t' ∈ t :: types ↔ p.Declared errand (past₁ ++ [.took a s]) t' := fun t' => by
      rw [List.mem_cons, h₁.kept t', declared_concat (by simp [herrand]) hd]
    refine (hafter hnew).put (fun _ t' _ => hsettled t') fun past₂ hon₂ h₂ hsettled₂ => ?_
    refine h₂.unlock (fun _ t' _ => hsettled₂ t') fun past₃ hon₃ h₃ => ⟨h₃, fun _ _ => ?_⟩
    exact ((hnew t).1 List.mem_cons_self).mono fun _ he => hon₃.mem (hon₂.mem he)

/-- The exchange of a type is declared by the time the publisher's list says so. -/
theorem abides_declare {audience : Audience} {t : String} {c : ChannelId} (herrand : errand a = some (audience, t))
    (h : p.Keeps errand a [] past) (hserved : Served past a c) (hacquired : Acquired past a c) :
    (p.agreement errand).Abides a (fun r past => p.Keeps errand a [] past ∧ ∀ u, r = .ok u → p.Declared errand past t)
      (p.declare c t).run past := by
  rw [run_declare]
  intro past₁ hm
  have h₁ := h.meanwhile hm
  have hnone : ∀ c, holderIn past₁ c ≠ some a := fun c hc => List.not_mem_nil ((h₁.holds.mem_iff c).1 hc)
  refine ⟨.lock (h₁.allows trivial trivial) fun c hc => absurd hc (hnone c), fun _ c hc => absurd hc (hnone c),
    fun s types hd hobs => ?_⟩
  obtain ⟨hfree, hcontent⟩ := ((observed_concat.1 hobs).2 a s rfl).2 .declared types hd
  have hkept : ∀ t, t ∈ types ↔ p.Declared errand past₁ t := hcontent ▸ h₁.observed.kept lasting hfree
  have h₂ : p.Declares errand a types types (past₁ ++ [.took a s]) := by
    refine ⟨hobs, h₁.holds.after hobs hd, ?_, ?_⟩
    · rw [contentIn_of_done past₁ a hd nofun, hcontent]
    · exact listed_concat hkept fun _ _ hd' => by cases hd.symm.trans hd'
  beta_reduce
  split
  · rename_i ht
    refine h₂.unlock (fun _ t' he => ?_) fun past₃ hon h₃ => ⟨h₃, fun _ _ => ?_⟩
    · cases herrand.symm.trans he
      exact .took fun types' heq => by
        cases hd.symm.trans heq
        exact ht
    · exact ((h₂.kept t).1 ht).mono fun _ => hon.mem
  · rename_i ht
    exact abides_declaring herrand h₂ ht (hserved.onward (hm.concat hobs)) (hacquired.onward (hm.concat hobs))

/-! ## Publications -/

theorem Keeps.of_nothing (hobs : (p.agreement errand).Observed past) (h : Holds a past []) :
    p.Keeps errand a [] past := ⟨hobs, h, nofun, nofun⟩

theorem abides_send {audience : Audience} {t : String} {c : ChannelId} {out : Outbound}
    (herrand : errand a = some (audience, t)) (h : p.Keeps errand a [] past) (hserved : Served past a c)
    (hacquired : Acquired past a c) (hdeclared : audience = .subscribers → p.Declared errand past t) :
    (p.agreement errand).Abides a (fun _ => p.Keeps errand a []) (Attempt.call c (.publish out)).run past := by
  refine Keeps.ask (r := .call c (.publish out)) (k := .done) h (fun past' hm h' => ⟨.of_isPlain trivial,
    fun audience' t' he => ?_⟩) nofun nofun nofun fun past₁ s x hd hm h₁ => h₁
  cases herrand.symm.trans he
  exact {
    fetches := False.elim
    calls := fun c' x heq => by
      cases heq
      exact ⟨hserved.onward hm, hacquired.onward hm⟩
    declares := nofun
    publishes := fun c' m _ haudience => (hdeclared haudience).mono fun _ => hm.mem
    stays := ⟨nofun, nofun⟩
    settles := .inl (.of_holder_ne h'.observed (h'.holder_ne (by decide))) }

theorem abides_publication {audience : Audience} {t : String} {out : Outbound} (hs : p.source.Offered)
    (herrand : errand a = some (audience, t)) (h : p.Keeps errand a [] past) :
    (p.agreement errand).Abides a (fun _ => p.Keeps errand a []) (p.publication audience t out).run past := by
  cases audience with
  | subscribers =>
    refine Abides.attempt ((abides_channel hs h).imp ?_)
    rintro (f | c) past₁ ⟨h₁, hc⟩
    · exact h₁
    obtain ⟨hserved, hacquired⟩ := hc c rfl
    have hdeclare := abides_declare herrand h₁ hserved hacquired
    refine Abides.attempt (hdeclare.mono h₁.observed (p.only_declare c t) ?_)
    rintro (f | u) past₂ hon ⟨h₂, hdeclared⟩
    · exact h₂
    · exact abides_send herrand h₂ (hserved.onward hon) (hacquired.onward hon) fun _ => hdeclared u rfl
  | queue name =>
    refine Abides.attempt ((abides_channel hs h).imp ?_)
    rintro (f | c) past₁ ⟨h₁, hc⟩
    · exact h₁
    · obtain ⟨hserved, hacquired⟩ := hc c rfl
      exact abides_send herrand h₁ hserved hacquired nofun

theorem abides_guarded {t : String} {token : TokenId} {publication : Attempt Unit} (h : p.Keeps errand a [] past)
    (hp : ∀ past', p.Keeps errand a [] past' →
      (p.agreement errand).Abides a (fun _ => p.Keeps errand a []) publication.run past') :
    (p.agreement errand).Abides a (fun _ => p.Keeps errand a []) (guarded t token publication).run past := by
  rw [run_guarded]
  refine Keeps.ask (r := .isCancelled token) h (fun _ _ h' => h'.allows trivial trivial) nofun nofun nofun
    fun past₁ s cancelled hd hm h₁ => ?_
  cases cancelled with
  | true => exact h₁
  | false =>
    refine Abides.bind (Abides.interruptible lasting ?_ h₁.holds ?_)
    · exact (hp _ h₁).imp fun _ _ h₂ => h₂
    · exact fun past₂ hobs hholds => .of_nothing hobs hholds

/-- A publication abides by the agreement, wherever its token cuts it short, and has nothing locked in the end. -/
theorem abides_publish {audience : Audience} {t : String} (hs : p.source.Offered)
    (herrand : errand a = some (audience, t)) (message : Json) (token : TokenId) (h : p.Keeps errand a [] past) :
    (p.agreement errand).Abides a (fun _ => p.Keeps errand a []) (p.publish audience t message token).run past := by
  rw [run_publish]
  rcases p.payload? message with f | (_ | payload)
  · exact h
  · exact h
  refine Keeps.ask (r := .freshId) h (fun _ _ h' => h'.allows trivial trivial) nofun nofun nofun
    fun past₁ s₁ id hd₁ hm₁ h₁ => ?_
  refine Keeps.ask (r := .traceContext) h₁ (fun _ _ h' => h'.allows trivial trivial) nofun nofun nofun
    fun past₂ s₂ context hd₂ hm₂ h₂ => ?_
  exact abides_guarded h₂ fun past₃ h₃ => abides_publication hs herrand h₃

end Publisher

end MessageBus
