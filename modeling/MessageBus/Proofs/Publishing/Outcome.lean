import MessageBus.Proofs.Publishing.Refusal
/-!
# How a publication ends

`Publisher.publish_outcome` says what a publication does and what it gives, for every source of channels, every answer
and every instant at which its token is cancelled. A message that cannot be written reaches nobody. Otherwise the
message is published once at most, after all else has worked, and the publication fails with the first fault it meets,
as one of publishing the message (`Publisher.Outcome`).

A fault of publishing is not made into another one. So one that the source of channels gives keeps the type that it
names, whatever the type of the message (`Publisher.foreign_fault_passed_on`).
-/

namespace MessageBus

namespace Step

/-- The fault that was met in the step, whether or not it could have given way to a token. -/
def met? (s : Step) : Option Fault := s.done?.bind fun d => (asked d.1 d.2).fault?

/-- The step came to an end, and not with a fault. -/
def Worked (s : Step) : Prop := s.done?.isSome ∧ s.met? = none

/-- Whatever was asked before a message is published has worked. -/
def InTurn (past : List Step) (s : Step) : Prop := s.request.published?.isSome → ∀ s' ∈ past, s'.Worked

@[simp] theorem met?_asked (r : Request) (x : r.Reply) : (asked r x).met? = (asked r x).fault? := rfl

@[simp] theorem met?_under (t : TokenId) (s : Step) : (s.under t).met? = s.met? := by rw [met?, done?_under, met?]

@[simp] theorem worked_under (t : TokenId) (s : Step) : (s.under t).Worked ↔ s.Worked := by
  rw [Worked, done?_under, met?_under, Worked]

end Step

namespace Program

variable {α β : Type} {g : Option Fault}

/-- The program ends with the first fault it meets, or with the one that it met before. -/
def PassesOn : Option Fault → Program (Except Fault α) → Prop
  | g, done r => faultOf r = g
  | g, ask r k => ∀ x, (k x).PassesOn (g.or (Step.asked r x).met?)
  | _, race _ _ _ => False

namespace PassesOn

theorem bind {p : Program (Except Fault α)} {f : Except Fault α → Program (Except Fault β)} (hp : p.PassesOn g)
    (hok : ∀ a, (f (.ok a)).PassesOn none) (herror : ∀ e, (f (.error e)).PassesOn (some e)) : (p >>= f).PassesOn g := by
  induction p generalizing g with
  | done r =>
    obtain rfl : faultOf r = g := hp
    cases r with
    | ok a => exact hok a
    | error e => exact herror e
  | ask r k ih => exact fun x => ih x (hp x)
  | race t r k ih => exact hp.elim

/-- How such a program ends can be read off its steps, all of which have come to their end. -/
theorem fault_eq {p : Program (Except Fault α)} {steps : List Step} {r : Except Fault α} (hp : p.PassesOn g)
    (h : p.Reaches steps (done r)) :
    (∀ s ∈ steps, s.done?.isSome) ∧ faultOf r = g.or (steps.findSome? Step.met?) := by
  generalize hq : (done r : Program _) = q at h
  induction h generalizing g with
  | here =>
    subst hq
    exact ⟨fun s hs => absurd hs List.not_mem_nil, by simpa [PassesOn] using hp⟩
  | next hs _ ih =>
    cases hs with
    | asked q k x =>
      obtain ⟨hdone, hr⟩ := ih (hp x) hq
      refine ⟨List.forall_mem_cons.2 ⟨rfl, hdone⟩, ?_⟩
      rw [hr, Option.or_assoc, List.findSome?_cons]
      cases (Step.asked q x).met? <;> rfl
    | raced => exact hp.elim

/-- A program that ends well has met no fault. -/
theorem worked {p : Program (Except Fault α)} {steps : List Step} {a : α} (hp : p.PassesOn none)
    (h : p.Reaches steps (done (.ok a))) : ∀ s ∈ steps, s.Worked := by
  obtain ⟨hdone, hnone⟩ := hp.fault_eq h
  rw [Option.none_or] at hnone
  exact fun s hs => ⟨hdone s hs, List.findSome?_eq_none_iff.1 hnone.symm s hs⟩

end PassesOn

end Program

theorem Attempt.passesOn_bind {α β : Type} {a : Attempt α} {f : α → Attempt β} (ha : a.run.PassesOn none)
    (hf : ∀ x, (f x).run.PassesOn none) : (a >>= f).run.PassesOn none := by
  rw [ExceptT.run_bind]
  exact ha.bind hf fun e => rfl

/-! ## The parts of a publication -/

namespace Pool

theorem passesOn_openInto (ks : List ConnectionId) : (openInto ks).run.PassesOn none := by
  rw [run_openInto]
  intro x
  cases x with
  | error f => exact fun _ => rfl
  | ok k => exact fun _ _ => rfl

theorem passesOn_acquire (size : Nat) : (acquire size).run.PassesOn none := by
  rw [run_acquire]
  rintro ⟨connections, disposed⟩
  cases disposed with
  | true => exact fun _ => rfl
  | false =>
    cases connections with
    | nil => exact passesOn_openInto []
    | cons oldest rest =>
      change Program.PassesOn none (if (oldest :: rest).length < capacity size then _ else _)
      split
      · exact passesOn_openInto _
      · intro b
        cases b with
        | true => exact fun _ _ => rfl
        | false => exact fun _ _ => passesOn_openInto rest

end Pool

theorem ChannelSource.Offered.passesOn_create {source : ChannelSource} (h : source.Offered) :
    source.create.run.PassesOn none := by
  cases h with
  | direct => exact fun x => by cases x <;> rfl
  | pooled size => exact Attempt.passesOn_bind (Pool.passesOn_acquire size) fun k x => by cases x <;> rfl

namespace Publisher

variable {p : Publisher}

theorem passesOn_channel (hs : p.source.Offered) : p.channel.run.PassesOn none := by
  have hopen : p.openChannel.run.PassesOn none := by
    rw [run_openChannel]
    exact hs.passesOn_create.bind (fun c _ _ => rfl) fun e _ => rfl
  rw [run_channel]
  intro o
  cases o with
  | none => exact hopen
  | some c =>
    intro b
    cases b with
    | true => exact fun _ => rfl
    | false => exact hopen

theorem passesOn_declare (p : Publisher) (c : ChannelId) (messageType : String) :
    (p.declare c messageType).run.PassesOn none := by
  rw [run_declare]
  intro types
  change Program.PassesOn none (if messageType ∈ types then _ else _)
  split
  · exact fun _ => rfl
  · intro x
    cases x with
    | error f => exact fun _ => rfl
    | ok u => exact fun _ _ => rfl

/-- A publication asks for its message to be published in the end, with all before it done, or fails before. -/
inductive Publishes (out : Outbound) : List Step → Except Fault Unit → Prop
  | failed {steps : List Step} {f : Fault} (hsilent : publications steps = [])
      (hf : steps.findSome? Step.met? = some f) : Publishes out steps (.error f)
  | asked {steps : List Step} (hsilent : publications steps = []) (hworked : ∀ s ∈ steps, s.Worked) (c : ChannelId)
      (a : Except Fault Unit) : Publishes out (steps ++ [.asked (.call c (.publish out)) a]) a

theorem published?_eq_none {steps : List Step} (h : publications steps = []) {s : Step} (hs : s ∈ steps) :
    s.request.published? = none := List.filterMap_eq_nil_iff.1 h s hs

section
variable {out : Outbound} {steps : List Step} {r : Except Fault Unit}

theorem publishes_bind {α : Type} {a : Attempt α} {f : α → Attempt Unit} (ha : a.run.PassesOn none)
    (hsilent : a.run.Only fun r => r.published? = none)
    (hf : ∀ x steps r, (f x).run.Reaches steps (.done r) → Publishes out steps r)
    (h : (a >>= f).run.Reaches steps (.done r)) : Publishes out steps r := by
  rcases Attempt.reaches_bind h with ⟨e, rfl, hfirst⟩ | ⟨first, x, second, rfl, hfirst, hsecond⟩
  · obtain ⟨-, he⟩ := ha.fault_eq hfirst
    exact .failed (publications_of_only hsilent hfirst) he.symm
  · have hnone := publications_of_only hsilent hfirst
    have hworked := ha.worked hfirst
    cases hf x second r hsecond with
    | failed hsecondSilent he =>
      refine .failed (by rw [publications_append, hnone, hsecondSilent]; rfl) ?_
      rw [List.findSome?_append, List.findSome?_eq_none_iff.2 fun s hs => (hworked s hs).2]
      exact he
    | asked hsecondSilent hsecondWorked c _ =>
      rw [← List.append_assoc]
      refine .asked (by rw [publications_append, hnone, hsecondSilent]; rfl) (fun s hs => ?_) c r
      exact (List.mem_append.1 hs).elim (hworked s) (hsecondWorked s)

theorem publishes_call {c : ChannelId} (h : (Attempt.call c (.publish out)).run.Reaches steps (.done r)) :
    Publishes out steps r := by
  obtain rfl := Attempt.reaches_call h
  change Publishes out ([] ++ [.asked (.call c (.publish out)) r]) r
  exact .asked rfl (fun s hs => absurd hs List.not_mem_nil) c r

theorem publishes_of_publication (hs : p.source.Offered) {audience : Audience} {messageType : String}
    (h : (p.publication audience messageType out).run.Reaches steps (.done r)) : Publishes out steps r := by
  cases audience with
  | subscribers =>
    refine publishes_bind (passesOn_channel hs) (silent_channel hs.silent) (fun c _ _ h₁ => ?_) h
    exact publishes_bind (passesOn_declare p c messageType) (silent_declare p c messageType)
      (fun _ _ _ h₂ => publishes_call h₂) h₁
  | queue name =>
    exact publishes_bind (passesOn_channel hs) (silent_channel hs.silent) (fun c _ _ h₁ => publishes_call h₁) h

namespace Publishes

theorem handsOver (h : Publishes out steps r) : HandsOver out steps r := by
  cases h with
  | failed hsilent _ => exact .inr ⟨hsilent, _, rfl⟩
  | asked hsilent _ c _ => exact .inl (by rw [publications_append, hsilent]; rfl)

/-- Before any step but the last nothing was published, and before one that publishes all has worked. -/
theorem before {own rest : List Step} {s : Step} (h : Publishes out (own ++ s :: rest) r) :
    publications own = [] ∧ s.InTurn own := by
  generalize hall : own ++ s :: rest = all at h
  cases h with
  | failed hsilent _ =>
    subst hall
    obtain ⟨hown, -⟩ := List.append_eq_nil_iff.1 ((publications_append _ _).symm.trans hsilent)
    refine ⟨hown, fun hs => ?_⟩
    rw [published?_eq_none hsilent (s := s) (by simp)] at hs
    cases hs
  | @asked begun hsilent hworked c _ =>
    -- the steps begin what comes before the publishing
    have hprefix : own <+: begun := by
      have hbegun : begun <+: own ++ s :: rest := hall ▸ List.prefix_append _ _
      have hlength := congrArg List.length hall
      simp only [List.length_append, List.length_cons, List.length_nil] at hlength
      exact List.prefix_of_prefix_length_le (List.prefix_append _ _) hbegun (by omega)
    obtain ⟨more, rfl⟩ := hprefix
    exact ⟨(List.append_eq_nil_iff.1 ((publications_append _ _).symm.trans hsilent)).1,
      fun _ s' hs' => hworked s' (List.mem_append_left _ hs')⟩

end Publishes

end

/-- What a publication does and gives whose message can be written, once its token was not found cancelled. -/
structure Outcome (messageType : String) (out : Outbound) (token : TokenId) (steps : List Step)
    (result : Except Fault Unit) : Prop where
  /-- The message is published once at most, and nothing else is. -/
  once : publications steps = [] ∨ publications steps = [out]
  /-- It is published with all that comes before it done. -/
  inTurn : Justified Step.InTurn [] steps
  /-- All went well if the broker took the message, and only then. -/
  taken : result = .ok () ↔ ∃ s ∈ steps, ∃ c, s.done? = some ⟨.call c (.publish out), .ok ()⟩
  /-- A fault is that of a cancelled token, or the first one that was met: as it is if it is a cancellation or one of
  publishing, and with its text as the reason if it is any other. -/
  fault : ∀ f, result = .error f → (f = .cancelled ∧ ∃ q, .raced token q none ∈ steps) ∨
    ∃ g, steps.findSome? Step.met? = some g ∧ match g with
      | .cancelled => f = .cancelled
      | .publish t reason => f = .publish t reason
      | g => f = .publish messageType g.message
  /-- If only publishing gives faults of publishing, with the type of the message, there is none with another type. -/
  named : (∀ s ∈ steps, ∀ t reason, s.met? = some (.publish t reason) →
      ∃ m, s.request.published? = some m ∧ t = m.properties.messageType) →
    ∀ f, result = .error f → f = .cancelled ∨ ∃ reason, f = .publish messageType reason

section
variable {t : String} {out : Outbound} {token : TokenId} {steps own : List Step} {r : Except Fault Unit}

/-- The type of a fault of publishing follows from what the fault was. -/
theorem Outcome.of_fault (htype : out.properties.messageType = t)
    (honce : publications steps = [] ∨ publications steps = [out]) (hturn : Justified Step.InTurn [] steps)
    (htaken : r = .ok () ↔ ∃ s ∈ steps, ∃ c, s.done? = some ⟨.call c (.publish out), .ok ()⟩)
    (hfault : ∀ f, r = .error f → (f = .cancelled ∧ ∃ q, .raced token q none ∈ steps) ∨
      ∃ g, steps.findSome? Step.met? = some g ∧ f = g.ofPublishing t) : Outcome t out token steps r where
  once := honce
  inTurn := hturn
  taken := htaken
  fault f hf := by
    refine (hfault f hf).imp_right fun ⟨g, hg, heq⟩ => ⟨g, hg, ?_⟩
    subst heq
    cases g <;> rfl
  named hpublish f hf := by
    rcases hfault f hf with ⟨rfl, -⟩ | ⟨g, hg, rfl⟩
    · exact .inl rfl
    cases g with
    | cancelled => exact .inl rfl
    | publish t' reason =>
      obtain ⟨s, hs, hmet⟩ := List.exists_of_findSome?_eq_some hg
      obtain ⟨m, hm, rfl⟩ := hpublish s hs t' reason hmet
      -- nothing was published but the one message
      have hmem : m ∈ publications steps := mem_noted.2 ⟨s, hs, hm⟩
      have hout : m = out := by
        rcases honce with hnone | hone
        · exact absurd (hnone ▸ hmem) List.not_mem_nil
        · exact List.mem_singleton.1 (hone ▸ hmem)
      exact .inr ⟨reason, by rw [Fault.ofPublishing, hout, htype]⟩
    | _ => exact .inr ⟨_, rfl⟩

theorem inTurn_of_silent {past : List Step} (h : publications steps = []) : Justified Step.InTurn past steps :=
  justified_of_forall fun s hs _ hpublishes => by
    rw [published?_eq_none h hs] at hpublishes
    cases hpublishes

theorem findSome?_met?_under (steps : List Step) (t : TokenId) :
    (steps.map (·.under t)).findSome? Step.met? = steps.findSome? Step.met? := by
  rw [List.findSome?_map]
  exact congrArg (steps.findSome? ·) (funext fun s => s.met?_under t)

theorem worked_map_under (h : ∀ s ∈ steps, s.Worked) : ∀ s ∈ steps.map (·.under token), s.Worked := by
  intro s hs
  obtain ⟨s', hs', rfl⟩ := List.mem_map.1 hs
  exact (Step.worked_under token s').2 (h s' hs')

/-- Where nothing is published the broker takes no message. -/
theorem not_taken_of_silent (h : publications steps = []) :
    ¬∃ s ∈ steps, ∃ c, s.done? = some ⟨.call c (.publish out), .ok ()⟩ := by
  rintro ⟨s, hs, c, hd⟩
  have hnone := published?_eq_none h hs
  rw [System.request_of_done? hd] at hnone
  cases hnone

/-- A publication that is not cut short. -/
theorem outcome_of_publishes (htype : out.properties.messageType = t) (h : Publishes out own r)
    (honce : publications (own.map (·.under token)) = [] ∨ publications (own.map (·.under token)) = [out]) :
    Outcome t out token (own.map (·.under token)) (r.mapError (Fault.ofPublishing t)) := by
  cases h with
  | @failed _ f hsilent hf =>
    have hnone := (publications_map_under own token).trans hsilent
    refine .of_fault htype honce (inTurn_of_silent hnone) (iff_of_false nofun (not_taken_of_silent hnone)) ?_
    rintro _ ⟨⟩
    exact .inr ⟨f, (findSome?_met?_under own token).trans hf, rfl⟩
  | @asked begun hsilent hworked c _ =>
    have hnone := (publications_map_under begun token).trans hsilent
    have hfirst : (begun.map (·.under token)).findSome? Step.met? = none := by
      rw [findSome?_met?_under]
      exact List.findSome?_eq_none_iff.2 fun s hs => (hworked s hs).2
    have hturn : Justified Step.InTurn []
        ((begun ++ [Step.asked (.call c (.publish out)) r]).map fun s => s.under token) := by
      rw [List.map_append]
      exact justified_append.2 ⟨inTurn_of_silent hnone, fun _ => worked_map_under hworked, trivial⟩
    rw [List.map_append] at honce hturn ⊢
    cases r with
    | ok u =>
      exact .of_fault htype honce hturn
        (iff_of_true rfl ⟨_, List.mem_append_right _ (List.mem_singleton_self _), c, rfl⟩) nofun
    | error g =>
      refine .of_fault htype honce hturn (iff_of_false nofun ?_) ?_
      · rintro ⟨s, hs, c', hd⟩
        rcases List.mem_append.1 hs with hs | hs
        · exact not_taken_of_silent hnone ⟨s, hs, c', hd⟩
        · cases List.mem_singleton.1 hs
          cases hd
      · rintro _ ⟨⟩
        exact .inr ⟨g, by rw [List.findSome?_append, hfirst]; rfl, rfl⟩

/-- A publication that is cut short: what it came to begins a publication that is not. -/
theorem outcome_of_abandoned (htype : out.properties.messageType = t) {q : Request} {x : q.Reply}
    {rest after : List Step} (h : Publishes out (own ++ .asked q x :: rest) r)
    (hafter : ∀ s ∈ after, ∃ c, s.request = .unlock c)
    (honce : publications (own.map (·.under token) ++ .raced token q none :: after) = [] ∨
      publications (own.map (·.under token) ++ .raced token q none :: after) = [out]) :
    Outcome t out token (own.map (·.under token) ++ .raced token q none :: after) (.error .cancelled) := by
  obtain ⟨hsilent, hturn⟩ := h.before
  have hown := (publications_map_under own token).trans hsilent
  have hquiet : publications after = [] := List.filterMap_eq_nil_iff.2 fun s hs => by
    obtain ⟨c, hc⟩ := hafter s hs
    rw [hc]
    rfl
  refine .of_fault htype honce ?_ (iff_of_false nofun ?_) ?_
  · -- what was being asked for when the token was cancelled may have been the publishing
    exact justified_append.2 ⟨inTurn_of_silent hown, fun hpublishes => worked_map_under (hturn hpublishes),
      inTurn_of_silent hquiet⟩
  · rintro ⟨s, hs, c, hd⟩
    rcases List.mem_append.1 hs with hs | hs
    · exact not_taken_of_silent hown ⟨s, hs, c, hd⟩
    rcases List.mem_cons.1 hs with rfl | hs
    · cases hd
    · exact not_taken_of_silent hquiet ⟨s, hs, c, hd⟩
  · rintro _ ⟨⟩
    exact .inl ⟨rfl, q, by simp⟩

/-- The token is looked at first, and a publication follows if it is not cancelled. -/
theorem outcome_of_guarded (hs : p.source.Offered) {audience : Audience} (htype : out.properties.messageType = t)
    (h : (guarded t token (p.publication audience t out)).run.Reaches steps (.done r)) :
    ∃ cancelled rest, steps = .asked (.isCancelled token) cancelled :: rest ∧
      if cancelled then rest = [] ∧ r = .error .cancelled else Outcome t out token rest r := by
  have hpublishes : ∀ own r', (p.publication audience t out).run.Reaches own (.done r') → Publishes out own r' :=
    fun _ _ => publishes_of_publication hs
  have honce := (handsOver_guarded (fun own r' h' => (hpublishes own r' h').handsOver) h).symm.imp_left (·.1)
  rw [run_guarded] at h
  obtain ⟨cancelled, rest, rfl, h₁⟩ := h.of_ask
  refine ⟨cancelled, rest, rfl, ?_⟩
  cases cancelled with
  | true =>
    obtain ⟨rfl, hr⟩ := h₁.of_done
    cases hr
    exact ⟨rfl, rfl⟩
  | false =>
    obtain ⟨publishing, o, ending, rfl, hpublish, h₂⟩ := Program.Reaches.bind_done h₁
    rcases hpublish.interruptible_done with ⟨own, x, hown, rfl, rfl⟩ | ⟨own, q, k, after, hown, rfl, hafter, rfl⟩
    · obtain ⟨rfl, hr⟩ := Program.Reaches.of_done h₂
      cases hr
      rw [List.append_nil] at honce ⊢
      exact outcome_of_publishes htype (hpublishes own x hown) honce
    · obtain ⟨rfl, hr⟩ := Program.Reaches.of_done h₂
      cases hr
      rw [List.append_nil] at honce ⊢
      -- what was abandoned could have been brought to its end
      obtain ⟨more, a, hmore⟩ := Program.exists_reaches_done (k q.plainReply)
      have hwhole := hpublishes _ a (hown.trans (.next (.asked q k q.plainReply) hmore))
      exact outcome_of_abandoned htype hwhole hafter honce

end

/-- What a publication does and gives. A message that cannot be written is passed over or gives its fault, as the
settings say, and nothing is asked for. The token is looked at before anything is asked of the source of channels or of
a channel, and nothing is if it is cancelled. If it is not, the publication has an `Outcome`. -/
theorem publish_outcome (hs : p.source.Offered) (audience : Audience) (t : String) (message : Json) (token : TokenId)
    (w : Surroundings) :
    let r := (p.publish audience t message token).run.run w
    match p.serializer.write message with
    | .error e => r = ⟨[], match p.settings.unwritable with
      | .fail => .error (.codec e)
      | .ignore => .ok ()⟩
    | .ok payload => ∃ id context cancelled rest,
        r.steps = .asked .freshId id :: .asked .traceContext context :: .asked (.isCancelled token) cancelled :: rest ∧
        if cancelled then rest = [] ∧ r.result = .error .cancelled
        else Outcome t (audience.outbound t payload ((Properties.persistentOf t id).withTrace context)) token rest
          r.result := by
  intro r
  have h : (p.publish audience t message token).run.Reaches r.steps (.done r.result) := Program.reaches_runAfter w [] _
  generalize r = run at h
  obtain ⟨steps, result⟩ := run
  dsimp only at h ⊢
  rw [run_publish, payload?] at h
  cases hw : p.serializer.write message with
  | error e =>
    cases hpolicy : p.settings.unwritable <;>
    · rw [hw, hpolicy] at h
      obtain ⟨rfl, hr⟩ := h.of_done
      cases hr
      rfl
  | ok payload =>
    rw [hw] at h
    obtain ⟨id, rest, rfl, h₁⟩ := h.of_ask
    obtain ⟨context, rest, rfl, h₂⟩ := h₁.of_ask
    have htype : ∀ properties : Properties, properties.messageType = t →
        (audience.outbound t payload properties).properties.messageType = t := fun properties hproperties => by
      rw [Audience.properties_outbound, hproperties]
    obtain ⟨cancelled, rest, rfl, hrest⟩ := outcome_of_guarded hs (htype _ rfl) h₂
    exact ⟨id, context, cancelled, rest, rfl, hrest⟩

end Publisher

/-! ## Orders that are not published -/

namespace Sample

/-- Surroundings in which the broker declares no exchange. -/
def withoutExchanges : Surroundings := .plain (fun
  | .declareExchange e => .error (.declareExchange e.name)
  | _ => .ok ()) (.ok ())

/-- Surroundings in which the source of channels gives a fault of publishing, of a message of another type than orders.
-/
def misnaming : Surroundings :=
  let reply (r : Request) : r.Reply := match r with
    | .createChannel => .error (.publish "billing.InvoiceIssued" "no route")
    | r => r.plainReply
  ⟨fun _ => reply, fun _ _ r => some (reply r)⟩

/-- An order is published to its subscribers. -/
def offer (w : Surroundings) : Run (Except Fault Unit) :=
  (seller.publish .subscribers "orders.OrderPlaced" (.object [("id", .number 1)]) ⟨0⟩).run.run w

end Sample

open Sample in
/-- The exchange of an order is not declared: the order is not published, and the fault is one of publishing it. -/
theorem Publisher.undeclared_order_outcome :
    seller.source.Offered ∧
      (∃ out rest, Publisher.Outcome "orders.OrderPlaced" out ⟨0⟩ rest (offer withoutExchanges).result) ∧
      publications (offer withoutExchanges).steps = [] ∧ (offer withoutExchanges).result =
        .error (.publish "orders.OrderPlaced" "failure to declare an exchange `orders.OrderPlaced`") := by
  have hresult : (offer withoutExchanges).result =
      .error (.publish "orders.OrderPlaced" "failure to declare an exchange `orders.OrderPlaced`") := by decide +kernel
  have hw : seller.serializer.write (.object [("id", .number 1)]) = .ok (Bytes.ofText "\x7b\"id\":1\x7d") := rfl
  have h := Publisher.publish_outcome (p := seller) .direct .subscribers "orders.OrderPlaced"
    (.object [("id", .number 1)]) ⟨0⟩ withoutExchanges
  rw [hw] at h
  obtain ⟨id, context, cancelled, rest, -, hrest⟩ := h
  refine ⟨.direct, ?_, by decide +kernel, hresult⟩
  cases cancelled with
  | true => cases hresult.symm.trans hrest.2
  | false => exact ⟨_, rest, hrest⟩

open Sample in
/-- The source of channels gives a fault of publishing that names another type, and no channel gives any. The
publication of an order fails with that fault as it is. -/
theorem Publisher.foreign_fault_passed_on :
    (∀ s ∈ (offer misnaming).steps, s.met?.isSome → s.request.onChannel = false) ∧
      (offer misnaming).result = .error (.publish "billing.InvoiceIssued" "no route") ∧
      ¬((offer misnaming).result = .error .cancelled ∨
        ∃ reason, (offer misnaming).result = .error (.publish "orders.OrderPlaced" reason)) := by
  have hresult : (offer misnaming).result = .error (.publish "billing.InvoiceIssued" "no route") := by decide +kernel
  refine ⟨by decide +kernel, hresult, ?_⟩
  rw [hresult]
  simp

end MessageBus
