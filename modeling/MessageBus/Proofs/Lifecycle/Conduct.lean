import MessageBus.Proofs.Lifecycle.Provisioning
import MessageBus.Proofs.Publishing.Shared
/-!
# A bus abides by the agreement of its publisher

A bus and its publisher take their channels from one source. Starting, stopping and looking at a bus abide by
`Publisher.agreement`, as publications do (`Bus.abides_op`). When a stop returns, the pool has been given up and all its
connections were closed.
-/

namespace MessageBus

/-- Requests that have nothing to do with cells, and open nothing. -/
def Request.IsApart : Request → Prop
  | .lock _ | .put _ _ | .unlock _ => False
  | .connect | .createChannel | .openChannel _ | .isOpen _ => False
  | _ => True

theorem Request.IsApart.not_touches {r : Request} (h : r.IsApart) (c : Cell) : ¬r.Touches c := by
  intro ht
  rcases Request.touches_iff.1 ht with rfl | rfl | ⟨v, rfl⟩ <;> exact h

theorem Topology.only_install (t : Topology) (c : ChannelId) : (t.install c).run.Only Request.IsApart := by
  rw [install]
  generalize t.calls = xs
  induction xs with
  | nil => trivial
  | cons x xs ih => exact Attempt.only_bind (Attempt.only_call trivial) fun _ => ih

namespace Publisher

open Agreement

variable {p : Publisher} {errand : Errands} {a : Actor} {past : List Happening} {α : Type}

/-- What is apart may be asked for at any time; but a caller that waits for tasks has nothing locked but the stage. -/
theorem Permits.of_isApart {r : Request} (h : r.IsApart)
    (hjoin : ∀ n, a = .caller n → ∀ c, holderIn past c = some a → c = .stage) : p.Permits errand past a r := by
  cases r with
  | join tasks => exact ⟨nofun, nofun, nofun, nofun, nofun, nofun, fun n _ ha _ => hjoin n ha⟩
  | connect | createChannel | openChannel | isOpen | lock | put | unlock => exact h.elim
  | _ => exact .of_isPlain trivial

/-- Whoever publishes nothing and has only the stage locked may do what is apart. -/
theorem abides_apart (herrand : errand a = none) {q : Program α} (hq : q.Only Request.IsApart)
    (h : p.Keeps errand a [.stage] past) :
    (p.agreement errand).Abides a (fun _ => p.Keeps errand a [.stage]) q past := by
  have hask : ∀ {past r}, r.IsApart → p.Keeps errand a [.stage] past → (p.agreement errand).MayAsk past a r :=
    fun hr h => .of_apart ⟨.of_isApart hr fun _ _ c hc => List.mem_singleton.1 ((h.holds.mem_iff c).1 hc),
      fun _ _ he => by cases herrand.symm.trans he⟩ hr.not_touches
  induction q generalizing past with
  | done x => exact h
  | ask r k ih =>
    intro past' hm
    have h' := h.meanwhile hm
    refine ⟨hask hq.1 h', fun _ => h'.canDrop r, fun s x hd hobs => ih x (hq.2 x) (h'.apart hobs fun c => ?_)⟩
    exact Step.not_touches_of_request (System.request_of_done? hd ▸ hq.1.not_touches c)
  | race t r k ih =>
    intro past' hm
    have h' := h.meanwhile hm
    refine ⟨hask hq.1 h', fun s x hr hd hobs => ih x (hq.2 x) (h'.apart hobs fun c => ?_)⟩
    exact Step.not_touches_of_request (hr ▸ hq.1.not_touches c)

end Publisher

namespace Bus

open Publisher Agreement

variable {b : Bus} {errand : Errands} {a : Actor} {past : List Happening} {α : Type}

/-! ## Starting -/

theorem only_startAll (token : TokenId) (started rest : List Intake) :
    (startAll token started rest).Only Request.IsApart := by
  refine Program.only_of_reaches fun steps x h s hs => ?_
  have htends := tends_of_startAll h s hs
  cases hr : s.request <;> rw [hr] at htends <;> trivial

theorem only_disposeAll (is : List Intake) : (disposeAll is).Only Request.IsApart := by
  refine Program.only_of_reaches fun steps u h s hs => ?_
  have hwinds := winds_of_disposeAll h s hs
  cases hr : s.request <;> rw [hr] at hwinds <;> trivial

/-- Whoever has only the stage locked can fetch a channel. -/
theorem abides_create (hs : b.source.Offered) (herrand : errand a = none)
    (h : b.publisher.Keeps errand a [.stage] past) :
    (b.publisher.agreement errand).Abides a (fun _ => b.publisher.Keeps errand a [.stage]) b.source.create.run past := by
  have hready := h.ready fun hsome => by rw [herrand] at hsome; cases hsome
  refine (Publisher.abides_create (p := b.publisher) hs hready (h.holder_ne (by decide))).imp ?_
  rintro r past' ⟨hready', hapart, -⟩
  exact .of_ready hready' hapart

theorem abides_provision (hs : b.source.Offered) (herrand : errand a = none)
    (h : b.publisher.Keeps errand a [.stage] past) :
    (b.publisher.agreement errand).Abides a (fun _ => b.publisher.Keeps errand a [.stage]) b.provision.run past := by
  refine Abides.attempt ((abides_create hs herrand h).imp ?_)
  rintro (f | c) past' h'
  · exact h'
  · refine abides_apart herrand (Attempt.only_bind (Attempt.only_lift ?_) fun result => ?_) h'
    · exact Attempt.only_bind (Topology.only_install _ c) fun _ => Topology.only_install _ c
    · exact Attempt.only_bind (Attempt.only_lift (Attempt.only_call trivial)) fun _ => trivial

theorem abides_prepareAll (hs : b.source.Offered) (herrand : errand a = none) (cs : List Settings.Consumer)
    (made : List Intake) (h : b.publisher.Keeps errand a [.stage] past) :
    (b.publisher.agreement errand).Abides a (fun _ => b.publisher.Keeps errand a [.stage])
      (prepareAll b.source made cs) past := by
  induction cs generalizing made past with
  | nil => exact h
  | cons s cs ih =>
    refine Abides.bind ((abides_create hs herrand h).imp ?_)
    rintro (f | c) past₁ h₁
    · exact h₁
    · refine Abides.bind ((abides_apart herrand (Topology.only_install _ c) h₁).imp ?_)
      rintro (f | u) past₂ h₂
      · exact h₂
      · exact ih _ h₂

theorem abides_startIdle (hs : b.source.Offered) (herrand : errand a = none)
    (h : b.publisher.Keeps errand a [.stage] past) :
    (b.publisher.agreement errand).Abides a (fun _ => b.publisher.Keeps errand a [.stage]) b.startIdle.run past := by
  refine Abides.attempt ((abides_provision hs herrand h).imp ?_)
  rintro (f | u) past₁ h₁
  · exact h₁
  have hstart : (b.publisher.agreement errand).Abides a (fun _ => b.publisher.Keeps errand a [.stage])
      b.startConsumers past₁ := by
    refine Abides.bind ((abides_prepareAll hs herrand b.settings.consumers [] h₁).imp ?_)
    rintro ⟨made, f | u⟩ past₂ h₂
    · exact h₂
    · exact abides_apart herrand (only_startAll b.token [] made) h₂
  refine Abides.attempt (Abides.map (hstart.imp ?_))
  rintro ⟨made, f | u⟩ past₂ h₂
  · refine abides_apart herrand ?_ h₂
    exact Attempt.only_bind (Attempt.only_lift (only_disposeAll made)) fun _ => trivial
  · refine Keeps.ask (r := .put .stage (.running made)) h₂ (fun _ _ _ => ⟨.of_isPlain trivial, fun _ _ he => ?_⟩) nofun
      (fun c v hc => ?_) nofun fun past₃ s x hd hm h₃ => h₃
    · cases herrand.symm.trans he
    · cases hc
      exact ⟨List.mem_singleton_self _, fun _ _ => trivial⟩

theorem abides_startFrom (hs : b.source.Offered) (herrand : errand a = none) (stage : Stage)
    (h : b.publisher.Keeps errand a [.stage] past) :
    (b.publisher.agreement errand).Abides a (fun _ => b.publisher.Keeps errand a [.stage]) (b.startFrom stage) past := by
  cases stage with
  | idle => exact abides_startIdle hs herrand h
  | running | stopped => exact h

/-! ## Stopping -/

/-- Whoever has only the stage locked can give the pool up, which closes its connections for good. -/
theorem abides_release {size : Nat} (hb : b.source = .pooled size) (herrand : errand a = none)
    (h : b.publisher.Keeps errand a [.stage] past) :
    (b.publisher.agreement errand).Abides a (fun _ past => b.publisher.Keeps errand a [.stage] past ∧ Late past)
      b.source.release past := by
  have hready := h.ready fun hsome => by rw [herrand] at hsome; cases hsome
  rw [hb]
  refine (Publisher.abides_dispose (p := b.publisher) hready (h.holder_ne (by decide))).imp ?_
  rintro u past' ⟨hready', hapart, hlate⟩
  exact ⟨.of_ready hready' hapart, hlate⟩

theorem abides_stopFrom {size : Nat} (hb : b.source = .pooled size) (herrand : errand a = none) (stage : Stage)
    (h : b.publisher.Keeps errand a [.stage] past) :
    (b.publisher.agreement errand).Abides a (fun _ past => b.publisher.Keeps errand a [.stage] past ∧ Late past)
      (b.stopFrom stage) past := by
  have hrun : b.stopFrom stage = .ask (.put .stage .stopped) fun _ => disposeAll stage.intakes >>= fun _ =>
      Program.request (.cancel b.token) >>= fun _ => close >>= fun _ => b.source.release := rfl
  rw [hrun]
  refine h.ask (fun _ _ _ => ⟨.of_isPlain trivial, fun _ _ he => ?_⟩) nofun (fun c v hc => ?_) nofun
    fun past₁ s x hd hm h₁ => ?_
  · cases herrand.symm.trans he
  · cases hc
    exact ⟨List.mem_singleton_self _, fun _ _ => trivial⟩
  refine Abides.bind ((abides_apart herrand (only_disposeAll stage.intakes) h₁).imp fun _ past₂ h₂ => ?_)
  have hcancel := abides_apart herrand (Program.only_request (r := .cancel b.token) trivial) h₂
  refine Abides.bind (hcancel.imp fun _ past₃ h₃ => ?_)
  refine Abides.bind ((abides_close herrand h₃ (by decide)).imp fun _ past₄ h₄ => ?_)
  exact abides_release hb herrand h₄

/-! ## Calls -/

/-- A call on a bus abides by the agreement of its publisher. In the end it has nothing locked, and a stop has given the
pool up. -/
theorem abides_op {size : Nat} (hb : b.source = .pooled size) (herrand : errand a = none) (o : Op) :
    (b.publisher.agreement errand).Abides a
      (fun x past => b.publisher.Keeps errand a [] past ∧ (x = .stopped → Late past)) (o.program b) [] := by
  have hallows : ∀ {past r}, r.IsPlain → (b.publisher.agreement errand).Allows past a r := fun hr =>
    ⟨.of_isPlain hr, fun _ _ he => by cases herrand.symm.trans he⟩
  have hunlock : ∀ {β : Type} {ends : β → List Happening → Prop} {x past}, b.publisher.Keeps errand a [.stage] past →
      (∀ past', (b.publisher.agreement errand).Onward a (fun _ => True) past past' →
        b.publisher.Keeps errand a [] past' → ends x past') →
      (b.publisher.agreement errand).Abides a ends (.ask (.unlock .stage) fun _ => .done x) past := by
    intro β ends x past h hends
    refine h.ask (fun _ _ _ => hallows trivial) nofun nofun (fun c hc => ?_) fun past' s u hd hm h' => ?_
    · cases hc
      exact List.mem_singleton_self _
    · exact hends _ (hm.concat h'.observed) h'
  have hnothing : b.publisher.Keeps errand a [] [] :=
    .of_nothing observed_nil ⟨List.nodup_nil, fun c => ⟨nofun, nofun⟩⟩
  rw [o.program_eq b]
  refine hnothing.ask (fun _ _ _ => hallows trivial) (fun c hc => ?_) nofun nofun fun past s stage hd hm h => ?_
  · cases hc
    exact ⟨by decide, nofun⟩
  cases o with
  | start =>
    refine Abides.map (Abides.bind ((abides_startFrom ?_ herrand stage h).imp fun r past₁ h₁ => ?_))
    · exact hb ▸ .pooled size
    · exact hunlock h₁ fun past₂ _ h₂ => ⟨h₂, nofun⟩
  | stop =>
    refine Abides.map (Abides.bind ((abides_stopFrom hb herrand stage h).imp ?_))
    rintro u past₁ ⟨h₁, hlate⟩
    exact hunlock (x := ()) h₁ fun past₂ hon h₂ => ⟨h₂, fun _ => hlate.onward hon⟩
  | isRunning => exact Abides.map (hunlock h fun past₂ _ h₂ => ⟨h₂, nofun⟩)

end Bus

end MessageBus
