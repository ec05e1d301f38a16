import MessageBus.Proofs.Delivery.Settlement
import MessageBus.Proofs.Program.System
/-!
# What a delivery does in company

Whatever goes on around it, a delivery asks for nothing but its own settlement, its handler and its report
(`only_process`). Where nothing is cancelled and the channel's answer to a call depends on the call alone, what it does
is told by three replies that are its own: how its handler ends, the id of its report, and the trace context.
`as_alone` says that it then does, as far as it gets, what it does in `Surroundings.alone`.
-/

namespace MessageBus

namespace Delivery

/-- What the processing of a delivery can ask for, apart from its handler. -/
def Asks (d : Delivery) (c : ChannelId) : Request → Prop
  | .call c' (.ack tag) | .call c' (.reject tag) => c' = c ∧ tag = d.tag
  | .call c' (.publish _) => c' = c
  | .sleep _ | .freshId | .traceContext | .span _ => True
  | _ => False

theorem tag_of_asks {d : Delivery} {c : ChannelId} {r : Request} (h : r.toHandler = true ∨ d.Asks c r) {tag : Nat}
    (htag : r.settledTag? = some tag) : tag = d.tag := by
  cases r with
  | call c' x =>
    cases x with
    | ack n | reject n =>
      obtain rfl : n = tag := Option.some.inj htag
      exact (h.resolve_left Bool.false_ne_true).2
    | _ => cases htag
  | _ => cases htag

section
variable (d : Delivery) (s : Settings.Consumer) (c : ChannelId) (token : TokenId)

theorem only_ack (reason : AckReason) : (d.ack c reason).run.Only (d.Asks c) :=
  Attempt.only_bind (Attempt.only_call ⟨rfl, rfl⟩) fun _ => trivial

theorem only_reject (reason : RejectReason) : (d.reject c reason).run.Only (d.Asks c) :=
  Attempt.only_bind (Attempt.only_call ⟨rfl, rfl⟩) fun _ => trivial

theorem only_report (e : HandlerError) : (Report.publish .json s.name e c token).Only (d.Asks c) := by
  unfold Report.publish
  split
  · trivial
  · refine Program.Only.bind ?_ fun _ => Program.Only.bind (Program.only_orCancelled rfl) fun _ => trivial
    exact .bind (Program.only_request trivial) fun _ => .bind (Program.only_request trivial) fun _ => trivial

theorem only_retry : (d.retry s c token).run.Only (d.Asks c) :=
  Attempt.only_bind (Attempt.only_call ⟨rfl, rfl⟩) fun _ =>
    Attempt.only_bind (Attempt.only_lift (Program.only_orCancelled trivial)) fun _ => Attempt.only_call rfl

theorem only_settleFailed (e : HandlerError) : (d.settleFailed s e c token).run.Only (d.Asks c) := by
  refine Attempt.only_bind (Attempt.only_lift (only_report d s c token e)) fun _ => ?_
  split
  · exact only_ack d c .retriesDisabled
  · exact Attempt.only_bind (only_retry d s c token) fun _ => trivial

/-- The handler, if the delivery is one for a handler, is asked before anything else. -/
theorem settle_cases :
    (d.settle s c token).run.Only (d.Asks c) ∨
      ∃ subscription message k, d.Handles s subscription message ∧
        (d.settle s c token).run = .ask (.handle subscription message token) k ∧ ∀ x, (k x).Only (d.Asks c) := by
  unfold settle
  split
  · exact .inl (only_reject d c .retryLimitExceeded)
  rename_i hleft
  split
  · exact .inl (only_ack d c .noSubscription)
  rename_i subscription hs
  split
  · left
    unfold settleUnreadable
    split
    · exact only_ack d c .undecodablePayload
    · exact only_reject d c .undecodablePayload
  rename_i message hd
  refine .inr ⟨subscription, message, _, ⟨⟨hs, hd⟩, ?_⟩, rfl, fun x => ?_⟩
  · rwa [exhausted_iff] at hleft
  · cases x with
    | ok u => exact only_ack d c .handled
    | error e => exact only_settleFailed d s c token e

theorem process_cases :
    (d.process s c token).Only (d.Asks c) ∨
      ∃ subscription message k, d.Handles s subscription message ∧
        d.process s c token = .ask (.handle subscription message token) k ∧ ∀ x, (k x).Only (d.Asks c) := by
  have hspan : ∀ r : Except Fault Disposition, (do
      Program.request (.span ⟨d.spanName, d.properties.traceHeaders, failure? r⟩)
      return r : Program _).Only (d.Asks c) :=
    fun r => .bind (Program.only_request trivial) fun _ => trivial
  rcases settle_cases d s c token with h | ⟨subscription, message, k, hh, heq, hk⟩
  · exact .inl (h.bind hspan)
  · refine .inr ⟨subscription, message, _, hh, ?_, fun x => (hk x).bind hspan⟩
    rw [process, heq]
    rfl

/-- A delivery is processed by asking for its settlement, its handler and its report. -/
theorem only_process : (d.process s c token).Only fun r => r.toHandler = true ∨ d.Asks c r := by
  rcases process_cases d s c token with h | ⟨subscription, message, k, -, heq, hk⟩
  · exact h.mono fun r => .inr
  · rw [heq]
    exact ⟨.inl rfl, fun x => (hk x).mono fun r => .inr⟩

/-- A handler breaks off before anything else was asked for. -/
theorem of_reaches_handle {steps : List Step} {subscription : Settings.Subscription} {message : Json} {t : TokenId}
    {k : Except HandlerError Unit → Program (Except Fault Disposition)}
    (h : (d.process s c token).Reaches steps (.ask (.handle subscription message t) k)) :
    steps = [] ∧ d.Handles s subscription message := by
  rcases process_cases d s c token with honly | ⟨subscription', message', k', hh, heq, hk⟩
  · exact ((honly.reaches h).2.1).elim
  · rw [heq] at h
    cases h with
    | here => exact ⟨rfl, hh⟩
    | next hs hrest =>
      cases hs with
      | asked _ _ x => exact (((hk x).reaches hrest).2.1).elim

theorem within_ack (reason : AckReason) : (d.ack c reason).run.Within 1 :=
  Attempt.within_bind (n := 0) (Attempt.within_call _ _) fun _ => trivial

theorem within_reject (reason : RejectReason) : (d.reject c reason).run.Within 1 :=
  Attempt.within_bind (n := 0) (Attempt.within_call _ _) fun _ => trivial

theorem within_report (e : HandlerError) : (Report.publish .json s.name e c token).Within 3 := by
  unfold Report.publish
  split
  · trivial
  · have hfresh : (Properties.fresh Report.typeName).Within 2 :=
      .bind (n := 1) (Program.within_request _) fun _ => .bind (n := 0) (Program.within_request _) fun _ => trivial
    exact hfresh.bind (n := 1) fun _ => .bind (n := 0) (Program.within_orCancelled _ _) fun _ => trivial

theorem within_settleFailed (e : HandlerError) : (d.settleFailed s e c token).run.Within 6 := by
  refine Attempt.within_bind (n := 3) (Attempt.within_lift (within_report s c token e)) fun _ => ?_
  split
  · exact (within_ack d c .retriesDisabled).mono (by omega)
  · refine Attempt.within_bind (m := 3) (n := 0) ?_ fun _ => trivial
    exact Attempt.within_bind (n := 2) (Attempt.within_call _ _) fun _ =>
      Attempt.within_bind (n := 1) (Attempt.within_lift (Program.within_orCancelled _ _)) fun _ =>
        Attempt.within_call _ _

/-- A delivery is processed in at most eight steps. -/
theorem within_process : (d.process s c token).Within 8 := by
  refine Program.Within.bind (m := 7) (n := 1) ?_ fun _ => .bind (n := 0) (Program.within_request _) fun _ => trivial
  unfold settle
  split
  · exact (within_reject d c .retryLimitExceeded).mono (by omega)
  split
  · exact (within_ack d c .noSubscription).mono (by omega)
  split
  · unfold settleUnreadable
    split
    · exact (within_ack d c .undecodablePayload).mono (by omega)
    · exact (within_reject d c .undecodablePayload).mono (by omega)
  · refine Attempt.within_bind (n := 6) (Attempt.within_lift (Program.within_request _)) fun x => ?_
    cases x with
    | ok u => exact (within_ack d c .handled).mono (by omega)
    | error e => exact within_settleFailed d s c token e

/-- However a delivery's processing went, it settled the delivery in one of the ways. -/
theorem settled_of_reaches {steps : List Step} {r : Except Fault Disposition}
    (h : (d.process s c token).Reaches steps (.done r)) :
    Settled d s c token (steps.filter (·.request.onChannel)) (steps.filter (·.request.toHandler)) r := by
  obtain ⟨w, hw⟩ := h.exists_run
  have hset := settled_process d s c token w []
  change (d.process s c token).runAfter w [] = _ at hw
  rw [hw] at hset
  exact hset

/-- As far as it gets, processing settles its own delivery, and that at most once. -/
theorem settledTags_of_reaches {steps : List Step} {q : Program (Except Fault Disposition)}
    (h : (d.process s c token).Reaches steps q) : steps.filterMap (·.request.settledTag?) <+: [d.tag] := by
  obtain ⟨rest, r, hrest⟩ := q.exists_reaches_done
  have htags := (settled_of_reaches d s c token (h.trans hrest)).tags
  -- a settlement is asked for on the channel
  have hchannel : ∀ steps : List Step, (steps.filter (·.request.onChannel)).filterMap (·.request.settledTag?) =
      steps.filterMap (·.request.settledTag?) := by
    intro steps
    rw [List.filterMap_filter]
    congr 1
    funext step
    generalize step.request = r
    cases r <;> rfl
  rw [hchannel, List.filterMap_append] at htags
  exact ⟨_, htags⟩

end

end Delivery

/-! ## Replies of its own -/

namespace Request

/-- Whether the reply is one that belongs to whoever asks. -/
def isOwn : Request → Bool
  | handle _ _ _ | freshId | traceContext => true
  | _ => false

end Request

/-- The replies that are a delivery's own: none, the end of a handler, or its failure with what the report needs. -/
inductive OwnReplies (outcome : Except HandlerError Unit) (id : String) (context : List (String × String)) :
    List Step → Prop
  | none : OwnReplies outcome id context []
  | handled (s : Settings.Subscription) (message : Json) (t : TokenId) :
      OwnReplies outcome id context [.asked (.handle s message t) outcome]
  | reported (s : Settings.Subscription) (message : Json) (t : TokenId) :
      OwnReplies outcome id context
        [.asked (.handle s message t) outcome, .asked .freshId id, .asked .traceContext context]

/-- Surroundings of one delivery: the channel answers as given, nothing is cancelled, and the replies of its own are
these. -/
def Surroundings.alone (answer : ChannelId → Call → Except Fault Unit) (outcome : Except HandlerError Unit)
    (id : String) (context : List (String × String)) : Surroundings :=
  let reply (r : Request) : r.Reply := match r with
    | .call c x => answer c x
    | .handle _ _ _ => outcome
    | .freshId => id
    | .traceContext => context
    | r => r.plainReply
  ⟨fun _ => reply, fun _ _ r => some (reply r)⟩

/-- No race is lost in the step, and the answer to a call is the given one. -/
structure Step.Undisturbed (answer : ChannelId → Call → Except Fault Unit) (s : Step) : Prop where
  kept : ∀ t r, s ≠ .raced t r none
  answered : ∀ c x a, s.done? = some ⟨.call c x, a⟩ → a = answer c x

theorem OwnReplies.gives {answer : ChannelId → Call → Except Fault Unit} {outcome : Except HandlerError Unit}
    {id : String} {context : List (String × String)} {own : List Step} (h : OwnReplies outcome id context own)
    {step : Step} (hstep : step ∈ own) : (Surroundings.alone answer outcome id context).Gives step := by
  cases h with
  | none => simp at hstep
  | handled s message t =>
    obtain rfl := List.mem_singleton.1 hstep
    exact fun _ => rfl
  | reported s message t =>
    simp only [List.mem_cons, List.not_mem_nil, or_false] at hstep
    rcases hstep with rfl | rfl | rfl <;> exact fun _ => rfl

theorem Step.undisturbed_of_answered {answer : ChannelId → Call → Except Fault Unit}
    {outcome : Except HandlerError Unit} {id : String} {context : List (String × String)} {s : Step}
    (h : Program.AnsweredBy (.alone answer outcome id context) s) : s.Undisturbed answer := by
  cases h with
  | asked past r => exact ⟨nofun, fun c x a ha => by cases ha; rfl⟩
  | raced past t r => exact ⟨nofun, fun c x a ha => by cases ha; rfl⟩

namespace Delivery

section
variable (d : Delivery) (s : Settings.Consumer) (c : ChannelId) (token : TokenId) (w : Surroundings) (past : List Step)

theorem ownReplies_settleFailed (e : HandlerError) :
    ∃ id context, ((d.settleFailed s e c token).run.runAfter w past).steps.filter (·.request.isOwn) =
      [.asked .freshId id, .asked .traceContext context] := by
  obtain ⟨id, context, p, x, hr⟩ := runAfter_report s c token w past e
  refine ⟨id, context, ?_⟩
  rw [settleFailed, Attempt.runAfter_lift_bind hr]
  split
  · obtain ⟨a, ha⟩ := runAfter_ack d c w (past ++ _) .retriesDisabled
    rw [ha]
    rfl
  · rcases runAfter_retry d s c token w (past ++ _) with ⟨f, hf⟩ | ⟨y, a, ha⟩
    · rw [Attempt.runAfter_bind_return hf]
      rfl
    · rw [Attempt.runAfter_bind_return ha]
      rfl

theorem ownReplies_settle :
    ∃ outcome id context,
      OwnReplies outcome id context (((d.settle s c token).run.runAfter w past).steps.filter (·.request.isOwn)) := by
  have hack : ∀ past reason, ((d.ack c reason).run.runAfter w past).steps.filter (·.request.isOwn) = [] := by
    intro past reason
    obtain ⟨a, ha⟩ := runAfter_ack d c w past reason
    rw [ha]
    rfl
  have hreject : ∀ past reason, ((d.reject c reason).run.runAfter w past).steps.filter (·.request.isOwn) = [] := by
    intro past reason
    obtain ⟨a, ha⟩ := runAfter_reject d c w past reason
    rw [ha]
    rfl
  have hnone : ∀ {steps : List Step}, steps = [] → ∃ outcome id context, OwnReplies outcome id context steps :=
    fun h => ⟨.ok (), "", [], h ▸ .none⟩
  unfold settle
  split
  · exact hnone (hreject past .retryLimitExceeded)
  split
  · exact hnone (hack past .noSubscription)
  · rename_i subscription _
    split
    · unfold settleUnreadable
      split
      · exact hnone (hack past .undecodablePayload)
      · exact hnone (hreject past .undecodablePayload)
    · rename_i message _
      rw [Attempt.runAfter_lift_bind (Program.runAfter_request w past (.handle subscription message token))]
      cases hr : w.reply past (.handle subscription message token) with
      | ok u =>
        refine ⟨.ok u, "", [], ?_⟩
        change OwnReplies _ _ _ (_ :: ((d.ack c .handled).run.runAfter w (past ++ [_])).steps.filter (·.request.isOwn))
        rw [hack]
        exact .handled subscription message token
      | error e =>
        obtain ⟨id, context, hown⟩ := ownReplies_settleFailed d s c token w
          (past ++ [.asked (.handle subscription message token) (.error e)]) e
        refine ⟨.error e, id, context, ?_⟩
        change OwnReplies _ _ _ (_ :: ((d.settleFailed s e c token).run.runAfter w
          (past ++ [.asked (.handle subscription message token) (.error e)])).steps.filter (·.request.isOwn))
        rw [hown]
        exact .reported subscription message token

theorem ownReplies_process :
    ∃ outcome id context,
      OwnReplies outcome id context (((d.process s c token).runAfter w past).steps.filter (·.request.isOwn)) := by
  obtain ⟨outcome, id, context, h⟩ := ownReplies_settle d s c token w past
  refine ⟨outcome, id, context, ?_⟩
  rw [runAfter_process]
  simpa [Step.request, Request.isOwn] using h

end

/-- A step of an undisturbed delivery is one that is taken in the surroundings with its own replies. -/
theorem gives_of_undisturbed {d : Delivery} {c : ChannelId} {answer : ChannelId → Call → Except Fault Unit}
    {outcome : Except HandlerError Unit} {id : String} {context : List (String × String)} {step : Step}
    {own : List Step} (hasks : step.request.toHandler = true ∨ d.Asks c step.request) (h : step.Undisturbed answer)
    (hown : OwnReplies outcome id context own) (hmem : step.request.isOwn = true → step ∈ own) :
    (Surroundings.alone answer outcome id context).Gives step := by
  cases step with
  | asked r x =>
    cases r with
    | handle | freshId | traceContext => exact hown.gives (hmem rfl)
    | call c' y => exact fun _ => (h.answered c' y x rfl).symm
    | sleep | span => exact fun _ => rfl
    | _ => exact (hasks.resolve_left (by simp [Step.request, Request.toHandler])).elim
  | raced t r x =>
    cases x with
    | none => exact absurd rfl (h.kept t r)
    | some x =>
      cases r with
      | handle | freshId | traceContext => exact hown.gives (hmem rfl)
      | call c' y => exact fun _ => congrArg some (h.answered c' y x rfl).symm
      | sleep | span => exact fun _ => rfl
      | _ => exact (hasks.resolve_left (by simp [Step.request, Request.toHandler])).elim

/-- An undisturbed delivery does, as far as it gets, what it does alone. -/
theorem as_alone {d : Delivery} {s : Settings.Consumer} {c : ChannelId} {token : TokenId} {steps : List Step}
    {q : Program (Except Fault Disposition)} (h : (d.process s c token).Reaches steps q)
    {answer : ChannelId → Call → Except Fault Unit} (hsteps : ∀ step ∈ steps, step.Undisturbed answer) :
    ∃ outcome id context,
      let r := (d.process s c token).run (.alone answer outcome id context)
      steps <+: r.steps ∧ ∀ a, q = .done a → steps = r.steps ∧ a = r.result := by
  -- what is left of it is brought to its end where nothing is cancelled either
  let rest := q.runAfter (.alone answer (.ok ()) "" []) []
  have hrest : q.Reaches rest.steps (.done rest.result) := Program.reaches_runAfter _ _ q
  have hundisturbed : ∀ step ∈ steps ++ rest.steps, step.Undisturbed answer := by
    intro step hstep
    rcases List.mem_append.1 hstep with hstep | hstep
    · exact hsteps step hstep
    · exact Step.undisturbed_of_answered (Program.answered _ [] q step hstep)
  have hall := h.trans hrest
  obtain ⟨w, hw⟩ := hall.exists_run
  obtain ⟨outcome, id, context, hown⟩ := ownReplies_process d s c token w []
  change (d.process s c token).runAfter w [] = _ at hw
  rw [hw] at hown
  have hgives : ∀ step ∈ steps ++ rest.steps, (Surroundings.alone answer outcome id context).Gives step := fun step hs =>
    gives_of_undisturbed (((only_process d s c token).reaches hall).1 step hs) (hundisturbed step hs) hown
      fun hisOwn => List.mem_filter.2 ⟨hs, hisOwn⟩
  have hrun := hall.runAfter_eq hgives []
  refine ⟨outcome, id, context, ?_, ?_⟩
  · rw [Program.run, hrun]
    exact List.prefix_append _ _
  · rintro a rfl
    rw [Program.run, hrun]
    simp [rest]

end Delivery

end MessageBus
