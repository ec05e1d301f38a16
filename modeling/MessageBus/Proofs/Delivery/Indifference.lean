import MessageBus.Proofs.Delivery.Refusal
import MessageBus.Proofs.Program.Indifference
/-!
# A report decides nothing

How the report of a handler's error ends has no part in how the delivery is settled. `Delivery.report_decides_nothing`
compares two runs: as long as the handler and the broker reply to the settlement in the same way, it takes the same
course in both, whether its report was taken, refused, or dropped because the token was cancelled, and however long it
waited for the next attempt.
-/

namespace MessageBus

namespace Request

/-- Whether the request publishes a report. -/
def reports : Request → Bool
  | call _ (.publish m) => m.exchange = Report.typeName
  | _ => false

/-- Whether the request is part of a settlement: it is made to a handler or on a channel, and publishes no report. -/
def settles (r : Request) : Bool := r.toHandler || r.onChannel && !r.reports

end Request

/-- The steps of a run that settle its delivery. -/
def Run.settling {α : Type} (r : Run α) : List Step := seenIn Request.settles r.steps

namespace Delivery

section
variable (d : Delivery) (s : Settings.Consumer) (c : ChannelId) (token : TokenId)

theorem steadfast_ack (reason : AckReason) : (d.ack c reason).run.Steadfast Request.settles :=
  Attempt.steadfast_bind (Attempt.steadfast_call rfl) fun _ => .done _

theorem steadfast_reject (reason : RejectReason) : (d.reject c reason).run.Steadfast Request.settles :=
  Attempt.steadfast_bind (Attempt.steadfast_call rfl) fun _ => .done _

/-- A report is no part of the settlement. -/
theorem only_report_unseen (e : HandlerError) :
    (Report.publish .json s.name e c token).Only fun r => r.settles = false := by
  unfold Report.publish
  split
  · trivial
  · refine Program.Only.bind ?_ fun _ => Program.Only.bind (Program.only_orCancelled rfl) fun _ => trivial
    exact .bind (Program.only_request rfl) fun _ => .bind (Program.only_request rfl) fun _ => trivial

theorem ignoresRaces_report (e : HandlerError) : (Report.publish .json s.name e c token).IgnoresRaces := by
  unfold Report.publish
  split
  · trivial
  · refine .bind (.bind (.request _) fun _ => .bind (.request _) fun _ => trivial) fun p => ?_
    exact ⟨fun _ _ => rfl, fun _ => trivial⟩

/-- The wait for the next attempt is no part of it either, however it ends. -/
theorem steadfast_retry : (d.retry s c token).run.Steadfast Request.settles :=
  Attempt.steadfast_bind (Attempt.steadfast_call rfl) fun _ => Attempt.steadfast_passing
    (Program.only_orCancelled rfl) ⟨fun _ _ => rfl, fun _ => trivial⟩ (Attempt.steadfast_call rfl)

theorem steadfast_settleFailed (e : HandlerError) : (d.settleFailed s e c token).run.Steadfast Request.settles := by
  refine Attempt.steadfast_passing (only_report_unseen s c token e)
    ((ignoresRaces_report s c token e).bind fun _ => trivial) ?_
  split
  · exact steadfast_ack d c .retriesDisabled
  · exact Attempt.steadfast_bind (steadfast_retry d s c token) fun _ => .done _

theorem steadfast_settle : (d.settle s c token).run.Steadfast Request.settles := by
  unfold settle
  split
  · exact steadfast_reject d c .retryLimitExceeded
  split
  · exact steadfast_ack d c .noSubscription
  rename_i subscription hs
  split
  · unfold settleUnreadable
    split
    · exact steadfast_ack d c .undecodablePayload
    · exact steadfast_reject d c .undecodablePayload
  rename_i message hd
  refine Attempt.steadfast_bind
    (Attempt.steadfast_lift (.request (r := .handle subscription message token) rfl)) fun x => ?_
  cases x with
  | ok u => exact steadfast_ack d c .handled
  | error e => exact steadfast_settleFailed d s c token e

/-- Nor is the trace of the processing. -/
theorem steadfast_process : (d.process s c token).Steadfast Request.settles :=
  .bind (steadfast_settle d s c token) fun _ => .passing (Program.only_request rfl) (fun _ => trivial) (.done _)

end

/-- How the report of a handler's error ends decides nothing. In a run in which it is published it can end in any other
way with all else as it was. And of two runs in which the handler and the broker reply to the settlement in the same
way, the delivery is settled by the same steps in the same order and with the same result. -/
theorem report_decides_nothing (d : Delivery) (s : Settings.Consumer) (c : ChannelId) (token : TokenId)
    (w w' : Surroundings) :
    let r := (d.process s c token).run w
    let r' := (d.process s c token).run w'
    (∀ before q x after, r.steps = before ++ .raced token q x :: after → q.reports = true → ∀ x',
      ∃ w'', (d.process s c token).run w'' = ⟨before ++ .raced token q x' :: after, r.result⟩) ∧
    (RepliedAlike r.settling r'.settling → r.settling = r'.settling ∧ r.result = r'.result) := by
  intro r r'
  have hr : (d.process s c token).Reaches r.steps (.done r.result) := Program.reaches_runAfter w [] _
  have hr' : (d.process s c token).Reaches r'.steps (.done r'.result) := Program.reaches_runAfter w' [] _
  have hprocess := steadfast_process d s c token
  refine ⟨fun before q x after hsteps _ x' => ?_, hprocess.heeds _ _ _ _ hr hr'⟩
  exact (hprocess.ignoresRaces.exchange (hsteps ▸ hr) x').exists_run

end Delivery

namespace Sample

/-- What a broker says that takes no reports. -/
def withoutReports : Call → Except Fault Unit
  | .publish m =>
    if m.exchange = Report.typeName then .error (.publish m.properties.messageType "no exchange") else .ok ()
  | _ => .ok ()

/-- Surroundings in which a handler fails and reports are refused. -/
def refusing : Surroundings := .plain withoutReports (.error ⟨⟨"reservation failed", ""⟩, []⟩)

/-- The same, with a token that is cancelled before it comes to that. -/
def hurried : Surroundings := ⟨refusing.reply, fun _ _ _ => none⟩

end Sample

open Sample in
/-- An order fails. The report of it is refused, or dropped on cancellation together with the delay of the next attempt:
either way the order is acknowledged and put back. -/
theorem Delivery.order_settled_alike :
    ∃ s, (warehouse 3).build = .ok s ∧
      let r := ((order 0).process s ⟨0⟩ ⟨0⟩).run refusing
      let r' := ((order 0).process s ⟨0⟩ ⟨0⟩).run hurried
      RepliedAlike r.settling r'.settling ∧ r.settling = r'.settling ∧ r.result = r'.result ∧
        r.result = .ok (.retried 1) := by
  refine ⟨(warehouse 3).settings, rfl, ?_⟩
  intro r r'
  have hsame : r.settling = r'.settling := rfl
  have halike : RepliedAlike r.settling r'.settling := hsame ▸ .refl _
  obtain ⟨hsteps, hresult⟩ :=
    (report_decides_nothing (order 0) (warehouse 3).settings ⟨0⟩ ⟨0⟩ refusing hurried).2 halike
  exact ⟨halike, hsteps, hresult, rfl⟩

end MessageBus
