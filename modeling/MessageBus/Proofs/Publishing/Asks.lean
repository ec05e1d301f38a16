import MessageBus.Proofs.Lifecycle.Ledger
import MessageBus.Proofs.Program.Interrupted
/-!
# What a publication asks for

Each part of a publication has its bound: what finding a channel asks for, what declaring the exchange of a type does,
and what is added when a token can cut it short. A property of requests holds of a publication if it holds of these.
-/

namespace MessageBus.Publisher

/-- Whether the request is about the channel that the publisher holds. -/
def OfOutlet : Request → Prop
  | .lock .outlet | .put .outlet _ | .unlock .outlet | .isOpen _ => True
  | _ => False

/-- Whether the request is about the types that the publisher has declared, or declares the type over the channel. -/
def OfDeclared (p : Publisher) (messageType : String) (c : ChannelId) : Request → Prop
  | .lock .declared | .put .declared _ | .unlock .declared => True
  | .call c' x => c' = c ∧ x = .declareExchange (Topology.messageExchange messageType p.settings)
  | _ => False

section
variable {p : Publisher} {allowed : Request → Prop}

theorem only_openChannel (hs : p.source.create.run.Only allowed) (houtlet : ∀ r, OfOutlet r → allowed r) :
    p.openChannel.run.Only allowed := by
  refine Attempt.only_bind (Attempt.only_lift hs) fun x => ?_
  cases x with
  | error f => exact ⟨houtlet (.unlock .outlet) trivial, fun _ => trivial⟩
  | ok c =>
    exact ⟨houtlet (.put .outlet (some c)) trivial, fun _ => ⟨houtlet (.unlock .outlet) trivial, fun _ => trivial⟩⟩

theorem only_channel (hs : p.source.create.run.Only allowed) (houtlet : ∀ r, OfOutlet r → allowed r) :
    p.channel.run.Only allowed := by
  refine ⟨houtlet (.lock .outlet) trivial, fun o => ?_⟩
  cases o with
  | none => exact only_openChannel hs houtlet
  | some c =>
    refine ⟨houtlet (.isOpen c) trivial, fun b => ?_⟩
    cases b with
    | true => exact ⟨houtlet (.unlock .outlet) trivial, fun _ => trivial⟩
    | false => exact only_openChannel hs houtlet

theorem only_declare (p : Publisher) (c : ChannelId) (messageType : String) :
    (p.declare c messageType).run.Only (p.OfDeclared messageType c) := by
  refine Attempt.only_bind (Attempt.only_lift (Program.only_request (r := .lock .declared) trivial)) fun declared => ?_
  split
  · exact ⟨trivial, fun _ => trivial⟩
  · refine ⟨⟨rfl, rfl⟩, fun x => ?_⟩
    cases x with
    | error f => exact ⟨trivial, fun _ => trivial⟩
    | ok u => exact ⟨trivial, fun _ => ⟨trivial, fun _ => trivial⟩⟩

theorem only_guarded {messageType : String} {token : TokenId} {publication : Attempt Unit}
    (hp : publication.run.Only allowed) (htoken : allowed (.isCancelled token)) (hunlock : ∀ c, allowed (.unlock c)) :
    (guarded messageType token publication).run.Only allowed := by
  refine Program.Only.bind (Program.only_request htoken) fun b => ?_
  cases b with
  | true => trivial
  | false =>
    refine (hp.interruptible hunlock).bind fun o => ?_
    cases o <;> trivial

end

end MessageBus.Publisher
