import MessageBus.Proofs.Delivery.Outcome
import MessageBus.Proofs.Message.Report
/-!
# A reported error can be read back, if its chain is not too long

The report of an error is published whatever the error is. Whoever reads its payload gets the whole chain, level for
level, if the chain has at most 127 errors, and otherwise nothing: `published_recovered_iff`. An error with a longer
chain, such as the one in `long_chain_lost`, leaves a report that nobody can read.
-/

namespace MessageBus

namespace Report

/-- The payload is read as the report. -/
def ReadAs (payload : Bytes) (r : Report) : Prop := Serializer.json.read shape payload = .ok r.toJson

/-- A payload is read as at most one report. -/
theorem ReadAs.unique {payload : Bytes} {r r' : Report} (h : ReadAs payload r) (h' : ReadAs payload r') : r = r' :=
  toJson_injective (Except.ok.inj (h.symm.trans h'))

theorem readAs_ofError {origin : String} {e : HandlerError} (h : (e.outer :: e.causes).length ≤ 127) :
    ReadAs (ofError origin e).toJson.bytes (ofError origin e) := by
  have hlevels : (ofError origin e).levels.length ≤ 127 := by
    rwa [ofError, levels_ofTroubles, List.length_map]
  change (shape.read (ofError origin e).toJson.bytes).mapError _ = _
  rw [read_toJson hlevels]
  rfl

theorem read_ofError_of_long (origin : String) {e : HandlerError} (h : 127 < (e.outer :: e.causes).length) :
    ∃ place, Serializer.json.read shape (ofError origin e).toJson.bytes =
      .error (.deserialize (Json.Flaw.message (ofError origin e).toJson.bytes ⟨.tooDeep, some place⟩)) := by
  have hlevels : 127 < (ofError origin e).levels.length := by
    rwa [ofError, levels_ofTroubles, List.length_map]
  obtain ⟨place, hread⟩ := read_toJson_of_deep hlevels
  refine ⟨place, ?_⟩
  change (shape.read (ofError origin e).toJson.bytes).mapError _ = _
  rw [hread]
  rfl

/-- The payload is read as a report with a level for each error of the chain, in order: its origin, what the error says,
and its details. -/
def Recovers (payload : Bytes) (origin : String) (e : HandlerError) : Prop :=
  ∃ r, ReadAs payload r ∧ r.levels = (e.outer :: e.causes).map fun t => (origin, t.message, t.detail)

theorem not_recovers_of_long {origin : String} {e : HandlerError} (h : 127 < (e.outer :: e.causes).length) :
    ¬Recovers (ofError origin e).toJson.bytes origin e := by
  rintro ⟨r, hr, -⟩
  obtain ⟨place, hread⟩ := read_ofError_of_long origin h
  cases hr.symm.trans hread

/-- An error is reported, in any surroundings and whatever its chain is: one payload is published. Exactly if the chain
has at most 127 errors, all of it is read back from the payload. Nothing else is ever read from it, and of a longer
chain nothing is: its report nests too deep. -/
theorem published_recovered_iff (origin : String) (e : HandlerError) (c : ChannelId) (token : TokenId)
    (w : Surroundings) (past : List Step) :
    ∃ (id : String) (context : List (String × String)) (p : Properties) (x : Option (Except Fault Unit))
      (payload : Bytes),
      (publish .json origin e c token).runAfter w past =
        ⟨[.asked .freshId id, .asked .traceContext context,
          .raced token (.call c (.publish (outbound payload p))) x], ()⟩ ∧
      (Recovers payload origin e ↔ (e.outer :: e.causes).length ≤ 127) ∧
      (∀ r, ReadAs payload r → r = ofError origin e) ∧
      (127 < (e.outer :: e.causes).length → ∃ place, Serializer.json.read shape payload =
        .error (.deserialize (Json.Flaw.message payload ⟨.tooDeep, some place⟩))) := by
  obtain ⟨id, context, p, x, hrun⟩ := runAfter_publish origin e c token w past
  refine ⟨id, context, p, x, _, hrun, ⟨fun hr => ?_, fun h => ?_⟩, fun r hr => ?_, read_ofError_of_long origin⟩
  · exact Nat.le_of_not_lt fun hlong => not_recovers_of_long hlong hr
  · exact ⟨ofError origin e, readAs_ofError h, levels_ofTroubles origin e.outer e.causes⟩
  · rcases Nat.lt_or_ge 127 (e.outer :: e.causes).length with hlong | hshort
    · obtain ⟨place, hread⟩ := read_ofError_of_long origin hlong
      cases hr.symm.trans hread
    · exact hr.unique (readAs_ofError hshort)

end Report

/-- An error behind which there are so many others. -/
def Sample.timeouts (causes : Nat) : HandlerError :=
  ⟨⟨"could not reserve stock", "Outer(Inner)"⟩, List.replicate causes ⟨"warehouse timed out", "Inner"⟩⟩

open Sample in
/-- The report of 128 errors is published, but they cannot be read back. -/
theorem Report.long_chain_lost :
    ∃ (id : String) (context : List (String × String)) (p : Properties) (x : Option (Except Fault Unit))
      (payload : Bytes),
      (publish .json "inventory" (timeouts 127) ⟨0⟩ ⟨0⟩).run (.plain (fun _ => .ok ()) (.ok ())) =
        ⟨[.asked .freshId id, .asked .traceContext context,
          .raced ⟨0⟩ (.call ⟨0⟩ (.publish (outbound payload p))) x], ()⟩ ∧
      ¬Recovers payload "inventory" (timeouts 127) := by
  obtain ⟨id, context, p, x, hrun⟩ := runAfter_publish "inventory" (timeouts 127) ⟨0⟩ ⟨0⟩
    (.plain (fun _ => .ok ()) (.ok ())) []
  exact ⟨id, context, p, x, _, hrun, not_recovers_of_long (by simp [timeouts])⟩

end MessageBus
