import MessageBus.Proofs.Publishing.Receipt
import MessageBus.Proofs.Text.Lowercase
/-!
# The trace of a publication goes on where its message is processed

A publication notes its trace context in the headers of its message, each key in lower case, and the span in which the
message is processed continues what comes in of them. `Continues` says what the span's context holds: under every key in
lower case the value that was set for it last, whatever the case it was set in, and nothing under any other key. So a
key is found again as it was set if and only if it was set in lower case (`trace_continued`).
-/

namespace MessageBus

open Text (lowercase lowercase_lowercase)

/-- The value that was set last under a key that this is the lower case of. -/
def lastSet (pairs : List (String × String)) (key : String) : Option String :=
  (pairs.filter fun e => lowercase e.1 = key).getLast?.map (·.2)

theorem isSome_lastSet {pairs : List (String × String)} {key : String} :
    (lastSet pairs key).isSome ↔ ∃ e ∈ pairs, lowercase e.1 = key := by
  simp [lastSet]

/-- A key that is not in lower case is none that any key is set under. -/
theorem lastSet_eq_none {pairs : List (String × String)} {key : String} (h : lowercase key ≠ key) :
    lastSet pairs key = none := by
  refine Option.not_isSome_iff_eq_none.1 fun hset => ?_
  obtain ⟨e, -, rfl⟩ := isSome_lastSet.1 hset
  exact h (lowercase_lowercase e.1)

/-- The context has what these pairs set, apart from the retry count's header: every key in lower case, once, with the
value that was set for it last. -/
structure Continues (pairs : List (String × String)) (context : SortedMap String) : Prop where
  nodup : context.keys.Nodup
  mem_keys : ∀ key, key ∈ context.keys ↔ key ≠ "x-retry-count" ∧ ∃ e ∈ pairs, lowercase e.1 = key
  value : ∀ key ∈ context.keys, context.get? key = lastSet pairs key
  missed : ∀ key, lowercase key ≠ key → context.get? key = none

/-- Whoever asks the context for a key as it was set, the retry count's header apart, gets the value that was set last
under it. -/
def ReadBack (pairs : List (String × String)) (context : SortedMap String) : Prop :=
  ∀ e ∈ pairs, lowercase e.1 ≠ "x-retry-count" → context.get? e.1 = lastSet pairs (lowercase e.1)

namespace Continues

variable {pairs : List (String × String)} {context : SortedMap String}

theorem of_get? (h : ∀ key, context.get? key = if "x-retry-count" = key then none else lastSet pairs key) :
    Continues pairs context where
  nodup := context.nodup_keys
  mem_keys key := by
    rw [SortedMap.mem_keys_iff, h, ← isSome_lastSet, ne_comm]
    split <;> simp_all
  value key hkey := by
    rw [SortedMap.mem_keys_iff, h] at hkey
    rw [h]
    split at hkey
    · exact absurd hkey nofun
    · rename_i hne
      rw [if_neg hne]
  missed key hkey := by
    rw [h, lastSet_eq_none hkey, ite_self]

/-- The keys can be asked for as they were set if they were set in lower case. -/
theorem readBack_iff (h : Continues pairs context) :
    ReadBack pairs context ↔ ∀ e ∈ pairs, lowercase e.1 ≠ "x-retry-count" → lowercase e.1 = e.1 := by
  refine ⟨fun hread e he hne => ?_, fun hlower e he hne => ?_⟩
  · refine Decidable.byContradiction fun hcase => ?_
    have hnone : lastSet pairs (lowercase e.1) = none := (hread e he hne).symm.trans (h.missed e.1 hcase)
    have hset : (lastSet pairs (lowercase e.1)).isSome := isSome_lastSet.2 ⟨e, he, rfl⟩
    exact absurd hset (by rw [hnone]; exact nofun)
  · have hkey : lowercase e.1 ∈ context.keys := (h.mem_keys _).2 ⟨hne, e, he, rfl⟩
    have hvalue := h.value _ hkey
    rwa [hlower e he hne] at hvalue ⊢

end Continues

/-! ## From the publication to the span -/

/-- What is published notes the pairs of its trace context, and comes in with what continues them. -/
theorem Properties.continues_ofWire_toWire (messageType id id' : String) (pairs : List (String × String)) :
    Continues pairs (ofWire (((persistentOf messageType id).withTrace pairs).toWire id')).traceHeaders := by
  refine .of_get? fun key => ?_
  rw [traceHeaders_ofWire_toWire, SortedMap.get?_erase]
  change (if "x-retry-count" = key then none else
    (SortedMap.empty.insertAll (pairs.map fun e => (lowercase e.1, e.2))).get? key) = _
  rw [SortedMap.get?_insertAll, List.filter_map, List.getLast?_map, Option.map_map, SortedMap.get?_empty, Option.or_none]
  rfl

/-- A message that cannot be written is not published. -/
theorem Publisher.publications_of_unwritten {p : Publisher} {message : Json} {f : CodecFault}
    (hw : p.serializer.write message = .error f) (audience : Audience) (messageType : String) (token : TokenId)
    (w : Surroundings) : publications ((p.publish audience messageType message token).run.run w).steps = [] := by
  have hpayload : p.payload? message = .ok none ∨ p.payload? message = .error (.codec f) := by
    rw [payload?, hw]
    cases p.settings.unwritable <;> simp
  rcases hpayload with h | h <;> cases audience <;> simp only [publish, broadcast, send, h] <;> rfl

/-- A publication asks for its trace context at its beginning. Every message that it then hands to a channel is, wherever
it comes in, processed in a span that continues that context. -/
theorem Publisher.trace_continued {p : Publisher} (hs : p.source.Silent) (audience : Audience) (messageType : String)
    (message : Json) (token : TokenId) (w : Surroundings) :
    let r := (p.publish audience messageType message token).run.run w
    ∀ out ∈ publications r.steps, ∃ id pairs rest,
      r.steps = .asked .freshId id :: .asked .traceContext pairs :: rest ∧
        ∀ (tag : Nat) (id' : String) (s : Settings.Consumer) (c : ChannelId) (token' : TokenId) (w' : Surroundings),
          let d := Delivery.ofWire tag (out.properties.toWire id') out.payload
          ∃ own span, ((d.process s c token').run w').steps = own ++ [.asked (.span span) ()] ∧
            Continues pairs span.context ∧
              (ReadBack pairs span.context ↔ ∀ e ∈ pairs, lowercase e.1 ≠ "x-retry-count" → lowercase e.1 = e.1) := by
  intro r out hout
  cases hw : p.serializer.write message with
  | error f => exact absurd (publications_of_unwritten hw audience messageType token w ▸ hout) List.not_mem_nil
  | ok payload =>
    obtain ⟨id, pairs, rest, hsteps, hands⟩ :=
      handsOver_fresh hs hw audience messageType token (Program.reaches_runAfter w [] _)
    refine ⟨id, pairs, rest, hsteps, fun tag id' s c token' w' => ?_⟩
    intro d
    have hrest : out ∈ publications rest := by
      have hout' : out ∈ publications r.steps := hout
      rwa [show r.steps = _ from hsteps, publications_cons, publications_cons] at hout'
    have hone : out = audience.outbound messageType payload
        ((Properties.persistentOf messageType id).withTrace pairs) := by
      rcases hands with hone | ⟨hnone, -⟩
      · exact List.mem_singleton.1 (hone ▸ hrest)
      · exact absurd (hnone ▸ hrest) List.not_mem_nil
    have hcontinues : Continues pairs d.properties.traceHeaders := by
      simp only [d, hone, Delivery.ofWire, Audience.properties_outbound]
      exact Properties.continues_ofWire_toWire messageType id id' pairs
    exact ⟨_, _, congrArg Run.steps (d.runAfter_process s c token' w' []), hcontinues, hcontinues.readBack_iff⟩

namespace Sample

/-- Surroundings in which all goes well, with a trace context. -/
def tracing (pairs : List (String × String)) : Surroundings :=
  let reply (r : Request) : r.Reply := match r with
    | .traceContext => pairs
    | r => r.plainReply
  ⟨fun _ => reply, fun _ _ r => some (reply r)⟩

/-- An order is published with a trace context. -/
def traced (pairs : List (String × String)) : Run (Except Fault Unit) :=
  (seller.publish .subscribers "orders.OrderPlaced" (.object [("id", .number 1)]) ⟨0⟩).run.run (tracing pairs)

/-- The order as it is handed to a channel. -/
def orderWith (pairs : List (String × String)) : Outbound :=
  .broadcast "orders.OrderPlaced" (Bytes.ofText "\x7b\"id\":1\x7d")
    ((Properties.persistentOf "orders.OrderPlaced" "").withTrace pairs)

end Sample

open Sample in
/-- An order is published with a trace context whose keys are in upper and in lower case, one of them that of the retry
count. Wherever it comes in, it is processed in a span that continues the others, the later of two values holding. -/
theorem Publisher.order_traced :
    let pairs := [("TRACESTATE", "a=1"), ("tracestate", "b=2"), ("X-Retry-Count", "7")]
    publications (traced pairs).steps = [orderWith pairs] ∧
      ∀ s w, ∃ own span,
        (((Delivery.ofWire 1 ((orderWith pairs).properties.toWire "m") (orderWith pairs).payload).process s ⟨1⟩ ⟨1⟩).run
            w).steps = own ++ [.asked (.span span) ()] ∧
          Continues pairs span.context ∧ span.context.get? "tracestate" = some "b=2" := by
  intro pairs
  have hout : publications (traced pairs).steps = [orderWith pairs] := by decide +kernel
  obtain ⟨id, pairs', rest, hsteps, h⟩ := Publisher.trace_continued (p := seller) ChannelSource.Offered.direct.silent
    .subscribers "orders.OrderPlaced" (.object [("id", .number 1)]) ⟨0⟩ (tracing pairs) (orderWith pairs)
    (hout ▸ List.mem_singleton_self _)
  obtain rfl : pairs' = pairs := by
    cases hsteps
    rfl
  refine ⟨hout, fun s w => ?_⟩
  obtain ⟨own, span, hprocess, hcontinues, -⟩ := h 1 "m" s ⟨1⟩ ⟨1⟩ w
  have hkey : "tracestate" ∈ span.context.keys :=
    (hcontinues.mem_keys _).2 ⟨by decide, _, List.mem_cons_of_mem _ List.mem_cons_self, by decide +kernel⟩
  exact ⟨own, span, hprocess, hcontinues, (hcontinues.value _ hkey).trans (by decide +kernel)⟩

open Sample in
/-- A key that was not set in lower case is none that the span's context knows. -/
theorem Publisher.mixed_case_missed :
    let pairs := [("TraceParent", "00-abc-def-01")]
    publications (traced pairs).steps = [orderWith pairs] ∧
      ∀ s w, ∃ own span,
        (((Delivery.ofWire 1 ((orderWith pairs).properties.toWire "m") (orderWith pairs).payload).process s ⟨1⟩ ⟨1⟩).run
            w).steps = own ++ [.asked (.span span) ()] ∧
          span.context.get? "TraceParent" = none ∧ ¬ReadBack pairs span.context := by
  intro pairs
  refine ⟨by decide +kernel, fun s w => ?_⟩
  let d := Delivery.ofWire 1 ((orderWith pairs).properties.toWire "m") (orderWith pairs).payload
  have hcontinues : Continues pairs d.properties.traceHeaders := Properties.continues_ofWire_toWire _ "" "m" pairs
  have hcase : lowercase "TraceParent" ≠ "TraceParent" := by decide +kernel
  have hreserved : lowercase "TraceParent" ≠ "x-retry-count" := by decide +kernel
  refine ⟨_, _, congrArg Run.steps (d.runAfter_process s ⟨1⟩ ⟨1⟩ w []), hcontinues.missed _ hcase, fun hread => ?_⟩
  exact hcase (hcontinues.readBack_iff.1 hread _ (List.mem_singleton_self _) hreserved)

end MessageBus
