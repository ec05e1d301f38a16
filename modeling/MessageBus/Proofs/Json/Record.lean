import Mathlib.Data.List.Nodup
import MessageBus.Proofs.Json.Quoted
/-!
# Records are read back

A record is read back from its members if each of its fields is: `record_reads`. If the reader finds a flaw in a field
and reads those before it, that is the flaw of the record: `record_failsWith`. Both go through the members one at a
time, by `entries_passes`.
-/

namespace MessageBus.Json

open String (utf8EncodeChar)

/-! ## The bytes of values -/

theorem bytes_eq (v : Json) : v.bytes = v.chars.flatMap utf8EncodeChar := Bytes.ofText_ofList _

theorem bytes_text (s : String) : (text s).bytes = quoteBytes s := by
  rw [bytes_eq, chars, quoteBytes]

/-- What stands before a member: a comma, if it is not the first. -/
def lead (first : Bool) : Bytes := if first then [] else [0x2c]

/-- The bytes of members, one after another. -/
def listing : Bool → List (String × Json) → Bytes
  | _, [] => []
  | first, m :: ms => lead first ++ (quoteBytes m.1 ++ ([0x3a] ++ (m.2.bytes ++ listing false ms)))

theorem listing_append (first : Bool) (ms ms' : List (String × Json)) :
    listing first (ms ++ ms') = listing first ms ++ listing (first && ms.isEmpty) ms' := by
  induction ms generalizing first with
  | nil => simp [listing]
  | cons m ms ih => simp [listing, ih]

theorem length_le_listing (first : Bool) (ms : List (String × Json)) : ms.length ≤ (listing first ms).length := by
  induction ms generalizing first with
  | nil => exact Nat.zero_le _
  | cons m ms ih =>
    have := ih false
    simp only [listing, List.length_append, List.length_cons, List.length_nil]
    omega

theorem flatMap_memberChars (ms : List (String × Json)) :
    (memberChars ms).flatMap utf8EncodeChar = listing true ms ++ [0x7d] := by
  have hcolon : utf8EncodeChar ':' = [0x3a] := rfl
  have hcomma : utf8EncodeChar ',' = [0x2c] := rfl
  have hbrace : utf8EncodeChar '\x7d' = [0x7d] := rfl
  induction ms with
  | nil => exact hbrace
  | cons m ms ih =>
    cases ms with
    | nil => simp [memberChars, listing, lead, hcolon, hbrace, ← bytes_eq, quoteBytes]
    | cons m' ms => simp [memberChars, listing, lead, hcolon, hcomma, ← bytes_eq, quoteBytes, ih]

theorem bytes_object (ms : List (String × Json)) : (object ms).bytes = [0x7b] ++ (listing true ms ++ [0x7d]) := by
  rw [bytes_eq, chars, List.flatMap_cons, flatMap_memberChars]
  rfl

/-! ## Fields with values -/

/-- A field of a record with a value for it. -/
structure Slot where
  name : String
  shape : Shape
  value : Json

namespace Slot

/-- The field, as the record's shape lists it. -/
def field (s : Slot) : String × Shape := (s.name, s.shape)

/-- The member of the record's object. -/
def member (s : Slot) : String × Json := (s.name, s.value)

/-- The value is read back, whatever comes behind it. -/
def ReadBy (read : Shape → Reader Json) (s : Slot) : Prop := ∀ rest, (read s.shape).Reads s.value.bytes rest s.value

end Slot

/-- An entry is found under its key. -/
theorem find?_key {α : Type} {l : List (String × α)} (hn : (l.map (·.1)).Nodup) {e : String × α} (he : e ∈ l) :
    (l.find? fun x => x.1 = e.1) = some e := by
  induction l with
  | nil => cases he
  | cons x l ih =>
    rw [List.map_cons, List.nodup_cons] at hn
    rcases List.mem_cons.1 he with rfl | he
    · exact List.find?_cons_of_pos (by simp)
    · have hne : x.1 ≠ e.1 := fun heq => hn.1 (heq ▸ List.mem_map_of_mem he)
      rw [List.find?_cons_of_neg (by simpa using hne)]
      exact ih hn.2 he

namespace Reader

/-! ## Members one at a time -/

theorem moreMembers_reads (first : Bool) (k : String) (rest : Bytes) :
    (moreMembers first).Reads (lead first) (quoteBytes k ++ rest) true := by
  rw [quoteBytes_eq]
  cases first <;> exact fun _ => rfl

/-- An entry of the record with these fields. -/
abbrev slotEntry (read : Shape → Reader Json) (slots : List Slot) : List (String × Json) → String →
    Reader (List (String × Json)) :=
  recordEntry (slots.map fun s => (s.name, read s.shape))

section
variable (read : Shape → Reader Json) {slots : List Slot} (hn : (slots.map Slot.name).Nodup)
include hn

/-- Behind the key of a field that has not come before, its value is read. -/
theorem slotEntry_passes {s : Slot} (hs : s ∈ slots) {found : List (String × Json)} (hnew : ∀ e ∈ found, e.1 ≠ s.name)
    (rest : Bytes) :
    (slotEntry read slots found s.name).Passes [0x3a] rest (return (s.name, ← read s.shape) :: found) := by
  have hfield : ((slots.map fun s => (s.name, read s.shape)).find? fun f => f.1 = s.name) =
      some (s.name, read s.shape) := by
    refine find?_key (e := (s.name, read s.shape)) ?_ (List.mem_map_of_mem hs)
    rwa [List.map_map]
  have hfound : (found.any fun e => e.1 = s.name) = false := by simpa using hnew
  unfold slotEntry recordEntry
  simp only [hfield, hfound]
  exact fun _ => rfl

/-- A member is gone over up to its value. -/
theorem entries_passes_key (first : Bool) {s : Slot} (hs : s ∈ slots) {found : List (String × Json)}
    (hnew : ∀ e ∈ found, e.1 ≠ s.name) (fuel : Nat) (rest : Bytes) :
    (entries (slotEntry read slots) first found (fuel + 1)).Passes (lead first ++ (quoteBytes s.name ++ [0x3a])) rest
      (read s.shape >>= fun v => entries (slotEntry read slots) false ((s.name, v) :: found) fuel) := by
  have hmore := moreMembers_reads first s.name ([0x3a] ++ rest)
  rw [← List.append_assoc] at hmore
  have hentry := (slotEntry_passes read hn hs hnew rest).bind
    fun found => entries (slotEntry read slots) false found fuel
  rw [bind_assoc] at hentry
  simp only [pure_bind] at hentry
  exact (hmore.bind _).trans (((key_reads s.name _).bind _).trans hentry)

/-- Members of fields that can be read are gone over. -/
theorem entries_passes (fuel : Nat) {todo : List Slot} (hsub : todo ⊆ slots) (hnodup : (todo.map Slot.name).Nodup)
    (hreads : ∀ s ∈ todo, s.ReadBy read) (first : Bool)
    (found : List (String × Json)) (hnew : ∀ s ∈ todo, ∀ e ∈ found, e.1 ≠ s.name) (rest : Bytes) :
    (entries (slotEntry read slots) first found (fuel + todo.length)).Passes (listing first (todo.map Slot.member)) rest
      (entries (slotEntry read slots) (first && todo.isEmpty) ((todo.map Slot.member).reverse ++ found) fuel) := by
  induction todo generalizing first found with
  | nil => simpa [listing] using Passes.refl _ rest
  | cons s todo ih =>
    rw [List.cons_subset] at hsub
    rw [List.map_cons, List.nodup_cons] at hnodup
    rw [List.forall_mem_cons] at hreads hnew
    have hnew' : ∀ t ∈ todo, ∀ e ∈ s.member :: found, e.1 ≠ t.name := by
      intro t ht
      rw [List.forall_mem_cons]
      refine ⟨fun heq => hnodup.1 ?_, hnew.2 t ht⟩
      exact List.mem_map.2 ⟨t, ht, heq.symm⟩
    have hkey := entries_passes_key read hn first hsub.1 hnew.1 (fuel + todo.length)
      ((s.value.bytes ++ listing false (todo.map Slot.member)) ++ rest)
    have hmember := hkey.trans (((hreads.1 _).bind _).trans (ih hsub.2 hnodup.2 hreads.2 false _ hnew'))
    simpa [listing, Slot.member, ← Nat.add_assoc] using hmember

end

theorem entries_reads_end {σ : Type} (entry : σ → String → Reader σ) (first : Bool) (found : σ) (fuel : Nat)
    (rest : Bytes) : (entries entry first found (fuel + 1)).Reads [] ([0x7d] ++ rest) found := fun _ => rfl

theorem fillFields_reads {found : List (String × Json)} {slots : List Slot}
    (hfound : ∀ s ∈ slots, (found.find? fun e => e.1 = s.name) = some s.member) (rest : Bytes) :
    (fillFields found (slots.map Slot.field)).Reads [] rest (slots.map Slot.member) := by
  induction slots with
  | nil => exact Passes.refl _ rest
  | cons s slots ih =>
    rw [List.forall_mem_cons] at hfound
    have hmore := ih hfound.2
    simp only [List.map_cons, Slot.field, fillFields, hfound.1, Option.map_some, pure_bind]
    exact hmore.bind _

/-! ## Whole records -/

/-- What is read between the brackets of a record. -/
def fieldsWith (read : Shape → Reader Json) (fields : List (String × Shape)) : Reader Json := do
  let found ← entries (recordEntry (fields.map fun f => (f.1, read f.2))) true [] ((← get).rest.length + 1)
  return .object (← fillFields found fields)

theorem record_passes (read : Shape → Reader Json) (label : String) (fields : List (String × Shape)) (rest : Bytes) :
    (record (some read) label fields).Passes [0x7b] rest (bracketed (fieldsWith read fields) closeObject) :=
  fun _ => rfl

section
variable {read : Shape → Reader Json}

/-- Between the brackets, members of fields that can be read are gone over. -/
theorem fieldsWith_passes {slots before : List Slot} (hn : (slots.map Slot.name).Nodup) (hbefore : before.Sublist slots)
    (hreads : ∀ s ∈ before, s.ReadBy read) (rest : Bytes) :
    ∃ fuel, (fieldsWith read (slots.map Slot.field)).Passes (listing true (before.map Slot.member)) rest
      (entries (slotEntry read slots) before.isEmpty (before.map Slot.member).reverse (fuel + 1) >>= fun found =>
        return .object (← fillFields found (slots.map Slot.field))) := by
  let text := listing true (before.map Slot.member) ++ rest
  have hlength := length_le_listing true (before.map Slot.member)
  rw [List.length_map] at hlength
  have hfuel : text.length - before.length + 1 + before.length = text.length + 1 := by
    have : text.length = (listing true (before.map Slot.member)).length + rest.length := List.length_append
    omega
  have hmembers := entries_passes read hn (text.length - before.length + 1) hbefore.subset
    (hn.sublist (hbefore.map _)) hreads true [] (fun _ _ _ he => absurd he List.not_mem_nil) rest
  rw [hfuel, List.append_nil, Bool.true_and] at hmembers
  refine ⟨text.length - before.length, fun index => ?_⟩
  rw [← (hmembers.bind _) index, fieldsWith, List.map_map]
  rfl

theorem record_reads (label : String) {slots : List Slot} (hn : (slots.map Slot.name).Nodup)
    (hreads : ∀ s ∈ slots, s.ReadBy read) (rest : Bytes) :
    (record (some read) label (slots.map Slot.field)).Reads (object (slots.map Slot.member)).bytes rest
      (.object (slots.map Slot.member)) := by
  obtain ⟨fuel, hmembers⟩ := fieldsWith_passes hn (List.Sublist.refl slots) hreads ([0x7d] ++ rest)
  have hend := entries_reads_end (slotEntry read slots) slots.isEmpty (slots.map Slot.member).reverse fuel rest
  have hfill : (fillFields (slots.map Slot.member).reverse (slots.map Slot.field)).Reads [] ([0x7d] ++ rest)
      (slots.map Slot.member) := by
    refine fillFields_reads (fun s hs => ?_) _
    refine find?_key (e := s.member) ?_ (List.mem_reverse.2 (List.mem_map_of_mem hs))
    rw [List.map_reverse, List.nodup_reverse, List.map_map]
    exact hn
  have hinside := hmembers.trans_nil ((hend.bind _).trans_nil (hfill.bind _))
  rw [bytes_object]
  refine (record_passes read label _ _).trans ?_
  exact Reads.bracketed hinside fun _ => rfl

/-- The flaw of a field behind others that can be read. -/
theorem record_failsWith (label : String) {slots before after : List Slot} {s : Slot}
    (hslots : slots = before ++ s :: after) (hn : (slots.map Slot.name).Nodup)
    (hreads : ∀ t ∈ before, t.ReadBy read) {c : Cause}
    (hfails : ∀ rest, (read s.shape).FailsWith (s.value.bytes ++ rest) c) (rest : Bytes) :
    (record (some read) label (slots.map Slot.field)).FailsWith ((object (slots.map Slot.member)).bytes ++ rest) c := by
  have hbefore : before.Sublist slots := hslots ▸ List.sublist_append_left before (s :: after)
  have hs : s ∈ slots := hslots ▸ List.mem_append_right before List.mem_cons_self
  have hnew : ∀ e ∈ (before.map Slot.member).reverse, e.1 ≠ s.name := by
    rw [hslots, List.map_append, List.nodup_append] at hn
    simp only [List.mem_reverse, List.mem_map]
    rintro _ ⟨t, ht, rfl⟩
    exact hn.2.2 _ (List.mem_map_of_mem ht) _ List.mem_cons_self
  let behind := listing false (after.map Slot.member) ++ ([0x7d] ++ rest)
  let key := lead before.isEmpty ++ (quoteBytes s.name ++ [0x3a])
  obtain ⟨fuel, hmembers⟩ := fieldsWith_passes hn hbefore hreads (key ++ (s.value.bytes ++ behind))
  have hkey := entries_passes_key read hn before.isEmpty hs hnew fuel (s.value.bytes ++ behind)
  have hinside : (fieldsWith read (slots.map Slot.field)).FailsWith
      (listing true (before.map Slot.member) ++ (key ++ (s.value.bytes ++ behind))) c :=
    .of_passes hmembers (.of_passes (hkey.bind _) (((hfails _).bind _).bind _))
  have hbytes : (object (slots.map Slot.member)).bytes ++ rest =
      [0x7b] ++ (listing true (before.map Slot.member) ++ (key ++ (s.value.bytes ++ behind))) := by
    rw [bytes_object, hslots]
    simp [listing_append, listing, Slot.member, key, behind]
  rw [hbytes]
  exact .of_passes (record_passes read label _ _) (hinside.bracketed _)

end

end Reader

end MessageBus.Json
