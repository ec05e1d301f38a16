import MessageBus.Proofs.Json.Record
import MessageBus.Message.Report
/-!
# Reports are read back, up to a depth

A report is as deep as it has levels, and JSON is read to a depth of 127: a report of so many levels is read back whole
(`read_toJson`), and of a deeper one nothing is (`read_toJson_of_deep`). Both are inductions on the depth that is left:
the texts of a level are read at any depth, the inner report with one bracket less.
-/

namespace MessageBus.Report

open Json Json.Reader

/-! ## Levels -/

theorem levels_mk (origin message stackTrace : String) (inner : Option Report) :
    (mk origin message stackTrace inner).levels = (origin, message, stackTrace) :: inner.elim [] levels := by
  cases inner <;> rfl

/-- A report has one level for the error, and one for each cause. -/
theorem levels_ofTroubles (origin : String) (outer : Trouble) (causes : List Trouble) :
    (ofTroubles origin outer causes).levels = (outer :: causes).map fun t => (origin, t.message, t.detail) := by
  induction causes generalizing outer with
  | nil => rfl
  | cons cause causes ih =>
    rw [ofTroubles, levels_mk, Option.elim_some, ih]
    rfl

/-! ## A level -/

/-- What stands in the place of the inner report. -/
def innerJson : Option Report → Json
  | none => .null
  | some r => r.toJson

/-- The texts of a level. -/
def texts (origin message stackTrace : String) : List Slot :=
  [⟨"origin", .text, .text origin⟩, ⟨"message", .text, .text message⟩, ⟨"stackTrace", .text, .text stackTrace⟩]

/-- The fields of a level, the last of which holds the inner report. -/
def slots (origin message stackTrace : String) (inner : Option Report) : List Slot :=
  texts origin message stackTrace ++ [⟨"innerError", .optional .again, innerJson inner⟩]

theorem nodup_slots (origin message stackTrace : String) (inner : Option Report) :
    ((slots origin message stackTrace inner).map Slot.name).Nodup := by
  change ["origin", "message", "stackTrace", "innerError"].Nodup
  decide

theorem toJson_mk (origin message stackTrace : String) (inner : Option Report) :
    (mk origin message stackTrace inner).toJson =
      .object ((slots origin message stackTrace inner).map Slot.member) := by
  cases inner <;> rfl

theorem exists_bytes_toJson (r : Report) : ∃ b, r.toJson.bytes = [0x7b] ++ b := by
  obtain ⟨origin, message, stackTrace, inner⟩ := r
  rw [toJson_mk, bytes_object]
  exact ⟨_, rfl⟩

theorem fields_inj {origin message stackTrace origin' message' stackTrace' : String} {inner inner' : Json}
    (h : toJson.fields origin message stackTrace inner = toJson.fields origin' message' stackTrace' inner') :
    origin = origin' ∧ message = message' ∧ stackTrace = stackTrace' ∧ inner = inner' := by
  simpa [toJson.fields] using h

theorem toJson_ne_null (r : Report) : r.toJson ≠ .null := by
  obtain ⟨_, _, _, inner⟩ := r
  rw [toJson_mk]
  exact nofun

/-- A report is what its JSON says. -/
theorem toJson_injective : ∀ {r r' : Report}, r.toJson = r'.toJson → r = r'
  | .mk _ _ _ none, .mk _ _ _ none, h => by
    obtain ⟨rfl, rfl, rfl, -⟩ := fields_inj h
    rfl
  | .mk _ _ _ none, .mk _ _ _ (some r'), h => absurd (fields_inj h).2.2.2.symm r'.toJson_ne_null
  | .mk _ _ _ (some r), .mk _ _ _ none, h => absurd (fields_inj h).2.2.2 r.toJson_ne_null
  | .mk _ _ _ (some r), .mk _ _ _ (some r'), h => by
    obtain ⟨rfl, rfl, rfl, hinner⟩ := fields_inj h
    rw [toJson_injective hinner]

/-! ## Reading a level -/

section
variable (d : Nat) (rest : Bytes)

theorem text_reads_shape (s : String) : (Reader.shape shape d .text).Reads (Json.text s).bytes rest (.text s) := by
  rw [bytes_text]
  cases d <;> exact (text_reads s rest "a string").map _

theorem null_reads_shape : (Reader.shape shape d (.optional .again)).Reads Json.null.bytes rest .null := by
  have hbytes : Json.null.bytes = [0x6e, 0x75, 0x6c, 0x6c] := rfl
  rw [hbytes]
  cases d <;> exact fun _ => rfl

theorem optional_passes_shape (r : Report) :
    (Reader.shape shape d (.optional .again)).Passes [] (r.toJson.bytes ++ rest) (Reader.shape shape d .again) := by
  obtain ⟨b, hb⟩ := r.exists_bytes_toJson
  rw [hb]
  cases d <;> exact fun _ => rfl

end

/-- The texts of a level are read at any depth. -/
theorem texts_read (d : Nat) (origin message stackTrace : String) :
    ∀ s ∈ texts origin message stackTrace, s.ReadBy (Reader.shape shape d) := by
  simp only [texts, List.forall_mem_cons, List.not_mem_nil, false_implies, implies_true, and_true]
  exact ⟨fun _ => text_reads_shape _ _ _, fun _ => text_reads_shape _ _ _, fun _ => text_reads_shape _ _ _⟩

/-! ## All levels -/

/-- With room for its levels, a report is read. -/
theorem reads_shape (d : Nat) (r : Report) (hd : r.levels.length ≤ d) (rest : Bytes) :
    (Reader.shape shape d .again).Reads r.toJson.bytes rest r.toJson := by
  -- on the depth; the inner report has one level less
  induction d generalizing r rest with
  | zero =>
    obtain ⟨origin, message, stackTrace, inner⟩ := r
    rw [levels_mk] at hd
    cases hd
  | succ d ih =>
    obtain ⟨origin, message, stackTrace, inner⟩ := r
    have hinner : ∀ rest, (Reader.shape shape d (.optional .again)).Reads (innerJson inner).bytes rest
        (innerJson inner) := by
      intro rest
      cases inner with
      | none => exact null_reads_shape d rest
      | some inner =>
        rw [levels_mk, List.length_cons, Nat.add_le_add_iff_right] at hd
        exact (optional_passes_shape d rest inner).trans (ih inner hd rest)
    rw [toJson_mk]
    refine record_reads "struct TransportError" (nodup_slots ..) ?_ rest
    rw [slots, List.forall_mem_append, List.forall_mem_singleton]
    exact ⟨texts_read d origin message stackTrace, hinner⟩

/-- Without room for all its levels, it is not. -/
theorem failsWith_shape (d : Nat) (r : Report) (hd : d < r.levels.length) (rest : Bytes) :
    (Reader.shape shape d .again).FailsWith (r.toJson.bytes ++ rest) .tooDeep := by
  induction d generalizing r rest with
  | zero =>
    obtain ⟨b, hb⟩ := r.exists_bytes_toJson
    rw [hb]
    exact fun index => ⟨_, _, rfl⟩
  | succ d ih =>
    obtain ⟨origin, message, stackTrace, inner⟩ := r
    rw [levels_mk, List.length_cons, Nat.add_lt_add_iff_right] at hd
    cases inner with
    | none => cases hd
    | some inner =>
      rw [toJson_mk]
      refine record_failsWith "struct TransportError" rfl (nodup_slots ..)
        (texts_read d origin message stackTrace) (fun rest => ?_) rest
      have hinner := FailsWith.of_passes (optional_passes_shape d rest inner) (ih inner hd rest)
      exact hinner

/-- The shape at the top is the one that its levels have. -/
theorem shape_top (d : Nat) : Reader.shape shape d shape = Reader.shape shape d .again := by
  cases d <;> rfl

/-- A report of at most 127 levels is read back. -/
theorem read_toJson {r : Report} (h : r.levels.length ≤ 127) : shape.read r.toJson.bytes = .ok r.toJson := by
  have hr := reads_shape 127 r h []
  rw [← shape_top] at hr
  exact hr.read

/-- A deeper one is not. -/
theorem read_toJson_of_deep {r : Report} (h : 127 < r.levels.length) :
    ∃ place, shape.read r.toJson.bytes = .error ⟨.tooDeep, some place⟩ := by
  have hr := failsWith_shape 127 r h []
  rw [← shape_top, List.append_nil] at hr
  exact hr.read

end MessageBus.Report
