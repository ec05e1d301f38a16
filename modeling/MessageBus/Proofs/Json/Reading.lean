import MessageBus.Json.Shape
/-!
# What a reader makes of a text

`Passes` is a reader before a text whose first bytes it goes over: it then does what another reader does before the
rest. With it a reader is led through a text piece by piece. `Reads` is the case in which only a value is left to give,
and `FailsWith` is a reader that finds a flaw, with the place that it lies at.
-/

namespace MessageBus.Json.Reader

variable {α β : Type}

/-- Before the bytes `b`, with `rest` behind them, the reader goes over `b` and then does what `r'` does. -/
def Passes (r : Reader α) (b rest : Bytes) (r' : Reader α) : Prop :=
  ∀ index, r.run ⟨b ++ rest, index⟩ = r'.run ⟨rest, index + b.length⟩

/-- Before the bytes `b`, with `rest` behind them, the reader goes over `b` and gives the value. -/
abbrev Reads (r : Reader α) (b rest : Bytes) (a : α) : Prop := r.Passes b rest (pure a)

/-- The text has a flaw of this cause for the reader, and it lies at one place. -/
def FailsWith (r : Reader α) (text : Bytes) (c : Cause) : Prop :=
  ∀ index, ∃ place cursor, r.run ⟨text, index⟩ = (.error ⟨c, some place⟩, cursor)

/-! ## Runs -/

theorem run_get_bind (f : Cursor → Reader α) (cur : Cursor) : (get >>= f).run cur = (f cur).run cur := rfl

theorem run_bind (r : Reader α) (f : α → Reader β) (cur : Cursor) :
    (r >>= f).run cur = match r.run cur with
      | (.ok a, behind) => (f a).run behind
      | (.error e, behind) => (.error e, behind) := by
  have hbind (g : Except Flaw α → StateM Cursor (Except Flaw β)) :
      (r.run >>= g) cur = g (r.run cur).1 (r.run cur).2 := rfl
  rw [ExceptT.run_bind, hbind]
  rcases r.run cur with ⟨a | e, behind⟩ <;> rfl

theorem run_tryCatch (r : Reader α) (f : Flaw → Reader α) (cur : Cursor) :
    (tryCatch r f).run cur = match r.run cur with
      | (.ok a, behind) => (.ok a, behind)
      | (.error e, behind) => (f e).run behind := by
  have hbind (g : Except Flaw α → StateM Cursor (Except Flaw α)) :
      (r.run >>= g) cur = g (r.run cur).1 (r.run cur).2 := rfl
  rw [ExceptT.run_tryCatch, hbind]
  rcases r.run cur with ⟨a | e, behind⟩ <;> rfl

/-- A reader whose flaw is caught gives what it came to. -/
theorem run_caught (r : Reader α) (cur : Cursor) :
    (tryCatch (Except.ok <$> r) fun f => return .error f).run cur = (.ok (r.run cur).1, (r.run cur).2) := by
  rw [run_tryCatch, map_eq_pure_bind, run_bind]
  rcases r.run cur with ⟨a | e, behind⟩ <;> rfl

section
variable {r r' r'' : Reader α} {b b' rest text : Bytes} {a : α} {c : Cause} {closing : Reader Unit}

/-! ## One reader after another -/

theorem Passes.refl (r : Reader α) (rest : Bytes) : r.Passes [] rest r := fun _ => rfl

theorem Passes.trans (h : r.Passes b (b' ++ rest) r') (h' : r'.Passes b' rest r'') : r.Passes (b ++ b') rest r'' := by
  intro index
  rw [List.append_assoc, h, h', List.length_append, Nat.add_assoc]

/-- A reader that only looks comes second. -/
theorem Passes.trans_nil (h : r.Passes b rest r') (h' : r'.Passes [] rest r'') : r.Passes b rest r'' :=
  fun index => (h index).trans (h' _)

theorem Passes.bind (h : r.Passes b rest r') (f : α → Reader β) : (r >>= f).Passes b rest (r' >>= f) := by
  intro index
  rw [run_bind, h, run_bind]

theorem Reads.bind (h : r.Reads b rest a) (f : α → Reader β) : (r >>= f).Passes b rest (f a) := by
  rw [← pure_bind a f]
  exact Passes.bind h f

theorem Reads.map (h : r.Reads b rest a) (g : α → β) : (g <$> r).Reads b rest (g a) := by
  rw [map_eq_pure_bind]
  exact h.bind _

theorem FailsWith.of_passes (h : r.Passes b text r') (h' : r'.FailsWith text c) : r.FailsWith (b ++ text) c := by
  intro index
  rw [h]
  exact h' _

theorem FailsWith.bind (h : r.FailsWith text c) (f : α → Reader β) : (r >>= f).FailsWith text c := by
  intro index
  obtain ⟨place, cursor, hr⟩ := h index
  exact ⟨place, cursor, by rw [run_bind, hr]⟩

/-! ## Between brackets -/

theorem Reads.located (h : r.Reads b rest a) : (located r).Reads b rest a := by
  intro index
  rw [Reader.located, run_tryCatch, h]
  rfl

theorem FailsWith.located (h : r.FailsWith text c) : (located r).FailsWith text c := by
  intro index
  obtain ⟨place, cursor, hr⟩ := h index
  refine ⟨place, cursor, ?_⟩
  rw [Reader.located, run_tryCatch, hr]
  rfl

theorem Reads.caught (h : r.Reads b rest a) :
    (tryCatch (Except.ok <$> r) fun f => return .error f).Reads b rest (.ok a) := by
  intro index
  rw [run_caught, h]
  rfl

theorem Reads.bracketed (h : r.Reads b (b' ++ rest) a) (h' : closing.Reads b' rest ()) :
    (bracketed r closing).Reads (b ++ b') rest a :=
  Reads.located ((h.caught.bind _).trans (h'.caught.bind _))

/-- A flaw inside comes before whatever is wrong with the closing bracket. -/
theorem FailsWith.bracketed (h : r.FailsWith text c) (closing : Reader Unit) :
    (bracketed r closing).FailsWith text c := by
  refine FailsWith.located fun index => ?_
  obtain ⟨place, cursor, hr⟩ := h index
  refine ⟨place, (closing.run cursor).2, ?_⟩
  rw [run_bind, run_caught, hr]
  simp only [run_bind, run_caught]
  rfl

end

/-! ## Whole texts -/

section
variable {s : Shape} {text : Bytes}

theorem Reads.read {v : Json} (h : (shape s 127 s).Reads text [] v) : s.read text = .ok v := by
  have hwhole : (whole s).Reads text [] v := (h.bind _).trans_nil fun _ => rfl
  have hrun := hwhole 0
  rw [List.append_nil] at hrun
  rw [Shape.read, hrun]
  rfl

theorem FailsWith.read {c : Cause} (h : (shape s 127 s).FailsWith text c) :
    ∃ place, s.read text = .error ⟨c, some place⟩ := by
  have hwhole : (whole s).FailsWith text c := h.bind _
  obtain ⟨place, cursor, hrun⟩ := hwhole 0
  exact ⟨place, by rw [Shape.read, hrun]⟩

end

end MessageBus.Json.Reader
