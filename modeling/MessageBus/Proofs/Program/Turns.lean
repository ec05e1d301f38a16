import MessageBus.Proofs.Program.Interleaving
/-!
# Taking turns

Callers that lock a cell before all else, and unlock it in their last step, have it in turn. `Leads.takings` says so of
every interleaving: a caller's steps stand together, no other caller's among them, and each caller finds in the cell
what the one before left there. The order in which the cell was locked is therefore one in which the calls could have
been made one at a time.
-/

namespace MessageBus

/-- Whether the request is about the cell. -/
def Request.Touches (c : Cell) : Request → Prop
  | .lock c' | .unlock c' | .put c' _ => c' = c
  | _ => False

/-- What the step puts into the cell. -/
def Step.put? (c : Cell) (s : Step) : Option c.Content :=
  match s.done? with
  | some ⟨.put c' v, _⟩ => if h : c' = c then some (h ▸ v) else none
  | _ => none

/-- What a cell holds after some steps, if it held `v` before them. -/
def leftIn (c : Cell) (v : c.Content) (steps : List Step) : c.Content :=
  steps.foldl (fun v s => (s.put? c).getD v) v

theorem leftIn_append (c : Cell) (v : c.Content) (steps steps' : List Step) :
    leftIn c v (steps ++ steps') = leftIn c (leftIn c v steps) steps' := List.foldl_append

/-- The step, with the caller that took it. -/
def Happening.call? : Happening → Option (Nat × Step)
  | took (.caller n) s => some (n, s)
  | _ => none

/-- The steps of all callers, in order. -/
def calls (past : List Happening) : List (Nat × Step) := past.filterMap Happening.call?

theorem calls_append (past past' : List Happening) : calls (past ++ past') = calls past ++ calls past' :=
  List.filterMap_append

/-- A caller's turn with a cell: what it found there, its steps from then on, and what it gave in the end. -/
structure Turn (c : Cell) (α : Type) where
  caller : Nat
  found : c.Content
  steps : List Step
  result : α

namespace Turn

variable {c : Cell} {α : Type}

/-- All the steps of a turn. -/
def all (t : Turn c α) : List Step := .asked (.lock c) t.found :: t.steps

/-- The steps of a turn, as those of its caller. -/
def calls (t : Turn c α) : List (Nat × Step) := t.all.map fun s => (t.caller, s)

/-- What a turn leaves in the cell. -/
def left (t : Turn c α) : c.Content := leftIn c t.found t.steps

end Turn

/-- Turns of different callers one after another: each brings its caller to the end, and finds what the one before
left. -/
inductive InTurn (c : Cell) {α : Type} (callers : List (Program α)) (v : c.Content) : List (Turn c α) → c.Content → Prop
  | nil : InTurn c callers v [] v
  | concat {turns : List (Turn c α)} {t : Turn c α} {p : Program α} (h : InTurn c callers v turns t.found)
      (hnew : t.caller ∉ turns.map (·.caller)) (hp : callers[t.caller]? = some p)
      (hreach : p.Reaches t.all (.done t.result)) : InTurn c callers v (turns ++ [t]) t.left

/-- The program locks the cell before all else, and unlocks it in its last step. -/
def Program.LocksFirst {α : Type} (c : Cell) (p : Program α) : Prop :=
  ∃ f, p = .ask (.lock c) f ∧ ∀ v, (f v).Holds c

namespace InTurn

variable {α : Type} {c : Cell} {callers : List (Program α)} {v w : c.Content} {turns : List (Turn c α)}

theorem nodup (h : InTurn c callers v turns w) : (turns.map (·.caller)).Nodup := by
  induction h with
  | nil => exact .nil
  | @concat turns t p h hnew hp hreach ih =>
    rw [List.map_append]
    refine List.nodup_append.2 ⟨ih, List.nodup_singleton _, fun n hn m hm hnm => hnew ?_⟩
    obtain rfl : n = t.caller := hnm.trans (List.mem_singleton.1 hm)
    exact hn

theorem reaches (h : InTurn c callers v turns w) {t : Turn c α} (ht : t ∈ turns) :
    ∃ p, callers[t.caller]? = some p ∧ p.Reaches t.all (.done t.result) := by
  induction h with
  | nil => cases ht
  | concat h hnew hp hreach ih =>
    rcases List.mem_append.1 ht with ht | ht
    · exact ih ht
    · rw [List.mem_singleton.1 ht]
      exact ⟨_, hp, hreach⟩

theorem eq_left {t : Turn c α} (h : InTurn c callers v (turns ++ [t]) w) : w = t.left := by
  generalize hall : turns ++ [t] = all at h
  cases h with
  | nil => simp at hall
  | concat =>
    obtain ⟨-, heq⟩ := List.append_inj' hall rfl
    cases heq
    rfl

end InTurn

namespace System

variable {α : Type} {c : Cell} {σ₀ σ σ' : System α} {e : Happening}

theorem cellsAfter_apply (s : Step) (cells : (c : Cell) → c.Content) (c : Cell) :
    cellsAfter s cells c = (s.put? c).getD (cells c) := by
  unfold cellsAfter Step.put?
  generalize s.done? = d
  rcases d with _ | ⟨r, x⟩
  · rfl
  cases r with
  | put c' v =>
    by_cases hc : c' = c
    · subst hc
      simp
    · simp [hc, Function.update_of_ne (Ne.symm hc)]
  | _ => rfl

/-- A step that is not about the cell changes nothing of it. -/
theorem record_of_not_touches {s : Step} (a : Actor) (h : ¬s.request.Touches c) :
    (σ.record a s).holder c = σ.holder c ∧ (σ.record a s).cells c = σ.cells c := by
  cases hd : s.done? with
  | none => simp [record, holderAfter, cellsAfter, hd]
  | some d =>
    obtain ⟨r, x⟩ := d
    rw [request_of_done? hd] at h
    cases r with
    | lock c' | unlock c' | put c' v =>
      simp [record, holderAfter, cellsAfter, hd, Function.update_of_ne (Ne.symm h : c ≠ c')]
    | _ => simp [record, holderAfter, cellsAfter, hd]

/-- A step that neither locks nor unlocks the cell leaves it with whoever has it. -/
theorem holder_record {s : Step} (a : Actor) (hlock : s.request ≠ .lock c) (hunlock : s.request ≠ .unlock c) :
    (σ.record a s).holder c = σ.holder c := by
  cases hd : s.done? with
  | none => simp [record, holderAfter, hd]
  | some d =>
    obtain ⟨r, x⟩ := d
    rw [request_of_done? hd] at hlock hunlock
    cases r with
    | lock c' => simp [record, holderAfter, hd, Function.update_of_ne (fun h => hlock (congrArg _ h.symm) : c ≠ c')]
    | unlock c' => simp [record, holderAfter, hd, Function.update_of_ne (fun h => hunlock (congrArg _ h.symm) : c ≠ c')]
    | _ => simp [record, holderAfter, hd]

/-- A caller has the cell: what its steps since it locked it have come to, and what it has left to do. -/
structure Having (c : Cell) (σ₀ σ : System α) (w : c.Content) (n : Nat) (own : List Step) : Prop where
  holder : σ.holder c = some (.caller n)
  cells : σ.cells c = leftIn c w own
  under_way : ∃ p q, σ₀.callers[n]? = some p ∧ p.Reaches (.asked (.lock c) w :: own) q ∧ σ.callers[n]? = some q ∧
    q.Holds c

/-- Who has the cell after some turns: nobody, or one caller that had no turn before. -/
inductive Now (c : Cell) (σ₀ σ : System α) (turns : List (Turn c α)) (w : c.Content) : List (Nat × Step) → Prop
  | free (hholder : σ.holder c = none) (hcells : σ.cells c = w) : Now c σ₀ σ turns w []
  | taken {n : Nat} {own : List Step} (h : σ₀.Having c σ w n own) (hnew : n ∉ turns.map (·.caller)) :
      Now c σ₀ σ turns w ((Step.asked (.lock c) w :: own).map fun s => (n, s))

/-- The callers have had turns, and the steps `now` are those of a turn under way. -/
structure Takings (c : Cell) (σ₀ σ : System α) (turns : List (Turn c α)) (w : c.Content) (now : List (Nat × Step)) :
    Prop where
  inTurn : InTurn c σ₀.callers (σ₀.cells c) turns w
  cell : σ₀.Now c σ turns w now
  steps : calls σ.past = turns.flatMap Turn.calls ++ now
  results : ∀ t ∈ turns, σ.callers[t.caller]? = some (.done t.result)
  waiting : ∀ n, n ∉ turns.map (·.caller) → σ.holder c ≠ some (.caller n) → σ.callers[n]? = σ₀.callers[n]?

variable {turns : List (Turn c α)} {w : c.Content} {now : List (Nat × Step)}

section
variable {m : Nat} {p q : Program α} {s : Step}

/-- A caller that goes on has not had its turn. -/
theorem Takings.not_mem_of_takes (h : σ₀.Takings c σ turns w now) (hp : σ.callers[m]? = some p) (hs : p.Takes s q) :
    m ∉ turns.map (·.caller) := by
  intro hm
  obtain ⟨t, ht, rfl⟩ := List.mem_map.1 hm
  obtain rfl := Option.some.inj (hp.symm.trans (h.results t ht))
  exact hs.not_done

/-- Whoever had a turn keeps its result when another caller goes on. -/
theorem Takings.results_set (h : σ₀.Takings c σ turns w now) (hnew : m ∉ turns.map (·.caller)) :
    ∀ t ∈ turns, (σ.callers.set m q)[t.caller]? = some (.done t.result) := by
  intro t ht
  have hne : m ≠ t.caller := by
    rintro rfl
    exact hnew (List.mem_map_of_mem ht)
  rw [List.getElem?_set_ne hne]
  exact h.results t ht

theorem Takings.calls_record (h : σ₀.Takings c σ turns w now) :
    calls (σ.record (.caller m) s).past = turns.flatMap Turn.calls ++ (now ++ [(m, s)]) := by
  rw [← List.append_assoc, ← h.steps]
  exact calls_append _ _

/-- A step of the caller that has the cell: its turn goes on, or ends. -/
theorem Takings.goes_on (h : σ₀.Takings c σ turns w now) (hp : σ.callers[m]? = some p) (hs : p.Takes s q)
    (hhold : σ.holder c = some (.caller m)) :
    ∃ turns' w' now', σ₀.Takings c { σ.record (.caller m) s with callers := σ.callers.set m q } turns' w' now' := by
  have hself : (σ.callers.set m q)[m]? = some q := List.getElem?_set_self (List.getElem?_eq_some_iff.1 hp).1
  have hnew := h.not_mem_of_takes hp hs
  have hwaiting : ∀ n, n ∉ turns.map (·.caller) → n ≠ m → (σ.callers.set m q)[n]? = σ₀.callers[n]? := by
    intro n hn hne
    rw [List.getElem?_set_ne hne.symm]
    exact h.waiting n hn (by simpa [hhold] using Ne.symm hne)
  have hsteps := h.calls_record (m := m) (s := s)
  have hresults := h.results_set (q := q) hnew
  cases h.cell with
  | free hholder => cases hhold.symm.trans hholder
  | @taken n own hv =>
    obtain rfl : n = m := by simpa using hv.holder.symm.trans hhold
    obtain ⟨p₀, q₀, hfirst, hreach, hrest, hholds⟩ := hv.under_way
    obtain rfl := Option.some.inj (hp.symm.trans hrest)
    have hreach' := hreach.concat hs
    have hleft : (σ.record (.caller n) s).cells c = leftIn c w (own ++ [s]) := by
      rw [leftIn_append, ← hv.cells]
      exact cellsAfter_apply s σ.cells c
    rcases hholds.takes hs with ⟨-, ⟨x, rfl⟩, a, rfl⟩ | ⟨hlock, hunlock, hq⟩
    · -- its turn is over
      have hnone : (σ.record (.caller n) (.asked (.unlock c) x)).holder c = none := by
        simp [record, holderAfter, Step.done?]
      let t : Turn c α := ⟨n, w, own ++ [.asked (.unlock c) x], a⟩
      refine ⟨turns ++ [t], t.left, [], .concat h.inTurn hnew hfirst hreach', .free hnone hleft, ?_, ?_, ?_⟩
      · simpa [t, Turn.calls, Turn.all] using hsteps
      · intro t ht
        rcases List.mem_append.1 ht with ht | ht
        · exact hresults t ht
        · rw [List.mem_singleton.1 ht]
          exact hself
      · intro k hk _
        simp only [List.map_append, List.mem_append, not_or] at hk
        exact hwaiting k hk.1 (by simpa using hk.2)
    · have hholder := (holder_record (σ := σ) (.caller n) hlock hunlock).trans hhold
      have hhaving : σ₀.Having c { σ.record (.caller n) s with callers := σ.callers.set n q } w n (own ++ [s]) :=
        ⟨hholder, hleft, p₀, q, hfirst, hreach', hself, hq⟩
      refine ⟨turns, w, _, h.inTurn, .taken hhaving hnew, by simpa using hsteps, hresults,
        fun k hk hne => hwaiting k hk ?_⟩
      rintro rfl
      exact hne hholder

/-- A step of a caller that does not have the cell: it has not begun, so it locks the cell, which nobody has. -/
theorem Takings.begins (h : σ₀.Takings c σ turns w now) (hc : ∀ p ∈ σ₀.callers, p.LocksFirst c)
    (hp : σ.callers[m]? = some p) (hs : p.Takes s q) (ha : σ.Admits s) (hhold : σ.holder c ≠ some (.caller m)) :
    ∃ turns' w' now', σ₀.Takings c { σ.record (.caller m) s with callers := σ.callers.set m q } turns' w' now' := by
  have hself : (σ.callers.set m q)[m]? = some q := List.getElem?_set_self (List.getElem?_eq_some_iff.1 hp).1
  have hnew := h.not_mem_of_takes hp hs
  rw [h.waiting m hnew hhold] at hp
  obtain ⟨f, rfl, hf⟩ := hc p (List.mem_of_getElem? hp)
  cases hs with
  | asked _ _ v =>
    have hfirst : σ₀.callers[m]? = some (.ask (.lock c) f) := hp
    obtain ⟨hnone, rfl⟩ : σ.holder c = none ∧ v = σ.cells c := ha.reply _ _ rfl
    have hsteps := h.calls_record (m := m) (s := .asked (.lock c) (σ.cells c))
    have hresults := h.results_set (q := f (σ.cells c)) hnew
    have hholder : (σ.record (.caller m) (.asked (.lock c) (σ.cells c))).holder c = some (.caller m) := by
      simp [record, holderAfter, Step.done?]
    cases h.cell with
    | taken hv => cases hv.holder.symm.trans hnone
    | free _ hcells =>
      subst hcells
      have hhaving : σ₀.Having c { σ.record (.caller m) (.asked (.lock c) (σ.cells c)) with
          callers := σ.callers.set m (f (σ.cells c)) } (σ.cells c) m [] :=
        ⟨hholder, rfl, _, f (σ.cells c), hfirst, .next (.asked _ _ _) (.here _), hself, hf _⟩
      refine ⟨turns, _, _, h.inTurn, .taken hhaving hnew, by simpa using hsteps, hresults, fun n hn hne => ?_⟩
      rw [List.getElem?_set_ne (by rintro rfl; exact hne hholder)]
      exact h.waiting n hn (by simp [hnone])

/-- A step of a caller keeps turns in order. -/
theorem Takings.called (h : σ₀.Takings c σ turns w now) (hc : ∀ p ∈ σ₀.callers, p.LocksFirst c)
    (hp : σ.callers[m]? = some p) (hs : p.Takes s q) (ha : σ.Admits s) :
    ∃ turns' w' now', σ₀.Takings c { σ.record (.caller m) s with callers := σ.callers.set m q } turns' w' now' := by
  by_cases hhold : σ.holder c = some (.caller m)
  · exact h.goes_on hp hs hhold
  · exact h.begins hc hp hs ha hhold

end

/-- Only the callers and the cell matter. -/
theorem Takings.congr (h : σ₀.Takings c σ turns w now) (hcallers : σ'.callers = σ.callers)
    (hholder : σ'.holder c = σ.holder c) (hcells : σ'.cells c = σ.cells c) (hcalls : calls σ'.past = calls σ.past) :
    σ₀.Takings c σ' turns w now where
  inTurn := h.inTurn
  cell := by
    cases h.cell with
    | free hnone hv => exact .free (hholder.trans hnone) (hcells.trans hv)
    | taken hv hnew =>
      exact .taken ⟨hholder.trans hv.holder, hcells.trans hv.cells, by rw [hcallers]; exact hv.under_way⟩ hnew
  steps := hcalls.trans h.steps
  results := hcallers ▸ h.results
  waiting := by
    rw [hcallers, hholder]
    exact h.waiting

/-- In every interleaving, callers that lock a cell before all else and unlock it in their last step have it in turn, if
the tasks leave it alone. -/
theorem Leads.takings (h : σ₀.Leads σ) (h₀ : σ₀.past = []) (hfree : σ₀.holder c = none)
    (hc : ∀ p ∈ σ₀.callers, p.LocksFirst c)
    (htasks : ∀ {σ : System α}, σ₀.Leads σ → ∀ t s, .took (.task t) s ∈ σ.past → ¬s.request.Touches c) :
    ∃ turns w now, σ₀.Takings c σ turns w now := by
  induction h with
  | refl => exact ⟨[], σ₀.cells c, [], .nil, .free hfree rfl, by rw [h₀]; rfl, by simp, by simp⟩
  | @next σ σ' e h hn ih =>
    obtain ⟨turns, w, now, ih⟩ := ih
    have hcalls : ∀ e : Happening, e.call? = none → calls (σ.past ++ [e]) = calls σ.past := fun e he => by
      rw [calls_append]
      simp [calls, he]
    cases hn with
    | caller hp hs ha => exact ih.called hc hp hs ha
    | @task t j p q s hp hs ha =>
      obtain ⟨hholder, hcells⟩ := record_of_not_touches (σ := σ) (.task t)
        (htasks (h.next (.task hp hs ha)) t s (by simp [record]))
      exact ⟨turns, w, now, ih.congr rfl hholder hcells (hcalls _ rfl)⟩
    | broke hp => exact ⟨turns, w, now, ih.congr rfl rfl rfl (hcalls _ rfl)⟩
    | cancelled t => exact ⟨turns, w, now, ih.congr rfl rfl rfl (hcalls _ rfl)⟩

/-! ## What each caller did -/

/-- The steps that a caller took, among those of all callers. -/
def ofCaller (n : Nat) (steps : List (Nat × Step)) : List Step :=
  steps.filterMap fun e => if e.1 = n then some e.2 else none

theorem ofCaller_append (n : Nat) (steps steps' : List (Nat × Step)) :
    ofCaller n (steps ++ steps') = ofCaller n steps ++ ofCaller n steps' := List.filterMap_append

theorem ofCaller_calls (n : Nat) (past : List Happening) : ofCaller n (calls past) = stepsOf (.caller n) past := by
  rw [ofCaller, calls, List.filterMap_filterMap, stepsOf]
  refine List.filterMap_congr fun e _ => ?_
  cases e with
  | took a s => cases a <;> simp [Happening.call?, Happening.stepOf]
  | broke => rfl
  | cancelled => rfl

theorem ofCaller_self (n : Nat) (steps : List Step) : ofCaller n (steps.map fun s => (n, s)) = steps := by
  simp [ofCaller, List.filterMap_map]

theorem ofCaller_other {n m : Nat} (h : m ≠ n) (steps : List Step) : ofCaller n (steps.map fun s => (m, s)) = [] := by
  simp [ofCaller, h]

theorem ofCaller_turns {n : Nat} {turns : List (Turn c α)} (h : n ∉ turns.map (·.caller)) :
    ofCaller n (turns.flatMap Turn.calls) = [] := by
  induction turns with
  | nil => rfl
  | cons t turns ih =>
    simp only [List.map_cons, List.mem_cons, not_or] at h
    rw [List.flatMap_cons, ofCaller_append, ih h.2, Turn.calls, ofCaller_other (Ne.symm h.1)]
    rfl

/-- The steps of a caller that had a turn are those of its turn. -/
theorem Takings.stepsOf_eq (h : σ₀.Takings c σ turns w now) {t : Turn c α} (ht : t ∈ turns) :
    stepsOf (.caller t.caller) σ.past = t.all := by
  have hnow : ofCaller t.caller now = [] := by
    cases h.cell with
    | free => rfl
    | taken hv hnew =>
      refine ofCaller_other (fun heq => hnew ?_) _
      rw [heq]
      exact List.mem_map_of_mem ht
  have hnodup := h.inTurn.nodup
  obtain ⟨before, after, rfl⟩ := List.append_of_mem ht
  simp only [List.map_append, List.map_cons, List.nodup_append, List.nodup_cons, List.mem_cons] at hnodup
  rw [← ofCaller_calls, h.steps, ofCaller_append, hnow, List.append_nil, List.flatMap_append, List.flatMap_cons,
    ofCaller_append, ofCaller_append, ofCaller_turns fun hmem => hnodup.2.2 _ hmem _ (.inl rfl) rfl,
    ofCaller_turns hnodup.2.1.1, Turn.calls, ofCaller_self, List.nil_append, List.append_nil]

/-- A caller that has just unlocked the cell had the last turn. -/
theorem Takings.after_unlock (h : σ₀.Takings c σ' turns w now) {n : Nat}
    (hn : σ.Next (.took (.caller n) (.asked (.unlock c) ())) σ') {t : Turn c α} (ht : t ∈ turns)
    (hcaller : t.caller = n) : now = [] ∧ σ'.holder c = none ∧ σ'.cells c = w ∧ w = t.left := by
  have hfree : σ'.holder c = none := by
    cases hn
    simp [record, holderAfter, Step.done?]
  have hsteps := h.steps
  have hinTurn := h.inTurn
  have hnodup := h.inTurn.nodup
  cases h.cell with
  | taken hv => cases hv.holder.symm.trans hfree
  | free _ hcells =>
    refine ⟨rfl, hfree, hcells, ?_⟩
    -- the last step of all is one of the last turn
    rcases List.eq_nil_or_concat turns with rfl | ⟨init, last, rfl⟩
    · cases ht
    have hlast : n = last.caller := by
      have hall : last.all = last.all.dropLast ++ [last.all.getLast (List.cons_ne_nil _ _)] :=
        (List.dropLast_append_getLast _).symm
      rw [hn.past, calls_append, List.append_nil, List.concat_eq_append, List.flatMap_append, List.flatMap_singleton,
        Turn.calls, hall, List.map_append, ← List.append_assoc] at hsteps
      exact (Prod.mk.inj (List.singleton_inj.1 (List.append_inj' hsteps rfl).2)).1
    obtain rfl : t = last := List.inj_on_of_nodup_map hnodup ht (by simp) (hcaller.trans hlast)
    exact (List.concat_eq_append ▸ hinTurn).eq_left

/-- A caller that is done had a turn. -/
theorem Takings.of_done (h : σ₀.Takings c σ turns w now) (hc : ∀ p ∈ σ₀.callers, p.LocksFirst c) {n : Nat} {a : α}
    (hn : σ.callers[n]? = some (.done a)) : ∃ t ∈ turns, t.caller = n ∧ t.result = a := by
  by_cases hmem : n ∈ turns.map (·.caller)
  · obtain ⟨t, ht, rfl⟩ := List.mem_map.1 hmem
    have hresult := Option.some.inj (hn.symm.trans (h.results t ht))
    exact ⟨t, ht, rfl, by cases hresult; rfl⟩
  · by_cases hhold : σ.holder c = some (.caller n)
    · cases h.cell with
      | free hholder => cases hhold.symm.trans hholder
      | @taken m own hv =>
        obtain rfl : m = n := by simpa using hv.holder.symm.trans hhold
        obtain ⟨p, q, -, -, hq, hholds⟩ := hv.under_way
        cases hn.symm.trans hq
        exact hholds.elim
    · rw [h.waiting n hmem hhold] at hn
      obtain ⟨f, hf, -⟩ := hc _ (List.mem_of_getElem? hn)
      cases hf

end System

end MessageBus
