import MessageBus.Proofs.Program.Turns
/-!
# Shared cells, and what is agreed on about them

Programs side by side share cells. An `Agreement` says what a cell holds whenever nobody has it locked, and what an actor
may ask for after a history. A history observes it if whoever asked for something might do so. Who has a cell locked and
what is in it can be read off the history, so an agreement speaks of histories alone. Cells are locked in the order of
their ranks, so that nobody waits in a circle.
-/

namespace MessageBus

/-- The place of a cell in the order in which cells are locked. -/
def Cell.rank : Cell → Nat
  | .stage => 0
  | .outlet => 1
  | .pool => 2
  | .declared => 3

/-! ## Cells in a history -/

def Happening.holders (holder : Cell → Option Actor) : Happening → Cell → Option Actor
  | took a s => System.holderAfter a s holder
  | _ => holder

def Happening.contents (cells : (c : Cell) → c.Content) : Happening → (c : Cell) → c.Content
  | took _ s => System.cellsAfter s cells
  | _ => cells

/-- Who has each cell locked after a history. -/
def holderIn (past : List Happening) : Cell → Option Actor := past.foldl Happening.holders fun _ => none

/-- What is in each cell after a history. -/
def contentIn (past : List Happening) : (c : Cell) → c.Content := past.foldl Happening.contents Cell.initial

/-- The step did something with the cell. -/
def Step.Touches (c : Cell) (s : Step) : Prop := ∃ r x, s.done? = some ⟨r, x⟩ ∧ r.Touches c

theorem Request.touches_iff {r : Request} {c : Cell} :
    r.Touches c ↔ r = .lock c ∨ r = .unlock c ∨ ∃ v, r = .put c v := by
  constructor
  · intro h
    cases r with
    | lock c' =>
      cases (h : c' = c)
      exact .inl rfl
    | unlock c' =>
      cases (h : c' = c)
      exact .inr (.inl rfl)
    | put c' v =>
      cases (h : c' = c)
      exact .inr (.inr ⟨v, rfl⟩)
    | _ => exact h.elim
  · rintro (rfl | rfl | ⟨v, rfl⟩) <;> exact rfl

theorem Step.not_touches_of_request {s : Step} {c : Cell} (h : ¬s.request.Touches c) : ¬s.Touches c := by
  rintro ⟨r, x, hd, hr⟩
  exact h (System.request_of_done? hd ▸ hr)

theorem Step.not_touches_of_lost {s : Step} {c : Cell} (h : s.done? = none) : ¬s.Touches c := by
  rintro ⟨r, x, hd, -⟩
  cases h.symm.trans hd

section
variable (past : List Happening) (a : Actor) (s : Step) {e : Happening} {c : Cell}

@[simp] theorem holderIn_took : holderIn (past ++ [.took a s]) = System.holderAfter a s (holderIn past) := by
  simp [holderIn, Happening.holders]

@[simp] theorem contentIn_took : contentIn (past ++ [.took a s]) = System.cellsAfter s (contentIn past) := by
  simp [contentIn, Happening.contents]

theorem holderIn_other (h : ∀ a s, e ≠ .took a s) : holderIn (past ++ [e]) = holderIn past := by
  cases e with
  | took a s => exact absurd rfl (h a s)
  | broke | cancelled => simp [holderIn, Happening.holders]

theorem contentIn_other (h : ∀ a s, e ≠ .took a s) : contentIn (past ++ [e]) = contentIn past := by
  cases e with
  | took a s => exact absurd rfl (h a s)
  | broke | cancelled => simp [contentIn, Happening.contents]

variable {s}

theorem holderIn_of_not_touches (h : ¬s.Touches c) : holderIn (past ++ [.took a s]) c = holderIn past c := by
  rw [holderIn_took]
  cases hd : s.done? with
  | none => rw [System.holderAfter, hd]
  | some d =>
    obtain ⟨r, x⟩ := d
    have hr : ¬r.Touches c := fun hr => h ⟨r, x, hd, hr⟩
    cases r with
    | lock c' | unlock c' => simp [System.holderAfter, hd, Function.update_of_ne (Ne.symm hr : c ≠ c')]
    | _ => simp [System.holderAfter, hd]

theorem contentIn_of_not_touches (h : ¬s.Touches c) : contentIn (past ++ [.took a s]) c = contentIn past c := by
  rw [contentIn_took]
  cases hd : s.done? with
  | none => rw [System.cellsAfter, hd]
  | some d =>
    obtain ⟨r, x⟩ := d
    have hr : ¬r.Touches c := fun hr => h ⟨r, x, hd, hr⟩
    cases r with
    | put c' v => simp [System.cellsAfter, hd, Function.update_of_ne (Ne.symm hr : c ≠ c')]
    | _ => simp [System.cellsAfter, hd]

theorem holderIn_lock {v : c.Content} (h : s.done? = some ⟨.lock c, v⟩) :
    holderIn (past ++ [.took a s]) c = some a := by
  simp [System.holderAfter, h]

theorem holderIn_unlock (h : s.done? = some ⟨.unlock c, ()⟩) : holderIn (past ++ [.took a s]) c = none := by
  simp [System.holderAfter, h]

theorem contentIn_put {v : c.Content} (h : s.done? = some ⟨.put c v, ()⟩) : contentIn (past ++ [.took a s]) c = v := by
  simp [System.cellsAfter, h]

/-- Only a step that locks or unlocks a cell changes who has it. -/
theorem holderIn_of_done {r : Request} {x : r.Reply} (h : s.done? = some ⟨r, x⟩) (hlock : r ≠ .lock c)
    (hunlock : r ≠ .unlock c) : holderIn (past ++ [.took a s]) c = holderIn past c := by
  by_cases hr : r.Touches c
  · obtain ⟨v, rfl⟩ := (Request.touches_iff.1 hr).resolve_left hlock |>.resolve_left hunlock
    simp [System.holderAfter, h]
  · refine holderIn_of_not_touches past a ?_
    rintro ⟨r', x', h', hr'⟩
    cases h.symm.trans h'
    exact hr hr'

/-- Only a step that puts something into a cell changes what is in it. -/
theorem contentIn_of_done {r : Request} {x : r.Reply} (h : s.done? = some ⟨r, x⟩) (hput : ∀ v, r ≠ .put c v) :
    contentIn (past ++ [.took a s]) c = contentIn past c := by
  rw [contentIn_took, System.cellsAfter, h]
  cases r with
  | put c' v =>
    have hne : c' ≠ c := by
      rintro rfl
      exact hput v rfl
    exact Function.update_of_ne hne.symm ..
  | _ => rfl

end

/-! ## Agreements -/

/-- What is agreed on: what is in a cell that nobody has locked, and what an actor may ask for. -/
structure Agreement where
  Kept : (c : Cell) → c.Content → List Happening → Prop
  Allows : List Happening → Actor → Request → Prop

namespace Agreement

/-- An actor locks cells in order, puts something only into a cell it has locked, and leaves what is agreed on in a cell
that it unlocks. -/
structure MayAsk (A : Agreement) (past : List Happening) (a : Actor) (r : Request) : Prop where
  allowed : A.Allows past a r
  locks : ∀ c, r = .lock c → ∀ c', holderIn past c' = some a → c'.rank < c.rank
  puts : ∀ c v, r = .put c v → holderIn past c = some a
  unlocks : ∀ c, r = .unlock c → holderIn past c = some a ∧ A.Kept c (contentIn past c) past

/-- Whatever anybody did was something to ask for, and a cell was locked only while nobody had it. -/
def Observed (A : Agreement) (past : List Happening) : Prop :=
  Throughout past fun before a s => A.MayAsk before a s.request ∧
    ∀ c v, s.done? = some ⟨.lock c, v⟩ → holderIn before c = none ∧ v = contentIn before c

/-- What is kept is not for others to break, nor by unlocking something; and whoever has not just locked a cell may
unlock what it has locked. -/
structure Lasting (A : Agreement) : Prop where
  initial : ∀ c, A.Kept c c.initial []
  others : ∀ {past e c v}, A.Observed (past ++ [e]) → (∀ a s, e = .took a s → holderIn past c ≠ some a) →
    A.Kept c v past → A.Kept c v (past ++ [e])
  unlocking : ∀ {past a s c c' v}, s.request = .unlock c' → A.Kept c v past → A.Kept c v (past ++ [.took a s])
  unlock : ∀ {past a c}, (∀ own s c' v, stepsOf a past = own ++ [s] → s.done? ≠ some ⟨.lock c', v⟩) →
    A.Allows past a (.unlock c)

/-- From one history to a later one; in between the actor asked only for what is allowed. -/
structure Onward (A : Agreement) (a : Actor) (allowed : Request → Prop) (past past' : List Happening) : Prop where
  observed : A.Observed past'
  later : ∃ rest, past' = past ++ rest ∧ ∀ s, .took a s ∈ rest → allowed s.request

/-- From one history to a later one; in between the actor did nothing. -/
abbrev Meanwhile (A : Agreement) (a : Actor) : List Happening → List Happening → Prop := A.Onward a fun _ => False

/-- The actor has just these cells locked. -/
structure Holds (a : Actor) (past : List Happening) (held : List Cell) : Prop where
  nodup : held.Nodup
  mem_iff : ∀ c, holderIn past c = some a ↔ c ∈ held

variable {A : Agreement} {past past' past'' : List Happening} {a b : Actor} {s : Step} {c : Cell}

theorem MayAsk.of_apart {r : Request} (h : A.Allows past a r) (hr : ∀ c, ¬r.Touches c) : A.MayAsk past a r where
  allowed := h
  locks c hc := absurd (Request.touches_iff.2 (.inl hc)) (hr c)
  puts c v hc := absurd (Request.touches_iff.2 (.inr (.inr ⟨v, hc⟩))) (hr c)
  unlocks c hc := absurd (Request.touches_iff.2 (.inr (.inl hc))) (hr c)

theorem MayAsk.lock (h : A.Allows past a (.lock c)) (hc : ∀ c', holderIn past c' = some a → c'.rank < c.rank) :
    A.MayAsk past a (.lock c) where
  allowed := h
  locks c' hc' := by
    cases hc'
    exact hc
  puts := nofun
  unlocks := nofun

theorem MayAsk.put {v : c.Content} (h : A.Allows past a (.put c v)) (hc : holderIn past c = some a) :
    A.MayAsk past a (.put c v) where
  allowed := h
  locks := nofun
  puts c' v' hc' := by
    cases hc'
    exact hc
  unlocks := nofun

theorem MayAsk.unlock (h : A.Allows past a (.unlock c)) (hc : holderIn past c = some a)
    (hkept : A.Kept c (contentIn past c) past) : A.MayAsk past a (.unlock c) where
  allowed := h
  locks := nofun
  puts := nofun
  unlocks c' hc' := by
    cases hc'
    exact ⟨hc, hkept⟩

/-! ## Histories in which the agreement is observed -/

theorem observed_nil : A.Observed [] := .nil

theorem observed_concat {e : Happening} : A.Observed (past ++ [e]) ↔ A.Observed past ∧
    ∀ a s, e = .took a s → A.MayAsk past a s.request ∧
      ∀ c v, s.done? = some ⟨.lock c, v⟩ → holderIn past c = none ∧ v = contentIn past c :=
  Throughout.concat_iff

theorem Observed.of_append {rest : List Happening} (h : A.Observed (past ++ rest)) : A.Observed past :=
  Throughout.of_append h

theorem Observed.took (h : A.Observed past) (hask : A.MayAsk past a s.request)
    (hlock : ∀ c v, s.done? = some ⟨.lock c, v⟩ → holderIn past c = none ∧ v = contentIn past c) :
    A.Observed (past ++ [.took a s]) :=
  observed_concat.2 ⟨h, fun a' s' he => by
    cases he
    exact ⟨hask, hlock⟩⟩

theorem Observed.other (h : A.Observed past) {e : Happening} (he : ∀ a s, e ≠ .took a s) : A.Observed (past ++ [e]) :=
  observed_concat.2 ⟨h, fun a s heq => absurd heq (he a s)⟩

/-- Nobody else does anything with a cell that an actor has locked. -/
theorem Observed.not_touches (h : A.Observed (past ++ [.took b s])) (hne : b ≠ a) (hc : holderIn past c = some a) :
    ¬s.Touches c := by
  obtain ⟨hask, hlock⟩ := (observed_concat.1 h).2 b s rfl
  rintro ⟨r, x, hd, hr⟩
  have hreq := System.request_of_done? hd
  rcases Request.touches_iff.1 hr with rfl | rfl | ⟨v, rfl⟩
  · cases (hlock c x hd).1.symm.trans hc
  · exact hne (by simpa [hc, eq_comm] using (hask.unlocks c hreq).1)
  · exact hne (by simpa [hc, eq_comm] using hask.puts c v hreq)

/-- What is agreed on is in a cell that nobody has locked. -/
theorem Observed.kept (hA : A.Lasting) (h : A.Observed past) (hc : holderIn past c = none) :
    A.Kept c (contentIn past c) past := by
  -- on the history; only a step that unlocks the cell can have left it to nobody
  induction past using List.reverseRecOn with
  | nil => exact hA.initial c
  | append_singleton past e ih =>
    have hkeep : holderIn past c = none → contentIn (past ++ [e]) c = contentIn past c →
        A.Kept c (contentIn (past ++ [e]) c) (past ++ [e]) := fun hnone hcontent => by
      rw [hcontent]
      exact hA.others h (fun _ _ _ => by rw [hnone]; nofun) (ih h.of_append hnone)
    by_cases he : ∃ a s, e = .took a s
    · obtain ⟨a, s, rfl⟩ := he
      obtain ⟨hask, -⟩ := (observed_concat.1 h).2 a s rfl
      by_cases ht : s.Touches c
      · obtain ⟨r, x, hd, hr⟩ := ht
        have hreq := System.request_of_done? hd
        rcases Request.touches_iff.1 hr with rfl | rfl | ⟨v, rfl⟩
        · cases (holderIn_lock past a hd).symm.trans hc
        · obtain ⟨-, hkept⟩ := hask.unlocks c hreq
          rw [contentIn_of_done past a hd nofun]
          exact hA.unlocking hreq hkept
        · rw [holderIn_of_done past a hd nofun nofun, hask.puts c v hreq] at hc
          cases hc
      · rw [holderIn_of_not_touches past a ht] at hc
        exact hkeep hc (contentIn_of_not_touches past a ht)
    · have hother : ∀ a s, e ≠ .took a s := fun a s heq => he ⟨a, s, heq⟩
      rw [holderIn_other past hother] at hc
      exact hkeep hc (congrFun (contentIn_other past hother) c)

/-! ## From one history to a later one -/

namespace Onward

variable {allowed allowed' : Request → Prop}

theorem refl (h : A.Observed past) : A.Onward a allowed past past :=
  ⟨h, [], (List.append_nil past).symm, fun _ hs => absurd hs List.not_mem_nil⟩

theorem trans (h : A.Onward a allowed past past') (h' : A.Onward a allowed past' past'') :
    A.Onward a allowed past past'' := by
  obtain ⟨rest, rfl, hrest⟩ := h.later
  obtain ⟨rest', rfl, hrest'⟩ := h'.later
  refine ⟨h'.observed, rest ++ rest', List.append_assoc .., fun s hs => ?_⟩
  exact (List.mem_append.1 hs).elim (hrest s) (hrest' s)

theorem mono (h : A.Onward a allowed past past') (himp : ∀ r, allowed r → allowed' r) :
    A.Onward a allowed' past past' := by
  obtain ⟨rest, hpast, hrest⟩ := h.later
  exact ⟨h.observed, rest, hpast, fun s hs => himp _ (hrest s hs)⟩

theorem step (h : A.Observed (past ++ [.took a s])) (hs : allowed s.request) :
    A.Onward a allowed past (past ++ [.took a s]) :=
  ⟨h, [.took a s], rfl, fun s' hs' => by
    cases List.mem_singleton.1 hs'
    exact hs⟩

theorem concat (h : A.Onward a allowed past past') (hs : A.Observed (past' ++ [.took a s])) :
    A.Onward a (fun _ => True) past (past' ++ [.took a s]) := (h.mono fun _ _ => trivial).trans (.step hs trivial)

theorem mem (h : A.Onward a allowed past past') {e : Happening} (he : e ∈ past) : e ∈ past' := by
  obtain ⟨rest, rfl, -⟩ := h.later
  exact List.mem_append_left _ he

theorem stepsOf_eq (h : A.Onward a allowed past past') :
    ∃ own, stepsOf a past' = stepsOf a past ++ own ∧ ∀ s ∈ own, allowed s.request := by
  obtain ⟨rest, rfl, hrest⟩ := h.later
  exact ⟨stepsOf a rest, stepsOf_append .., fun s hs => hrest s (mem_stepsOf.1 hs)⟩

/-- What each event in between preserves holds in the end. -/
theorem keeps {P : List Happening → Prop} (h : A.Onward a allowed past past') (h₀ : P past)
    (hstep : ∀ past e, A.Observed (past ++ [e]) → (∀ s, e = .took a s → allowed s.request) → P past → P (past ++ [e])) :
    P past' := by
  obtain ⟨rest, rfl, hrest⟩ := h.later
  have hobserved := h.observed
  clear h
  induction rest using List.reverseRecOn with
  | nil => rwa [List.append_nil]
  | append_singleton rest e ih =>
    rw [← List.append_assoc] at hobserved ⊢
    refine hstep _ e hobserved (fun s he => hrest s (by simp [he])) (ih (fun s hs => hrest s ?_) hobserved.of_append)
    exact List.mem_append_left _ hs

/-- A cell that an actor has locked and does nothing with stays as it is. -/
theorem holder (h : A.Onward a allowed past past') (hapart : ∀ r, allowed r → ¬r.Touches c)
    (hc : holderIn past c = some a) : holderIn past' c = some a ∧ contentIn past' c = contentIn past c := by
  refine h.keeps (P := fun past' => holderIn past' c = some a ∧ contentIn past' c = contentIn past c) ⟨hc, rfl⟩ ?_
  rintro past₁ e hobserved hown ⟨hholder, hcontent⟩
  by_cases he : ∃ b s, e = .took b s
  · obtain ⟨b, s, rfl⟩ := he
    have hs : ¬s.Touches c := by
      by_cases hb : b = a
      · subst hb
        exact Step.not_touches_of_request (hapart _ (hown s rfl))
      · exact hobserved.not_touches hb hholder
    rw [holderIn_of_not_touches past₁ b hs, contentIn_of_not_touches past₁ b hs]
    exact ⟨hholder, hcontent⟩
  · have hother : ∀ b s, e ≠ .took b s := fun b s heq => he ⟨b, s, heq⟩
    rw [holderIn_other past₁ hother, contentIn_other past₁ hother]
    exact ⟨hholder, hcontent⟩

/-- An actor gets a cell only by locking it. -/
theorem holder_ne (h : A.Onward a allowed past past') (hlock : ¬allowed (.lock c))
    (hc : holderIn past c ≠ some a) : holderIn past' c ≠ some a := by
  refine h.keeps (P := fun past' => holderIn past' c ≠ some a) hc ?_
  intro past₁ e hobserved hown hne hholder
  by_cases he : ∃ b s, e = .took b s
  · obtain ⟨b, s, rfl⟩ := he
    by_cases ht : s.Touches c
    · obtain ⟨r, x, hd, hr⟩ := ht
      have hreq := System.request_of_done? hd
      rcases Request.touches_iff.1 hr with rfl | rfl | ⟨v, rfl⟩
      · obtain rfl : b = a := by simpa [holderIn_lock past₁ b hd] using hholder
        exact hlock (hreq ▸ hown s rfl)
      · cases (holderIn_unlock past₁ b hd).symm.trans hholder
      · exact hne ((holderIn_of_done past₁ b hd nofun nofun).symm.trans hholder)
    · exact hne ((holderIn_of_not_touches past₁ b ht).symm.trans hholder)
  · exact hne (holderIn_other past₁ (fun b s heq => he ⟨b, s, heq⟩) ▸ hholder)

/-- What is kept of a cell stays so while the actor that has it locked does nothing. -/
theorem kept (hA : A.Lasting) (h : A.Meanwhile a past past') (hc : holderIn past c = some a) {v : c.Content}
    (hv : A.Kept c v past) : A.Kept c v past' := by
  refine (h.keeps (P := fun past' => holderIn past' c = some a ∧ A.Kept c v past') ⟨hc, hv⟩ ?_).2
  rintro past₁ e hobserved hown ⟨hholder, hkept⟩
  refine ⟨?_, hA.others hobserved (fun b s he heq => ?_) hkept⟩
  · have hone : A.Meanwhile a past₁ (past₁ ++ [e]) :=
      ⟨hobserved, [e], rfl, fun s hs => hown s (List.mem_singleton.1 hs).symm⟩
    exact (hone.holder (fun _ => False.elim) hholder).1
  · obtain rfl : b = a := by simpa [hholder, eq_comm] using heq
    exact hown s he

end Onward

/-- Whoever has just locked a cell has it locked, with what it found there. -/
theorem Observed.of_lock (h : A.Observed past) {own : List Step} {v : c.Content}
    (hown : stepsOf a past = own ++ [s]) (hd : s.done? = some ⟨.lock c, v⟩) :
    holderIn past c = some a ∧ contentIn past c = v := by
  obtain ⟨before, rest, rfl, -, hlast⟩ := List.filterMap_eq_append_iff.1 hown
  obtain ⟨idle, e, after, rfl, hidle, he, hafter⟩ := List.filterMap_eq_cons_iff.1 hlast
  obtain rfl : e = .took a s := by
    cases e with
    | took b s' =>
      simp only [Happening.stepOf, Option.ite_none_right_eq_some, Option.some.injEq] at he
      obtain ⟨rfl, rfl⟩ := he
      rfl
    | broke | cancelled => cases he
  have hmeanwhile : A.Meanwhile a (before ++ idle ++ [.took a s]) (before ++ (idle ++ .took a s :: after)) := by
    refine ⟨h, after, by simp, fun s' hs' => ?_⟩
    have hmem : s' ∈ stepsOf a after := mem_stepsOf.2 hs'
    rw [stepsOf, hafter] at hmem
    exact List.not_mem_nil hmem
  obtain ⟨hholder, hcontent⟩ := hmeanwhile.holder (fun _ => False.elim) (holderIn_lock _ a hd)
  refine ⟨hholder, hcontent.trans ?_⟩
  rw [contentIn_of_done _ a hd fun _ heq => by cases heq]
  exact ((h (before ++ idle) a s after (by simp)).2 c v hd).2.symm

/-! ## What an actor has locked -/

namespace Holds

variable {held : List Cell}

theorem meanwhile (h : Holds a past held) (hm : A.Meanwhile a past past') : Holds a past' held where
  nodup := h.nodup
  mem_iff c := by
    refine ⟨fun hc => ?_, fun hc => (hm.holder (fun _ => False.elim) ((h.mem_iff c).2 hc)).1⟩
    by_contra hmem
    exact hm.holder_ne id (fun hc => hmem ((h.mem_iff c).1 hc)) hc

theorem after (h : Holds a past held) (hobserved : A.Observed (past ++ [.took a s])) {r : Request} {x : r.Reply}
    (hd : s.done? = some ⟨r, x⟩) : Holds a (past ++ [.took a s]) (Program.heldAfter held r) := by
  obtain ⟨-, hlock⟩ := (observed_concat.1 hobserved).2 a s rfl
  have hsame : (∀ c, r ≠ .lock c) → (∀ c, r ≠ .unlock c) → Holds a (past ++ [.took a s]) held := fun hl hu =>
    ⟨h.nodup, fun c => by rw [holderIn_of_done past a hd (hl c) (hu c), h.mem_iff]⟩
  cases r with
  | lock c =>
    have hnew : c ∉ held := fun hc => by
      cases ((h.mem_iff c).2 hc).symm.trans (hlock c x hd).1
    refine ⟨List.nodup_cons.2 ⟨hnew, h.nodup⟩, fun c' => ?_⟩
    by_cases hc : c' = c
    · subst hc
      simp [holderIn_lock past a hd, Program.heldAfter]
    · rw [holderIn_of_done past a hd (fun heq => hc (Request.lock.inj heq).symm) nofun, h.mem_iff]
      simp [Program.heldAfter, hc]
  | unlock c =>
    refine ⟨h.nodup.erase c, fun c' => ?_⟩
    rw [Program.heldAfter, h.nodup.mem_erase_iff]
    by_cases hc : c' = c
    · subst hc
      simp [holderIn_unlock past a hd]
    · rw [holderIn_of_done past a hd nofun (fun heq => hc (Request.unlock.inj heq).symm), h.mem_iff]
      simp [hc]
  | _ => exact hsame nofun nofun

theorem lost (h : Holds a past held) (hd : s.done? = none) : Holds a (past ++ [.took a s]) held where
  nodup := h.nodup
  mem_iff c := by rw [holderIn_of_not_touches past a (Step.not_touches_of_lost hd), h.mem_iff]

end Holds

end Agreement

end MessageBus
