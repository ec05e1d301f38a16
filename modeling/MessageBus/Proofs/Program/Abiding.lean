import MessageBus.Proofs.Program.Interrupted
import MessageBus.Proofs.Program.Sharing
/-!
# Programs that abide by an agreement

A program abides by an agreement (`Agreement.Abides`) if it asks only for what it may ask for, whatever the others do
meanwhile, as long as they observe it too, and if it can be dropped wherever it waits. If each program abides by it, it is
observed in every interleaving (`System.Leads.observed`).
-/

namespace MessageBus

/-- The caller waits for a reply to the request. -/
def System.Asks {α : Type} (σ : System α) (n : Nat) (r : Request) : Prop :=
  ∃ q, σ.callers[n]? = some q ∧ q.request? = some r

namespace Agreement

/-- An actor that is dropped while it waits leaves what is agreed on in its cells. -/
def CanDrop (A : Agreement) (past : List Happening) (a : Actor) (r : Request) : Prop :=
  ∀ c, holderIn past c = some a → ∀ s : Step, s.request = r → s.done? = none →
    A.Kept c (contentIn past c) (past ++ [.took a s])

/-- The rest of an actor's program abides by the agreement, and comes to an end as it should. A request that it makes may
be made in a race. -/
def Abides (A : Agreement) (a : Actor) {α : Type} (ends : α → List Happening → Prop) :
    Program α → List Happening → Prop
  | .done x, past => ends x past
  | .ask r k, past => ∀ past', A.Meanwhile a past past' → A.MayAsk past' a r ∧
      (r.canWait = true → A.CanDrop past' a r) ∧ ∀ s x, s.done? = some ⟨r, x⟩ → A.Observed (past' ++ [.took a s]) →
        Abides A a ends (k x) (past' ++ [.took a s])
  | .race _ r k, past => ∀ past', A.Meanwhile a past past' → A.MayAsk past' a r ∧
      ∀ s (x : Option r.Reply), s.request = r → (s.done? = x.map fun y => ⟨r, y⟩) → A.Observed (past' ++ [.took a s]) →
        Abides A a ends (k x) (past' ++ [.took a s])

variable {A : Agreement} {past past' past'' : List Happening} {a b : Actor} {s : Step} {c : Cell}

/-! ## Programs that abide -/

namespace Abides

variable {α β : Type} {ends ends' : α → List Happening → Prop}

theorem mayAsk {p : Program α} (h : A.Abides a ends p past) (hobserved : A.Observed past) {r : Request}
    (hr : p.request? = some r) : A.MayAsk past a r := by
  cases p with
  | done x => cases hr
  | ask r' k | race t r' k =>
    cases hr
    exact (h past (.refl hobserved)).1

/-- What others do meanwhile changes nothing. -/
theorem meanwhile (hends : ∀ x {past past'}, A.Meanwhile a past past' → ends x past → ends x past') {p : Program α}
    (h : A.Abides a ends p past) (hm : A.Meanwhile a past past') : A.Abides a ends p past' := by
  cases p with
  | done x => exact hends x hm h
  | ask r k => exact fun past'' hm' => h past'' (hm.trans hm')
  | race t r k => exact fun past'' hm' => h past'' (hm.trans hm')

/-- With a step of its own an actor observes the agreement, and goes on to abide by it. -/
theorem takes {p q : Program α} (h : A.Abides a ends p past) (hobserved : A.Observed past) (hs : p.Takes s q)
    (hlock : ∀ c v, s.done? = some ⟨.lock c, v⟩ → holderIn past c = none ∧ v = contentIn past c) :
    A.Observed (past ++ [.took a s]) ∧ A.Abides a ends q (past ++ [.took a s]) := by
  cases hs with
  | asked r k x =>
    obtain ⟨hask, -, hrest⟩ := h past (.refl hobserved)
    have hobs : A.Observed (past ++ [.took a (.asked r x)]) := hobserved.took hask hlock
    exact ⟨hobs, hrest _ x rfl hobs⟩
  | raced t r k x =>
    obtain ⟨hask, hrest⟩ := h past (.refl hobserved)
    have hobs : A.Observed (past ++ [.took a (.raced t r x)]) := hobserved.took hask hlock
    exact ⟨hobs, hrest _ x rfl rfl hobs⟩

theorem imp {p : Program α} (h : A.Abides a ends p past) (himp : ∀ x past, ends x past → ends' x past) :
    A.Abides a ends' p past := by
  induction p generalizing past with
  | done x => exact himp x past h
  | ask r k ih =>
    intro past' hm
    obtain ⟨hask, hdrop, hrest⟩ := h past' hm
    exact ⟨hask, hdrop, fun s x hd hobs => ih x (hrest s x hd hobs)⟩
  | race t r k ih =>
    intro past' hm
    obtain ⟨hask, hrest⟩ := h past' hm
    exact ⟨hask, fun s x hr hd hobs => ih x (hrest s x hr hd hobs)⟩

/-- What a program does not ask for has not happened when it comes to its end. -/
theorem mono {allowed : Request → Prop} {p : Program α} (h : A.Abides a ends p past) (hobserved : A.Observed past)
    (hp : p.Only allowed) (himp : ∀ x past', A.Onward a allowed past past' → ends x past' → ends' x past') :
    A.Abides a ends' p past := by
  -- on the program; the history at its start is kept
  suffices hall : ∀ past', A.Onward a allowed past past' → A.Abides a ends p past' → A.Abides a ends' p past' from
    hall past (.refl hobserved) h
  clear h
  intro past' hon h
  induction p generalizing past' with
  | done x => exact himp x past' hon h
  | ask r k ih =>
    intro past'' hm
    obtain ⟨hask, hdrop, hrest⟩ := h past'' hm
    refine ⟨hask, hdrop, fun s x hd hobs => ?_⟩
    refine ih x (hp.2 x) _ ?_ (hrest s x hd hobs)
    exact (hon.trans (hm.mono fun _ => False.elim)).trans (.step hobs (System.request_of_done? hd ▸ hp.1))
  | race t r k ih =>
    intro past'' hm
    obtain ⟨hask, hrest⟩ := h past'' hm
    refine ⟨hask, fun s x hr hd hobs => ?_⟩
    refine ih x (hp.2 x) _ ?_ (hrest s x hr hd hobs)
    exact (hon.trans (hm.mono fun _ => False.elim)).trans (.step hobs (hr ▸ hp.1))

theorem bind {p : Program α} {f : α → Program β} {ends : β → List Happening → Prop}
    (h : A.Abides a (fun x past => A.Abides a ends (f x) past) p past) : A.Abides a ends (p >>= f) past := by
  induction p generalizing past with
  | done x => exact h
  | ask r k ih =>
    intro past' hm
    obtain ⟨hask, hdrop, hrest⟩ := h past' hm
    exact ⟨hask, hdrop, fun s x hd hobserved => ih x (hrest s x hd hobserved)⟩
  | race t r k ih =>
    intro past' hm
    obtain ⟨hask, hrest⟩ := h past' hm
    exact ⟨hask, fun s x hr hd hobserved => ih x (hrest s x hr hd hobserved)⟩

theorem map {p : Program α} {f : α → β} {ends : β → List Happening → Prop}
    (h : A.Abides a (fun x => ends (f x)) p past) : A.Abides a ends (f <$> p) past := by
  rw [map_eq_pure_bind]
  exact bind h

/-- One attempt after another: the first fails, or the second follows. -/
theorem attempt {p : Attempt α} {f : α → Attempt β} {ends : Except Fault β → List Happening → Prop}
    (h : A.Abides a (fun x past => match x with
      | .ok y => A.Abides a ends (f y).run past
      | .error e => ends (.error e) past) p.run past) : A.Abides a ends (p >>= f).run past := by
  rw [ExceptT.run_bind]
  refine bind ?_
  convert h using 2 with x past
  cases x <;> rfl

theorem unlockAll (hA : A.Lasting) {held : List Cell} (hheld : Holds a past held)
    (hkept : ∀ c ∈ held, A.Kept c (contentIn past c) past)
    (hlast : ∀ own s c v, stepsOf a past = own ++ [s] → s.done? ≠ some ⟨.lock c, v⟩)
    {ends : Unit → List Happening → Prop} (hobserved : A.Observed past)
    (hends : ∀ past, A.Observed past → Holds a past [] → ends () past) :
    A.Abides a ends (Program.unlockAll held) past := by
  induction held generalizing past with
  | nil => exact hends past hobserved hheld
  | cons c held ih =>
    intro past' hm
    have hheld' := hheld.meanwhile hm
    have hsame : ∀ c' ∈ c :: held, A.Kept c' (contentIn past' c') past' := fun c' hc' => by
      have hholder := (hheld.mem_iff c').2 hc'
      rw [(hm.holder (fun _ => False.elim) hholder).2]
      exact hm.kept hA hholder (hkept c' hc')
    have hsteps : stepsOf a past' = stepsOf a past := by
      obtain ⟨own, hown, hnone⟩ := hm.stepsOf_eq
      cases own with
      | nil => rw [hown, List.append_nil]
      | cons s own => exact (hnone s List.mem_cons_self).elim
    refine ⟨.unlock (hA.unlock (hsteps ▸ hlast)) ((hheld'.mem_iff c).2 List.mem_cons_self)
      (hsame c List.mem_cons_self), fun hwaits => absurd hwaits Bool.false_ne_true, fun s x hd hobs => ?_⟩
    have hafter := hheld'.after hobs hd
    rw [Program.heldAfter, List.erase_cons_head] at hafter
    refine ih hafter (fun c' hc' => ?_) (fun own s' c' v hown => ?_) hobs
    · rw [contentIn_of_done past' a hd fun _ heq => by cases heq]
      exact hA.unlocking (System.request_of_done? hd) (hsame c' (List.mem_cons_of_mem _ hc'))
    · rw [stepsOf_append, stepsOf_took_self] at hown
      obtain rfl := List.singleton_inj.1 (List.append_inj' hown rfl).2
      rw [hd]
      exact fun heq => by cases heq

/-- A program that abides does so if it can be dropped; it has then unlocked all its cells. -/
theorem interruptible (hA : A.Lasting) {t : TokenId} {held : List Cell} {p : Program α}
    {ends : Option α → List Happening → Prop} (h : A.Abides a (fun x => ends (some x)) p past)
    (hheld : Holds a past held) (hends : ∀ past, A.Observed past → Holds a past [] → ends none past) :
    A.Abides a ends (Program.interruptibleFrom t held p) past := by
  induction p generalizing held past with
  | done x => exact h
  | ask r k ih =>
    cases hr : r.canWait with
    | false =>
      rw [Program.interruptibleFrom_asks hr]
      intro past' hm
      obtain ⟨hask, -, hrest⟩ := h past' hm
      exact ⟨hask, by simp [hr], fun s x hd hobs => ih x (hrest s x hd hobs) ((hheld.meanwhile hm).after hobs hd)⟩
    | true =>
      rw [Program.interruptibleFrom_waits hr]
      intro past' hm
      obtain ⟨hask, hdrop, hrest⟩ := h past' hm
      have hheld' := hheld.meanwhile hm
      refine ⟨hask, fun s x hreq hd hobs => ?_⟩
      cases x with
      | some x => exact ih x (hrest s x hd hobs) (hheld'.after hobs hd)
      | none =>
        refine bind (unlockAll hA (hheld'.lost hd) (fun c hc => ?_) (fun own s' c v hown => ?_) hobs hends)
        · rw [contentIn_of_not_touches past' a (Step.not_touches_of_lost hd)]
          exact hdrop hr c ((hheld'.mem_iff c).2 hc) s hreq hd
        · rw [stepsOf_append, stepsOf_took_self] at hown
          obtain rfl := List.singleton_inj.1 (List.append_inj' hown rfl).2
          simp [hd]
  | race u r k ih =>
    intro past' hm
    obtain ⟨hask, hrest⟩ := h past' hm
    have hheld' := hheld.meanwhile hm
    refine ⟨hask, fun s x hreq hd hobs => ih x (hrest s x hreq hd hobs) ?_⟩
    cases x with
    | some x => exact hheld'.after hobs hd
    | none => exact hheld'.lost hd

end Abides

end Agreement

/-! ## Systems in which all abide -/

namespace System

variable {α : Type} {σ : System α}

/-- The history tells who has the cells locked and what is in them. -/
theorem Leads.cells_eq {callers : List (Program α)} {jobs : List Job} {known : List Thing}
    (h : (start callers jobs known Cell.initial).Leads σ) :
    σ.holder = holderIn σ.past ∧ σ.cells = contentIn σ.past := by
  induction h with
  | refl => exact ⟨rfl, rfl⟩
  | next h hn ih =>
    rw [hn.past]
    cases hn with
    | caller | task => simp [record, ih.1, ih.2]
    | broke | cancelled => simpa [holderIn, contentIn, Happening.holders, Happening.contents] using ih

/-- If each caller's program abides by an agreement, and tasks ask only for what may be asked for at any time, the
agreement is observed in every interleaving, and what is left of each program abides by it. -/
theorem Leads.observed {A : Agreement} {callers : List (Program α)} {jobs : List Job} {known : List Thing}
    (h : (start callers jobs known Cell.initial).Leads σ) {ends : Nat → α → List Happening → Prop}
    (hends : ∀ n x {past past'}, A.Meanwhile (.caller n) past past' → ends n x past → ends n x past')
    (hcallers : ∀ n p, callers[n]? = some p → A.Abides (.caller n) (ends n) p [])
    (htasks : ∀ {σ}, (start callers jobs known Cell.initial).Leads σ → ∀ t s, .took (.task t) s ∈ σ.past →
      ∀ past, A.MayAsk past (.task t) s.request) :
    A.Observed σ.past ∧ ∀ n p, σ.callers[n]? = some p → A.Abides (.caller n) (ends n) p σ.past := by
  induction h with
  | refl => exact ⟨Agreement.observed_nil, hcallers⟩
  | @next σ σ' e h hn ih =>
    obtain ⟨hobserved, habides⟩ := ih
    obtain ⟨hholder, hcells⟩ := Leads.cells_eq h
    -- those who did nothing go on from the longer history
    have hothers : A.Observed (σ.past ++ [e]) → ∀ n p, (∀ s, e ≠ .took (.caller n) s) → σ.callers[n]? = some p →
        A.Abides (.caller n) (ends n) p (σ.past ++ [e]) := fun hobs n p hne hp =>
      (habides n p hp).meanwhile (hends n) ⟨hobs, [e], rfl, fun s hs => hne s (List.mem_singleton.1 hs).symm⟩
    have hlock : ∀ {s : Step}, σ.Admits s → ∀ c v, s.done? = some ⟨.lock c, v⟩ →
        holderIn σ.past c = none ∧ v = contentIn σ.past c := fun ha c v hd => by
      rw [← hholder, ← hcells]
      exact ha.reply _ v hd
    have hpast := hn.past
    rw [hpast]
    cases hn with
    | @caller n p q s hp hs ha =>
      obtain ⟨hobs, hq⟩ := (habides n p hp).takes hobserved hs (hlock ha)
      refine ⟨hobs, fun m p' hp' => ?_⟩
      by_cases hm : n = m
      · subst hm
        rw [List.getElem?_set_self (List.getElem?_eq_some_iff.1 hp).1] at hp'
        cases hp'
        exact hq
      · rw [List.getElem?_set_ne hm] at hp'
        exact hothers hobs m p' (fun s heq => hm (by cases heq; rfl)) hp'
    | @task t j p q s hp hs ha =>
      have hask := htasks (h.next (.task hp hs ha)) t s (by simp [record]) σ.past
      have hobs : A.Observed (σ.past ++ [.took (.task t) s]) := hobserved.took hask (hlock ha)
      exact ⟨hobs, fun m p' => hothers hobs m p' (by simp)⟩
    | @broke t =>
      have hobs : A.Observed (σ.past ++ [.broke t]) := hobserved.other (by simp)
      exact ⟨hobs, fun m p' => hothers hobs m p' (by simp)⟩
    | cancelled t =>
      have hobs : A.Observed (σ.past ++ [.cancelled t]) := hobserved.other (by simp)
      exact ⟨hobs, fun m p' => hothers hobs m p' (by simp)⟩

end System

end MessageBus
