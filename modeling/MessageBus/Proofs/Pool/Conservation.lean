import MessageBus.Proofs.Pool.Holding
/-!
# No connection of the pool is lost

A step of the holder moves connections between the pool, its own hands and those that were closed, and opens new ones
(`Pool.Permits.moves`). A pool that is used side by side is therefore in order at all times (`Pool.InOrder`): its steps
are those of whoever has it locked (`InOrder.goes_on`), and those with which it is locked and unlocked change nothing
else (`InOrder.quiet`).
-/

namespace MessageBus

/-- The last two of three parts change places. -/
theorem perm_append_swap {α : Type} (l l' l'' : List α) : (l ++ l' ++ l'').Perm (l ++ l'' ++ l') := by
  rw [List.append_assoc, List.append_assoc]
  exact List.perm_append_comm.append_left l

/-- The connection that was opened in the step. -/
def Step.connects? (s : Step) : Option ConnectionId :=
  match s.done? with
  | some ⟨.connect, .ok k⟩ => some k
  | _ => none

/-- The connection that came into being. -/
def Thing.connection? : Thing → Option ConnectionId
  | connection k => some k
  | _ => none

theorem Step.connection?_made (s : Step) : s.made.filterMap Thing.connection? = s.connects?.toList := by
  unfold made connects?
  cases s.done? with
  | none => rfl
  | some d =>
    obtain ⟨r, x⟩ := d
    cases r with
    | connect | consume _ _ _ | createChannel | openChannel _ => cases x <;> rfl
    | _ => rfl

/-- The connections that were opened, in order. -/
def connected (past : List Happening) : List ConnectionId := (System.made past).filterMap Thing.connection?

/-- The connections that were closed, in order; one whose closing was broken off is among them. -/
def disconnected (past : List Happening) : List ConnectionId :=
  past.filterMap fun e => e.step?.bind fun s => s.request.disconnects?

section
variable (past : List Happening) (a : Actor) (s : Step) (t : TokenId)

@[simp] theorem connected_took : connected (past ++ [.took a s]) = connected past ++ s.connects?.toList := by
  rw [← s.connection?_made, connected, connected, ← List.filterMap_append]
  simp [System.made]

@[simp] theorem disconnected_took :
    disconnected (past ++ [.took a s]) = disconnected past ++ s.request.disconnects?.toList := by
  cases h : s.request.disconnects? <;> simp [disconnected, Happening.step?, h]

@[simp] theorem connected_cancelled : connected (past ++ [.cancelled t]) = connected past := by
  simp [connected, System.made]

@[simp] theorem disconnected_cancelled : disconnected (past ++ [.cancelled t]) = disconnected past := by
  simp [disconnected, Happening.step?]

end

theorem Step.done?_eq (s : Step) : s.done? = s.reply?.map fun x => ⟨s.request, x⟩ := by
  cases s <;> rfl

namespace Pool

/-- What a step of the holder changes: what the pool holds, and where connections are; nothing else. -/
structure Moves (s : Step) (p : Pool) (g : Grip) (p' : Pool) (g' : Grip) : Prop where
  cells : ∀ cells : (c : Cell) → c.Content, cells .pool = p → System.cellsAfter s cells .pool = p'
  holder : ∀ a holder, System.holderAfter a s holder = holder
  spawns : s.spawn? = none
  conserves : (p'.connections ++ g'.held ++ s.request.disconnects?.toList).Perm
    (p.connections ++ g.held ++ s.connects?.toList)

theorem Permits.moves {size : Nat} {u : Purpose} {p p' : Pool} {g g' : Grip} {s : Step} {r : Request}
    {x : Option r.Reply} (h : Permits size u p g r x p' g') (hr : s.request = r)
    (hd : s.done? = x.map fun y => ⟨r, y⟩) : Moves s p g p' g' := by
  have hperm : ∀ (k : ConnectionId) (ks : List ConnectionId), (ks ++ [k]).Perm (k :: ks) :=
    fun k ks => List.perm_append_singleton k ks
  cases h with
  | closed h k x =>
    cases x <;> constructor <;>
      simp [System.cellsAfter, System.holderAfter, Step.spawn?, Step.connects?, Request.disconnects?, Grip.held, hr, hd]
  | _ =>
    constructor <;>
      simp [System.cellsAfter, System.holderAfter, Step.spawn?, Step.connects?, Request.disconnects?, Grip.held, hr, hd,
        hperm]

/-- What was found closed was found so in this step. -/
theorem Permits.found_closed {size : Nat} {u : Purpose} {p p' : Pool} {g : Grip} {r : Request} {x : Option r.Reply}
    {k : ConnectionId} (h : Permits size u p g r x p' (.shut k)) :
    x.map (fun y => (⟨r, y⟩ : (r : Request) × r.Reply)) = some ⟨.isConnected k, false⟩ := by
  cases h
  rfl

/-- What one use of the pool has come to. While it has the pool locked it keeps to the protocol with what is in the grip,
and what it found closed it found so in its last step; before and after it waits for the pool or is over. A pool that it
has disposed of is empty. -/
structure InPlace (size : Nat) (σ : System (Option Answer)) (g : Grip) (n : Nat) (u : Use)
    (m : Program (Option Answer)) : Prop where
  holding : σ.holder .pool = some (.caller n) → m.HoldsPool size u.purpose u.purpose.Ends (σ.cells .pool) g
  apart : σ.holder .pool ≠ some (.caller n) →
    m.WaitsPool size u.purpose u.purpose.Ends ∨ ∃ a, m = .done a
  shut : ∀ {k}, g = .shut k → σ.holder .pool = some (.caller n) →
    ∃ own s, stepsOf (.caller n) σ.past = own ++ [s] ∧ s.done? = some ⟨.isConnected k, false⟩
  emptied : ∀ {a : Answer}, u.purpose = .dispose → m = .done (some a) → σ.cells .pool = ⟨[], true⟩

/-- Uses of a pool side by side, and a pool in order: each use is in its place, whoever has the pool locked is one of
them, there is room in the pool, and what was opened is in it, in the holder's hands or closed. -/
structure InOrder (size : Nat) (uses : List Use) (σ : System (Option Answer)) (g : Grip) : Prop where
  tasks : σ.tasks = []
  used : σ.callers.length = uses.length
  places : ∀ {n m u}, σ.callers[n]? = some m → uses[n]? = some u → InPlace size σ g n u m
  holder : ∀ {a}, σ.holder .pool = some a → ∃ n < uses.length, a = .caller n
  free : σ.holder .pool = none → g = .nothing
  room : ((σ.cells .pool).connections ++ g.coming).length ≤ capacity size
  conserves : ((σ.cells .pool).connections ++ g.held ++ disconnected σ.past).Perm (connected σ.past)

namespace InOrder

variable {size : Nat} {uses : List Use} {σ σ' : System (Option Answer)} {g g' : Grip} {n : Nat}
  {m q : Program (Option Answer)} {s : Step} {u : Use}

/-- All uses are in their places after a step of one of them, if that one is and the others stay in theirs. -/
theorem places_set (h : InOrder size uses σ g) (hm : σ.callers[n]? = some m) (hu : uses[n]? = some u)
    (hself : InPlace size σ' g' n u q)
    (hothers : ∀ {k m' u'}, n ≠ k → InPlace size σ g k u' m' → InPlace size σ' g' k u' m')
    {k : Nat} {m' : Program (Option Answer)} {u' : Use} (hm' : (σ.callers.set n q)[k]? = some m')
    (hu' : uses[k]? = some u') : InPlace size σ' g' k u' m' := by
  by_cases hne : n = k
  · subst hne
    rw [List.getElem?_set_self (List.getElem?_eq_some_iff.1 hm).1] at hm'
    cases hm'
    cases hu.symm.trans hu'
    exact hself
  · rw [List.getElem?_set_ne hne] at hm'
    exact hothers hne (h.places hm' hu')

/-- The holder goes on. -/
theorem goes_on (h : InOrder size uses σ g) (hm : σ.callers[n]? = some m) (hu : uses[n]? = some u)
    (hhold : σ.holder .pool = some (.caller n)) {p' : Pool}
    (hpermits : Permits size u.purpose (σ.cells .pool) g s.request s.reply? p' g')
    (hq : q.HoldsPool size u.purpose u.purpose.Ends p' g') :
    InOrder size uses { σ.record (.caller n) s with callers := σ.callers.set n q } g' := by
  have hmoves := hpermits.moves rfl s.done?_eq
  have hcells : (σ.record (.caller n) s).cells .pool = p' := hmoves.cells σ.cells rfl
  have hholder : (σ.record (.caller n) s).holder .pool = some (.caller n) := by
    rw [← hhold]
    exact congrFun (hmoves.holder (.caller n) σ.holder) .pool
  exact {
    tasks := by
      change σ.tasks ++ _ = []
      rw [hmoves.spawns, h.tasks]
      rfl
    used := (List.length_set ..).trans h.used
    places := by
      refine h.places_set hm hu ?_ fun {k m' u'} hne hplace => ?_
      · refine ⟨fun _ => hcells.symm ▸ hq, fun hout => absurd hholder hout, ?_, ?_⟩
        · rintro k rfl -
          refine ⟨stepsOf (.caller n) σ.past, s, ?_, s.done?_eq.trans hpermits.found_closed⟩
          change stepsOf (.caller n) (σ.past ++ [.took (.caller n) s]) = _
          rw [stepsOf_append, stepsOf_took_self]
        · rintro a - rfl
          exact hq.elim
      · -- nobody else has the pool locked, before or after
        have hout : σ.holder .pool ≠ some (.caller k) := by simpa [hhold] using hne
        have hin : (σ.record (.caller n) s).holder .pool ≠ some (.caller k) := hholder.trans_ne (hhold ▸ hout)
        refine ⟨fun hk => absurd hk hin, fun _ => hplace.apart hout, fun _ hk => absurd hk hin, ?_⟩
        intro a hdispose hdone
        rw [hplace.emptied hdispose hdone] at hpermits
        exact hcells.trans hpermits.emptied
    holder := by
      intro a ha
      cases hholder.symm.trans ha
      exact h.holder hhold
    free := fun hnone => by cases hholder.symm.trans hnone
    room := by
      change (((σ.record (.caller n) s).cells .pool).connections ++ g'.coming).length ≤ capacity size
      rw [hcells]
      exact hpermits.room h.room
    conserves := by
      change (((σ.record (.caller n) s).cells .pool).connections ++ g'.held ++
        disconnected (σ.past ++ [.took (.caller n) s])).Perm (connected (σ.past ++ [.took (.caller n) s]))
      rw [hcells, disconnected_took, connected_took]
      -- what is closed and what is opened in the step, each behind what was before
      rw [← List.append_assoc]
      refine (perm_append_swap ..).trans ((hmoves.conserves.append_right _).trans ?_)
      exact (perm_append_swap ..).trans (h.conserves.append_right _) }

/-- A caller takes or leaves the pool, or stops waiting for it: the pool and the connections are as they were. -/
theorem quiet (h : InOrder size uses σ g) (hm : σ.callers[n]? = some m) (hu : uses[n]? = some u)
    (hspawns : s.spawn? = none) (hconnects : s.connects? = none) (hdisconnects : s.request.disconnects? = none)
    (hcells : (σ.record (.caller n) s).cells .pool = σ.cells .pool)
    (hothers : ∀ a, .caller n ≠ a → ((σ.record (.caller n) s).holder .pool = some a ↔ σ.holder .pool = some a))
    (hin : (σ.record (.caller n) s).holder .pool = some (.caller n) →
      g = .nothing ∧ q.HoldsPool size u.purpose u.purpose.Ends (σ.cells .pool) .nothing)
    (hout : (σ.record (.caller n) s).holder .pool ≠ some (.caller n) → ∃ a, q = .done a ∧
      ∀ b, a = some b → u.purpose.Ends a (σ.cells .pool))
    (hfree : (σ.record (.caller n) s).holder .pool = none → g = .nothing) :
    InOrder size uses { σ.record (.caller n) s with callers := σ.callers.set n q } g where
  tasks := by
    change σ.tasks ++ _ = []
    rw [hspawns, h.tasks]
    rfl
  used := (List.length_set ..).trans h.used
  places := by
    refine h.places_set hm hu ?_ fun {k m' u'} hne hplace => ?_
    · refine ⟨fun hk => ?_, fun hk => ?_, fun hg hk => ?_, fun {a} hdispose hdone => ?_⟩
      · obtain ⟨rfl, hq⟩ := hin hk
        exact hcells.symm ▸ hq
      · obtain ⟨a, ha, -⟩ := hout hk
        exact .inr ⟨a, ha⟩
      · cases (hin hk).1.symm.trans hg
      · obtain ⟨b, hb, hends⟩ := hout fun hk => (hdone ▸ (hin hk).2).elim
        cases hb.symm.trans hdone
        exact hcells.trans (hdispose ▸ hends a rfl).emptied
    · have hsame := hothers (.caller k) (by simpa using hne)
      refine ⟨fun hk => hcells.symm ▸ hplace.holding (hsame.1 hk), fun hk => hplace.apart (mt hsame.2 hk), ?_,
        fun hdispose hdone => hcells.trans (hplace.emptied hdispose hdone)⟩
      intro c hg hk
      change ∃ own s', stepsOf (.caller k) (σ.past ++ [.took (.caller n) s]) = own ++ [s'] ∧ _
      rw [stepsOf_append, stepsOf_took_ne _ (by simpa using hne), List.append_nil]
      exact hplace.shut hg (hsame.1 hk)
  holder := by
    intro a ha
    by_cases hne : .caller n = a
    · exact ⟨n, (List.getElem?_eq_some_iff.1 hu).1, hne.symm⟩
    · exact h.holder ((hothers a hne).1 ha)
  free := hfree
  room := by
    change (((σ.record (.caller n) s).cells .pool).connections ++ g.coming).length ≤ capacity size
    rw [hcells]
    exact h.room
  conserves := by
    change (((σ.record (.caller n) s).cells .pool).connections ++ g.held ++
      disconnected (σ.past ++ [.took (.caller n) s])).Perm (connected (σ.past ++ [.took (.caller n) s]))
    rw [hcells, disconnected_took, connected_took, hconnects, hdisconnects]
    simpa using h.conserves

theorem use_of_caller (h : InOrder size uses σ g) (hm : σ.callers[n]? = some m) : ∃ u, uses[n]? = some u := by
  have hlt : n < uses.length := h.used ▸ (List.getElem?_eq_some_iff.1 hm).1
  exact ⟨uses[n], List.getElem?_eq_getElem hlt⟩

/-- What a caller's step does, with who has the pool locked after it, and what the pool holds then. -/
inductive Goes (size : Nat) (σ : System (Option Answer)) (g : Grip) (n : Nat) (u : Use) (s : Step) :
    Program (Option Answer) → Option Actor → Pool → Prop
  | on {q : Program (Option Answer)} {p' : Pool} {g' : Grip} (hhold : σ.holder .pool = some (.caller n))
      (hpermits : Permits size u.purpose (σ.cells .pool) g s.request s.reply? p' g')
      (hq : q.HoldsPool size u.purpose u.purpose.Ends p' g') : Goes size σ g n u s q (some (.caller n)) p'
  | off {x : Unit} {a : Option Answer} (hhold : σ.holder .pool = some (.caller n))
      (hs : s = .asked (.unlock .pool) x) (hg : g = .nothing) (hends : u.purpose.Ends a (σ.cells .pool)) :
      Goes size σ g n u s (.done a) none (σ.cells .pool)
  | locks {q : Program (Option Answer)} (hfree : σ.holder .pool = none)
      (hs : s.done? = some ⟨.lock .pool, σ.cells .pool⟩) (hg : g = .nothing)
      (hq : q.HoldsPool size u.purpose u.purpose.Ends (σ.cells .pool) .nothing) :
      Goes size σ g n u s q (some (.caller n)) (σ.cells .pool)
  | dropped {t : TokenId} (hhold : σ.holder .pool ≠ some (.caller n)) (hs : s = .raced t (.lock .pool) none) :
      Goes size σ g n u s (.done none) (σ.holder .pool) (σ.cells .pool)

theorem goes (h : InOrder size uses σ g) (hm : σ.callers[n]? = some m) (hu : uses[n]? = some u) (hs : m.Takes s q)
    (ha : σ.Admits s) :
    ∃ holder' p', (σ.record (.caller n) s).holder .pool = holder' ∧ (σ.record (.caller n) s).cells .pool = p' ∧
      Goes size σ g n u s q holder' p' := by
  -- the holder goes on or lets go; anybody else that is not over locks the pool or is dropped
  by_cases hhold : σ.holder .pool = some (.caller n)
  · rcases ((h.places hm hu).holding hhold).takes hs with ⟨⟨x, rfl⟩, rfl, a, rfl, hends⟩ | ⟨p', g', hpermits, hq⟩
    · refine ⟨none, _, ?_, rfl, .off hhold rfl rfl hends⟩
      simp [System.record, System.holderAfter, Step.done?]
    · have hmoves := hpermits.moves rfl s.done?_eq
      refine ⟨some (.caller n), p', ?_, hmoves.cells σ.cells rfl, .on hhold hpermits hq⟩
      rw [← hhold]
      exact congrFun (hmoves.holder (.caller n) σ.holder) .pool
  · rcases (h.places hm hu).apart hhold with hwaits | ⟨a, rfl⟩
    · rcases hwaits.takes hs with ⟨p, hd, hq⟩ | ⟨⟨t, rfl⟩, rfl⟩
      · obtain ⟨hfree, rfl⟩ : σ.holder .pool = none ∧ p = σ.cells .pool := ha.reply _ _ hd
        have hfits : (σ.cells .pool).connections.length ≤ capacity size := by
          have hroom := h.room
          rw [List.length_append] at hroom
          omega
        refine ⟨some (.caller n), _, ?_, ?_, .locks hfree hd (h.free hfree) (hq hfits)⟩
        · simp [System.record, System.holderAfter, hd]
        · simp [System.record, System.cellsAfter, hd]
      · exact ⟨_, _, rfl, rfl, .dropped hhold rfl⟩
    · exact absurd hs Program.Takes.not_done

/-- Whatever a caller does next, the pool stays in order. -/
theorem takes (h : InOrder size uses σ g) (hm : σ.callers[n]? = some m) (ht : m.Takes s q) (ha : σ.Admits s) :
    ∃ g', InOrder size uses { σ.record (.caller n) s with callers := σ.callers.set n q } g' := by
  obtain ⟨u, hu⟩ := h.use_of_caller hm
  obtain ⟨holder', p', hholder, hcells, hgoes⟩ := h.goes hm hu ht ha
  cases hgoes with
  | on hhold hpermits hq => exact ⟨_, h.goes_on hm hu hhold hpermits hq⟩
  | off hhold hs hg hends =>
    subst hs
    refine ⟨g, h.quiet hm hu rfl rfl rfl hcells (fun a hne => ?_) (fun hin => ?_) (fun _ => ?_) fun _ => hg⟩
    · rw [hholder, hhold]
      simpa using hne
    · cases hholder.symm.trans hin
    · exact ⟨_, rfl, fun _ _ => hends⟩
  | locks hfree hs hg hq =>
    refine ⟨g, h.quiet hm hu ?_ ?_ ?_ hcells (fun a hne => ?_) (fun _ => ⟨hg, hq⟩) (fun hout => absurd hholder hout)
      fun _ => hg⟩
    · simp [Step.spawn?, hs]
    · simp [Step.connects?, hs]
    · rw [System.request_of_done? hs]
      rfl
    · rw [hholder, hfree]
      simpa using hne
  | dropped hhold hs =>
    subst hs
    exact ⟨g, h.quiet hm hu rfl rfl rfl hcells (fun a _ => Iff.rfl) (fun hin => absurd hin hhold)
      (fun _ => ⟨none, rfl, fun _ hb => by cases hb⟩) h.free⟩

theorem no_tasks (h : InOrder size uses σ g) (t : TaskId) (task : Task) : σ.tasks[t.number]? ≠ some task := by
  intro ht
  rw [h.tasks] at ht
  cases ht

theorem next {e : Happening} (h : InOrder size uses σ g) (hn : σ.Next e σ') : ∃ g', InOrder size uses σ' g' := by
  cases hn with
  | caller hm hs ha => exact h.takes hm hs ha
  | task ht | broke ht => exact absurd ht (h.no_tasks _ _)
  | cancelled t =>
    refine ⟨g, { h with places := fun hm hu => ?_, conserves := ?_ }⟩
    · have hplace := h.places hm hu
      refine ⟨hplace.holding, hplace.apart, fun hg hk => ?_, hplace.emptied⟩
      rw [stepsOf_append, stepsOf_cancelled, List.append_nil]
      exact hplace.shut hg hk
    · rw [disconnected_cancelled, connected_cancelled]
      exact h.conserves

end InOrder

end Pool

namespace System

/-- Uses of a pool side by side; there is nothing in the pool yet. -/
def pooling (size : Nat) (uses : List Pool.Use) (known : List Thing) : System (Option Pool.Answer) :=
  .start (uses.map (·.program size)) [] known Cell.initial

variable {size : Nat} {uses : List Pool.Use} {known : List Thing} {σ : System (Option Pool.Answer)}

theorem inOrder_pooling : Pool.InOrder size uses (pooling size uses known) .nothing where
  tasks := rfl
  used := List.length_map ..
  places := by
    intro n m u hm hu
    obtain ⟨u', hu', rfl⟩ : ∃ u', uses[n]? = some u' ∧ u'.program size = m := by
      simpa [pooling, start] using hm
    cases hu.symm.trans hu'
    have hwaits := Pool.waitsPool_program size u
    refine ⟨nofun, fun _ => .inl hwaits, nofun, fun _ hdone => ?_⟩
    rw [hdone] at hwaits
    exact hwaits.elim
  holder := nofun
  free _ := rfl
  room := Nat.zero_le _
  conserves := .refl []

/-- In every interleaving the pool is in order. -/
theorem Leads.inOrder (h : (pooling size uses known).Leads σ) : ∃ g, Pool.InOrder size uses σ g := by
  induction h with
  | refl => exact ⟨.nothing, inOrder_pooling⟩
  | next _ hn ih =>
    obtain ⟨g, hg⟩ := ih
    exact hg.next hn

end System

end MessageBus
