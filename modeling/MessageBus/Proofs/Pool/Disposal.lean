import MessageBus.Proofs.Pool.Conservation
/-!
# The connections of a pool in every interleaving

What holds of a pool while it is acquired from and disposed of side by side, for one who sees only the pool and what
was asked for (`Pool.Conserved`): no connection is lost or closed twice, only closed ones are replaced, and nothing is
had of the pool from the moment that a disposal has it locked.
-/

namespace MessageBus

/-! ## Every connection in its place -/

/-- The connections whose closing was asked for, or is being asked for. -/
def System.closings {α : Type} (σ : System α) : List ConnectionId :=
  disconnected σ.past ++ σ.callers.filterMap fun m => m.request?.bind Request.disconnects?

/-- Where one element alone counts, it is all that is found. -/
theorem filterMap_of_only {α β : Type} {f : α → Option β} {l : List α} {n : Nat} {x : α} (hx : l[n]? = some x)
    (hothers : ∀ k y, n ≠ k → l[k]? = some y → f y = none) : l.filterMap f = (f x).toList := by
  induction l generalizing n with
  | nil => cases hx
  | cons y l ih =>
    cases n with
    | zero =>
      cases hx
      have hrest : l.filterMap f = [] := by
        refine List.filterMap_eq_nil_iff.2 fun y hy => ?_
        obtain ⟨k, hk⟩ := List.mem_iff_getElem?.1 hy
        exact hothers (k + 1) y (Nat.succ_ne_zero k).symm hk
      cases hf : f x <;> simp [hf, hrest]
    | succ n =>
      have hy : f y = none := hothers 0 y (Nat.succ_ne_zero n) rfl
      rw [List.filterMap_cons_none hy]
      exact ih hx fun k z hne hz => hothers (k + 1) z (by omega) hz

namespace Pool

variable {size : Nat} {uses : List Use} {σ σ' σ'' : System (Option Answer)} {g : Grip} {n : Nat}
  {m q : Program (Option Answer)} {s : Step} {u : Use}

namespace InOrder

/-- Whoever has the pool locked is a caller, and asks for what the protocol lets it ask for. -/
theorem exists_holder (h : InOrder size uses σ g) {a : Actor} (hholder : σ.holder .pool = some a) :
    ∃ (n : Nat) (m : Program (Option Answer)) (u : Use) (r : Request), a = .caller n ∧ σ.callers[n]? = some m ∧
      m.request? = some r ∧
      (r = .unlock .pool ∧ g = .nothing ∨ ∃ x p' g', Permits size u.purpose (σ.cells .pool) g r x p' g') := by
  obtain ⟨n, hlt, rfl⟩ := h.holder hholder
  obtain ⟨m, hm⟩ : ∃ m, σ.callers[n]? = some m := ⟨_, List.getElem?_eq_getElem (h.used ▸ hlt)⟩
  obtain ⟨u, hu⟩ := h.use_of_caller hm
  have hholds := (h.places hm hu).holding hholder
  obtain ⟨r, hr⟩ := hholds.exists_request
  exact ⟨n, m, u, r, rfl, hm, hr, hholds.of_request? hr⟩

theorem request?_of_other (h : InOrder size uses σ g) (hm : σ.callers[n]? = some m)
    (hhold : σ.holder .pool ≠ some (.caller n)) {r : Request} (hr : m.request? = some r) : r = .lock .pool := by
  obtain ⟨u, hu⟩ := h.use_of_caller hm
  rcases (h.places hm hu).apart hhold with hwaits | ⟨a, rfl⟩
  · exact Option.some.inj (hr.symm.trans hwaits.request?_eq)
  · cases hr

theorem closing_of_other (h : InOrder size uses σ g) (hm : σ.callers[n]? = some m)
    (hhold : σ.holder .pool ≠ some (.caller n)) : m.request?.bind Request.disconnects? = none := by
  cases hr : m.request? with
  | none => rfl
  | some r =>
    rw [h.request?_of_other hm hhold hr]
    rfl

theorem pending_eq (h : InOrder size uses σ g) :
    (σ.callers.filterMap fun m => m.request?.bind Request.disconnects?) = g.leaving := by
  cases hholder : σ.holder .pool with
  | none =>
    rw [h.free hholder]
    refine List.filterMap_eq_nil_iff.2 fun m hm => ?_
    obtain ⟨n, hn⟩ := List.mem_iff_getElem?.1 hm
    exact h.closing_of_other hn (by simp [hholder])
  | some a =>
    obtain ⟨n, m, u, r, rfl, hm, hr, hasks⟩ := h.exists_holder hholder
    rw [filterMap_of_only hm fun k m' hne hm' => h.closing_of_other hm' (by simpa [hholder] using hne), hr]
    rcases hasks with ⟨rfl, rfl⟩ | ⟨x, p', g', hpermits⟩
    · rfl
    · exact hpermits.disconnects?_eq

/-- What was opened is in the pool, on its way into it, or closed. -/
theorem perm_connected (h : InOrder size uses σ g) :
    ((σ.cells .pool).connections ++ g.coming ++ σ.closings).Perm (connected σ.past) := by
  have hconserves := h.conserves
  rw [g.held_eq, ← List.append_assoc] at hconserves
  rw [System.closings, h.pending_eq, ← List.append_assoc]
  exact (perm_append_swap ..).trans hconserves

/-- What is on its way into the pool is one connection, and putting it in is the next thing that is done. -/
theorem coming_cases (h : InOrder size uses σ g) :
    g.coming = [] ∨ ∃ (k : ConnectionId) (n : Nat) (m : Program (Option Answer)), g.coming = [k] ∧
      σ.callers[n]? = some m ∧
      m.request? = some (.put .pool ⟨(σ.cells .pool).connections ++ [k], false⟩) := by
  cases g with
  | nothing | shut k | removed k => exact .inl rfl
  | fresh k =>
    cases hholder : σ.holder .pool with
    | none => cases h.free hholder
    | some a =>
      obtain ⟨n, m, u, r, rfl, hm, hr, hasks⟩ := h.exists_holder hholder
      refine .inr ⟨k, n, m, rfl, hm, hr.trans ?_⟩
      rcases hasks with ⟨-, hg⟩ | ⟨x, p', g', hpermits⟩
      · cases hg
      · rw [hpermits.of_fresh]

/-- A connection leaves the pool in a step of an acquisition only if it was found closed in the step before. -/
theorem found_closed (h : InOrder size uses σ g) (hm : σ.callers[n]? = some m) (hu : uses[n]? = some u)
    (hacquire : u.purpose = .acquire) (ht : m.Takes s q) (ha : σ.Admits s) {k : ConnectionId}
    (hk : k ∈ (σ.cells .pool).connections) (hk' : k ∉ ((σ.record (.caller n) s).cells .pool).connections) :
    ∃ own s', stepsOf (.caller n) σ.past = own ++ [s'] ∧ s'.done? = some ⟨.isConnected k, false⟩ := by
  obtain ⟨holder', p', -, hcells, hgoes⟩ := h.goes hm hu ht ha
  rw [hcells] at hk'
  cases hgoes with
  | on hhold hpermits hq =>
    rw [hacquire] at hpermits
    exact (h.places hm hu).shut (hpermits.shut_of_left hk hk') hhold
  | off | locks | dropped => exact absurd hk hk'

/-- Unless all uses are over, one of them can go on. -/
theorem exists_next (h : InOrder size uses σ g) :
    (∀ m ∈ σ.callers, ∃ a, m = .done a) ∨ ∃ n s σ', σ.Next (.took (.caller n) s) σ' := by
  have hasks : ∀ {n : Nat} {m : Program (Option Answer)} {r : Request} (x : r.Reply), σ.callers[n]? = some m →
      m.request? = some r → σ.CanReply r x → r.makes? x = none → ∃ n s σ', σ.Next (.took (.caller n) s) σ' := by
    intro n m r x hm hr hreply hmakes
    cases m with
    | done a => cases hr
    | ask r' k =>
      cases hr
      exact ⟨n, _, _, .called x hm hreply (System.nothing_new hmakes)⟩
    | race t r' k =>
      cases hr
      exact ⟨n, _, _, .called_racing x hm hreply (System.nothing_new hmakes)⟩
  by_cases hover : ∀ m ∈ σ.callers, ∃ a, m = .done a
  · exact .inl hover
  refine .inr ?_
  cases hholder : σ.holder .pool with
  | none =>
    -- nobody has the pool locked, so whoever is not over can lock it
    obtain ⟨m, hmem, hnot⟩ : ∃ m ∈ σ.callers, ¬∃ a, m = .done a := by
      by_contra hnone
      exact hover fun m hm => by_contra fun hnot => hnone ⟨m, hm, hnot⟩
    obtain ⟨n, hm⟩ := List.mem_iff_getElem?.1 hmem
    obtain ⟨u, hu⟩ := h.use_of_caller hm
    rcases (h.places hm hu).apart (by simp [hholder]) with hwaits | hdone
    · exact hasks (σ.cells .pool) hm hwaits.request?_eq ⟨hholder, rfl⟩ rfl
    · exact absurd hdone hnot
  | some a =>
    obtain ⟨n, m, u, r, rfl, hm, hr, hcan⟩ := h.exists_holder hholder
    rcases hcan with ⟨rfl, -⟩ | ⟨x, p', g', hpermits⟩
    · exact hasks () hm hr trivial rfl
    · obtain ⟨y, hmakes, hreply⟩ := hpermits.exists_reply
      exact hasks y hm hr (hreply σ) hmakes

/-- All uses can come to their end. -/
theorem exists_leads_over (h : InOrder size uses σ g) :
    ∃ σ', σ.Leads σ' ∧ ∀ m ∈ σ'.callers, ∃ a, m = .done a :=
  System.exists_leads_over (P := fun σ => ∃ g, InOrder size uses σ g) (fun ⟨_, h⟩ hn => h.next hn)
    (fun ⟨_, h⟩ => h.exists_next) ⟨g, h⟩

end InOrder

/-! ## A pool that is given up -/

/-- The pool has been given up, or whoever has it locked is disposing of it. -/
def GivenUp (uses : List Use) (σ : System (Option Answer)) : Prop :=
  (σ.cells .pool).disposed = true ∨
    ∃ n u, σ.holder .pool = some (.caller n) ∧ uses[n]? = some u ∧ u.purpose = .dispose

namespace GivenUp

/-- Whoever acquires does not have the pool locked while it is disposed of. -/
theorem disposed_of_acquiring (hg : GivenUp uses σ) (hu : uses[n]? = some u) (hacquire : u.purpose = .acquire)
    (hhold : σ.holder .pool = some (.caller n)) : (σ.cells .pool).disposed = true := by
  rcases hg with hdisposed | ⟨k, u', hk, hu', hdispose⟩
  · exact hdisposed
  · obtain rfl : n = k := by simpa using hhold.symm.trans hk
    cases hu.symm.trans hu'
    exact absurd (hacquire.symm.trans hdispose) nofun

theorem next (hg : GivenUp uses σ) (h : InOrder size uses σ g) {e : Happening} (hn : σ.Next e σ') : GivenUp uses σ' := by
  cases hn with
  | task ht | broke ht => exact absurd ht (h.no_tasks _ _)
  | cancelled t => exact hg
  | @caller n m q s hm ht ha =>
    obtain ⟨u, hu⟩ := h.use_of_caller hm
    obtain ⟨holder', p', hholder, hcells, hgoes⟩ := h.goes hm hu ht ha
    have hleft : p'.disposed = true → GivenUp uses { σ.record (.caller n) s with callers := σ.callers.set n q } :=
      fun hp => .inl ((congrArg Pool.disposed hcells).trans hp)
    have hself : ∀ {k u'}, σ.holder .pool = some (.caller n) → σ.holder .pool = some (.caller k) →
        uses[k]? = some u' → u' = u := by
      intro k u' hhold hk hu'
      obtain rfl : n = k := by simpa using hhold.symm.trans hk
      exact Option.some.inj (hu'.symm.trans hu)
    cases hgoes with
    | on hhold hpermits hq =>
      rcases hg with hdisposed | ⟨k, u', hk, hu', hdispose⟩
      · exact hleft (hpermits.disposed hdisposed)
      · cases hself hhold hk hu'
        rw [hdispose] at hpermits
        exact hleft hpermits.disposed_of_dispose
    | off hhold hs _ hends =>
      rcases hg with hdisposed | ⟨k, u', hk, hu', hdispose⟩
      · exact hleft hdisposed
      · cases hself hhold hk hu'
        rw [hdispose] at hends
        exact hleft hends.disposed
    | locks hfree =>
      rcases hg with hdisposed | ⟨k, u', hk, -⟩
      · exact hleft hdisposed
      · cases hfree.symm.trans hk
    | dropped hhold =>
      rcases hg with hdisposed | ⟨k, u', hk, hu', hdispose⟩
      · exact hleft hdisposed
      · exact .inr ⟨k, u', hholder.trans hk, hu', hdispose⟩

/-- No connection is being opened. -/
theorem request?_ne_connect (hg : GivenUp uses σ) (h : InOrder size uses σ g) (hm : σ.callers[n]? = some m) :
    m.request? ≠ some .connect := by
  intro hr
  by_cases hhold : σ.holder .pool = some (.caller n)
  · obtain ⟨u, hu⟩ := h.use_of_caller hm
    rcases ((h.places hm hu).holding hhold).of_request? hr with ⟨hunlock, -⟩ | ⟨x, p', g', hpermits⟩
    · cases hunlock
    · obtain ⟨hacquire, hopen⟩ := hpermits.of_connect
      exact absurd ((hg.disposed_of_acquiring hu hacquire hhold).symm.trans hopen) nofun
  · cases h.request?_of_other hm hhold hr

/-- An acquisition that comes to its end has failed. -/
theorem refused (hg : GivenUp uses σ) (h : InOrder size uses σ g) (hm : σ.callers[n]? = some m)
    (hu : uses[n]? = some u) (hacquire : u.purpose = .acquire) {a : Answer} (ht : m.Takes s (.done (some a)))
    (ha : σ.Admits s) : a = .given (.error disposedFault) := by
  obtain ⟨holder', p', -, -, hgoes⟩ := h.goes hm hu ht ha
  cases hgoes with
  | on _ _ hq => exact hq.elim
  | locks _ _ _ hq => exact hq.elim
  | off hhold _ _ hends =>
    rw [hacquire] at hends
    exact hends.refused (hg.disposed_of_acquiring hu hacquire hhold)

end GivenUp

/-- From a state on nothing more is had of the pool: no connection is opened, and an acquisition that was not over fails
in the end. -/
structure Refuses (uses : List Use) (σ σ' : System (Option Answer)) : Prop where
  connects : ∃ after, σ'.past = σ.past ++ after ∧ ∀ a s, .took a s ∈ after → s.request ≠ .connect
  waits : ∀ {n : Nat} {m : Program (Option Answer)}, σ'.callers[n]? = some m → m.request? ≠ some .connect
  results : ∀ {n : Nat} {u : Use} {a : Answer}, uses[n]? = some u → u.purpose = .acquire →
    (∀ b, σ.callers[n]? ≠ some (.done b)) → σ'.callers[n]? = some (.done (some a)) →
    a = .given (.error (.connection "connection pool was disposed"))

/-- Nothing is had of a pool once it is given up. -/
theorem GivenUp.refuses (hg : GivenUp uses σ) (h : InOrder size uses σ g) (hl : σ.Leads σ') :
    (∃ g', GivenUp uses σ' ∧ InOrder size uses σ' g') ∧ Refuses uses σ σ' := by
  -- on the run; that the pool is given up and in order is carried along
  induction hl with
  | refl =>
    refine ⟨⟨g, hg, h⟩, ⟨[], (List.append_nil _).symm, fun _ _ hs => absurd hs List.not_mem_nil⟩,
      hg.request?_ne_connect h, ?_⟩
    intro n u a _ _ hbusy hdone
    exact absurd hdone (hbusy _)
  | @next σ₁ σ₂ e hl hn ih =>
    obtain ⟨⟨g₁, hg₁, h₁⟩, ⟨after, hpast, hafter⟩, hwaits, hresults⟩ := ih
    obtain ⟨g₂, h₂⟩ := h₁.next hn
    have hg₂ := hg₁.next h₁ hn
    refine ⟨⟨g₂, hg₂, h₂⟩, ⟨after ++ [e], by rw [hn.past, hpast, List.append_assoc], ?_⟩,
      hg₂.request?_ne_connect h₂, ?_⟩
    · intro a s hs
      rcases List.mem_append.1 hs with hs | hs
      · exact hafter a s hs
      · obtain rfl := List.mem_singleton.1 hs
        -- the step is of a caller, and what a step asks for was waited for before
        cases hn with
        | task ht => exact absurd ht (h₁.no_tasks _ _)
        | caller hm ht ha =>
          intro hconnect
          refine hwaits hm ?_
          cases ht <;> exact congrArg some hconnect
    · intro n u a hu hacquire hbusy hdone
      cases hn with
      | task ht | broke ht => exact absurd ht (h₁.no_tasks _ _)
      | cancelled t => exact hresults hu hacquire hbusy hdone
      | @caller k m q s hm ht ha =>
        by_cases hne : k = n
        · subst hne
          have hself : (σ₁.callers.set k q)[k]? = some q := List.getElem?_set_self (List.getElem?_eq_some_iff.1 hm).1
          cases hself.symm.trans hdone
          exact hg₁.refused h₁ hm hu hacquire ht ha
        · rw [List.getElem?_set_ne hne] at hdone
          exact hresults hu hacquire hbusy hdone

/-! ## All that holds of a pool -/

/-- What holds of a pool whatever its uses come to. -/
structure Conserved (size : Nat) (uses : List Use) (σ : System (Option Answer)) : Prop where
  /-- The pool is within its bounds. -/
  length_le : (σ.cells .pool).connections.length ≤ max size 1
  nodup : (σ.cells .pool).connections.Nodup
  /-- No connection is closed twice, and none that is closed is in the pool. -/
  once : ((σ.cells .pool).connections ++ σ.closings).Nodup
  /-- A connection that was opened is in the pool or closed, unless a caller is just putting it into the pool. -/
  somewhere : ∃ coming, ((σ.cells .pool).connections ++ coming ++ σ.closings).Perm (connected σ.past) ∧
    (coming = [] ∨ ∃ (k : ConnectionId) (n : Nat) (m : Program (Option Answer)), coming = [k] ∧
      σ.callers[n]? = some m ∧ m.request? = some (.put .pool ⟨(σ.cells .pool).connections ++ [k], false⟩))
  /-- Where everybody waits, or is over, there is no exception. -/
  settled : (∀ m ∈ σ.callers, ∀ r, m.request? = some r → r.canWait = true) →
    ((σ.cells .pool).connections ++ σ.closings).Perm (connected σ.past)
  /-- A connection that an acquisition takes out of the pool for good was found closed in the step before. -/
  evicted : ∀ {n u s σ' k}, uses[n]? = some u → u.purpose = .acquire → σ.Next (.took (.caller n) s) σ' →
    k ∈ (σ.cells .pool).connections → k ∉ (σ'.cells .pool).connections →
    ∃ own s', stepsOf (.caller n) σ.past = own ++ [s'] ∧ s'.done? = some ⟨.isConnected k, false⟩
  /-- Nothing is had of the pool once somebody who disposes of it has it locked. -/
  refuses : ∀ {n u s p σ'}, uses[n]? = some u → u.purpose = .dispose → σ.Next (.took (.caller n) s) σ' →
    s.done? = some ⟨.lock .pool, p⟩ → ∀ σ'', σ'.Leads σ'' → Refuses uses σ' σ''
  /-- The pool is empty once somebody has disposed of it, and was not dropped on the way. -/
  emptied : ∀ {n : Nat} {u : Use} {a : Answer}, uses[n]? = some u → u.purpose = .dispose →
    σ.callers[n]? = some (.done (some a)) → (σ.cells .pool).connections = []
  /-- Nobody waits in vain. -/
  goes_on : (∀ m ∈ σ.callers, ∃ a, m = .done a) ∨ ∃ n s σ', σ.Next (.took (.caller n) s) σ'
  /-- All uses can come to their end, and one that cannot be dropped gives something then. -/
  ends : ∃ σ', σ.Leads σ' ∧ ∀ {n : Nat} {u : Use}, uses[n]? = some u →
    ∃ o, σ'.callers[n]? = some (.done o) ∧ (u.token = none → o.isSome)

end Pool

namespace System

variable {size : Nat} {uses : List Pool.Use} {known : List Thing} {σ : System (Option Pool.Answer)}

/-- No connection is opened twice. -/
theorem Leads.nodup_connected (h : (pooling size uses known).Leads σ) : (connected σ.past).Nodup := by
  refine (h.nodup_made rfl).1.filterMap fun x y k hx hy => ?_
  cases x with
  | connection kx =>
    cases y with
    | connection ky =>
      cases hx
      cases hy
      rfl
    | _ => cases hy
  | _ => cases hx

/-- A use that cannot be dropped gives something. -/
theorem Leads.isSome_of_done (h : (pooling size uses known).Leads σ) {n : Nat} {u : Pool.Use} (hu : uses[n]? = some u)
    (htoken : u.token = none) {o : Option Pool.Answer} (hdone : σ.callers[n]? = some (.done o)) : o.isSome := by
  obtain ⟨purpose, token⟩ := u
  cases htoken
  have hfirst : (pooling size uses known).callers[n]? = some (some <$> purpose.program size) := by
    simp [pooling, start, hu, Pool.Use.program]
  obtain ⟨q, hq, hreach⟩ := h.caller_reaches rfl hfirst
  cases hdone.symm.trans hq
  obtain ⟨a, -, rfl⟩ := hreach.map_done
  rfl

/-- However acquisitions and disposals of a pool are interleaved, whichever of them are dropped, and whatever becomes of
the connections: every connection that was opened is in the pool or was closed once, and all else that is asked of a
pool holds. -/
theorem connections_conserved (h : (pooling size uses known).Leads σ) : Pool.Conserved size uses σ := by
  obtain ⟨g, hg⟩ := h.inOrder
  have hperm := hg.perm_connected
  have honce : ((σ.cells .pool).connections ++ σ.closings).Nodup := by
    refine (hperm.nodup_iff.2 h.nodup_connected).sublist ?_
    exact (List.sublist_append_left _ _).append_right _
  exact {
    length_le := by
      have hroom := hg.room
      rw [List.length_append] at hroom
      exact Nat.le_trans (Nat.le_add_right _ _) hroom
    nodup := (List.nodup_append.1 honce).1
    once := honce
    somewhere := ⟨g.coming, hperm, hg.coming_cases⟩
    settled := by
      intro hwait
      rcases hg.coming_cases with hnone | ⟨k, n, m, -, hm, hr⟩
      · rw [hnone, List.append_nil] at hperm
        exact hperm
      · exact absurd (hwait m (List.mem_of_getElem? hm) _ hr) nofun
    evicted := by
      intro n u s σ' k hu hacquire hn hk hk'
      cases hn with
      | caller hm ht ha => exact hg.found_closed hm hu hacquire ht ha hk hk'
    refuses := by
      intro n u s p σ' hu hdispose hn hs σ'' hl
      obtain ⟨g', hg'⟩ := hg.next hn
      refine (Pool.GivenUp.refuses (.inr ⟨n, u, ?_, hu, hdispose⟩) hg' hl).2
      cases hn with
      | caller hm ht ha => simp [record, holderAfter, hs]
    emptied := by
      intro n u a hu hdispose hdone
      rw [(hg.places hdone hu).emptied hdispose rfl]
    goes_on := hg.exists_next
    ends := by
      obtain ⟨σ', hl, hover⟩ := hg.exists_leads_over
      obtain ⟨g', hg'⟩ := (h.trans hl).inOrder
      refine ⟨σ', hl, fun {n u} hu => ?_⟩
      have hlt : n < σ'.callers.length := hg'.used ▸ (List.getElem?_eq_some_iff.1 hu).1
      obtain ⟨o, ho⟩ := hover _ (List.getElem_mem hlt)
      have hdone : σ'.callers[n]? = some (.done o) := ho ▸ List.getElem?_eq_getElem hlt
      exact ⟨o, hdone, fun htoken => (h.trans hl).isSome_of_done hu htoken hdone⟩ }

end System

/-! ## A pool in use -/

namespace Sample

/-- Acquisitions before and after a disposal; one of them may be dropped. -/
def visitors : List Pool.Use :=
  [⟨.acquire, none⟩, ⟨.acquire, some ⟨0⟩⟩, ⟨.acquire, none⟩, ⟨.dispose, none⟩, ⟨.acquire, none⟩]

end Sample

open Sample in
/-- The second acquisition finds the connection of the first closed, and is dropped while it closes it. -/
theorem System.leads_visitors :
    ∃ σ : System (Option Pool.Answer), (pooling 1 visitors []).Leads σ ∧
      σ.callers = [.done (some (.given (.ok ⟨0⟩))), .done none, .done (some (.given (.ok ⟨1⟩))), .done (some .disposed),
        .done (some (.given (.error Pool.disposedFault)))] ∧ connected σ.past = [⟨0⟩, ⟨1⟩] := by
  have h₀ : (pooling 1 visitors []).Leads _ := .refl
  -- the first acquisition opens a connection
  have h₁ := h₀.next (.called (n := 0) (r := .lock .pool) Pool.empty rfl ⟨rfl, rfl⟩ (nothing_new rfl))
  have h₂ := h₁.next (.called (n := 0) (r := .connect) (.ok ⟨0⟩) rfl trivial fun y hy => by cases hy; decide)
  have h₃ := h₂.next (.called (n := 0) (r := .put .pool _) () rfl trivial (nothing_new rfl))
  have h₄ := h₃.next (.called (n := 0) (r := .unlock .pool) () rfl trivial (nothing_new rfl))
  -- the second takes it out of the pool, and loses the race while it closes it
  have h₅ := h₄.next (.called_racing (n := 1) (r := .lock .pool) ⟨[⟨0⟩], false⟩
    (congrArg some (Program.interruptibleFrom_waits rfl)) ⟨rfl, rfl⟩ (nothing_new rfl))
  have h₆ := h₅.next (.called (n := 1) (r := .isConnected ⟨0⟩) false
    (congrArg some (Program.interruptibleFrom_asks rfl)) trivial (nothing_new rfl))
  have h₇ := h₆.next (.called (n := 1) (r := .put .pool ⟨[], false⟩) ()
    (congrArg some (Program.interruptibleFrom_asks rfl)) trivial (nothing_new rfl))
  have h₈ := h₇.next (.cancelled _ ⟨0⟩)
  have h₉ := h₈.next (.caller (n := 1) (congrArg some (Program.interruptibleFrom_waits (r := .disconnect ⟨0⟩) rfl))
    (.raced ⟨0⟩ (.disconnect ⟨0⟩) _ none) (.lost_of_cancelled (.outside (by simp)) _))
  have h₁₀ := h₉.next (.called (n := 1) (r := .unlock .pool) () rfl trivial (nothing_new rfl))
  -- the third opens another one, which is closed in the disposal
  have h₁₁ := h₁₀.next (.called (n := 2) (r := .lock .pool) ⟨[], false⟩ rfl ⟨rfl, rfl⟩ (nothing_new rfl))
  have h₁₂ := h₁₁.next (.called (n := 2) (r := .connect) (.ok ⟨1⟩) rfl trivial fun y hy => by cases hy; decide)
  have h₁₃ := h₁₂.next (.called (n := 2) (r := .put .pool _) () rfl trivial (nothing_new rfl))
  have h₁₄ := h₁₃.next (.called (n := 2) (r := .unlock .pool) () rfl trivial (nothing_new rfl))
  have h₁₅ := h₁₄.next (.called (n := 3) (r := .lock .pool) ⟨[⟨1⟩], false⟩ rfl ⟨rfl, rfl⟩ (nothing_new rfl))
  have h₁₆ := h₁₅.next (.called (n := 3) (r := .put .pool _) () rfl trivial (nothing_new rfl))
  have h₁₇ := h₁₆.next (.called (n := 3) (r := .put .pool _) () rfl trivial (nothing_new rfl))
  have h₁₈ := h₁₇.next (.called (n := 3) (r := .disconnect ⟨1⟩) () rfl trivial (nothing_new rfl))
  have h₁₉ := h₁₈.next (.called (n := 3) (r := .unlock .pool) () rfl trivial (nothing_new rfl))
  -- the last comes too late
  have h₂₀ := h₁₉.next (.called (n := 4) (r := .lock .pool) ⟨[], true⟩ rfl ⟨rfl, rfl⟩ (nothing_new rfl))
  have h₂₁ := h₂₀.next (.called (n := 4) (r := .unlock .pool) () rfl trivial (nothing_new rfl))
  exact ⟨_, h₂₁, rfl, rfl⟩

open Sample in
/-- The pool was disposed of and is empty, and both connections that were opened were closed. -/
theorem System.visitors_conserved :
    ∃ σ : System (Option Pool.Answer), (pooling 1 visitors []).Leads σ ∧
      σ.callers = [.done (some (.given (.ok ⟨0⟩))), .done none, .done (some (.given (.ok ⟨1⟩))), .done (some .disposed),
        .done (some (.given (.error Pool.disposedFault)))] ∧
      (σ.cells .pool).connections = [] ∧ σ.closings.Perm [⟨0⟩, ⟨1⟩] := by
  obtain ⟨σ, h, hcallers, hconnected⟩ := leads_visitors
  have hpool := connections_conserved h
  have hempty : (σ.cells .pool).connections = [] :=
    hpool.emptied (n := 3) (u := ⟨.dispose, none⟩) rfl rfl (by rw [hcallers]; rfl)
  have hclosed := hpool.settled fun m hm r hr => by
    rw [hcallers] at hm
    simp only [List.mem_cons, List.not_mem_nil, or_false] at hm
    rcases hm with rfl | rfl | rfl | rfl | rfl <;> cases hr
  rw [hempty, hconnected] at hclosed
  exact ⟨σ, h, hcallers, hempty, hclosed⟩

end MessageBus
