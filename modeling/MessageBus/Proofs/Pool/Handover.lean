import MessageBus.Proofs.Pool.Disposal
/-!
# A call that gets a connection

What an acquisition does that gets a connection is one of three things (`Pool.Gets`): it opens one, reuses the oldest one
of the pool, or replaces it. `System.Leads.handed` finds the moments at which the call locked and unlocked the pool, and
says what came in between (`Pool.Handed`). Whether a connection is open is up to the broker; all that is known of it is
what the pool was told, and that no connection closed during the call.
-/

namespace MessageBus

/-- Whether the request opens a connection. -/
def Request.isConnect : Request → Bool
  | connect => true
  | _ => false

/-! ## One step among those of its actor -/

section
variable {a : Actor} {past : List Happening} {s : Step} {steps : List Step}

theorem exists_took_first (h : stepsOf a past = s :: steps) :
    ∃ before after, past = before ++ .took a s :: after ∧ stepsOf a before = [] ∧ stepsOf a after = steps := by
  obtain ⟨before, e, after, rfl, hbefore, he, hafter⟩ := List.filterMap_eq_cons_iff.1 h
  have hs : s ∈ stepsOf a [e] := List.mem_filterMap.2 ⟨e, List.mem_singleton_self e, he⟩
  obtain rfl := List.mem_singleton.1 (mem_stepsOf.1 hs)
  exact ⟨before, after, rfl, List.filterMap_eq_nil_iff.2 hbefore, hafter⟩

theorem exists_took_last (h : stepsOf a past = steps ++ [s]) :
    ∃ before after, past = before ++ .took a s :: after ∧ stepsOf a before = steps ∧ stepsOf a after = [] := by
  obtain ⟨before, rest, rfl, hbefore, hrest⟩ := List.filterMap_eq_append_iff.1 h
  obtain ⟨between, after, rfl, hbetween, hafter⟩ := exists_took_first hrest
  refine ⟨before ++ between, after, (List.append_assoc ..).symm, ?_, hafter⟩
  rw [stepsOf_append, hbetween, List.append_nil]
  exact hbefore

end

namespace Pool

variable {size : Nat} {k : ConnectionId} {p : Pool} {steps own : List Step}

/-- What an acquisition that gets a connection does while it has the pool locked, by what it finds there. -/
inductive Gets (size : Nat) (k : ConnectionId) : Pool → List Step → Prop
  | opened {ks : List ConnectionId} (hroom : ks.length < capacity size) :
      Gets size k ⟨ks, false⟩ [.asked .connect (.ok k), .asked (.put .pool ⟨ks ++ [k], false⟩) ()]
  | reused (rest : List ConnectionId) :
      Gets size k ⟨k :: rest, false⟩
        [.asked (.isConnected k) true, .asked (.put .pool ⟨rest ++ [k], false⟩) ()]
  | replaced (oldest : ConnectionId) (rest : List ConnectionId) :
      Gets size k ⟨oldest :: rest, false⟩
        [.asked (.isConnected oldest) false, .asked (.put .pool ⟨rest, false⟩) (), .asked (.disconnect oldest) (),
          .asked .connect (.ok k), .asked (.put .pool ⟨rest ++ [k], false⟩) ()]

/-- All the steps of an acquisition, with those in which it locks and unlocks the pool. -/
def locking (p : Pool) (mid : List Step) : List Step := .asked (.lock .pool) p :: (mid ++ [.asked (.unlock .pool) ()])

theorem eq_of_openInto {ks : List ConnectionId} (h : (openInto ks).run.Reaches steps (.done (.ok k))) :
    steps = [.asked .connect (.ok k), .asked (.put .pool ⟨ks ++ [k], false⟩) (), .asked (.unlock .pool) ()] := by
  rw [run_openInto] at h
  obtain ⟨x, rest, rfl, h₁⟩ := h.of_ask
  cases x with
  | error f =>
    obtain ⟨_, rest, rfl, h₂⟩ := h₁.of_ask
    cases h₂.of_done.2
  | ok k' =>
    obtain ⟨_, rest, rfl, h₂⟩ := h₁.of_ask
    obtain ⟨_, rest, rfl, h₃⟩ := h₂.of_ask
    obtain ⟨rfl, hk⟩ := h₃.of_done
    cases hk
    rfl

theorem gets_of_acquire (h : (acquire size).run.Reaches steps (.done (.ok k))) :
    ∃ p mid, steps = locking p mid ∧ Gets size k p mid := by
  rw [run_acquire] at h
  obtain ⟨p, rest, rfl, h₁⟩ := h.of_ask
  obtain ⟨connections, disposed⟩ := p
  cases disposed with
  | true =>
    obtain ⟨_, rest, rfl, h₂⟩ := h₁.of_ask
    cases h₂.of_done.2
  | false =>
    cases connections with
    | nil =>
      obtain rfl := eq_of_openInto h₁
      exact ⟨_, [_, _], rfl, .opened (Nat.lt_of_lt_of_le Nat.zero_lt_one (Nat.le_max_right size 1))⟩
    | cons oldest others =>
      change Program.Reaches (if (oldest :: others).length < capacity size then _ else _) _ _ at h₁
      split at h₁
      · rename_i hroom
        obtain rfl := eq_of_openInto h₁
        exact ⟨_, [_, _], rfl, .opened hroom⟩
      · obtain ⟨b, _, rfl, h₂⟩ := h₁.of_ask
        cases b with
        | true =>
          obtain ⟨_, _, rfl, h₃⟩ := h₂.of_ask
          obtain ⟨_, _, rfl, h₄⟩ := h₃.of_ask
          obtain ⟨rfl, hk⟩ := h₄.of_done
          cases hk
          exact ⟨_, [_, _], rfl, .reused others⟩
        | false =>
          obtain ⟨_, _, rfl, h₃⟩ := h₂.of_ask
          obtain ⟨_, _, rfl, h₄⟩ := h₃.of_ask
          obtain rfl := eq_of_openInto h₄
          exact ⟨_, [_, _, _, _, _], rfl, .replaced oldest others⟩

/-- A use that gets a connection takes the steps of an acquisition, some of them in races that it wins. -/
theorem Use.gets {u : Use} (hacquire : u.purpose = .acquire)
    (h : (u.program size).Reaches own (.done (some (.given (.ok k))))) :
    ∃ (f : Step → Step) (p : Pool) (mid : List Step), (∀ s, (f s).request = s.request ∧ (f s).done? = s.done?) ∧
      own = (locking p mid).map f ∧ Gets size k p mid := by
  obtain ⟨purpose, token⟩ := u
  cases hacquire
  have hgiven : ∀ {steps} {a : Answer}, (Purpose.acquire.program size).Reaches steps (.done a) →
      some a = some (.given (.ok k)) → ∃ p mid, steps = locking p mid ∧ Gets size k p mid := by
    intro steps a hsteps ha
    obtain ⟨r, hr, rfl⟩ := hsteps.map_done
    cases ha
    exact gets_of_acquire hr
  cases token with
  | none =>
    obtain ⟨a, ha, heq⟩ := h.map_done
    obtain ⟨p, mid, rfl, hp⟩ := hgiven ha heq.symm
    exact ⟨id, p, mid, fun _ => ⟨rfl, rfl⟩, (List.map_id _).symm, hp⟩
  | some t =>
    rcases h.interruptible_done with ⟨steps, a, ha, rfl, heq⟩ | ⟨_, _, _, _, _, _, _, heq⟩
    · obtain ⟨p, mid, rfl, hp⟩ := hgiven ha heq.symm
      exact ⟨(·.under t), p, mid, fun s => ⟨s.request_under t, s.done?_under t⟩, rfl, hp⟩
    · cases heq

namespace Gets

variable {mid : List Step}

theorem countP_connect_le (h : Gets size k p mid) : (locking p mid).countP (·.request.isConnect) ≤ 1 := by
  cases h <;> simp [locking, Step.request, Request.isConnect]

theorem length_disconnects_le (h : Gets size k p mid) :
    ((locking p mid).filterMap (·.request.disconnects?)).length ≤ 1 := by
  cases h <;> simp [locking, Step.request, Request.disconnects?]

/-- The connection was opened, or found open. -/
theorem found_open (h : Gets size k p mid) :
    ∃ s ∈ locking p mid, s.done? = some ⟨.connect, .ok k⟩ ∨ s.done? = some ⟨.isConnected k, true⟩ := by
  cases h with
  | opened => exact ⟨.asked .connect (.ok k), by simp [locking], .inl rfl⟩
  | reused => exact ⟨.asked (.isConnected k) true, by simp [locking], .inr rfl⟩
  | replaced => exact ⟨.asked .connect (.ok k), by simp [locking], .inl rfl⟩

/-- A connection is opened where there is room in the pool, or where the oldest one was found closed. -/
theorem found_closed (h : Gets size k p mid) (hconnect : ∃ s ∈ locking p mid, s.request = .connect) :
    p.connections.length < capacity size ∨ ∃ oldest, p.connections.head? = some oldest ∧
      ∃ s ∈ locking p mid, s.done? = some ⟨.isConnected oldest, false⟩ := by
  cases h with
  | opened hroom => exact .inl hroom
  | reused rest => simp [locking, Step.request] at hconnect
  | replaced oldest rest => exact .inr ⟨oldest, rfl, .asked (.isConnected oldest) false, by simp [locking], rfl⟩

end Gets

theorem Permits.ne_unlock {u : Purpose} {p' : Pool} {g g' : Grip} {r : Request} {x : Option r.Reply}
    (h : Permits size u p g r x p' g') : r ≠ .unlock .pool := by
  cases h <;> nofun

/-! ## What is known of connections -/

/-- What the pool was told of connections at this moment is so: whether one is open, and that one that was just opened
is. `live` says which connections are open after what has happened. -/
structure Told (live : List Happening → ConnectionId → Prop) (past : List Happening) (a : Actor) (s : Step) : Prop where
  isConnected : ∀ k b, s.done? = some ⟨.isConnected k, b⟩ → (b = true ↔ live past k)
  connect : ∀ k, s.done? = some ⟨.connect, .ok k⟩ → live (past ++ [.took a s]) k

/-- No connection closes during what came after `past`. -/
def NoneCloses (live : List Happening → ConnectionId → Prop) (past during : List Happening) : Prop :=
  ∀ first later k, first <+: later → later <+: during → live (past ++ first) k → live (past ++ later) k

/-- A call that got a connection, by the moments at which it locked and unlocked the pool: it took all its steps during
that time, it left the connection as the last in the pool, and it closed and opened no more than one. As far as none
closed during that time, the connection is open in the end, and one was opened only where there was room in the pool,
or where its oldest connection was closed. -/
structure Handed (size n : Nat) (k : ConnectionId) (σ₁ σ₂ σ : System (Option Answer)) (during : List Happening) :
    Prop where
  begins : σ₁.Leads σ₂
  past : σ₂.past = σ₁.past ++ during
  since : σ₂.Leads σ
  own : stepsOf (.caller n) during = stepsOf (.caller n) σ.past
  free : σ₁.holder .pool = none ∧ σ₂.holder .pool = none
  last : (σ₂.cells .pool).connections.getLast? = some k
  connects : (stepsOf (.caller n) during).countP (·.request.isConnect) ≤ 1
  disconnects : ((stepsOf (.caller n) during).filterMap (·.request.disconnects?)).length ≤ 1
  isOpen : ∀ live, Throughout σ₂.past (Told live) → NoneCloses live σ₁.past during → live σ₂.past k
  needed : ∀ live, Throughout σ₂.past (Told live) → NoneCloses live σ₁.past during →
    (∃ s ∈ stepsOf (.caller n) during, s.request = .connect) →
      (σ₁.cells .pool).connections.length < max size 1 ∨
        ∃ oldest, (σ₁.cells .pool).connections.head? = some oldest ∧ ¬live σ₁.past oldest

end Pool

namespace System

open Pool

variable {size : Nat} {uses : List Use} {known : List Thing} {σ σ' : System (Option Answer)} {n : Nat} {u : Use}

/-- Whoever unlocks the pool is over, and leaves behind what its use does. -/
theorem Next.of_unlock (hn : σ.Next (.took (.caller n) s) σ') (h : (pooling size uses known).Leads σ)
    (hu : uses[n]? = some u) (hs : s.done? = some ⟨.unlock .pool, ()⟩) :
    ∃ a, σ'.callers[n]? = some (.done a) ∧ σ'.holder .pool = none ∧ u.purpose.Ends a (σ'.cells .pool) := by
  obtain ⟨g, hg⟩ := h.inOrder
  cases hn with
  | @caller _ m q s hm ht ha =>
    obtain ⟨holder', p', hholder, hcells, hgoes⟩ := hg.goes hm hu ht ha
    have hself : (σ.callers.set n q)[n]? = some q := List.getElem?_set_self (List.getElem?_eq_some_iff.1 hm).1
    cases hgoes with
    | on _ hpermits => exact absurd (request_of_done? hs) hpermits.ne_unlock
    | locks _ hlock => cases hlock.symm.trans hs
    | dropped _ hrace =>
      rw [hrace] at hs
      cases hs
    | off _ _ _ hends => exact ⟨_, hself, hholder, hcells.symm ▸ hends⟩

/-- The moments at which an actor took the first and the last of its steps, and what came in between. -/
theorem Leads.first_last {α : Type} {σ₀ σ : System α} (h : σ₀.Leads σ) (h₀ : σ₀.past = []) {a : Actor} {s s' : Step}
    {steps : List Step} (hown : stepsOf a σ.past = s :: (steps ++ [s'])) :
    ∃ σ₁ σ₁' σ₂' σ₂ during, σ₀.Leads σ₁ ∧ σ₁.Next (.took a s) σ₁' ∧ σ₁'.Leads σ₂' ∧ σ₂'.Next (.took a s') σ₂ ∧
      σ₂.Leads σ ∧ σ₂.past = σ₁.past ++ during ∧ stepsOf a during = stepsOf a σ.past := by
  obtain ⟨before, rest, hpast, hbefore, hrest⟩ := exists_took_first hown
  obtain ⟨between, after, rfl, hbetween, hafter⟩ := exists_took_last hrest
  have hto : σ.past = σ₀.past ++ before ++ .took a s :: (between ++ .took a s' :: after) := by
    rw [h₀]
    exact hpast
  obtain ⟨σ₁, σ₁', h₁, hpast₁, hn₁, hl₁⟩ := h.split hto
  have hfrom : σ.past = σ₁'.past ++ between ++ .took a s' :: after := by
    rw [hn₁.past, hpast₁, hto]
    simp
  obtain ⟨σ₂', σ₂, h₂', hpast₂', hn₂, h₂⟩ := hl₁.split hfrom
  refine ⟨σ₁, σ₁', σ₂', σ₂, .took a s :: (between ++ [.took a s']), h₁, hn₁, h₂', hn₂, h₂, ?_, ?_⟩
  · rw [hn₂.past, hpast₂', hn₁.past]
    simp
  · rw [hown, ← hbetween]
    have hsplit : Happening.took a s :: (between ++ [.took a s']) = [.took a s] ++ between ++ [.took a s'] := rfl
    rw [hsplit, stepsOf_append, stepsOf_append, stepsOf_took_self, stepsOf_took_self]
    rfl

/-- A call that got a connection did so between the moments at which it locked and unlocked the pool. -/
theorem Leads.handed (h : (pooling size uses known).Leads σ) (hu : uses[n]? = some u)
    (hacquire : u.purpose = .acquire) {k : ConnectionId}
    (hdone : σ.callers[n]? = some (.done (some (.given (.ok k))))) :
    ∃ σ₁ σ₂ during, (pooling size uses known).Leads σ₁ ∧ Handed size n k σ₁ σ₂ σ during := by
  have hfirst : (pooling size uses known).callers[n]? = some (u.program size) := by
    simp [pooling, start, hu]
  obtain ⟨q, hq, hreach⟩ := h.caller_reaches rfl hfirst
  cases hdone.symm.trans hq
  obtain ⟨f, p, mid, hf, hown, hgets⟩ := Use.gets hacquire hreach
  obtain ⟨σ₁, σ₁', σ₂', σ₂, during, h₁, hlock, h₂', hunlock, h₂, hduring, hsteps⟩ :=
    h.first_last rfl (hown.trans (congrArg _ (List.map_append ..)))
  obtain ⟨hfree, rfl⟩ : σ₁.holder .pool = none ∧ p = σ₁.cells .pool := hlock.admits.reply _ _ (hf _).2
  obtain ⟨a, hover, hfree₂, hends⟩ := hunlock.of_unlock ((h₁.next hlock).trans h₂') hu (hf _).2
  cases (h₂.done hover).symm.trans hdone
  rw [hacquire] at hends
  -- each of its steps was taken at a moment during that time, and what it was told then is so
  have hmoment : ∀ {s d} {live : List Happening → ConnectionId → Prop}, s ∈ locking (σ₁.cells .pool) mid →
      s.done? = some d → Throughout σ₂.past (Told live) → ∃ first s' later,
        during = first ++ .took (.caller n) s' :: later ∧ s'.done? = some d ∧
          Told live (σ₁.past ++ first) (.caller n) s' := by
    intro s d live hs hd htold
    have hmem : f s ∈ stepsOf (.caller n) during := (hsteps.trans hown) ▸ List.mem_map_of_mem hs
    obtain ⟨first, later, hfirst⟩ := List.append_of_mem (mem_stepsOf.1 hmem)
    refine ⟨first, f s, later, hfirst, (hf s).2.trans hd, htold _ _ _ later ?_⟩
    rw [hduring, hfirst, List.append_assoc]
  refine ⟨σ₁, σ₂, during, h₁, {
    begins := (Leads.refl.next hlock).trans (h₂'.next hunlock)
    past := hduring
    since := h₂
    own := hsteps
    free := ⟨hfree, hfree₂⟩
    last := hends.2 k rfl
    connects := ?_
    disconnects := ?_
    isOpen := fun live htold hnone => ?_
    needed := fun live htold hnone hconnect => ?_ }⟩
  · rw [hsteps, hown, List.countP_map]
    simpa [Function.comp_def, hf] using hgets.countP_connect_le
  · rw [hsteps, hown, List.filterMap_map]
    simpa [Function.comp_def, hf] using hgets.length_disconnects_le
  · obtain ⟨s, hs, hopened | hfound⟩ := hgets.found_open
    · obtain ⟨first, s', later, heq, hd, ht⟩ := hmoment hs hopened htold
      rw [hduring]
      refine hnone (first ++ [.took (.caller n) s']) during k ⟨later, ?_⟩ (List.prefix_refl _) ?_
      · rw [heq, List.append_assoc]
        rfl
      · rw [← List.append_assoc]
        exact ht.connect k hd
    · obtain ⟨first, s', later, heq, hd, ht⟩ := hmoment hs hfound htold
      rw [hduring]
      exact hnone first during k ⟨_, heq.symm⟩ (List.prefix_refl _) ((ht.isConnected k true hd).1 rfl)
  · rw [hsteps, hown] at hconnect
    have hconnect' : ∃ s ∈ locking (σ₁.cells .pool) mid, s.request = .connect := by
      simpa [hf] using hconnect
    refine (hgets.found_closed hconnect').imp_right fun hwhy => ?_
    obtain ⟨oldest, hhead, s, hs, hclosed⟩ := hwhy
    refine ⟨oldest, hhead, fun hlive => ?_⟩
    obtain ⟨first, s', later, heq, hd, ht⟩ := hmoment hs hclosed htold
    have hlater := hnone [] first oldest List.nil_prefix ⟨_, heq.symm⟩ (by rwa [List.append_nil])
    exact absurd ((ht.isConnected oldest false hd).2 hlater) Bool.false_ne_true

end System

end MessageBus
