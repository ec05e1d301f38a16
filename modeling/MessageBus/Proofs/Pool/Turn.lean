import MessageBus.Proofs.Pool.Handover
/-!
# One call with a full pool

Whoever has locked a full pool, and is told that its oldest connection is open, puts it at the end and gives it out:
`Pool.Rotates` says what is left to do of that, for calls that can be dropped and for others. Nothing in it waits for
anybody, so it can be brought to its end (`Pool.Rotates.exists_ended`), and nobody is kept from having the pool next
(`Pool.exists_turn`).
-/

namespace MessageBus

open Program (interruptibleFrom interruptibleFrom_asks interruptibleFrom_waits)

/-- Whether the pool was locked in the step. -/
def Step.locksPool (s : Step) : Bool :=
  match s.done? with
  | some ⟨.lock .pool, _⟩ => true
  | _ => false

/-- The caller that locked the pool in this event. -/
def Happening.locker? : Happening → Option Nat
  | took (.caller n) s => if s.locksPool then some n else none
  | _ => none

/-- The callers that had the pool, in the order in which they locked it. -/
def lockers (events : List Happening) : List Nat := events.filterMap Happening.locker?

section
variable {events : List Happening} {n : Nat} {s : Step}

theorem lockers_cons : lockers (.took (.caller n) s :: events) = (if s.locksPool then [n] else []) ++ lockers events := by
  cases h : s.locksPool <;> simp [lockers, Happening.locker?, h]

theorem lockers_append (events events' : List Happening) :
    lockers (events ++ events') = lockers events ++ lockers events' := List.filterMap_append

theorem Step.not_locksPool (h : s.request ≠ .lock .pool) : s.locksPool = false := by
  unfold locksPool
  split
  · rename_i hd
    exact absurd (System.request_of_done? hd) h
  · rfl

end

namespace Pool

/-! ## One turn -/

section
variable {α β : Type} {k : ConnectionId} {rest : List ConnectionId} {a : α} {p : Pool} {m : Program α}

/-- What is left to do for whoever has a full pool locked, of connections `k :: rest` that are open: the pool is as it
was found, or `k` is at its end. -/
inductive Rotates (k : ConnectionId) (rest : List ConnectionId) (a : α) : Pool → Program α → Prop
  | checks {f : Bool → Program α} (h : Rotates k rest a ⟨k :: rest, false⟩ (f true)) :
      Rotates k rest a ⟨k :: rest, false⟩ (.ask (.isConnected k) f)
  | puts {f : Unit → Program α} (h : Rotates k rest a ⟨rest ++ [k], false⟩ (f ())) :
      Rotates k rest a ⟨k :: rest, false⟩ (.ask (.put .pool ⟨rest ++ [k], false⟩) f)
  | unlocks {f : Unit → Program α} (h : f () = .done a) :
      Rotates k rest a ⟨rest ++ [k], false⟩ (.ask (.unlock .pool) f)

namespace Rotates

theorem map (h : Rotates k rest a p m) (f : α → β) : Rotates k rest (f a) p (f <$> m) := by
  induction h with
  | checks _ ih => exact .checks ih
  | puts _ ih => exact .puts ih
  | unlocks h => exact .unlocks (congrArg (f <$> ·) h)

/-- Nothing that is left to do waits, so nobody is dropped. -/
theorem interruptible (h : Rotates k rest a p m) (t : TokenId) :
    Rotates k rest (some a) p (interruptibleFrom t [.pool] m) := by
  induction h with
  | checks _ ih =>
    rw [interruptibleFrom_asks rfl]
    exact .checks ih
  | puts _ ih =>
    rw [interruptibleFrom_asks rfl]
    exact .puts ih
  | unlocks h =>
    rw [interruptibleFrom_asks rfl]
    refine .unlocks ?_
    rw [h]
    rfl

/-- The turn ends, or goes on and leaves it at that: nothing is opened or closed. -/
theorem takes (h : Rotates k rest a p m) {s : Step} {q : Program α} (ht : m.Takes s q)
    (hopen : s.done? ≠ some ⟨.isConnected k, false⟩) :
    (s = .asked (.unlock .pool) () ∧ p = ⟨rest ++ [k], false⟩ ∧ q = .done a) ∨
      (s.request ≠ .lock .pool ∧ s.request ≠ .unlock .pool ∧ s.request.isConnect = false ∧
        s.request.disconnects? = none ∧ Rotates k rest a ((s.put? .pool).getD p) q) := by
  cases h with
  | checks h =>
    cases ht with
    | asked _ _ b =>
      cases b with
      | true => exact .inr ⟨nofun, nofun, rfl, rfl, h⟩
      | false => exact absurd rfl hopen
  | puts h =>
    cases ht with
    | asked _ _ x => exact .inr ⟨nofun, nofun, rfl, rfl, h⟩
  | unlocks h =>
    cases ht with
    | asked _ _ x => exact .inl ⟨rfl, rfl, h⟩

end Rotates

end

section
variable {size : Nat} {k : ConnectionId} {rest : List ConnectionId} (hfull : capacity size ≤ (k :: rest).length)
include hfull

theorem rotates_acquire : ∃ f, (acquire size).run = .ask (.lock .pool) f ∧
    Rotates k rest (Except.ok k) ⟨k :: rest, false⟩ (f ⟨k :: rest, false⟩) := by
  refine ⟨_, run_acquire size, ?_⟩
  change Rotates k rest _ _ (if (k :: rest).length < capacity size then _ else _)
  rw [if_neg (Nat.not_lt.2 hfull)]
  exact .checks (.puts (.unlocks rfl))

/-- An acquisition that has locked a full pool has its turn. -/
theorem Use.rotates {u : Use} (hacquire : u.purpose = .acquire) {s : Step} {q : Program (Option Answer)}
    (ht : (u.program size).Takes s q) (hs : s.done? = some ⟨.lock .pool, ⟨k :: rest, false⟩⟩) :
    Rotates k rest (some (.given (.ok k))) ⟨k :: rest, false⟩ q := by
  obtain ⟨f, hf, hrotates⟩ := rotates_acquire hfull
  obtain ⟨purpose, token⟩ := u
  cases hacquire
  cases token with
  | none =>
    rw [Use.program, Purpose.program, hf] at ht
    cases ht with
    | asked _ _ x =>
      cases hs
      exact (hrotates.map Answer.given).map some
  | some t =>
    rw [Use.program, Purpose.program, hf] at ht
    change (interruptibleFrom t [] (.ask (.lock .pool) fun p => Answer.given <$> f p)).Takes s q at ht
    rw [interruptibleFrom_waits rfl] at ht
    cases ht with
    | raced _ _ _ x =>
      cases x with
      | none => cases hs
      | some x =>
        cases hs
        exact (hrotates.map Answer.given).interruptible t

end

/-- No connection was found closed in these events. -/
def FoundOpen (events : List Happening) : Prop := ∀ a s k, .took a s ∈ events → s.done? ≠ some ⟨.isConnected k, false⟩

theorem FoundOpen.append {past events : List Happening} (h : FoundOpen past) (h' : FoundOpen events) :
    FoundOpen (past ++ events) :=
  fun a s k hs => (List.mem_append.1 hs).elim (h a s k) (h' a s k)

/-- What was told then is so if all connections are open at all times. -/
theorem FoundOpen.told {past : List Happening} (h : FoundOpen past) : Throughout past (Told fun _ _ => True) := by
  rintro before a s after rfl
  refine ⟨fun k b hd => ?_, fun _ _ => trivial⟩
  cases b with
  | true => simp
  | false => exact absurd hd (h a s k (by simp))

/-- From one state to another a caller came to its end, and left these connections in the pool, which nobody has then. -/
structure Ended (n : Nat) (a : Option Answer) (ks : List ConnectionId) (ns : List Nat) (σ σ' : System (Option Answer)) :
    Prop where
  leads : σ.Leads σ'
  events : ∃ events, σ'.past = σ.past ++ events ∧ lockers events = ns ∧ FoundOpen events
  callers : σ'.callers = σ.callers.set n (.done a)
  free : σ'.holder .pool = none
  pool : σ'.cells .pool = ⟨ks, false⟩

theorem Ended.after {n : Nat} {a : Option Answer} {ks : List ConnectionId} {ns : List Nat}
    {σ σ' : System (Option Answer)} {m q : Program (Option Answer)} {s : Step}
    (h : Ended n a ks ns { σ.record (.caller n) s with callers := σ.callers.set n q } σ')
    (hm : σ.callers[n]? = some m) (ht : m.Takes s q) (ha : σ.Admits s)
    (hopen : ∀ k, s.done? ≠ some ⟨.isConnected k, false⟩) :
    Ended n a ks ((if s.locksPool then [n] else []) ++ ns) σ σ' where
  leads := (System.Leads.refl.next (.caller hm ht ha)).trans h.leads
  events := by
    obtain ⟨events, hpast, hlockers, hfound⟩ := h.events
    refine ⟨.took (.caller n) s :: events, ?_, ?_, fun a' s' k hs => ?_⟩
    · rw [hpast]
      exact List.append_assoc ..
    · rw [lockers_cons, hlockers]
    · rcases List.mem_cons.1 hs with heq | hs
      · cases heq
        exact hopen k
      · exact hfound a' s' k hs
  callers := h.callers.trans (List.set_set ..)
  free := h.free
  pool := h.pool

/-- Whoever has its turn can come to the end of it. -/
theorem Rotates.exists_ended {n : Nat} {k : ConnectionId} {rest : List ConnectionId} {a : Option Answer} {p : Pool}
    {m : Program (Option Answer)} (h : Rotates k rest a p m) {σ : System (Option Answer)} (hp : σ.cells .pool = p)
    (hm : σ.callers[n]? = some m) (hholder : σ.holder .pool = some (.caller n)) :
    ∃ σ', Ended n a (rest ++ [k]) [] σ σ' := by
  induction h generalizing σ with
  | @checks f _ ih =>
    obtain ⟨σ', h'⟩ := ih (σ := { σ.record (.caller n) (.asked (.isConnected k) true) with
      callers := σ.callers.set n (f true) }) hp (List.getElem?_set_self (List.getElem?_eq_some_iff.1 hm).1) hholder
    exact ⟨σ', h'.after hm (.asked (.isConnected k) f true) (.asked trivial (System.nothing_new rfl))
      fun k' hk' => by cases hk'⟩
  | @puts f _ ih =>
    obtain ⟨σ', h'⟩ := ih (σ := { σ.record (.caller n) (.asked (.put .pool ⟨rest ++ [k], false⟩) ()) with
      callers := σ.callers.set n (f ()) }) (by simp [System.record, System.cellsAfter, Step.done?])
      (List.getElem?_set_self (List.getElem?_eq_some_iff.1 hm).1) hholder
    exact ⟨σ', h'.after hm (.asked (.put .pool _) f ()) (.asked trivial (System.nothing_new rfl))
      fun k' hk' => by cases hk'⟩
  | @unlocks f hf =>
    have hover : Ended n a (rest ++ [k]) [] { σ.record (.caller n) (.asked (.unlock .pool) ()) with
        callers := σ.callers.set n (f ()) } { σ.record (.caller n) (.asked (.unlock .pool) ()) with
        callers := σ.callers.set n (f ()) } := {
      leads := .refl
      events := ⟨[], (List.append_nil _).symm, rfl, fun _ _ _ hs => absurd hs List.not_mem_nil⟩
      callers := by rw [List.set_set, hf]
      free := by simp [System.record, System.holderAfter, Step.done?]
      pool := hp }
    exact ⟨_, hover.after hm (.asked (.unlock .pool) f ()) (.asked trivial (System.nothing_new rfl))
      fun k' hk' => by cases hk'⟩

/-- Whoever waits for the pool can lock it when nobody has it. -/
theorem exists_locks {u : Purpose} {size : Nat} {ends : Option Answer → Pool → Prop}
    {m : Program (Option Answer)} {σ : System (Option Answer)} (h : m.WaitsPool size u ends)
    (hfree : σ.holder .pool = none) :
    ∃ s q, m.Takes s q ∧ s.done? = some ⟨.lock .pool, σ.cells .pool⟩ ∧ σ.Admits s := by
  cases m with
  | done a => exact h.elim
  | ask r f =>
    cases h.request?_eq
    exact ⟨_, _, .asked _ f (σ.cells .pool), rfl, .asked ⟨hfree, rfl⟩ (System.nothing_new rfl)⟩
  | race t r f =>
    cases h.request?_eq
    exact ⟨_, _, .raced t _ f (some (σ.cells .pool)), rfl, .raced ⟨hfree, rfl⟩ (System.nothing_new rfl)⟩

/-- Where nobody has a full pool, each acquisition that waits can have its turn. -/
theorem exists_turn (size : Nat) {n : Nat} {u : Use} {k : ConnectionId} {rest : List ConnectionId} {σ : System (Option Answer)}
    (hacquire : u.purpose = .acquire) (hm : σ.callers[n]? = some (u.program size)) (hfree : σ.holder .pool = none)
    (hpool : σ.cells .pool = ⟨k :: rest, false⟩) (hfull : capacity size ≤ (k :: rest).length) :
    ∃ σ', Ended n (some (.given (.ok k))) (rest ++ [k]) [n] σ σ' := by
  obtain ⟨s, q, ht, hd, ha⟩ := exists_locks (waitsPool_program size u) hfree
  rw [hpool] at hd
  have hcells : (σ.record (.caller n) s).cells .pool = ⟨k :: rest, false⟩ := by
    rw [← hpool]
    simp [System.record, System.cellsAfter, hd]
  obtain ⟨σ', h⟩ := (Use.rotates hfull hacquire ht hd).exists_ended
    (σ := { σ.record (.caller n) s with callers := σ.callers.set n q }) hcells
    (List.getElem?_set_self (List.getElem?_eq_some_iff.1 hm).1) (by simp [System.record, System.holderAfter, hd])
  have hended := h.after hm ht ha fun k' hk' => by cases hd.symm.trans hk'
  have hlocks : s.locksPool = true := by simp [Step.locksPool, hd]
  rw [if_pos hlocks] at hended
  exact ⟨σ', hended⟩

end Pool

end MessageBus
