import MessageBus.Proofs.Lifecycle.Ledger
import MessageBus.Proofs.Program.Interrupted
/-!
# What a holder of the pool does

Whoever has the pool locked keeps to a protocol. `Pool.Permits` lists what the protocol lets it ask for, with what it
then has in its hands: a connection that it has to close, or one that it has to put into the pool. `Program.HoldsPool`
says of a program that it keeps to the protocol until it lets go of the pool, empty-handed. Both uses of the pool do,
also where they are dropped while they wait (`Pool.waitsPool_program`).
-/

namespace MessageBus

/-- The connection that the request closes. -/
def Request.disconnects? : Request → Option ConnectionId
  | disconnect k => some k
  | _ => none

/-- The reply that the step was given; none if its race was lost. -/
def Step.reply? : (s : Step) → Option s.request.Reply
  | asked _ x => some x
  | raced _ _ x => x

@[simp] theorem Step.done?_under (t : TokenId) (s : Step) : (s.under t).done? = s.done? := by
  cases s with
  | asked r x =>
    rw [under]
    split <;> rfl
  | raced u r x => rfl

namespace Pool

/-- What the pool is used for. -/
inductive Purpose where
  | acquire
  | dispose
  deriving DecidableEq

/-- What the holder of the pool has in its hands. -/
inductive Grip where
  | nothing
  /-- A connection in the pool was found closed. -/
  | shut (k : ConnectionId)
  /-- A connection was taken out of the pool, and is to be closed. -/
  | removed (k : ConnectionId)
  /-- A connection was opened, and is to be put into the pool. -/
  | fresh (k : ConnectionId)

namespace Grip

/-- The connections that are in nobody's hands but the holder's. -/
def held : Grip → List ConnectionId
  | removed k | fresh k => [k]
  | _ => []

/-- The connections that are to be closed. -/
def leaving : Grip → List ConnectionId
  | removed k => [k]
  | _ => []

/-- The connections that are to be put into the pool. -/
def coming : Grip → List ConnectionId
  | fresh k => [k]
  | _ => []

theorem held_eq (g : Grip) : g.held = g.coming ++ g.leaving := by
  cases g <;> rfl

end Grip

/-- What the holder may ask for, by what the pool holds and what it has in its hands, and both after the reply; a race
that is lost has none. -/
inductive Permits (size : Nat) : Purpose → Pool → Grip → (r : Request) → Option r.Reply → Pool → Grip → Prop
  | usable (k : ConnectionId) (rest : List ConnectionId) :
      Permits size .acquire ⟨k :: rest, false⟩ .nothing (.isConnected k) (some true) ⟨k :: rest, false⟩ .nothing
  | unusable (k : ConnectionId) (rest : List ConnectionId) :
      Permits size .acquire ⟨k :: rest, false⟩ .nothing (.isConnected k) (some false) ⟨k :: rest, false⟩ (.shut k)
  | reused (k : ConnectionId) (rest : List ConnectionId) :
      Permits size .acquire ⟨k :: rest, false⟩ .nothing (.put .pool ⟨rest ++ [k], false⟩) (some ())
        ⟨rest ++ [k], false⟩ .nothing
  | evicted (k : ConnectionId) (rest : List ConnectionId) :
      Permits size .acquire ⟨k :: rest, false⟩ (.shut k) (.put .pool ⟨rest, false⟩) (some ()) ⟨rest, false⟩
        (.removed k)
  | refused {ks : List ConnectionId} (h : ks.length < capacity size) (f : Fault) :
      Permits size .acquire ⟨ks, false⟩ .nothing .connect (some (.error f)) ⟨ks, false⟩ .nothing
  | abandoned {ks : List ConnectionId} (h : ks.length < capacity size) :
      Permits size .acquire ⟨ks, false⟩ .nothing .connect none ⟨ks, false⟩ .nothing
  | opened {ks : List ConnectionId} (h : ks.length < capacity size) (k : ConnectionId) :
      Permits size .acquire ⟨ks, false⟩ .nothing .connect (some (.ok k)) ⟨ks, false⟩ (.fresh k)
  | added (ks : List ConnectionId) (k : ConnectionId) :
      Permits size .acquire ⟨ks, false⟩ (.fresh k) (.put .pool ⟨ks ++ [k], false⟩) (some ()) ⟨ks ++ [k], false⟩ .nothing
  | givenUp (p : Pool) :
      Permits size .dispose p .nothing (.put .pool ⟨p.connections, true⟩) (some ()) ⟨p.connections, true⟩ .nothing
  | drained (k : ConnectionId) (rest : List ConnectionId) :
      Permits size .dispose ⟨k :: rest, true⟩ .nothing (.put .pool ⟨rest, true⟩) (some ()) ⟨rest, true⟩ (.removed k)
  | closed {u : Purpose} {p : Pool} (h : u = .dispose → p.disposed = true) (k : ConnectionId) (x : Option Unit) :
      Permits size u p (.removed k) (.disconnect k) x p .nothing

namespace Permits

variable {size : Nat} {u : Purpose} {p p' : Pool} {g g' : Grip} {r : Request}

/-- Where the holder waits, it may be dropped: it then has nothing in its hands. -/
theorem lost {x : r.Reply} (h : Permits size u p g r (some x) p' g') (hr : r.canWait = true) :
    Permits size u p g r none p .nothing ∧ (u = .dispose → p.disposed = true) := by
  cases h with
  | refused h | opened h => exact ⟨.abandoned h, nofun⟩
  | closed h k => exact ⟨.closed h k none, h⟩
  | usable | unusable | reused | evicted | added | givenUp | drained => cases hr

theorem heldAfter_eq {x : Option r.Reply} (h : Permits size u p g r x p' g') :
    Program.heldAfter [.pool] r = [.pool] := by
  cases h <;> rfl

/-- A pool that was given up stays so. -/
theorem disposed {x : Option r.Reply} (h : Permits size u p g r x p' g') (hp : p.disposed = true) :
    p'.disposed = true := by
  cases h with
  | givenUp | drained => rfl
  | closed => exact hp
  | _ => cases hp

/-- The first thing that is done to dispose of a pool is to give it up. -/
theorem disposed_of_dispose {x : Option r.Reply} (h : Permits size .dispose p g r x p' g') : p'.disposed = true := by
  cases h with
  | givenUp | drained => rfl
  | closed h => exact h rfl

/-- Nothing comes into a pool that was emptied. -/
theorem emptied {x : Option r.Reply} (h : Permits size u ⟨[], true⟩ g r x p' g') : p' = ⟨[], true⟩ := by
  cases h <;> rfl

/-- There is room in the pool for what is still to be put in. -/
theorem room {x : Option r.Reply} (h : Permits size u p g r x p' g')
    (hp : (p.connections ++ g.coming).length ≤ capacity size) :
    (p'.connections ++ g'.coming).length ≤ capacity size := by
  cases h <;> simp_all [Grip.coming] <;> omega

/-- A connection is closed by whoever took it out of the pool. -/
theorem disconnects?_eq {x : Option r.Reply} (h : Permits size u p g r x p' g') : r.disconnects?.toList = g.leaving := by
  cases h <;> rfl

/-- A connection that was opened is put into the pool next. -/
theorem of_fresh {x : Option r.Reply} {k : ConnectionId} (h : Permits size u p (.fresh k) r x p' g') :
    r = .put .pool ⟨p.connections ++ [k], false⟩ := by
  cases h
  rfl

/-- Connections are opened only to acquire one, and while the pool has not been given up. -/
theorem of_connect {x : Option (Except Fault ConnectionId)} (h : Permits size u p g .connect x p' g') :
    u = .acquire ∧ p.disposed = false := by
  cases h <;> exact ⟨rfl, rfl⟩

/-- There is a reply that brings nothing new, and that the system can give at any time. -/
theorem exists_reply {x : Option r.Reply} (h : Permits size u p g r x p' g') :
    ∃ y : r.Reply, r.makes? y = none ∧ ∀ {α : Type} (σ : System α), σ.CanReply r y := by
  cases h with
  | usable | unusable => exact ⟨true, rfl, fun _ => trivial⟩
  | refused | abandoned | opened => exact ⟨.error .cancelled, rfl, fun _ => trivial⟩
  | reused | evicted | added | givenUp | drained | closed => exact ⟨(), rfl, fun _ => trivial⟩

/-- A connection leaves the pool of an acquisition only if it was found closed. -/
theorem shut_of_left {x : Option r.Reply} (h : Permits size .acquire p g r x p' g') {k : ConnectionId}
    (hk : k ∈ p.connections) (hk' : k ∉ p'.connections) : g = .shut k := by
  cases h with
  | reused k₀ rest =>
    rw [List.mem_append, List.mem_singleton] at hk'
    rcases List.mem_cons.1 hk with rfl | hk
    · exact absurd (.inr rfl) hk'
    · exact absurd (.inl hk) hk'
  | evicted k₀ rest =>
    rcases List.mem_cons.1 hk with rfl | hk
    · rfl
    · exact absurd hk hk'
  | added ks k₀ => exact absurd (List.mem_append_left _ hk) hk'
  | _ => exact absurd hk hk'

end Permits

end Pool

namespace Program

open Pool

variable {α β : Type} {size : Nat} {u : Purpose}

/-- A program that holds the pool keeps to the protocol, and unlocks the pool in its last step, with nothing in its
hands; `ends` holds then of its result and the pool. -/
def HoldsPool (size : Nat) (u : Purpose) (ends : α → Pool → Prop) : Program α → Pool → Grip → Prop
  | done _, _, _ => False
  | ask r k, p, g =>
    (r = .unlock .pool ∧ g = .nothing ∧ ∀ x, ∃ a, k x = done a ∧ ends a p) ∨
      ∀ x, ∃ p' g', Permits size u p g r (some x) p' g' ∧ (k x).HoldsPool size u ends p' g'
  | race _ r k, p, g => ∀ x, ∃ p' g', Permits size u p g r x p' g' ∧ (k x).HoldsPool size u ends p' g'

/-- A program that waits for the pool, holds it then, and is over without a result if it is dropped before. -/
def WaitsPool (size : Nat) (u : Purpose) (ends : Option α → Pool → Prop) : Program (Option α) → Prop
  | ask (.lock .pool) k =>
    ∀ p : Pool, p.connections.length ≤ capacity size → (k p).HoldsPool size u ends p .nothing
  | race _ (.lock .pool) k =>
    (∀ p : Pool, p.connections.length ≤ capacity size → (k (some p)).HoldsPool size u ends p .nothing) ∧
      k none = done none
  | _ => False

namespace HoldsPool

variable {p : Pool} {g : Grip}

theorem unlock {ends : α → Pool → Prop} {k : Unit → Program α} {a : α} (hk : k () = done a) (h : ends a p) :
    (ask (.unlock .pool) k).HoldsPool size u ends p .nothing := .inl ⟨rfl, rfl, fun _ => ⟨a, hk, h⟩⟩

theorem map {ends : β → Pool → Prop} {f : α → β} {m : Program α}
    (h : m.HoldsPool size u (fun a => ends (f a)) p g) : (f <$> m).HoldsPool size u ends p g := by
  rw [map_eq_pure_bind]
  induction m generalizing p g with
  | done a => exact h
  | ask r k ih =>
    rcases h with ⟨hr, hg, hend⟩ | hgoes
    · refine .inl ⟨hr, hg, fun x => ?_⟩
      obtain ⟨a, ha, hends⟩ := hend x
      exact ⟨f a, congrArg (bind · fun a => pure (f a)) ha, hends⟩
    · refine .inr fun x => ?_
      obtain ⟨p', g', hpermits, hrest⟩ := hgoes x
      exact ⟨p', g', hpermits, ih x hrest⟩
  | race t r k ih =>
    intro x
    obtain ⟨p', g', hpermits, hrest⟩ := h x
    exact ⟨p', g', hpermits, ih x hrest⟩

/-- A holder that is dropped unlocks the pool, with nothing in its hands. -/
theorem interruptible {ends : Option α → Pool → Prop} {m : Program α} (t : TokenId)
    (h : m.HoldsPool size u (fun a => ends (some a)) p g)
    (hdropped : ∀ p, (u = .dispose → p.disposed = true) → ends none p) :
    (interruptibleFrom t [.pool] m).HoldsPool size u ends p g := by
  -- on the program; the pool is all that is locked until the last step
  induction m generalizing p g with
  | done a => exact h
  | ask r k ih =>
    rcases h with ⟨rfl, hg, hend⟩ | hgoes
    · rw [interruptibleFrom_asks rfl]
      refine .inl ⟨rfl, hg, fun x => ?_⟩
      obtain ⟨a, ha, hends⟩ := hend x
      exact ⟨some a, congrArg (interruptibleFrom t _) ha, hends⟩
    · have hrest : ∀ x, ∃ p' g', Permits size u p g r (some x) p' g' ∧
          (interruptibleFrom t (Program.heldAfter [.pool] r) (k x)).HoldsPool size u ends p' g' := by
        intro x
        obtain ⟨p', g', hpermits, hholds⟩ := hgoes x
        rw [hpermits.heldAfter_eq]
        exact ⟨p', g', hpermits, ih x hholds⟩
      cases hr : r.canWait with
      | false =>
        rw [interruptibleFrom_asks hr]
        exact .inr hrest
      | true =>
        rw [interruptibleFrom_waits hr]
        intro x
        cases x with
        | some x => exact hrest x
        | none =>
          -- any reply tells what the holder has in its hands while it waits
          obtain ⟨p', g', hpermits, -⟩ := hgoes r.plainReply
          obtain ⟨hlost, hdisposed⟩ := hpermits.lost hr
          exact ⟨p, .nothing, hlost, .unlock rfl (hdropped p hdisposed)⟩
  | race t' r k ih =>
    intro x
    obtain ⟨p', g', hpermits, hholds⟩ := h x
    have hheld : (if x.isSome then Program.heldAfter [.pool] r else [.pool]) = [.pool] := by
      rw [hpermits.heldAfter_eq, ite_self]
    beta_reduce
    rw [hheld]
    exact ⟨p', g', hpermits, ih x hholds⟩

/-- A holder lets go of the pool and is done, or goes on. -/
theorem takes {ends : α → Pool → Prop} {m q : Program α} {s : Step} (h : m.HoldsPool size u ends p g)
    (hs : m.Takes s q) :
    ((∃ x, s = .asked (.unlock .pool) x) ∧ g = .nothing ∧ ∃ a, q = done a ∧ ends a p) ∨
      ∃ p' g', Permits size u p g s.request s.reply? p' g' ∧ q.HoldsPool size u ends p' g' := by
  cases hs with
  | asked r k x =>
    rcases h with ⟨rfl, hg, hend⟩ | hgoes
    · exact .inl ⟨⟨x, rfl⟩, hg, hend x⟩
    · exact .inr (hgoes x)
  | raced t r k x => exact .inr (h x)

/-- What a holder asks for next is to let go of the pool, or permitted. -/
theorem of_request? {ends : α → Pool → Prop} {m : Program α} (h : m.HoldsPool size u ends p g) {r : Request}
    (hr : m.request? = some r) : (r = .unlock .pool ∧ g = .nothing) ∨ ∃ x p' g', Permits size u p g r x p' g' := by
  cases m with
  | done a => cases hr
  | ask r' k =>
    cases hr
    rcases h with ⟨hr, hg, -⟩ | hgoes
    · exact .inl ⟨hr, hg⟩
    · obtain ⟨p', g', hpermits, -⟩ := hgoes r.plainReply
      exact .inr ⟨_, p', g', hpermits⟩
  | race t r' k =>
    cases hr
    obtain ⟨p', g', hpermits, -⟩ := h none
    exact .inr ⟨_, p', g', hpermits⟩

theorem exists_request {ends : α → Pool → Prop} {m : Program α} (h : m.HoldsPool size u ends p g) :
    ∃ r, m.request? = some r := by
  cases m with
  | done a => exact h.elim
  | ask r k | race t r k => exact ⟨r, rfl⟩

end HoldsPool

theorem WaitsPool.request?_eq {ends : Option α → Pool → Prop} {m : Program (Option α)} (h : m.WaitsPool size u ends) :
    m.request? = some (.lock .pool) := by
  cases m with
  | done a => exact h.elim
  | ask r k | race t r k =>
    cases r with
    | lock c =>
      cases c with
      | pool => rfl
      | _ => exact h.elim
    | _ => exact h.elim

/-- A program that waits for the pool locks it, or is dropped. -/
theorem WaitsPool.takes {ends : Option α → Pool → Prop} {m q : Program (Option α)} {s : Step}
    (h : m.WaitsPool size u ends) (hs : m.Takes s q) :
    (∃ p, s.done? = some ⟨.lock .pool, p⟩ ∧
        (p.connections.length ≤ capacity size → q.HoldsPool size u ends p .nothing)) ∨
      (∃ t, s = .raced t (.lock .pool) none) ∧ q = done none := by
  cases hs with
  | asked r k x =>
    cases r with
    | lock c =>
      cases c with
      | pool => exact .inl ⟨x, rfl, h x⟩
      | _ => exact h.elim
    | _ => exact h.elim
  | raced t r k x =>
    cases r with
    | lock c =>
      cases c with
      | pool =>
        cases x with
        | some p => exact .inl ⟨p, rfl, h.1 p⟩
        | none => exact .inr ⟨⟨t, rfl⟩, h.2⟩
      | _ => exact h.elim
    | _ => exact h.elim

end Program

namespace Pool

/-! ## Uses of the pool -/

/-- What a use of the pool gives. -/
inductive Answer where
  | given (r : Except Fault ConnectionId)
  | disposed

/-- A use of the pool; with a token it is dropped where it waits once the token is cancelled. -/
structure Use where
  purpose : Purpose
  token : Option TokenId

/-- What is done for a purpose. -/
def Purpose.program (size : Nat) : Purpose → Program Answer
  | acquire => .given <$> (Pool.acquire size).run
  | dispose => (fun _ => .disposed) <$> Pool.dispose

/-- What is done in a use; one that is dropped gives nothing. -/
def Use.program (size : Nat) (u : Use) : Program (Option Answer) :=
  match u.token with
  | none => some <$> u.purpose.program size
  | some t => Program.interruptible t (u.purpose.program size)

/-- What a use leaves behind, by what it gives: a connection that is handed out is the last in the pool, nothing is had
of a pool that was given up, and a pool is empty once it was disposed of. -/
def Purpose.Ends : Purpose → Option Answer → Pool → Prop
  | acquire, some (.given r), p =>
    (p.disposed = true → r = .error disposedFault) ∧ ∀ k, r = .ok k → p.connections.getLast? = some k
  | acquire, none, _ => True
  | dispose, some .disposed, p => p = ⟨[], true⟩
  | dispose, none, p => p.disposed = true
  | _, _, _ => False

theorem holds_openInto {size : Nat} {ks : List ConnectionId} (h : ks.length < capacity size) :
    (openInto ks).run.HoldsPool size .acquire (fun r => Purpose.acquire.Ends (some (.given r))) ⟨ks, false⟩ .nothing := by
  rw [run_openInto]
  refine .inr fun x => ?_
  cases x with
  | error f => exact ⟨_, _, .refused h f, .unlock rfl ⟨nofun, nofun⟩⟩
  | ok k =>
    refine ⟨_, _, .opened h k, .inr fun _ => ⟨_, _, .added ks k, .unlock rfl ⟨nofun, fun k' hk => ?_⟩⟩⟩
    cases hk
    exact List.getLast?_concat

theorem Purpose.Ends.emptied {a : Answer} {p : Pool} (h : Purpose.dispose.Ends (some a) p) : p = ⟨[], true⟩ := by
  cases a with
  | given r => exact h.elim
  | disposed => exact h

theorem Purpose.Ends.disposed {a : Option Answer} {p : Pool} (h : Purpose.dispose.Ends a p) : p.disposed = true := by
  cases a with
  | none => exact h
  | some a => rw [h.emptied]

theorem Purpose.Ends.refused {a : Answer} {p : Pool} (h : Purpose.acquire.Ends (some a) p) (hp : p.disposed = true) :
    a = .given (.error disposedFault) := by
  cases a with
  | given r => rw [h.1 hp]
  | disposed => exact h.elim

section
variable (size : Nat)

/-- What is left of an acquisition that sees the pool. -/
theorem holds_acquire :
    ∃ k, (acquire size).run = .ask (.lock .pool) k ∧ ∀ p : Pool, p.connections.length ≤ capacity size →
      (k p).HoldsPool size .acquire (fun r => Purpose.acquire.Ends (some (.given r))) p .nothing := by
  refine ⟨_, run_acquire size, fun p hp => ?_⟩
  obtain ⟨connections, disposed⟩ := p
  cases disposed with
  | true => exact .unlock rfl ⟨fun _ => rfl, nofun⟩
  | false =>
    cases connections with
    | nil => exact holds_openInto (Nat.lt_of_lt_of_le Nat.zero_lt_one (Nat.le_max_right size 1))
    | cons oldest rest =>
      change Program.HoldsPool size _ _ (if (oldest :: rest).length < capacity size then _ else _) _ _
      split
      · rename_i hroom
        exact holds_openInto hroom
      · refine .inr fun b => ?_
        cases b with
        | true =>
          refine ⟨_, _, .usable oldest rest, .inr fun _ => ⟨_, _, .reused oldest rest, .unlock rfl ⟨nofun, ?_⟩⟩⟩
          intro k hk
          cases hk
          exact List.getLast?_concat
        | false =>
          exact ⟨_, _, .unusable oldest rest, .inr fun _ => ⟨_, _, .evicted oldest rest, .inr fun _ =>
            ⟨_, _, (.closed (u := .acquire) nofun oldest _), holds_openInto hp⟩⟩⟩

theorem holds_closeAll (ks : List ConnectionId) :
    (closeAll ks >>= fun _ => Program.request (.unlock .pool)).HoldsPool size .dispose (fun _ p => p = ⟨[], true⟩)
      ⟨ks, true⟩ .nothing := by
  induction ks with
  | nil => exact .unlock rfl rfl
  | cons k rest ih =>
    exact .inr fun _ => ⟨_, _, .drained k rest, .inr fun _ => ⟨_, _, .closed (fun _ => rfl) k _, ih⟩⟩

theorem holds_dispose :
    ∃ k, dispose = .ask (.lock .pool) k ∧ ∀ p : Pool,
      (k p).HoldsPool size .dispose (fun _ p => p = ⟨[], true⟩) p .nothing :=
  ⟨_, rfl, fun p => .inr fun _ => ⟨_, _, .givenUp p, holds_closeAll size p.connections⟩⟩

/-- What is done for either purpose waits for the pool first, and keeps to the protocol from there. -/
theorem holds_program (u : Purpose) :
    ∃ k, u.program size = .ask (.lock .pool) k ∧ ∀ p : Pool, p.connections.length ≤ capacity size →
      (k p).HoldsPool size u (fun a => u.Ends (some a)) p .nothing := by
  cases u with
  | acquire =>
    obtain ⟨k, heq, hholds⟩ := holds_acquire size
    refine ⟨fun p => .given <$> k p, ?_, fun p hp => .map (f := Answer.given) (hholds p hp)⟩
    rw [Purpose.program, heq]
    rfl
  | dispose =>
    obtain ⟨k, heq, hholds⟩ := holds_dispose size
    refine ⟨fun p => (fun _ => .disposed) <$> k p, ?_, fun p _ => .map (f := fun _ => Answer.disposed) (hholds p)⟩
    rw [Purpose.program, heq]
    rfl

/-- So does each use, whether it may be dropped or not. -/
theorem waitsPool_program (u : Use) : (u.program size).WaitsPool size u.purpose u.purpose.Ends := by
  obtain ⟨purpose, token⟩ := u
  obtain ⟨k, heq, hholds⟩ := holds_program size purpose
  cases token with
  | none =>
    rw [Use.program, heq]
    intro p hp
    exact .map (f := some) (hholds p hp)
  | some t =>
    rw [Use.program, heq]
    change (Program.interruptibleFrom t [] (.ask (.lock .pool) k)).WaitsPool size purpose purpose.Ends
    rw [Program.interruptibleFrom_waits rfl]
    refine ⟨fun p hp => (hholds p hp).interruptible t fun p hdisposed => ?_, rfl⟩
    cases purpose with
    | acquire => trivial
    | dispose => exact hdisposed rfl

end

end Pool

end MessageBus
