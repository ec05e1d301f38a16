import MessageBus.Proofs.Pool.Turn
import Mathlib.Data.List.Rotate
/-!
# A full pool goes round

Once a pool is full, and as long as its connections stay open, it is rotated by one place for each call that has it:
`Pool.GoesRound` says so of any number of calls, the last of which may have the pool still. So the `i`-th call gets the
connection at position `i`, going round, and each connection is given out once in as many calls as there are connections
(`System.connections_in_rotation`).
-/

namespace MessageBus

/-- The connection that a caller was given. -/
def System.got (σ : System (Option Pool.Answer)) (n : Nat) : Option ConnectionId :=
  match σ.callers[n]? with
  | some (.done (some (.given (.ok k)))) => some k
  | _ => none

namespace Pool

/-! ## Turn after turn -/

/-- Each of these calls was given the connection at its place, going round. -/
def GaveRound (ks : List ConnectionId) (σ : System (Option Answer)) (ns : List Nat) : Prop :=
  ∀ i n, ns[i]? = some n →
    ∃ k, ks[i % ks.length]? = some k ∧ σ.callers[n]? = some (.done (some (.given (.ok k))))

/-- These calls have had a full pool in turn, the last of them perhaps still: the pool has gone round by one place for
each. -/
inductive GoesRound (ks : List ConnectionId) (σ : System (Option Answer)) : List Nat → Prop
  | free {ns : List Nat} (hgave : GaveRound ks σ ns) (hholder : σ.holder .pool = none)
      (hcells : σ.cells .pool = ⟨ks.rotate ns.length, false⟩) : GoesRound ks σ ns
  | taken {ns : List Nat} {n : Nat} {m : Program (Option Answer)} {k : ConnectionId} {rest : List ConnectionId}
      (hgave : GaveRound ks σ ns) (hholder : σ.holder .pool = some (.caller n)) (hm : σ.callers[n]? = some m)
      (hks : ks.rotate ns.length = k :: rest)
      (hrotates : Rotates k rest (some (.given (.ok k))) (σ.cells .pool) m) : GoesRound ks σ (ns ++ [n])

section
variable {ks rest : List ConnectionId} {k : ConnectionId} {ns : List Nat} {n : Nat} {σ σ' : System (Option Answer)}
  {e : Happening}

theorem GaveRound.next (h : GaveRound ks σ ns) (hn : σ.Next e σ') : GaveRound ks σ' ns := by
  intro i n hi
  obtain ⟨k, hk, hdone⟩ := h i n hi
  exact ⟨k, hk, hn.done hdone⟩

/-- The oldest connection after some turns. -/
theorem getElem?_of_rotate (hks : ks.rotate ns.length = k :: rest) : ks[ns.length % ks.length]? = some k := by
  have hpos : 0 < ks.length := by
    rw [← List.length_rotate ks ns.length, hks]
    exact Nat.succ_pos _
  rw [← List.head?_rotate (Nat.mod_lt _ hpos), List.rotate_mod, hks]
  rfl

theorem GaveRound.concat (h : GaveRound ks σ ns) (hks : ks.rotate ns.length = k :: rest)
    (hdone : σ.callers[n]? = some (.done (some (.given (.ok k))))) : GaveRound ks σ (ns ++ [n]) := by
  intro i n' hi
  rcases Nat.lt_trichotomy i ns.length with hlt | rfl | hlt
  · exact h i n' (by rwa [List.getElem?_append_left hlt] at hi)
  · rw [List.getElem?_concat_length] at hi
    cases hi
    exact ⟨k, getElem?_of_rotate hks, hdone⟩
  · rw [List.getElem?_eq_none (by simpa using Nat.succ_le_of_lt hlt)] at hi
    cases hi

theorem rotate_succ_of (hks : ks.rotate ns.length = k :: rest) : ks.rotate (ns ++ [n]).length = rest ++ [k] := by
  rw [List.length_append, List.length_singleton, ← List.rotate_rotate, hks, List.rotate_cons_succ,
    List.rotate_zero]

end

variable {size : Nat} {uses : List Use} {known : List Thing} {ks : List ConnectionId} {ns : List Nat}
  {σ σ' : System (Option Answer)} {g : Grip} {n : Nat} {m q : Program (Option Answer)} {s : Step}

/-- There is an oldest connection, wherever the pool stands. -/
theorem exists_oldest (ns : List Nat) (hfull : ks.length = capacity size) :
    ∃ k rest, ks.rotate ns.length = k :: rest ∧ capacity size ≤ (k :: rest).length := by
  have hlength : (ks.rotate ns.length).length = capacity size := (List.length_rotate ..).trans hfull
  have hpos : 0 < capacity size := Nat.lt_of_lt_of_le Nat.zero_lt_one (Nat.le_max_right size 1)
  obtain ⟨k, rest, hks⟩ := List.exists_cons_of_length_pos (hlength ▸ hpos)
  exact ⟨k, rest, hks, hks ▸ hlength.ge⟩

/-- Whoever does not have the pool has not begun, or is over. -/
theorem whole_or_done (h : (System.pooling size uses known).Leads σ) {u : Use} (hu : uses[n]? = some u)
    (hm : σ.callers[n]? = some m) (hout : σ.holder .pool ≠ some (.caller n)) :
    m = u.program size ∨ ∃ a, m = .done a := by
  induction h generalizing m with
  | refl =>
    have hfirst : (System.pooling size uses known).callers[n]? = some (u.program size) := by
      simp [System.pooling, System.start, hu]
    exact .inl (Option.some.inj (hm.symm.trans hfirst))
  | @next σ σ' e h hn ih =>
    obtain ⟨g, hg⟩ := h.inOrder
    cases hn with
    | task ht | broke ht => exact absurd ht (hg.no_tasks _ _)
    | cancelled => exact ih hm hout
    | @caller n' m' q s hm' ht ha =>
      obtain ⟨u', hu'⟩ := hg.use_of_caller hm'
      obtain ⟨holder', p', hholder, -, hgoes⟩ := hg.goes hm' hu' ht ha
      replace hout : holder' ≠ some (.caller n) := hholder ▸ hout
      by_cases hne : n' = n
      · subst hne
        have hself : (σ.callers.set n' q)[n']? = some q := List.getElem?_set_self (List.getElem?_eq_some_iff.1 hm').1
        cases hself.symm.trans hm
        cases hgoes with
        | on | locks => exact absurd rfl hout
        | off | dropped => exact .inr ⟨_, rfl⟩
      · rw [List.getElem?_set_ne hne] at hm
        refine ih hm fun hbefore => ?_
        cases hgoes with
        | on hhold | off hhold => exact hne (by simpa using hhold.symm.trans hbefore)
        | locks hfree => cases hfree.symm.trans hbefore
        | dropped => exact hout hbefore

namespace GoesRound

/-- A call that has the pool goes on with its turn. -/
theorem goes_on (h : GoesRound ks σ ns) (hhold : σ.holder .pool = some (.caller n)) (hm : σ.callers[n]? = some m)
    (ht : m.Takes s q) (ha : σ.Admits s) (hopen : ∀ k ∈ ks, s.done? ≠ some ⟨.isConnected k, false⟩) :
    s.locksPool = false ∧ s.request.isConnect = false ∧ s.request.disconnects? = none ∧
      GoesRound ks { σ.record (.caller n) s with callers := σ.callers.set n q } ns := by
  have hself : (σ.callers.set n q)[n]? = some q := List.getElem?_set_self (List.getElem?_eq_some_iff.1 hm).1
  cases h with
  | free _ hfree => cases hhold.symm.trans hfree
  | @taken ns n' m' k rest hgave hholder hm' hks hrotates =>
    obtain rfl : n' = n := by simpa using hholder.symm.trans hhold
    cases hm.symm.trans hm'
    have hk : k ∈ ks := List.mem_rotate.1 (hks ▸ List.mem_cons_self)
    have hgave' := hgave.next (.caller hm ht ha)
    rcases hrotates.takes ht (hopen k hk) with ⟨rfl, hcells, rfl⟩ | ⟨hlock, hunlock, hconnect, hdisconnect, hrest⟩
    · refine ⟨rfl, rfl, rfl, .free (hgave'.concat hks hself) ?_ ?_⟩
      · simp [System.record, System.holderAfter, Step.done?]
      · rw [rotate_succ_of hks]
        exact hcells
    · refine ⟨Step.not_locksPool hlock, hconnect, hdisconnect, .taken hgave' ?_ hself hks ?_⟩
      · exact (System.holder_record _ hlock hunlock).trans hhold
      · have hcells : (σ.record (.caller n') s).cells .pool = (s.put? .pool).getD (σ.cells .pool) :=
          System.cellsAfter_apply s σ.cells .pool
        rw [← hcells] at hrest
        exact hrest

/-- A call that does not have the pool begins its turn, or is dropped. -/
theorem begins (h : GoesRound ks σ ns) (hl : (System.pooling size uses known).Leads σ) (hfull : ks.length = capacity size)
    (hout : σ.holder .pool ≠ some (.caller n)) (hm : σ.callers[n]? = some m) (ht : m.Takes s q) (ha : σ.Admits s)
    (hacquire : s.locksPool = true → ∃ u, uses[n]? = some u ∧ u.purpose = .acquire) :
    s.request = .lock .pool ∧ GoesRound ks { σ.record (.caller n) s with callers := σ.callers.set n q }
      (ns ++ if s.locksPool then [n] else []) := by
  obtain ⟨g, hg⟩ := hl.inOrder
  obtain ⟨u, hu⟩ := hg.use_of_caller hm
  obtain ⟨holder', p', hholder, hcells, hgoes⟩ := hg.goes hm hu ht ha
  have hself : (σ.callers.set n q)[n]? = some q := List.getElem?_set_self (List.getElem?_eq_some_iff.1 hm).1
  have hnext : σ.Next (.took (.caller n) s) { σ.record (.caller n) s with callers := σ.callers.set n q } :=
    .caller hm ht ha
  cases hgoes with
  | on hhold | off hhold => exact absurd hhold hout
  | locks hfree hd =>
    have hlocks : s.locksPool = true := by simp [Step.locksPool, hd]
    refine ⟨System.request_of_done? hd, ?_⟩
    rw [if_pos hlocks]
    cases h with
    | taken _ hholder' => cases hfree.symm.trans hholder'
    | free hgave _ hpool =>
      obtain ⟨k, rest, hks, hlength⟩ := exists_oldest ns hfull
      obtain ⟨u', hu', hacquire'⟩ := hacquire hlocks
      cases hu.symm.trans hu'
      rw [hpool, hks] at hd
      rcases whole_or_done hl hu hm hout with rfl | ⟨a, rfl⟩
      · refine .taken (hgave.next hnext) hholder hself hks ?_
        have hfound : (σ.record (.caller n) s).cells .pool = ⟨k :: rest, false⟩ := by rw [hcells, hpool, hks]
        have hrotates := Use.rotates hlength hacquire' ht hd
        rw [← hfound] at hrotates
        exact hrotates
      · exact absurd ht Program.Takes.not_done
  | dropped _ hs =>
    subst hs
    refine ⟨rfl, ?_⟩
    simp only [Step.locksPool, Step.done?, Option.map_none, Bool.false_eq_true, if_false, List.append_nil]
    cases h with
    | free hgave hfree hpool => exact .free (hgave.next hnext) hfree hpool
    | taken hgave hholder' hm' hks hrotates =>
      refine .taken (hgave.next hnext) hholder' ?_ hks hrotates
      rw [List.getElem?_set_ne (by rintro rfl; exact hout hholder')]
      exact hm'

theorem cancelled (h : GoesRound ks σ ns) (t : TokenId) :
    GoesRound ks { σ with past := σ.past ++ [.cancelled t] } ns := by
  cases h with
  | free hgave hfree hpool => exact .free hgave hfree hpool
  | taken hgave hholder hm hks hrotates => exact .taken hgave hholder hm hks hrotates

/-- Whatever happens next, the pool keeps going round, and nothing is opened or closed. -/
theorem next {e : Happening} {events : List Happening} (h : GoesRound ks σ (lockers events))
    (hl : (System.pooling size uses known).Leads σ) (hfull : ks.length = capacity size) (hn : σ.Next e σ')
    (hacquire : ∀ n ∈ lockers (events ++ [e]), ∃ u, uses[n]? = some u ∧ u.purpose = .acquire)
    (hopen : ∀ a s, e = .took a s → ∀ k ∈ ks, s.done? ≠ some ⟨.isConnected k, false⟩) :
    GoesRound ks σ' (lockers (events ++ [e])) ∧
      ∀ a s, e = .took a s → s.request.isConnect = false ∧ s.request.disconnects? = none := by
  cases hn with
  | task ht | broke ht =>
    obtain ⟨g, hg⟩ := hl.inOrder
    exact absurd ht (hg.no_tasks _ _)
  | cancelled t =>
    refine ⟨?_, fun _ _ he => by cases he⟩
    rw [lockers_append]
    exact (List.append_nil (lockers events)).symm ▸ h.cancelled t
  | @caller n m q s hm ht ha =>
    have hlockers : lockers (events ++ [.took (.caller n) s]) = lockers events ++ if s.locksPool then [n] else [] := by
      rw [lockers_append, lockers_cons]
      exact congrArg _ (List.append_nil _)
    rw [hlockers] at hacquire ⊢
    by_cases hhold : σ.holder .pool = some (.caller n)
    · obtain ⟨hlock, hconnect, hdisconnect, h'⟩ := h.goes_on hhold hm ht ha (hopen _ _ rfl)
      rw [hlock]
      refine ⟨(List.append_nil (lockers events)).symm ▸ h', fun a s' heq => ?_⟩
      cases heq
      exact ⟨hconnect, hdisconnect⟩
    · obtain ⟨hrequest, h'⟩ := h.begins hl hfull hhold hm ht ha fun hlock => hacquire n (by simp [hlock])
      refine ⟨h', fun a s' heq => ?_⟩
      cases heq
      rw [hrequest]
      exact ⟨rfl, rfl⟩

/-- As long as its connections stay open, a full pool that is only acquired from goes round. -/
theorem of_leads (h : (System.pooling size uses known).Leads σ) (hfree : σ.holder .pool = none)
    (hpool : σ.cells .pool = ⟨ks, false⟩) (hfull : ks.length = capacity size) (hl : σ.Leads σ') {events : List Happening}
    (hpast : σ'.past = σ.past ++ events)
    (hacquire : ∀ n ∈ lockers events, ∃ u, uses[n]? = some u ∧ u.purpose = .acquire)
    {live : List Happening → ConnectionId → Prop} (htold : Throughout σ'.past (Told live))
    (hopen : ∀ k ∈ ks, ∀ later, later <+: events → live (σ.past ++ later) k) :
    GoesRound ks σ' (lockers events) ∧
      ∀ a s, .took a s ∈ events → s.request.isConnect = false ∧ s.request.disconnects? = none := by
  induction hl generalizing events with
  | refl =>
    obtain rfl : events = [] := by simpa using hpast
    exact ⟨.free (fun i n hi => by cases hi) hfree (by simpa [lockers] using hpool),
      fun _ _ hs => absurd hs List.not_mem_nil⟩
  | @next σ₁ σ₂ e hl hn ih =>
    obtain ⟨before, hbefore⟩ := hl.past
    obtain rfl : events = before ++ [e] := by
      rw [hn.past, hbefore, List.append_assoc] at hpast
      exact (List.append_cancel_left hpast).symm
    rw [hn.past] at htold
    obtain ⟨htold₁, hlast⟩ := Throughout.concat_iff.1 htold
    have hacquire₁ : ∀ n ∈ lockers before, ∃ u, uses[n]? = some u ∧ u.purpose = .acquire := fun n hn =>
      hacquire n (by
        rw [lockers_append]
        exact List.mem_append_left _ hn)
    obtain ⟨h₁, hquiet⟩ := ih hbefore hacquire₁ htold₁ fun k hk later hlater =>
      hopen k hk later (hlater.trans (List.prefix_append _ _))
    obtain ⟨h₂, hquiet'⟩ := h₁.next (h.trans hl) hfull hn hacquire fun a s he k hk hclosed => by
      have hlive := hopen k hk before (List.prefix_append _ _)
      rw [← hbefore] at hlive
      exact absurd (((hlast a s he).isConnected k false hclosed).2 hlive) Bool.false_ne_true
    refine ⟨h₂, fun a s hs => ?_⟩
    rcases List.mem_append.1 hs with hs | hs
    · exact hquiet a s hs
    · exact hquiet' a s (List.mem_singleton.1 hs).symm

end GoesRound

/-! ## What the callers get -/

/-- What the callers get of a full pool of connections `ks`, which nobody had locked before these events. -/
structure Rotation (uses : List Use) (ks : List ConnectionId) (σ : System (Option Answer)) (events : List Happening) :
    Prop where
  /-- Nothing is opened or closed. -/
  quiet : ∀ a s, .took a s ∈ events → s.request ≠ .connect ∧ ∀ k, s.request ≠ .disconnect k
  /-- The `i`-th call to have the pool gets the connection at position `i`, going round; the last one may have the pool
  still, and can come to get it then. -/
  given : ∀ i n, (lockers events)[i]? = some n → ∃ k, ks[i % ks.length]? = some k ∧
    (σ.callers[n]? = some (.done (some (.given (.ok k)))) ∨
      i + 1 = (lockers events).length ∧ σ.holder .pool = some (.caller n) ∧
        ∃ σ', σ.Leads σ' ∧ σ'.callers[n]? = some (.done (some (.given (.ok k)))))
  pool : σ.holder .pool = none → σ.cells .pool = ⟨ks.rotate (lockers events).length, false⟩
  /-- Where nobody has the pool, any acquisition that is not over can be the next. -/
  served : σ.holder .pool = none → ∀ (n : Nat) (u : Use), uses[n]? = some u → u.purpose = .acquire →
    (∀ a, σ.callers[n]? ≠ some (.done a)) → ∃ k σ', ks[(lockers events).length % ks.length]? = some k ∧
      σ.Leads σ' ∧ σ'.callers[n]? = some (.done (some (.given (.ok k))))
  /-- As many calls as there are connections, one after the other, get each of them once. -/
  round : ∀ j, j + ks.length ≤ (lockers events).length →
    (∀ n ∈ ((lockers events).drop j).take ks.length, ∃ a, σ.callers[n]? = some (.done a)) →
    let got := (((lockers events).drop j).take ks.length).map σ.got
    got = (ks.rotate j).map some ∧ ∀ k ∈ ks, got.count (some k) = 1

namespace GoesRound

theorem given (h : GoesRound ks σ ns) {i : Nat} (hi : ns[i]? = some n) : ∃ k, ks[i % ks.length]? = some k ∧
    (σ.callers[n]? = some (.done (some (.given (.ok k)))) ∨
      i + 1 = ns.length ∧ σ.holder .pool = some (.caller n) ∧
        ∃ σ', σ.Leads σ' ∧ σ'.callers[n]? = some (.done (some (.given (.ok k))))) := by
  cases h with
  | free hgave =>
    obtain ⟨k, hk, hdone⟩ := hgave i n hi
    exact ⟨k, hk, .inl hdone⟩
  | @taken ns n' m k rest hgave hholder hm hks hrotates =>
    have hlt : i < (ns ++ [n']).length := (List.getElem?_eq_some_iff.1 hi).1
    rw [List.length_append, List.length_singleton] at hlt ⊢
    rcases Nat.lt_succ_iff_lt_or_eq.1 hlt with hbefore | rfl
    · rw [List.getElem?_append_left hbefore] at hi
      obtain ⟨k', hk', hdone⟩ := hgave i n hi
      exact ⟨k', hk', .inl hdone⟩
    · rw [List.getElem?_concat_length] at hi
      cases hi
      obtain ⟨σ', hended⟩ := hrotates.exists_ended rfl hm hholder
      refine ⟨k, getElem?_of_rotate hks, .inr ⟨rfl, hholder, σ', hended.leads, ?_⟩⟩
      rw [hended.callers]
      exact List.getElem?_set_self (List.getElem?_eq_some_iff.1 hm).1

theorem got_of_over (h : GoesRound ks σ ns) {i : Nat} (hi : ns[i]? = some n)
    (hover : ∃ a, σ.callers[n]? = some (.done a)) : ∃ k, ks[i % ks.length]? = some k ∧ σ.got n = some k := by
  obtain ⟨k, hk, hdone | ⟨-, -, σ', hl, hdone⟩⟩ := h.given hi
  · exact ⟨k, hk, by rw [System.got, hdone]⟩
  · obtain ⟨a, ha⟩ := hover
    cases (hl.done ha).symm.trans hdone
    exact ⟨k, hk, by rw [System.got, ha]⟩

theorem pool_of_free (h : GoesRound ks σ ns) (hfree : σ.holder .pool = none) :
    σ.cells .pool = ⟨ks.rotate ns.length, false⟩ := by
  cases h with
  | free _ _ hcells => exact hcells
  | taken _ hholder => cases hfree.symm.trans hholder

/-- As many calls as there are connections get them in their order, from some place on. -/
theorem map_got (h : GoesRound ks σ ns) {j : Nat} (hj : j + ks.length ≤ ns.length)
    (hover : ∀ n ∈ (ns.drop j).take ks.length, ∃ a, σ.callers[n]? = some (.done a)) :
    ((ns.drop j).take ks.length).map σ.got = (ks.rotate j).map some := by
  refine List.ext_getElem? fun i => ?_
  by_cases hi : i < ks.length
  · obtain ⟨n, hn⟩ : ∃ n, ns[j + i]? = some n := ⟨_, List.getElem?_eq_getElem (by omega)⟩
    have hwindow : ((ns.drop j).take ks.length)[i]? = some n := by
      rw [List.getElem?_take_of_lt hi, List.getElem?_drop, hn]
    obtain ⟨k, hk, hgot⟩ := h.got_of_over hn (hover n (List.mem_of_getElem? hwindow))
    rw [List.getElem?_map, hwindow, List.getElem?_map, List.getElem?_rotate hi, Nat.add_comm i j, hk]
    exact congrArg some hgot
  · rw [List.getElem?_eq_none, List.getElem?_eq_none]
    · simpa using hi
    · simp only [List.length_map, List.length_take, List.length_drop]
      omega

theorem served (h : GoesRound ks σ ns) (hl : (System.pooling size uses known).Leads σ) (hfull : ks.length = capacity size)
    (hfree : σ.holder .pool = none) {u : Use} (hu : uses[n]? = some u) (hacquire : u.purpose = .acquire)
    (hbusy : ∀ a, σ.callers[n]? ≠ some (.done a)) : ∃ k σ', ks[ns.length % ks.length]? = some k ∧ σ.Leads σ' ∧
      σ'.callers[n]? = some (.done (some (.given (.ok k)))) := by
  obtain ⟨g, hg⟩ := hl.inOrder
  have hlt : n < σ.callers.length := hg.used ▸ (List.getElem?_eq_some_iff.1 hu).1
  have hm : σ.callers[n]? = some σ.callers[n] := List.getElem?_eq_getElem hlt
  rcases whole_or_done hl hu hm (by simp [hfree]) with hwhole | ⟨a, ha⟩
  · obtain ⟨k, rest, hks, hlength⟩ := exists_oldest ns hfull
    have hpool := h.pool_of_free hfree
    rw [hks] at hpool
    obtain ⟨σ', hended⟩ := exists_turn size hacquire (hm.trans (congrArg some hwhole)) hfree hpool hlength
    refine ⟨k, σ', getElem?_of_rotate hks, hended.leads, ?_⟩
    rw [hended.callers]
    exact List.getElem?_set_self hlt
  · exact absurd (hm.trans (congrArg some ha)) (hbusy a)

theorem rotation {events : List Happening} (h : GoesRound ks σ (lockers events))
    (hl : (System.pooling size uses known).Leads σ) (hfull : ks.length = capacity size) (hnodup : ks.Nodup)
    (hquiet : ∀ a s, .took a s ∈ events → s.request.isConnect = false ∧ s.request.disconnects? = none) :
    Rotation uses ks σ events where
  quiet a s hs := by
    obtain ⟨hconnect, hdisconnect⟩ := hquiet a s hs
    refine ⟨fun hr => ?_, fun k hr => ?_⟩
    · rw [hr] at hconnect
      cases hconnect
    · rw [hr] at hdisconnect
      cases hdisconnect
  given i n hi := h.given hi
  pool := h.pool_of_free
  served hfree n u hu hacquire hbusy := h.served hl hfull hfree hu hacquire hbusy
  round j hj hover := by
    intro got
    have hgot : got = (ks.rotate j).map some := h.map_got hj hover
    refine ⟨hgot, fun k hk => ?_⟩
    rw [hgot, List.count_map_of_injective _ _ (Option.some_injective _), (List.rotate_perm ks j).count_eq]
    exact List.count_eq_one_of_mem hnodup hk

end GoesRound

/-- How a pool hands out its connections. -/
structure HandsOut (size : Nat) (uses : List Use) (known : List Thing) (σ : System (Option Answer)) : Prop where
  /-- A call that got a connection did so between two moments at which nobody had the pool locked. -/
  handed : ∀ {n : Nat} {u : Use} {k : ConnectionId}, uses[n]? = some u → u.purpose = .acquire →
    σ.callers[n]? = some (.done (some (.given (.ok k)))) →
    ∃ σ₁ σ₂ during, (System.pooling size uses known).Leads σ₁ ∧ Handed size n k σ₁ σ₂ σ during
  /-- A full pool goes round from here on, as long as its connections stay open and it is not disposed of. -/
  rotates : ∀ {ks : List ConnectionId} {σ' : System (Option Answer)} {events : List Happening}
    {live : List Happening → ConnectionId → Prop}, σ.holder .pool = none → σ.cells .pool = ⟨ks, false⟩ →
    ks.length = max size 1 → σ.Leads σ' → σ'.past = σ.past ++ events →
    (∀ n ∈ lockers events, ∃ u, uses[n]? = some u ∧ u.purpose = .acquire) → Throughout σ'.past (Told live) →
    (∀ k ∈ ks, ∀ later, later <+: events → live (σ.past ++ later) k) → Rotation uses ks σ' events

end Pool

namespace System

variable {size : Nat} {uses : List Pool.Use} {known : List Thing} {σ : System (Option Pool.Answer)}

/-- However the calls are interleaved, whichever of them are dropped, and whatever becomes of the connections: each call
that gets a connection gets one that is open, and it is then the last one in the pool; and once the pool is full, it
hands out its connections in turn, as long as they stay open, and opens no other. -/
theorem connections_in_rotation (h : (pooling size uses known).Leads σ) : Pool.HandsOut size uses known σ where
  handed hu hacquire hdone := h.handed hu hacquire hdone
  rotates hfree hpool hfull hl hpast hacquire htold hopen := by
    have hnodup := (connections_conserved h).nodup
    rw [hpool] at hnodup
    obtain ⟨hround, hquiet⟩ := Pool.GoesRound.of_leads h hfree hpool hfull hl hpast hacquire htold hopen
    exact hround.rotation (h.trans hl) hfull hnodup hquiet

end System

/-! ## A pool of two that goes round -/

namespace Sample

/-- Acquisitions, one of which may be dropped. -/
def borrowers : List Pool.Use :=
  [⟨.acquire, none⟩, ⟨.acquire, none⟩, ⟨.acquire, none⟩, ⟨.acquire, some ⟨0⟩⟩, ⟨.acquire, none⟩]

end Sample

open Sample in
/-- Two acquisitions fill the pool. -/
theorem System.leads_borrowers :
    ∃ σ : System (Option Pool.Answer), (pooling 2 borrowers []).Leads σ ∧
      σ.callers = [.done (some (.given (.ok ⟨0⟩))), .done (some (.given (.ok ⟨1⟩)))] ++
        (borrowers.drop 2).map (·.program 2) ∧
      σ.holder .pool = none ∧ σ.cells .pool = ⟨[⟨0⟩, ⟨1⟩], false⟩ ∧ Pool.FoundOpen σ.past := by
  have h₀ : (pooling 2 borrowers []).Leads _ := .refl
  have h₁ := h₀.next (.called (n := 0) (r := .lock .pool) Pool.empty rfl ⟨rfl, rfl⟩ (nothing_new rfl))
  have h₂ := h₁.next (.called (n := 0) (r := .connect) (.ok ⟨0⟩) rfl trivial fun y hy => by cases hy; decide)
  have h₃ := h₂.next (.called (n := 0) (r := .put .pool _) () rfl trivial (nothing_new rfl))
  have h₄ := h₃.next (.called (n := 0) (r := .unlock .pool) () rfl trivial (nothing_new rfl))
  have h₅ := h₄.next (.called (n := 1) (r := .lock .pool) ⟨[⟨0⟩], false⟩ rfl ⟨rfl, rfl⟩ (nothing_new rfl))
  have h₆ := h₅.next (.called (n := 1) (r := .connect) (.ok ⟨1⟩) rfl trivial fun y hy => by cases hy; decide)
  have h₇ := h₆.next (.called (n := 1) (r := .put .pool _) () rfl trivial (nothing_new rfl))
  have h₈ := h₇.next (.called (n := 1) (r := .unlock .pool) () rfl trivial (nothing_new rfl))
  refine ⟨_, h₈, rfl, rfl, rfl, fun a s k hs hd => ?_⟩
  simp only [record, pooling, start, List.nil_append, List.cons_append, List.mem_cons, Happening.took.injEq,
    List.not_mem_nil, or_false] at hs
  rcases hs with ⟨-, rfl⟩ | ⟨-, rfl⟩ | ⟨-, rfl⟩ | ⟨-, rfl⟩ | ⟨-, rfl⟩ | ⟨-, rfl⟩ | ⟨-, rfl⟩ | ⟨-, rfl⟩ <;> cases hd

open Sample in
/-- Three more acquisitions get the two connections in turn, and the first of them again. -/
theorem System.borrowers_in_rotation :
    ∃ (σ σ' : System (Option Pool.Answer)) (events : List Happening), (pooling 2 borrowers []).Leads σ ∧ σ.Leads σ' ∧
      σ'.past = σ.past ++ events ∧ lockers events = [2, 3, 4] ∧ [2, 3, 4].map σ'.got = [some ⟨0⟩, some ⟨1⟩, some ⟨0⟩] ∧
      Pool.Rotation borrowers [⟨0⟩, ⟨1⟩] σ' events ∧
      ∃ σ₁ σ₂ during, (pooling 2 borrowers []).Leads σ₁ ∧ Pool.Handed 2 3 ⟨1⟩ σ₁ σ₂ σ' during := by
  obtain ⟨σ, h, hcallers, hfree, hpool, hopen⟩ := leads_borrowers
  obtain ⟨σ₁, h₁⟩ := Pool.exists_turn 2 (n := 2) (u := ⟨.acquire, none⟩) rfl (by rw [hcallers]; rfl) hfree hpool
    (Nat.le_refl 2)
  obtain ⟨σ₂, h₂⟩ := Pool.exists_turn 2 (n := 3) (u := ⟨.acquire, some ⟨0⟩⟩) rfl
    (by rw [h₁.callers, hcallers]; rfl) h₁.free h₁.pool (Nat.le_refl 2)
  obtain ⟨σ₃, h₃⟩ := Pool.exists_turn 2 (n := 4) (u := ⟨.acquire, none⟩) rfl
    (by rw [h₂.callers, h₁.callers, hcallers]; rfl) h₂.free h₂.pool (Nat.le_refl 2)
  obtain ⟨events₁, hpast₁, hlockers₁, hopen₁⟩ := h₁.events
  obtain ⟨events₂, hpast₂, hlockers₂, hopen₂⟩ := h₂.events
  obtain ⟨events₃, hpast₃, hlockers₃, hopen₃⟩ := h₃.events
  have hl : σ.Leads σ₃ := (h₁.leads.trans h₂.leads).trans h₃.leads
  have hpast : σ₃.past = σ.past ++ (events₁ ++ events₂ ++ events₃) := by
    rw [hpast₃, hpast₂, hpast₁]
    simp only [List.append_assoc]
  have hlockers : lockers (events₁ ++ events₂ ++ events₃) = [2, 3, 4] := by
    rw [lockers_append, lockers_append, hlockers₁, hlockers₂, hlockers₃]
    rfl
  have hdone : σ₃.callers = [.done (some (.given (.ok ⟨0⟩))), .done (some (.given (.ok ⟨1⟩))),
      .done (some (.given (.ok ⟨0⟩))), .done (some (.given (.ok ⟨1⟩))), .done (some (.given (.ok ⟨0⟩)))] := by
    rw [h₃.callers, h₂.callers, h₁.callers, hcallers]
    rfl
  have htold : Throughout σ₃.past (Pool.Told fun _ _ => True) := by
    rw [hpast]
    exact (hopen.append ((hopen₁.append hopen₂).append hopen₃)).told
  refine ⟨σ, σ₃, _, h, hl, hpast, hlockers, ?_, ?_, ?_⟩
  · simp [got, hdone]
  · refine (connections_in_rotation h).rotates hfree hpool rfl hl hpast (fun n hn => ?_) htold fun _ _ _ _ => trivial
    rw [hlockers] at hn
    simp only [List.mem_cons, List.not_mem_nil, or_false] at hn
    rcases hn with rfl | rfl | rfl <;> exact ⟨_, rfl, rfl⟩
  · exact (connections_in_rotation (h.trans hl)).handed (n := 3) (u := ⟨.acquire, some ⟨0⟩⟩) rfl rfl (by rw [hdone]; rfl)

end MessageBus
