import MessageBus.Proofs.Program.Run
/-!
# How far a program gets

A program that runs beside others may be caught at any point. `Program.Reaches p steps q` says that `p`, given the
replies in the steps, has `q` left to do. `Reaches.bind_cases` takes such a run apart where one part of the program
hands over to the next, and `Reaches.exists_run` leads it back to a run in some surroundings, so that what holds of
every run holds of whatever a program does in company.

`Program.Only` bounds what a program can ask for, and `Program.Holds` says of one that holds a cell that it lets it go
in its last step.
-/

namespace MessageBus

section
variable {β : Type}

/-- What the steps show, in order. -/
def noted (f : Step → Option β) (steps : List Step) : List β := steps.filterMap f

variable (f : Step → Option β) (s : Step) (steps steps' : List Step)

@[simp] theorem noted_nil : noted f [] = [] := rfl

@[simp] theorem noted_append : noted f (steps ++ steps') = noted f steps ++ noted f steps' := List.filterMap_append

@[simp] theorem noted_cons : noted f (s :: steps) = (f s).toList ++ noted f steps := by
  cases h : f s <;> simp [noted, h]

theorem mem_noted {f : Step → Option β} {steps : List Step} {x : β} : x ∈ noted f steps ↔ ∃ s ∈ steps, f s = some x :=
  List.mem_filterMap

end

section
variable {β : Type}

/-- Each element of the list is justified by what stands before it, of which `past` is the beginning. -/
def Justified (P : List β → β → Prop) : List β → List β → Prop
  | _, [] => True
  | past, x :: xs => P past x ∧ Justified P (past ++ [x]) xs

variable {P : List β → β → Prop} {past xs ys front rest : List β} {x : β}

theorem justified_append : Justified P past (xs ++ ys) ↔ Justified P past xs ∧ Justified P (past ++ xs) ys := by
  induction xs generalizing past with
  | nil => simp [Justified]
  | cons x xs ih => simp [Justified, ih, and_assoc]

/-- What is justified whatever follows the past is justified in any order. -/
theorem justified_of_forall (h : ∀ x ∈ xs, ∀ more, P (past ++ more) x) : Justified P past xs := by
  induction xs generalizing past with
  | nil => trivial
  | cons x xs ih =>
    obtain ⟨hx, hxs⟩ := List.forall_mem_cons.1 h
    refine ⟨by simpa using hx [], ih fun y hy more => ?_⟩
    rw [List.append_assoc]
    exact hxs y hy _

theorem Justified.at_split (h : Justified P past (front ++ x :: rest)) : P (past ++ front) x :=
  (justified_append.1 h).2.1

end

namespace Program

variable {α β : Type}

/-- What a program asks for next. -/
def request? : Program α → Option Request
  | done _ => none
  | ask r _ | race _ r _ => some r

/-- A program takes a step, and the rest is left. -/
inductive Takes : Program α → Step → Program α → Prop
  | asked (r : Request) (k : r.Reply → Program α) (x : r.Reply) : Takes (ask r k) (.asked r x) (k x)
  | raced (t : TokenId) (r : Request) (k : Option r.Reply → Program α) (x : Option r.Reply) :
      Takes (race t r k) (.raced t r x) (k x)

/-- A program takes steps, and the rest is left. -/
inductive Reaches : Program α → List Step → Program α → Prop
  | here (p : Program α) : Reaches p [] p
  | next {p p' q : Program α} {step : Step} {steps : List Step} (h : p.Takes step p') (rest : Reaches p' steps q) :
      Reaches p (step :: steps) q

/-! ## Steps of a compound program -/

theorem Takes.not_done {a : α} {step : Step} {q : Program α} : ¬(done a).Takes step q := nofun

/-- No program takes steps forever. -/
theorem wellFounded_takes : WellFounded fun q p : Program α => ∃ step, p.Takes step q := by
  refine ⟨fun p => ?_⟩
  induction p with
  | done a => exact ⟨_, fun q ⟨_, hs⟩ => absurd hs Takes.not_done⟩
  | ask r k ih =>
    refine ⟨_, fun q ⟨_, hs⟩ => ?_⟩
    cases hs with
    | asked _ _ x => exact ih x
  | race t r k ih =>
    refine ⟨_, fun q ⟨_, hs⟩ => ?_⟩
    cases hs with
    | raced _ _ _ x => exact ih x

theorem Takes.bind {p q : Program α} {step : Step} (h : p.Takes step q) (f : α → Program β) :
    (p >>= f).Takes step (q >>= f) := by
  cases h with
  | asked r k x => exact .asked r (fun x => k x >>= f) x
  | raced t r k x => exact .raced t r (fun x => k x >>= f) x

/-- Unless its first part is done, the first part takes the step. -/
theorem Takes.of_bind {p : Program α} {f : α → Program β} {step : Step} {q : Program β}
    (h : (p >>= f).Takes step q) : (∃ a, p = done a) ∨ ∃ p', p.Takes step p' ∧ q = p' >>= f := by
  cases p with
  | done a => exact .inl ⟨a, rfl⟩
  | ask r k =>
    cases h with
    | asked _ _ x => exact .inr ⟨k x, .asked r k x, rfl⟩
  | race t r k =>
    cases h with
    | raced _ _ _ x => exact .inr ⟨k x, .raced t r k x, rfl⟩

namespace Reaches

theorem of_done {a : α} {steps : List Step} {q : Program α} (h : (done a).Reaches steps q) :
    steps = [] ∧ q = done a := by
  cases h with
  | here => exact ⟨rfl, rfl⟩
  | next h => exact absurd h Takes.not_done

theorem trans {p q q' : Program α} {steps steps' : List Step} (h : p.Reaches steps q) (h' : q.Reaches steps' q') :
    p.Reaches (steps ++ steps') q' := by
  induction h with
  | here => exact h'
  | next hs _ ih => exact .next hs (ih h')

theorem concat {p q q' : Program α} {steps : List Step} {step : Step} (h : p.Reaches steps q)
    (hs : q.Takes step q') : p.Reaches (steps ++ [step]) q' :=
  h.trans (.next hs (.here q'))

/-- What a program comes to, with another after it. -/
theorem bind {p q : Program α} {steps : List Step} (h : p.Reaches steps q) (f : α → Program β) :
    (p >>= f).Reaches steps (q >>= f) := by
  induction h with
  | here => exact .here _
  | next hs _ ih => exact .next (hs.bind f) ih

/-- The first program to its end, then the second. -/
theorem bind_trans {p : Program α} {f : α → Program β} {first second : List Step} {a : α} {q : Program β}
    (h : p.Reaches first (done a)) (h' : (f a).Reaches second q) : (p >>= f).Reaches (first ++ second) q :=
  (h.bind f).trans h'

/-- One program after another: the first is under way, or done and the second is under way. -/
theorem bind_cases {p : Program α} {f : α → Program β} {steps : List Step} {q : Program β}
    (h : (p >>= f).Reaches steps q) :
    (∃ p', p.Reaches steps p' ∧ q = p' >>= f) ∨
      ∃ first a second, steps = first ++ second ∧ p.Reaches first (done a) ∧ (f a).Reaches second q := by
  -- on the steps; once the first program is done, all further steps are the second's
  generalize hm : p >>= f = m at h
  induction h generalizing p with
  | here _ => exact .inl ⟨p, .here p, hm.symm⟩
  | @next _ _ q step steps hs hrest ih =>
    subst hm
    rcases hs.of_bind with ⟨a, rfl⟩ | ⟨p', hp', rfl⟩
    · exact .inr ⟨[], a, step :: steps, rfl, .here _, .next hs hrest⟩
    · rcases ih rfl with ⟨p'', hp'', hq⟩ | ⟨first, a, second, rfl, hfirst, hsecond⟩
      · exact .inl ⟨p'', .next hp' hp'', hq⟩
      · exact .inr ⟨step :: first, a, second, rfl, .next hp' hfirst, hsecond⟩

/-- One program after another, to the end. -/
theorem bind_done {p : Program α} {f : α → Program β} {steps : List Step} {b : β}
    (h : (p >>= f).Reaches steps (done b)) :
    ∃ first a second, steps = first ++ second ∧ p.Reaches first (done a) ∧ (f a).Reaches second (done b) := by
  rcases h.bind_cases with ⟨p', hp', hq⟩ | hsplit
  · cases p' with
    | done a => exact ⟨steps, a, [], by simp, hp', by rw [← done_bind a f, ← hq]; exact .here _⟩
    | ask r k => cases hq
    | race t r k => cases hq
  · exact hsplit

/-- A request and what follows it, to the end. -/
theorem of_ask {r : Request} {k : r.Reply → Program α} {steps : List Step} {a : α}
    (h : (ask r k).Reaches steps (done a)) : ∃ x rest, steps = .asked r x :: rest ∧ (k x).Reaches rest (done a) := by
  cases h with
  | next hs hrest =>
    cases hs with
    | asked _ _ x => exact ⟨x, _, rfl, hrest⟩

theorem of_request {r : Request} {steps : List Step} {x : r.Reply} (h : (request r).Reaches steps (done x)) :
    steps = [.asked r x] := by
  obtain ⟨y, rest, rfl, hrest⟩ := of_ask h
  obtain ⟨rfl, hy⟩ := hrest.of_done
  cases hy
  rfl

theorem of_request_bind {r : Request} {f : r.Reply → Program β} {steps : List Step} {b : β}
    (h : (request r >>= f).Reaches steps (done b)) :
    ∃ x rest, steps = .asked r x :: rest ∧ (f x).Reaches rest (done b) := of_ask h

theorem map_done {f : α → β} {p : Program α} {steps : List Step} {b : β} (h : (f <$> p).Reaches steps (done b)) :
    ∃ a, p.Reaches steps (done a) ∧ b = f a := by
  rw [map_eq_pure_bind] at h
  obtain ⟨first, a, second, rfl, hfirst, hsecond⟩ := h.bind_done
  obtain ⟨rfl, hb⟩ := hsecond.of_done
  cases hb
  exact ⟨a, by simpa using hfirst, rfl⟩

end Reaches

/-! ## Runs that were reached -/

/-- Every program can be brought to its end. -/
theorem exists_reaches_done (p : Program α) : ∃ steps a, p.Reaches steps (done a) := by
  induction p with
  | done a => exact ⟨[], a, .here _⟩
  | ask r k ih =>
    obtain ⟨steps, a, h⟩ := ih r.plainReply
    exact ⟨_, a, .next (.asked r k r.plainReply) h⟩
  | race t r k ih =>
    obtain ⟨steps, a, h⟩ := ih none
    exact ⟨_, a, .next (.raced t r k none) h⟩

/-- A run is one way to the end. -/
theorem reaches_runAfter (w : Surroundings) (past : List Step) (p : Program α) :
    p.Reaches (p.runAfter w past).steps (done (p.runAfter w past).result) := by
  induction p generalizing past with
  | done a => exact .here _
  | ask r k ih => exact .next (.asked r k _) (ih _ _)
  | race t r k ih => exact .next (.raced t r k _) (ih _ _)

end Program

namespace Surroundings

/-- Whenever it is asked for what the step asks for, the reply is that of the step. -/
def Gives (w : Surroundings) : Step → Prop
  | .asked r x => ∀ past, w.reply past r = x
  | .raced t r x => ∀ past, w.race past t r = x

open Classical in
/-- Surroundings that reply as in the steps, and in nobody's way after them. -/
noncomputable def replaying (steps : List Step) : Surroundings where
  reply past r := if h : ∃ x, past ++ [.asked r x] <+: steps then h.choose else r.plainReply
  race past t r := if h : ∃ x, past ++ [.raced t r x] <+: steps then h.choose else none

theorem reply_replaying (past rest : List Step) (r : Request) (x : r.Reply) :
    (replaying (past ++ .asked r x :: rest)).reply past r = x := by
  have h : ∃ y, past ++ [.asked r y] <+: past ++ .asked r x :: rest := ⟨x, rest, by simp⟩
  obtain ⟨rest', hrest⟩ := h.choose_spec
  rw [List.append_assoc, List.append_cancel_left_eq] at hrest
  simp only [replaying, dif_pos h]
  exact (by simpa using hrest : _ ∧ _).1

theorem race_replaying (past rest : List Step) (t : TokenId) (r : Request) (x : Option r.Reply) :
    (replaying (past ++ .raced t r x :: rest)).race past t r = x := by
  have h : ∃ y, past ++ [.raced t r y] <+: past ++ .raced t r x :: rest := ⟨x, rest, by simp⟩
  obtain ⟨rest', hrest⟩ := h.choose_spec
  rw [List.append_assoc, List.append_cancel_left_eq] at hrest
  simp only [replaying, dif_pos h]
  exact (by simpa using hrest : _ ∧ _).1

end Surroundings

namespace Program

variable {α : Type}

/-- Surroundings that give every reply of a way to the end lead the same way. -/
theorem Reaches.runAfter_eq {w : Surroundings} {p : Program α} {steps : List Step} {a : α}
    (h : p.Reaches steps (done a)) (hw : ∀ step ∈ steps, w.Gives step) (past : List Step) :
    p.runAfter w past = ⟨steps, a⟩ := by
  generalize hq : (done a : Program α) = q at h
  induction h generalizing past with
  | here => subst hq; rfl
  | next hs _ ih =>
    obtain ⟨hstep, hrest⟩ := List.forall_mem_cons.1 hw
    cases hs with
    | asked r k x =>
      rw [runAfter, hstep past, ih hrest _ hq]
      rfl
    | raced t r k x =>
      rw [runAfter, hstep past, ih hrest _ hq]
      rfl

/-- Each way to the end is the run in some surroundings. -/
theorem Reaches.exists_run {p : Program α} {steps : List Step} {a : α} (h : p.Reaches steps (done a)) :
    ∃ w, p.run w = ⟨steps, a⟩ := by
  refine ⟨.replaying steps, ?_⟩
  suffices hall : ∀ past, p.runAfter (.replaying (past ++ steps)) past = ⟨steps, a⟩ from hall []
  intro past
  generalize hq : (done a : Program α) = q at h
  induction h generalizing past with
  | here => subst hq; rfl
  | @next _ _ _ step steps hs _ ih =>
    have hrest := ih (past ++ [step]) hq
    rw [List.append_assoc] at hrest
    cases hs with
    | asked r k x =>
      rw [runAfter, Surroundings.reply_replaying]
      exact congrArg _ hrest
    | raced t r k x =>
      rw [runAfter, Surroundings.race_replaying]
      exact congrArg _ hrest

/-! ## What a program can ask for -/

/-- All that the program ever asks for is allowed. -/
def Only (allowed : Request → Prop) : Program α → Prop
  | done _ => True
  | ask r k => allowed r ∧ ∀ x, (k x).Only allowed
  | race _ r k => allowed r ∧ ∀ x, (k x).Only allowed

section
variable {β : Type} {allowed : Request → Prop}

@[simp] theorem only_done (a : α) : (done a).Only allowed := trivial

theorem only_request {r : Request} (h : allowed r) : (request r).Only allowed := ⟨h, fun _ => trivial⟩

theorem only_orCancelled {t : TokenId} {r : Request} (h : allowed r) : (orCancelled t r).Only allowed :=
  ⟨h, fun _ => trivial⟩

theorem Only.bind {p : Program α} {f : α → Program β} (hp : p.Only allowed) (hf : ∀ a, (f a).Only allowed) :
    (p >>= f).Only allowed := by
  induction p with
  | done a => exact hf a
  | ask r k ih => exact ⟨hp.1, fun x => ih x (hp.2 x)⟩
  | race t r k ih => exact ⟨hp.1, fun x => ih x (hp.2 x)⟩

theorem Only.map {p : Program α} (hp : p.Only allowed) (f : α → β) : (f <$> p).Only allowed := by
  rw [map_eq_pure_bind]
  exact hp.bind fun _ => trivial

theorem Only.mono {allowed' : Request → Prop} {p : Program α} (hp : p.Only allowed)
    (h : ∀ r, allowed r → allowed' r) : p.Only allowed' := by
  induction p with
  | done a => trivial
  | ask r k ih => exact ⟨h r hp.1, fun x => ih x (hp.2 x)⟩
  | race t r k ih => exact ⟨h r hp.1, fun x => ih x (hp.2 x)⟩

theorem Only.takes {p q : Program α} {step : Step} (hp : p.Only allowed) (h : p.Takes step q) :
    allowed step.request ∧ q.Only allowed := by
  cases h with
  | asked r k x => exact ⟨hp.1, hp.2 x⟩
  | raced t r k x => exact ⟨hp.1, hp.2 x⟩

theorem Only.reaches {p q : Program α} {steps : List Step} (hp : p.Only allowed) (h : p.Reaches steps q) :
    (∀ step ∈ steps, allowed step.request) ∧ q.Only allowed := by
  induction h with
  | here => exact ⟨by simp, hp⟩
  | next hs _ ih =>
    obtain ⟨hstep, hq⟩ := hp.takes hs
    obtain ⟨hsteps, hrest⟩ := ih hq
    exact ⟨List.forall_mem_cons.2 ⟨hstep, hsteps⟩, hrest⟩

/-- What holds of every way to the end holds of all that the program can ask for. -/
theorem only_of_reaches {p : Program α}
    (h : ∀ steps a, p.Reaches steps (done a) → ∀ step ∈ steps, allowed step.request) : p.Only allowed := by
  induction p with
  | done a => trivial
  | ask r k ih =>
    refine ⟨?_, fun x => ih x fun steps a hreach step hstep =>
      h _ a (.next (.asked r k x) hreach) step (List.mem_cons_of_mem _ hstep)⟩
    obtain ⟨steps, a, hreach⟩ := (k r.plainReply).exists_reaches_done
    exact h _ a (.next (.asked r k _) hreach) _ List.mem_cons_self
  | race t r k ih =>
    refine ⟨?_, fun x => ih x fun steps a hreach step hstep =>
      h _ a (.next (.raced t r k x) hreach) step (List.mem_cons_of_mem _ hstep)⟩
    obtain ⟨steps, a, hreach⟩ := (k none).exists_reaches_done
    exact h _ a (.next (.raced t r k _) hreach) _ List.mem_cons_self

end

/-- The program takes at most so many steps. -/
def Within : Program α → Nat → Prop
  | done _, _ => True
  | ask _ k, n => ∃ m, n = m + 1 ∧ ∀ x, (k x).Within m
  | race _ _ k, n => ∃ m, n = m + 1 ∧ ∀ x, (k x).Within m

section
variable {β : Type}

theorem within_request (r : Request) : (request r).Within 1 := ⟨0, rfl, fun _ => trivial⟩

theorem within_orCancelled (t : TokenId) (r : Request) : (orCancelled t r).Within 1 := ⟨0, rfl, fun _ => trivial⟩

theorem Within.mono {p : Program α} {m n : Nat} (hp : p.Within m) (h : m ≤ n) : p.Within n := by
  induction p generalizing m n with
  | done a => trivial
  | ask r k ih | race t r k ih =>
    obtain ⟨m, rfl, hk⟩ := hp
    exact ⟨n - 1, by omega, fun x => ih x (hk x) (by omega)⟩

theorem Within.bind {p : Program α} {f : α → Program β} {m n : Nat} (hp : p.Within m) (hf : ∀ a, (f a).Within n) :
    (p >>= f).Within (m + n) := by
  induction p generalizing m with
  | done a => exact (hf a).mono (Nat.le_add_left n m)
  | ask r k ih | race t r k ih =>
    obtain ⟨m, rfl, hk⟩ := hp
    exact ⟨m + n, by omega, fun x => ih x (hk x)⟩

theorem Within.length_le {p q : Program α} {n : Nat} (hp : p.Within n) {steps : List Step} (h : p.Reaches steps q) :
    steps.length ≤ n := by
  induction h generalizing n with
  | here => exact Nat.zero_le n
  | next hs _ ih =>
    cases hs <;>
    · obtain ⟨m, rfl, hk⟩ := hp
      exact Nat.succ_le_succ (ih (hk _))

end

/-- A program that holds a cell: it does not ask for it again, and lets it go in its last step. -/
def Holds (c : Cell) : Program α → Prop
  | done _ => False
  | ask r k => (r = .unlock c ∧ ∀ x, ∃ a, k x = done a) ∨ (r ≠ .lock c ∧ r ≠ .unlock c ∧ ∀ x, (k x).Holds c)
  | race _ r k => r ≠ .lock c ∧ r ≠ .unlock c ∧ ∀ x, (k x).Holds c

section
variable {β : Type} {c : Cell}

theorem holds_unlock (f : Unit → Program α) (h : ∃ a, f () = done a) : (request (.unlock c) >>= f).Holds c :=
  .inl ⟨rfl, fun _ => h⟩

theorem Holds.after {p : Program α} {f : α → Program β} (hp : p.Only fun r => r ≠ .lock c ∧ r ≠ .unlock c)
    (hf : ∀ a, (f a).Holds c) : (p >>= f).Holds c := by
  induction p with
  | done a => exact hf a
  | ask r k ih => exact .inr ⟨hp.1.1, hp.1.2, fun x => ih x (hp.2 x)⟩
  | race t r k ih => exact ⟨hp.1.1, hp.1.2, fun x => ih x (hp.2 x)⟩

theorem Holds.map {p : Program α} (hp : p.Holds c) (f : α → β) : (f <$> p).Holds c := by
  rw [map_eq_pure_bind]
  induction p with
  | done a => exact hp.elim
  | ask r k ih =>
    rcases hp with ⟨hr, hend⟩ | ⟨hlock, hunlock, hrest⟩
    · refine .inl ⟨hr, fun x => ?_⟩
      obtain ⟨a, ha⟩ := hend x
      exact ⟨f a, congrArg (bind · fun a => pure (f a)) ha⟩
    · exact .inr ⟨hlock, hunlock, fun x => ih x (hrest x)⟩
  | race t r k ih => exact ⟨hp.1, hp.2.1, fun x => ih x (hp.2.2 x)⟩

/-- A program that holds a cell goes on holding it, or lets it go and is done. -/
theorem Holds.takes {p q : Program α} {step : Step} (hp : p.Holds c) (h : p.Takes step q) :
    (step.request = .unlock c ∧ (∃ x, step = .asked (.unlock c) x) ∧ ∃ a, q = done a) ∨
      (step.request ≠ .lock c ∧ step.request ≠ .unlock c ∧ q.Holds c) := by
  cases h with
  | asked r k x =>
    rcases hp with ⟨rfl, hend⟩ | ⟨hlock, hunlock, hrest⟩
    · exact .inl ⟨rfl, ⟨x, rfl⟩, hend x⟩
    · exact .inr ⟨hlock, hunlock, hrest x⟩
  | raced t r k x => exact .inr ⟨hp.1, hp.2.1, hp.2.2 x⟩

end

end Program

namespace Attempt

variable {α β : Type} {steps : List Step}

/-- One attempt after another, to the end: the first failed, or it worked and the second followed. -/
theorem reaches_bind {a : Attempt α} {f : α → Attempt β} {r : Except Fault β}
    (h : (a >>= f).run.Reaches steps (.done r)) :
    (∃ e, r = .error e ∧ a.run.Reaches steps (.done (.error e))) ∨
      ∃ first x second, steps = first ++ second ∧ a.run.Reaches first (.done (.ok x)) ∧
        (f x).run.Reaches second (.done r) := by
  rw [ExceptT.run_bind] at h
  obtain ⟨first, y, second, rfl, hfirst, hsecond⟩ := h.bind_done
  cases y with
  | ok x => exact .inr ⟨first, x, second, rfl, hfirst, hsecond⟩
  | error e =>
    obtain ⟨rfl, hr⟩ := hsecond.of_done
    cases hr
    exact .inl ⟨e, rfl, by simpa using hfirst⟩

/-- An attempt that works, and what another comes to after it. -/
theorem reaches_bind_trans {a : Attempt α} {f : α → Attempt β} {first second : List Step} {x : α}
    {q : Program (Except Fault β)} (h : a.run.Reaches first (.done (.ok x))) (h' : (f x).run.Reaches second q) :
    (a >>= f).run.Reaches (first ++ second) q := by
  rw [ExceptT.run_bind]
  exact h.bind_trans h'

/-- A program that cannot fail, and what an attempt comes to after it. -/
theorem reaches_lift_bind_trans {p : Program α} {f : α → Attempt β} {first second : List Step} {x : α}
    {q : Program (Except Fault β)} (h : p.Reaches first (.done x)) (h' : (f x).run.Reaches second q) :
    (lift p >>= f).run.Reaches (first ++ second) q := by
  refine reaches_bind_trans (x := x) ?_ h'
  change (Except.ok <$> p).Reaches first (.done (.ok x))
  rw [map_eq_pure_bind]
  exact h.bind _

theorem reaches_pure {x : α} {r : Except Fault α} (h : (pure x : Attempt α).run.Reaches steps (.done r)) :
    steps = [] ∧ r = .ok x := by
  obtain ⟨rfl, hr⟩ := Program.Reaches.of_done h
  cases hr
  exact ⟨rfl, rfl⟩

/-- A call, to the end. -/
theorem reaches_call {c : ChannelId} {x : Call} {r : Except Fault Unit}
    (h : (call c x).run.Reaches steps (.done r)) : steps = [.asked (.call c x) r] :=
  Program.Reaches.of_request (r := .call c x) h

/-- What a program gives that cannot fail. -/
theorem reaches_lift {p : Program α} {r : Except Fault α} (h : (lift p).run.Reaches steps (.done r)) :
    ∃ x, r = .ok x ∧ p.Reaches steps (.done x) := by
  obtain ⟨x, hp, rfl⟩ := Program.Reaches.map_done (f := Except.ok) h
  exact ⟨x, rfl, hp⟩

/-- What cannot fail, and an attempt after it. -/
theorem reaches_lift_bind {p : Program α} {f : α → Attempt β} {r : Except Fault β}
    (h : (lift p >>= f).run.Reaches steps (.done r)) :
    ∃ first x second, steps = first ++ second ∧ p.Reaches first (.done x) ∧ (f x).run.Reaches second (.done r) := by
  rcases reaches_bind h with ⟨e, rfl, hfirst⟩ | ⟨first, x, second, rfl, hfirst, hsecond⟩
  · obtain ⟨x, hx, -⟩ := reaches_lift hfirst
    cases hx
  · obtain ⟨x', hx, hp⟩ := reaches_lift hfirst
    cases hx
    exact ⟨first, x, second, rfl, hp, hsecond⟩

variable {allowed : Request → Prop}

theorem only_bind {a : Attempt α} {f : α → Attempt β} (ha : a.run.Only allowed)
    (hf : ∀ x, (f x).run.Only allowed) : (a >>= f).run.Only allowed := by
  rw [ExceptT.run_bind]
  refine ha.bind fun y => ?_
  cases y with
  | ok x => exact hf x
  | error e => trivial

theorem within_bind {a : Attempt α} {f : α → Attempt β} {m n : Nat} (ha : a.run.Within m)
    (hf : ∀ x, (f x).run.Within n) : (a >>= f).run.Within (m + n) := by
  rw [ExceptT.run_bind]
  refine ha.bind fun y => ?_
  cases y with
  | ok x => exact hf x
  | error e => trivial

theorem within_lift {p : Program α} {n : Nat} (h : p.Within n) : (lift p).run.Within n :=
  h.bind (n := 0) fun _ => trivial

theorem within_call (c : ChannelId) (x : Call) : (call c x).run.Within 1 := Program.within_request _

theorem only_lift {p : Program α} (h : p.Only allowed) : (lift p).run.Only allowed := h.map _

theorem only_call {c : ChannelId} {x : Call} (h : allowed (.call c x)) : (call c x).run.Only allowed :=
  Program.only_request h

end Attempt

end MessageBus
