import MessageBus.Proofs.Program.Trace
import MessageBus.Intake
import Mathlib.Logic.Function.Basic
/-!
# Programs side by side

A `System` is some programs that were called, the tasks that they spawned, and what all of them share: tokens, locked
cells, and the things that came into being. Whoever is not waiting may go on at any time (`System.Next`), so a theorem
about every `System.Leads` speaks of every interleaving.

The system itself replies to what is about tasks, tokens and cells (`System.Admits`): a cell is locked once nobody
holds it, a token gives way only once it was cancelled, tasks are waited for until they are over. What is asked of the
broker, the handlers and the clock is replied to in any way and after any time. A handler may also break off, and any
token may be cancelled from outside.
-/

namespace MessageBus

/-- Who takes a step. -/
inductive Actor where
  | caller (n : Nat)
  | task (t : TaskId)
  deriving DecidableEq

/-- What happens in a system. -/
inductive Happening where
  /-- An actor is given a reply and goes on to its next request. -/
  | took (a : Actor) (step : Step)
  /-- A handler breaks off, and with it its task. -/
  | broke (t : TaskId)
  /-- A token is cancelled from outside. -/
  | cancelled (t : TokenId)

/-- The step that was taken. -/
def Happening.step? : Happening → Option Step
  | took _ s => some s
  | _ => none

/-- What comes into being with a reply, and is like nothing before it. -/
inductive Thing where
  | channel (c : ChannelId)
  | connection (k : ConnectionId)
  | stream (s : StreamId)
  | token (t : TokenId)
  | text (id : String)
  deriving DecidableEq

/-! ## What a step does -/

/-- The thing that the reply brings. -/
def Request.makes? : (r : Request) → r.Reply → Option Thing
  | .consume _ _ _, .ok s => some (.stream s)
  | .createChannel, .ok c => some (.channel c)
  | .openChannel _, .ok c => some (.channel c)
  | .connect, .ok k => some (.connection k)
  | .childToken _, t => some (.token t)
  | .freshId, id => some (.text id)
  | _, _ => none

/-- The tasks whose end the reply makes known. -/
def Request.awaits : (r : Request) → r.Reply → List TaskId
  | .join tasks, _ => tasks
  | .arrival _ _ _, .finished t => [t]
  | _, _ => []

namespace Step

/-- What the step did, if its race was not lost. -/
def done? : Step → Option ((r : Request) × r.Reply)
  | asked r x => some ⟨r, x⟩
  | raced _ r x => x.map fun y => ⟨r, y⟩

/-- The things that came into being in the step. -/
def made (s : Step) : List Thing := (s.done?.bind fun d => d.1.makes? d.2).toList

/-- The task that was spawned in the step, with its job. -/
def spawn? (s : Step) : Option (Job × TaskId) :=
  match s.done? with
  | some ⟨.spawn j, t⟩ => some (j, t)
  | _ => none

/-- The tasks whose end is known after the step. -/
def awaited (s : Step) : List TaskId :=
  match s.done? with
  | some ⟨r, x⟩ => r.awaits x
  | none => []

end Step

/-- The tasks that were spawned in some steps. -/
abbrev spawned (steps : List Step) : List (Job × TaskId) := noted Step.spawn? steps

/-- The tasks whose end some steps made known. -/
def awaited (steps : List Step) : List TaskId := steps.flatMap Step.awaited

section
variable (s : Step) (steps steps' : List Step)

@[simp] theorem awaited_nil : awaited [] = [] := rfl

@[simp] theorem awaited_append : awaited (steps ++ steps') = awaited steps ++ awaited steps' := List.flatMap_append

@[simp] theorem awaited_cons : awaited (s :: steps) = s.awaited ++ awaited steps := List.flatMap_cons

theorem mem_awaited {steps : List Step} {t : TaskId} : t ∈ awaited steps ↔ ∃ s ∈ steps, t ∈ s.awaited :=
  List.mem_flatMap

end

/-- How a task stands. -/
inductive TaskState where
  | busy (p : Program (Option Job))
  | ended
  /-- Its handler broke off. -/
  | broken

/-- A task: what it was spawned for, and how it stands. -/
structure Task where
  job : Job
  state : TaskState

namespace Task

/-- A task that was spawned. -/
def spawned (j : Job) : Task := ⟨j, .busy j.program⟩

/-- Whether the task's handler broke off. -/
def isBroken (t : Task) : Bool :=
  match t.state with
  | .broken => true
  | _ => false

/-- Whether the task does nothing any more. -/
def IsOver (t : Task) : Prop := ∀ p, t.state ≠ .busy p

theorem isOver_ended (j : Job) : IsOver ⟨j, .ended⟩ := by simp [IsOver]

theorem isOver_broken (j : Job) : IsOver ⟨j, .broken⟩ := by simp [IsOver]

end Task

/-- How a task stands after a step; a turn may be followed by another. -/
def TaskState.after : Program (Option Job) → TaskState
  | .done none => ended
  | .done (some j) => busy j.program
  | p => busy p

/-- What the cells hold before anything has happened. -/
def Cell.initial : (c : Cell) → c.Content
  | .pool => .empty
  | .outlet => none
  | .declared => []
  | .stage => Stage.idle

/-- Programs side by side, and what has happened so far. -/
structure System (α : Type) where
  callers : List (Program α)
  tasks : List Task
  /-- The things that there are. -/
  known : List Thing
  holder : Cell → Option Actor
  cells : (c : Cell) → c.Content
  past : List Happening

/-- The token was cancelled, or one above it. -/
inductive Cancelled (past : List Happening) : TokenId → Prop
  | outside {t : TokenId} (h : .cancelled t ∈ past) : Cancelled past t
  | requested {t : TokenId} {a : Actor} {s : Step} (h : .took a s ∈ past) (hs : s.done? = some ⟨.cancel t, ()⟩) :
      Cancelled past t
  | child {t parent : TokenId} {a : Actor} {s : Step} (h : .took a s ∈ past)
      (hs : s.done? = some ⟨.childToken parent, t⟩) (hp : Cancelled past parent) : Cancelled past t

theorem Cancelled.mono {past past' : List Happening} {t : TokenId} (h : Cancelled past t)
    (hsub : ∀ e ∈ past, e ∈ past') : Cancelled past' t := by
  induction h with
  | outside h => exact .outside (hsub _ h)
  | requested h hs => exact .requested (hsub _ h) hs
  | child h hs _ ih => exact .child (hsub _ h) hs ih

namespace System

variable {α : Type}

/-- A system in which nothing has happened. -/
def start (callers : List (Program α)) (jobs : List Job) (known : List Thing) (cells : (c : Cell) → c.Content) :
    System α :=
  ⟨callers, jobs.map .spawned, known, fun _ => none, cells, []⟩

/-- The task has ended or broken off. -/
def Over (σ : System α) (t : TaskId) : Prop := ∃ task, σ.tasks[t.number]? = some task ∧ task.IsOver

/-- The reply is one that the system can give. -/
def CanReply (σ : System α) : (r : Request) → r.Reply → Prop
  | .isCancelled t, b => b = true ↔ Cancelled σ.past t
  | .lock c, v => σ.holder c = none ∧ v = σ.cells c
  | .spawn _, t => t = ⟨σ.tasks.length⟩
  | .join tasks, _ => ∀ t ∈ tasks, σ.Over t
  | .arrival _ token _, .cancelled => Cancelled σ.past token
  | .arrival _ _ tasks, .finished t => t ∈ tasks ∧ σ.Over t
  | _, _ => True

/-- The step is one that the system lets an actor take. -/
structure Admits (σ : System α) (s : Step) : Prop where
  reply : ∀ r x, s.done? = some ⟨r, x⟩ → σ.CanReply r x
  lost : ∀ t r, s = .raced t r none → Cancelled σ.past t
  new : ∀ x ∈ s.made, x ∉ σ.known

/-- Who holds the cells after a step. -/
def holderAfter (a : Actor) (s : Step) (holder : Cell → Option Actor) : Cell → Option Actor :=
  match s.done? with
  | some ⟨.lock c, _⟩ => Function.update holder c (some a)
  | some ⟨.unlock c, _⟩ => Function.update holder c none
  | _ => holder

/-- What the cells hold after a step. -/
def cellsAfter (s : Step) (cells : (c : Cell) → c.Content) : (c : Cell) → c.Content :=
  match s.done? with
  | some ⟨.put c v, _⟩ => Function.update cells c v
  | _ => cells

/-- What an actor's step changes for all. -/
def record (σ : System α) (a : Actor) (s : Step) : System α where
  callers := σ.callers
  tasks := σ.tasks ++ (s.spawn?.map fun e => Task.spawned e.1).toList
  known := σ.known ++ s.made
  holder := holderAfter a s σ.holder
  cells := cellsAfter s σ.cells
  past := σ.past ++ [.took a s]

/-- What can happen next. -/
inductive Next : System α → Happening → System α → Prop
  | caller {σ : System α} {n : Nat} {p q : Program α} {s : Step} (hp : σ.callers[n]? = some p) (ht : p.Takes s q)
      (ha : σ.Admits s) : Next σ (.took (.caller n) s) { σ.record (.caller n) s with callers := σ.callers.set n q }
  | task {σ : System α} {t : TaskId} {j : Job} {p q : Program (Option Job)} {s : Step}
      (hp : σ.tasks[t.number]? = some ⟨j, .busy p⟩) (ht : p.Takes s q) (ha : σ.Admits s) :
      Next σ (.took (.task t) s) ({ σ with tasks := σ.tasks.set t.number ⟨j, .after q⟩ }.record (.task t) s)
  | broke {σ : System α} {t : TaskId} {j : Job} {subscription : Settings.Subscription} {message : Json}
      {token : TokenId} {k : Except HandlerError Unit → Program (Option Job)}
      (hp : σ.tasks[t.number]? = some ⟨j, .busy (.ask (.handle subscription message token) k)⟩) :
      Next σ (.broke t) { σ with tasks := σ.tasks.set t.number ⟨j, .broken⟩, past := σ.past ++ [.broke t] }
  | cancelled (σ : System α) (t : TokenId) : Next σ (.cancelled t) { σ with past := σ.past ++ [.cancelled t] }

/-- What a system can come to. -/
inductive Leads (σ₀ : System α) : System α → Prop
  | refl : Leads σ₀ σ₀
  | next {σ σ' : System α} {e : Happening} (h : Leads σ₀ σ) (hn : σ.Next e σ') : Leads σ₀ σ'

end System

/-- The step, if the actor took it. -/
def Happening.stepOf (a : Actor) : Happening → Option Step
  | took b s => if b = a then some s else none
  | _ => none

/-- The task that was spawned, with its job. -/
def Happening.spawn? : Happening → Option (Job × TaskId)
  | took _ s => s.spawn?
  | _ => none

/-- Whether a handler broke off. -/
def Happening.isBroke : Happening → Bool
  | broke _ => true
  | _ => false

/-- The steps that an actor took, in order. -/
def stepsOf (a : Actor) (past : List Happening) : List Step := past.filterMap (·.stepOf a)

section
variable (a : Actor) (past past' : List Happening)

@[simp] theorem stepsOf_nil : stepsOf a [] = [] := rfl

@[simp] theorem stepsOf_append : stepsOf a (past ++ past') = stepsOf a past ++ stepsOf a past' :=
  List.filterMap_append

@[simp] theorem stepsOf_took_self (s : Step) : stepsOf a [.took a s] = [s] := by
  simp [stepsOf, Happening.stepOf]

theorem stepsOf_took_ne {b : Actor} (h : b ≠ a) (s : Step) : stepsOf a [.took b s] = [] := by
  simp [stepsOf, Happening.stepOf, h]

@[simp] theorem stepsOf_broke (t : TaskId) : stepsOf a [.broke t] = [] := rfl

@[simp] theorem stepsOf_cancelled (t : TokenId) : stepsOf a [.cancelled t] = [] := rfl

theorem mem_stepsOf {a : Actor} {past : List Happening} {s : Step} : s ∈ stepsOf a past ↔ .took a s ∈ past := by
  simp only [stepsOf, List.mem_filterMap]
  constructor
  · rintro ⟨e, he, hs⟩
    cases e with
    | took b s' =>
      simp only [Happening.stepOf, Option.ite_none_right_eq_some, Option.some.injEq] at hs
      obtain ⟨rfl, rfl⟩ := hs
      exact he
    | broke t => cases hs
    | cancelled t => cases hs
  · intro h
    exact ⟨_, h, by simp [Happening.stepOf]⟩

end

/-- An event of a history that went on by one is the last one, or was there before. -/
theorem split_concat {past before after : List Happening} {e last : Happening}
    (h : past ++ [last] = before ++ e :: after) :
    (past = before ∧ last = e) ∨ ∃ after', past = before ++ e :: after' := by
  rcases List.eq_nil_or_concat after with rfl | ⟨after, e', rfl⟩
  · obtain ⟨hpast, he⟩ := List.append_inj' h rfl
    exact .inl ⟨hpast, List.singleton_inj.1 he⟩
  · rw [List.concat_eq_append, ← List.cons_append, ← List.append_assoc] at h
    exact .inr ⟨after, (List.append_inj' h rfl).1⟩

/-- Each step was taken at a moment at which this held of it. -/
def Throughout (past : List Happening) (Q : List Happening → Actor → Step → Prop) : Prop :=
  ∀ before a s after, past = before ++ .took a s :: after → Q before a s

namespace Throughout

variable {past rest : List Happening} {Q : List Happening → Actor → Step → Prop} {e : Happening}

theorem nil : Throughout [] Q := fun _ _ _ _ h => by simp at h

theorem of_append (h : Throughout (past ++ rest) Q) : Throughout past Q :=
  fun before a s after hp => h before a s (after ++ rest) (by rw [hp, List.append_assoc]; rfl)

theorem concat_iff : Throughout (past ++ [e]) Q ↔ Throughout past Q ∧ ∀ a s, e = .took a s → Q past a s := by
  constructor
  · exact fun h => ⟨h.of_append, fun a s he => h past a s [] (by rw [he])⟩
  · rintro ⟨h, he⟩ before a s after hp
    rcases split_concat hp with ⟨rfl, heq⟩ | ⟨after', hpast⟩
    · exact he a s heq
    · exact h before a s after' hpast

end Throughout

end MessageBus
