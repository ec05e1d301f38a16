import MessageBus.Proofs.Intake.Tasks
import MessageBus.Proofs.Lifecycle.Ledger
/-!
# Calls on a bus

A bus is started, stopped and looked at by callers side by side, while the tasks of its consumers are at work
(`System.bus`). Each call has the stage for itself: `Bus.Goes` lists the turns that a call can have, and
`Bus.Goes.accounts` says what each of them makes of the ledger of all turns before it. `System.Leads.bus_takings` puts
the turns of an interleaving in the order in which they were had.
-/

namespace MessageBus

namespace Bus

/-- What can be called on a bus. -/
inductive Op where
  | start
  | stop
  | isRunning

/-- What a call gives. -/
inductive Answer where
  | started (r : Except Fault Unit)
  | stopped
  | running (b : Bool)

/-- A call on a bus. -/
def Op.program (b : Bus) : Op → Program Answer
  | start => .started <$> b.start.run
  | stop => (fun _ => .stopped) <$> b.stop
  | isRunning => .running <$> Bus.isRunning

/-! ## One turn -/

/-- What is left of a start that sees the stage, before it unlocks it. -/
def startFrom (b : Bus) : Stage → Program (Except Fault Unit)
  | .running _ => pure (.error startedFault)
  | .stopped => pure (.error stoppedFault)
  | .idle => b.startIdle.run

/-- What is left of a call that sees the stage. -/
def Op.seeing (b : Bus) (stage : Stage) : Op → Program Answer
  | start => .started <$> do
    let result ← b.startFrom stage
    Program.request (.unlock .stage)
    return result
  | stop => (fun _ => .stopped) <$> do
    b.stopFrom stage
    Program.request (.unlock .stage)
  | isRunning => .running <$> do
    Program.request (.unlock .stage)
    return stage.isRunning

theorem Op.program_eq (b : Bus) (o : Op) : o.program b = .ask (.lock .stage) fun stage => o.seeing b stage := by
  cases o with
  | start =>
    refine congrArg (Program.ask _) (funext fun stage => ?_)
    cases stage <;> rfl
  | stop =>
    simp only [seeing, stopFrom, program, bind_assoc]
    rfl
  | isRunning => rfl

variable {b : Bus} {o : Op} {stage : Stage}

theorem strays_of_startFrom (hs : b.source.Offered) {steps : List Step} {r : Except Fault Unit}
    (h : (b.startFrom stage).Reaches steps (.done r)) : (ledger steps).strays = [] := by
  cases stage with
  | idle =>
    cases r with
    | error f =>
      obtain ⟨cs, is, -, hledger, -⟩ := ledger_of_failed hs h
      rw [hledger]
      rfl
    | ok u =>
      obtain ⟨cs, made, hledger⟩ := ledger_of_started hs h
      rw [hledger]
  | running | stopped =>
    obtain ⟨rfl, -⟩ := Program.Reaches.of_done h
    rfl

theorem only_of_strays {α : Type} {p : Program α}
    (h : ∀ steps a, p.Reaches steps (.done a) → (ledger steps).strays = []) : p.Only fun r => r.strays = false := by
  refine Program.only_of_reaches fun steps a hreach step hstep => ?_
  have hnone := List.filterMap_eq_nil_iff.1 (h steps a hreach) step hstep
  cases hr : step.request.strays with
  | false => rfl
  | true => simp [Step.stray?, hr] at hnone

theorem only_startFrom (hs : b.source.Offered) (stage : Stage) :
    (b.startFrom stage).Only fun r => r.strays = false :=
  only_of_strays fun _ _ => strays_of_startFrom hs

theorem only_stopFrom (hs : b.source.Offered) (stage : Stage) : (b.stopFrom stage).Only fun r => r.strays = false := by
  refine only_of_strays fun steps u h => ?_
  obtain ⟨cs, fs, hledger⟩ := ledger_of_stopped hs h
  rw [hledger]

/-- A call locks the stage before all else, and unlocks it in its last step. -/
theorem Op.locksFirst (hs : b.source.Offered) (o : Op) : (o.program b).LocksFirst .stage := by
  refine ⟨_, o.program_eq b, fun stage => ?_⟩
  have hkeeps : ∀ r : Request, r.strays = false → r ≠ .lock .stage ∧ r ≠ .unlock .stage := by
    intro r hr
    constructor <;>
    · rintro rfl
      cases hr
  cases o with
  | start =>
    exact (Program.Holds.after ((only_startFrom hs stage).mono hkeeps) fun r =>
      Program.holds_unlock (fun _ => .done r) ⟨r, rfl⟩).map _
  | stop =>
    exact (Program.Holds.after ((only_stopFrom hs stage).mono hkeeps) fun _ =>
      Program.holds_unlock _ ⟨_, rfl⟩).map _
  | isRunning => exact (Program.holds_unlock (fun _ => .done stage.isRunning) ⟨_, rfl⟩).map _

/-- What a call asks for: it spawns nothing but tasks that take deliveries in. -/
def SpawnsIntakes (r : Request) : Prop :=
  ∀ j, r = .spawn j → ∃ stream s c token inFlight, j = .takeIn stream s c token inFlight

theorem Op.only_program (hs : b.source.Offered) (o : Op) : (o.program b).Only SpawnsIntakes := by
  have hspawns : ∀ r : Request, r.strays = false → SpawnsIntakes r := by
    rintro r hr j rfl
    cases j with
    | takeIn stream s c token inFlight => exact ⟨stream, s, c, token, inFlight, rfl⟩
    | _ => cases hr
  have hunlock : SpawnsIntakes (.unlock .stage) := by
    intro j hj
    cases hj
  rw [o.program_eq b]
  refine ⟨fun j hj => (by cases hj), fun stage => ?_⟩
  cases o with
  | start =>
    exact (((only_startFrom hs stage).mono hspawns).bind fun r =>
      (Program.only_request hunlock).bind fun _ => Program.only_done r).map _
  | stop => exact (((only_stopFrom hs stage).mono hspawns).bind fun _ => Program.only_request hunlock).map _
  | isRunning => exact ((Program.only_request hunlock).bind fun _ => Program.only_done stage.isRunning).map _

/-- A turn with the stage: after what is done with it, it is unlocked. -/
def turn (n : Nat) (stage : Stage) (body : List Step) (a : Answer) : Turn .stage Answer :=
  ⟨n, stage, body ++ [.asked (.unlock .stage) ()], a⟩

/-- The turns that a call can have. -/
inductive Goes (b : Bus) : Op → Turn .stage Answer → Prop
  | failed {body : List Step} {f : Fault} (n : Nat) (h : b.startIdle.run.Reaches body (.done (.error f))) :
      Goes b .start (turn n .idle body (.started (.error f)))
  | started {body : List Step} (n : Nat) (h : b.startIdle.run.Reaches body (.done (.ok ()))) :
      Goes b .start (turn n .idle body (.started (.ok ())))
  | busy (n : Nat) (made : List Intake) : Goes b .start (turn n (.running made) [] (.started (.error startedFault)))
  | late (n : Nat) : Goes b .start (turn n .stopped [] (.started (.error stoppedFault)))
  | stopped {body : List Step} (n : Nat) (stage : Stage) (h : (b.stopFrom stage).Reaches body (.done ())) :
      Goes b .stop (turn n stage body .stopped)
  | looked (n : Nat) (stage : Stage) : Goes b .isRunning (turn n stage [] (.running stage.isRunning))

theorem goes_of_reaches {t : Turn .stage Answer} (h : (o.program b).Reaches t.all (.done t.result)) : b.Goes o t := by
  obtain ⟨n, stage, steps, a⟩ := t
  rw [o.program_eq b] at h
  obtain ⟨x, rest, hall, h₁⟩ := h.of_ask
  obtain ⟨hx, rfl⟩ : Step.asked (.lock .stage) stage = .asked (.lock .stage) x ∧ steps = rest := List.cons.inj hall
  cases hx
  cases o with
  | start =>
    obtain ⟨r, h₂, ha⟩ := h₁.map_done
    obtain rfl : a = .started r := ha
    obtain ⟨body, r', rest, rfl, hbody, h₃⟩ := h₂.bind_done
    obtain ⟨_, rest, rfl, h₄⟩ := Program.Reaches.of_request_bind h₃
    obtain ⟨rfl, hr⟩ := h₄.of_done
    cases hr
    cases stage with
    | idle =>
      cases r with
      | error f => exact .failed n hbody
      | ok u => exact .started n hbody
    | running made =>
      obtain ⟨rfl, hr⟩ := Program.Reaches.of_done hbody
      cases hr
      exact .busy n made
    | stopped =>
      obtain ⟨rfl, hr⟩ := Program.Reaches.of_done hbody
      cases hr
      exact .late n
  | stop =>
    obtain ⟨u, h₂, ha⟩ := h₁.map_done
    obtain rfl : a = .stopped := ha
    obtain ⟨body, _, rest, rfl, hbody, h₃⟩ := h₂.bind_done
    obtain rfl := Program.Reaches.of_request (r := .unlock .stage) h₃
    exact .stopped n stage hbody
  | isRunning =>
    obtain ⟨x, h₂, ha⟩ := h₁.map_done
    obtain ⟨_, rest, rfl, h₃⟩ := Program.Reaches.of_request_bind h₂
    obtain ⟨rfl, hx⟩ := h₃.of_done
    cases hx
    obtain rfl : a = .running stage.isRunning := ha
    exact .looked n stage

/-! ## What turns come to -/

/-- What a call makes of the stage, and what it gives. -/
inductive Op.Moves : Op → Stage → Answer → Stage → Prop
  | started (made : List Intake) : Moves start .idle (.started (.ok ())) (.running made)
  | failed (f : Fault) : Moves start .idle (.started (.error f)) .idle
  | busy (made : List Intake) : Moves start (.running made) (.started (.error startedFault)) (.running made)
  | late : Moves start .stopped (.started (.error stoppedFault)) .stopped
  | stopped (stage : Stage) : Moves stop stage .stopped .stopped
  | looked (stage : Stage) : Moves isRunning stage (.running stage.isRunning) stage

/-- What the ledger of all that has happened says at a stage of a bus: an idle bus has ended all that was begun, a
running one has to end what its consumers hold, and a stopped one has ended all and cancelled its token. -/
def Accounts (b : Bus) (l : Ledger) : Stage → Prop
  | .idle => l.Even
  | .running made =>
    l.opened ⊆ l.closed ++ made.map (·.channel) ∧ l.spawned ⊆ l.awaited ++ made.flatMap Intake.tasks
  | .stopped => l.opened ⊆ l.closed ∧ l.spawned ⊆ l.awaited ∧ b.token ∈ l.cancelled

/-- The stage is what was put into its cell last. -/
theorem leftIn_stage (stage : Stage) (steps : List Step) :
    leftIn .stage stage steps = (ledger steps).stages.getLast?.getD stage := by
  induction steps using List.reverseRecOn with
  | nil => rfl
  | append_singleton steps s ih =>
    have hlast : (ledger (steps ++ [s])).stages = (ledger steps).stages ++ (s.put? .stage).toList := by
      rw [ledger_append]
      simp [Ledger.append_def, ledger]
    rw [leftIn_append, ih, hlast, leftIn, List.foldl_cons, List.foldl_nil]
    cases s.put? .stage <;> simp

section
variable (n : Nat) (stage : Stage) (body : List Step) (a : Answer)

theorem ledger_turn : ledger (turn n stage body a).all =
    { ledger body with strays := .lock .stage :: ((ledger body).strays ++ [.unlock .stage]) } := by
  have hlock : ledger [.asked (.lock .stage) stage] = { strays := [.lock .stage] } := rfl
  have hunlock : ledger [.asked (.unlock .stage) ()] = { strays := [.unlock .stage] } := rfl
  rw [turn, Turn.all, ledger_cons, ledger_append, hlock, hunlock]
  simp [Ledger.append_def]

theorem left_turn : (turn n stage body a).left = (ledger body).stages.getLast?.getD stage := by
  rw [turn, Turn.left, leftIn_append, ← leftIn_stage]
  rfl

end

theorem Goes.moves (hs : b.source.Offered) {t : Turn .stage Answer} (h : b.Goes o t) :
    o.Moves t.found t.result t.left := by
  cases h with
  | failed n h =>
    obtain ⟨cs, is, -, hledger, -⟩ := ledger_of_failed hs h
    rw [left_turn, hledger]
    exact .failed _
  | started n h =>
    obtain ⟨cs, made, hledger⟩ := ledger_of_started hs h
    rw [left_turn, hledger]
    exact .started made
  | busy n made => exact .busy made
  | late n => exact .late
  | stopped n stage h =>
    obtain ⟨cs, fs, hledger⟩ := ledger_of_stopped hs h
    rw [left_turn, hledger]
    exact .stopped stage
  | looked n stage => exact .looked stage

/-- A turn keeps the accounts. -/
theorem Goes.accounts (hs : b.source.Offered) {t : Turn .stage Answer} (h : b.Goes o t) {l : Ledger}
    (hl : b.Accounts l t.found) : b.Accounts (l ++ ledger t.all) t.left := by
  -- a turn in which nothing is done
  have hsame : ∀ n stage a, b.Accounts l stage → b.Accounts (l ++ ledger (turn n stage [] a).all) stage := by
    intro n stage a hl
    rw [ledger_turn]
    cases stage with
    | idle => exact (hl : l.Even).append ⟨rfl, rfl, rfl, rfl, by simp [ledger], by simp [ledger]⟩
    | running | stopped => simpa [Accounts, Ledger.append_def, ledger] using hl
  cases h with
  | @failed _ f n h =>
    obtain ⟨cs, is, htags, hledger, -⟩ := ledger_of_failed hs h
    rw [left_turn, ledger_turn, hledger]
    have heven : (undone cs is f).Even := even_undone htags f
    exact (hl : l.Even).append ⟨rfl, rfl, rfl, rfl, heven.channels, heven.nodup⟩
  | started n h =>
    obtain ⟨cs, made, hledger⟩ := ledger_of_started hs h
    rw [left_turn, ledger_turn, hledger]
    simp [Accounts, Ledger.append_def, hl.opened, hl.spawned]
  | busy n made => exact hsame n _ _ hl
  | late n => exact hsame n _ _ hl
  | stopped n stage h =>
    obtain ⟨cs, fs, hledger⟩ := ledger_of_stopped hs h
    obtain ⟨hopened, hspawned⟩ : l.opened ⊆ l.closed ++ stage.intakes.map (·.channel) ∧
        l.spawned ⊆ l.awaited ++ stage.intakes.flatMap Intake.tasks := by
      cases stage with
      | idle =>
        exact ⟨by simp [hl.opened], by simp [hl.spawned]⟩
      | running made => exact hl
      | stopped =>
        obtain ⟨hopened, hspawned, -⟩ := hl
        exact ⟨fun c hc => List.mem_append_left _ (hopened hc), fun t ht => List.mem_append_left _ (hspawned ht)⟩
    rw [left_turn, ledger_turn, hledger]
    simp only [Accounts, Ledger.append_def, List.append_nil]
    refine ⟨?_, hspawned, by simp⟩
    rw [← List.append_assoc]
    exact List.Subset.trans hopened (List.subset_append_left _ _)
  | looked n stage => exact hsame n stage _ hl

end Bus

/-! ## Callers and tasks -/

/-- What the tasks of a bus ask for. -/
def Request.OfTask : Request → Prop
  | .call _ (.ack _) | .call _ (.reject _) | .call _ (.publish _) => True
  | .handle _ _ _ | .sleep _ | .freshId | .traceContext | .span _ => True
  | .arrival _ _ _ | .spawn _ | .join _ | .leave _ => True
  | _ => False

theorem Delivery.ofTask_of_asks {d : Delivery} {c : ChannelId} {r : Request}
    (h : r.toHandler = true ∨ d.Asks c r) : r.OfTask := by
  cases r with
  | call c' x => cases x <;> first | trivial | exact h.elim Bool.false_ne_true id
  | _ => first | trivial | exact h.elim Bool.false_ne_true id

theorem TookIn.ofTask_of_asks {r : Request} (h : TookIn.Asks r) : r.OfTask := by
  cases r <;> trivial

/-- Tasks open and close nothing, subscribe to nothing and cancel nothing. -/
theorem Step.nothing_of_task {s : Step} (h : s.request.OfTask) :
    s.opened? = none ∧ s.closed? = none ∧ s.unsubscribed? = none ∧ s.cancelled? = none := by
  cases s with
  | raced t r x =>
    refine ⟨rfl, rfl, rfl, ?_⟩
    cases x with
    | none => rfl
    | some x => cases r <;> first | rfl | exact h.elim
  | asked r x =>
    cases r with
    | call c y => cases y <;> first | exact ⟨rfl, rfl, rfl, rfl⟩ | exact h.elim
    | _ => first | exact ⟨rfl, rfl, rfl, rfl⟩ | exact h.elim

/-- The steps of everybody, in order. -/
def steps (past : List Happening) : List Step :=
  past.filterMap fun
    | .took _ s => some s
    | _ => none

/-- The steps of all callers, in order. -/
def callerSteps (past : List Happening) : List Step := (calls past).map (·.2)

theorem mem_callerSteps {past : List Happening} {s : Step} : s ∈ callerSteps past ↔ ∃ n, .took (.caller n) s ∈ past := by
  simp only [callerSteps, calls, List.mem_map, List.mem_filterMap]
  constructor
  · rintro ⟨⟨n, s⟩, ⟨e, he, hcall⟩, rfl⟩
    cases e with
    | took a s' =>
      cases a with
      | caller m =>
        cases hcall
        exact ⟨n, he⟩
      | task t => cases hcall
    | broke | cancelled => cases hcall
  · rintro ⟨n, h⟩
    exact ⟨(n, s), ⟨_, h, rfl⟩, rfl⟩

theorem mem_noted_callerSteps {β : Type} {f : Step → Option β} {past : List Happening} {n : Nat} {x : β}
    (h : x ∈ noted f (stepsOf (.caller n) past)) : x ∈ noted f (callerSteps past) := by
  obtain ⟨s, hs, hx⟩ := mem_noted.1 h
  exact mem_noted.2 ⟨s, mem_callerSteps.2 ⟨n, mem_stepsOf.1 hs⟩, hx⟩

/-- What no task's step shows is shown by the callers' steps alone. -/
theorem noted_steps {β : Type} {f : Step → Option β} {past : List Happening}
    (h : ∀ t s, .took (.task t) s ∈ past → f s = none) : noted f (steps past) = noted f (callerSteps past) := by
  induction past with
  | nil => rfl
  | cons e past ih =>
    have ih := ih fun t s hs => h t s (List.mem_cons_of_mem _ hs)
    cases e with
    | took a s =>
      cases a with
      | caller n =>
        have hcalls : callerSteps (.took (.caller n) s :: past) = s :: callerSteps past := rfl
        have hsteps : steps (.took (.caller n) s :: past) = s :: steps past := rfl
        rw [hcalls, hsteps, noted_cons, noted_cons, ih]
      | task t =>
        have hcalls : callerSteps (.took (.task t) s :: past) = callerSteps past := rfl
        have hsteps : steps (.took (.task t) s :: past) = s :: steps past := rfl
        rw [hcalls, hsteps, noted_cons, ih, h t s List.mem_cons_self]
        rfl
    | broke | cancelled => exact ih

namespace System

section
variable {α : Type} {callers : List (Program α)} {known : List Thing} {cells : (c : Cell) → c.Content} {σ : System α}

/-- Where callers spawn only tasks that take deliveries in, each task does that or processes a delivery. -/
theorem job_of_start (hc : ∀ p ∈ callers, p.Only Bus.SpawnsIntakes) (h : (start callers [] known cells).Leads σ)
    {t : TaskId} {task : Task} (ht : σ.tasks[t.number]? = some task) :
    (∃ stream s c token inFlight, task.job = .takeIn stream s c token inFlight) ∨
      ∃ s c d token, task.job = .process s c d token := by
  rcases h.origin rfl rfl ht with ⟨n, hn⟩ | ⟨_, _, s, c, token, _, _, d, -, -, -, hjob⟩
  · obtain ⟨step, hstep, hspawn⟩ := mem_noted.1 hn
    rcases h.actor_of_took rfl (mem_stepsOf.1 hstep) with ⟨m, q, hm, hq⟩ | ⟨_, _, hm, -⟩
    · cases hm
      have hlt := (List.getElem?_eq_some_iff.1 hq).1
      rw [h.length_callers] at hlt
      obtain ⟨q', -, hreach⟩ := h.caller_reaches rfl (List.getElem?_eq_getElem hlt)
      have honly := ((hc _ (List.getElem_mem hlt)).reaches hreach).1
      exact .inl (honly step hstep _ (request_of_done? (done?_of_spawn? hspawn)))
    · cases hm
  · exact .inr ⟨s, c, d, token, hjob⟩

theorem ofTask_of_start (hc : ∀ p ∈ callers, p.Only Bus.SpawnsIntakes) (h : (start callers [] known cells).Leads σ)
    {t : TaskId} {s : Step} (ht : .took (.task t) s ∈ σ.past) : s.request.OfTask := by
  rcases h.actor_of_took rfl ht with ⟨m, q, hm, -⟩ | ⟨u, ⟨j, state⟩, hu, htask⟩
  · cases hm
  · cases hu
    have hasks := h.asks_of_task rfl ⟨[], rfl⟩ htask (mem_stepsOf.2 ht)
    rcases job_of_start hc h htask with ⟨stream, s, c, token, inFlight, rfl⟩ | ⟨s, c, d, token, rfl⟩
    · exact TookIn.ofTask_of_asks hasks
    · exact Delivery.ofTask_of_asks hasks

end

/-- A system with a bus on which calls are made. -/
def bus (b : Bus) (ops : List Bus.Op) (known : List Thing) : System Bus.Answer :=
  start (ops.map (Bus.Op.program b)) [] known Cell.initial

section
variable {b : Bus} {ops : List Bus.Op} {known : List Thing} {σ : System Bus.Answer}

theorem op_of_caller {n : Nat} {p : Program Bus.Answer} (h : (bus b ops known).callers[n]? = some p) :
    ∃ o, ops[n]? = some o ∧ p = o.program b := by
  obtain ⟨o, ho, rfl⟩ := Option.map_eq_some_iff.1 ((List.getElem?_map ..).symm.trans h)
  exact ⟨o, ho, rfl⟩

theorem ofTask_of_took (hs : b.source.Offered) (h : (bus b ops known).Leads σ) {t : TaskId} {s : Step}
    (ht : .took (.task t) s ∈ σ.past) : s.request.OfTask := by
  refine ofTask_of_start (fun p (hp : p ∈ ops.map (Bus.Op.program b)) => ?_) h ht
  obtain ⟨o, -, rfl⟩ := List.mem_map.1 hp
  exact o.only_program hs

theorem locksFirst_of_bus (hs : b.source.Offered) : ∀ p ∈ (bus b ops known).callers, p.LocksFirst .stage := by
  intro p hp
  obtain ⟨o, -, rfl⟩ := List.mem_map.1 hp
  exact o.locksFirst hs

/-- In every interleaving the calls have the stage in turn. -/
theorem Leads.bus_takings (hs : b.source.Offered) (h : (bus b ops known).Leads σ) :
    ∃ turns w now, (bus b ops known).Takings .stage σ turns w now := by
  refine h.takings rfl rfl (locksFirst_of_bus hs) fun h t s ht htouch => ?_
  have hask := ofTask_of_took hs h ht
  cases hr : s.request <;> rw [hr] at hask htouch <;> first | exact htouch | exact hask

/-- Channels are opened and closed, and subscriptions cancelled, by callers alone. -/
theorem noted_of_bus (hs : b.source.Offered) (h : (bus b ops known).Leads σ) :
    opened (steps σ.past) = opened (callerSteps σ.past) ∧ closed (steps σ.past) = closed (callerSteps σ.past) ∧
      unsubscribed (steps σ.past) = unsubscribed (callerSteps σ.past) :=
  ⟨noted_steps fun _ _ ht => (Step.nothing_of_task (ofTask_of_took hs h ht)).1,
    noted_steps fun _ _ ht => (Step.nothing_of_task (ofTask_of_took hs h ht)).2.1,
    noted_steps fun _ _ ht => (Step.nothing_of_task (ofTask_of_took hs h ht)).2.2.1⟩

variable {turns : List (Turn .stage Bus.Answer)} {w : Stage} {now : List (Nat × Step)}

theorem Takings.callerSteps_eq (h : (bus b ops known).Takings .stage σ turns w now) :
    callerSteps σ.past = turns.flatMap Turn.all ++ now.map (·.2) := by
  rw [callerSteps, h.steps, List.map_append, List.map_flatMap]
  simp [Turn.calls]

theorem InTurn.goes {callers : List (Program Bus.Answer)} (hc : callers = (bus b ops known).callers)
    (h : InTurn .stage callers .idle turns w) {t : Turn .stage Bus.Answer} (ht : t ∈ turns) :
    ∃ o, ops[t.caller]? = some o ∧ b.Goes o t := by
  obtain ⟨p, hp, hreach⟩ := h.reaches ht
  rw [hc] at hp
  obtain ⟨o, ho, rfl⟩ := op_of_caller hp
  exact ⟨o, ho, Bus.goes_of_reaches hreach⟩

/-- The accounts after all turns. -/
theorem InTurn.accounts (hs : b.source.Offered) {callers : List (Program Bus.Answer)}
    (hc : callers = (bus b ops known).callers) (h : InTurn .stage callers .idle turns w) :
    b.Accounts (ledger (turns.flatMap Turn.all)) w := by
  induction h with
  | nil => exact ⟨rfl, rfl, rfl, rfl, by simp [ledger], by simp [ledger]⟩
  | @concat turns t p h hnew hp hreach ih =>
    rw [hc] at hp
    obtain ⟨o, -, rfl⟩ := op_of_caller hp
    rw [List.flatMap_append, ledger_append, List.flatMap_singleton]
    exact (Bus.goes_of_reaches hreach).accounts hs ih

/-- If the callers have waited for all that they spawned, all tasks are over. -/
theorem over_of_accounts (h : (bus b ops known).Leads σ)
    (hspawned : (ledger (callerSteps σ.past)).spawned ⊆ (ledger (callerSteps σ.past)).awaited) {t : TaskId}
    (ht : t.number < σ.tasks.length) : σ.Over t := by
  refine h.over_of_callers rfl rfl (fun n e he => ?_) ht
  obtain ⟨step, hstep, hspawn⟩ := mem_noted.1 he
  have hmem : e.2 ∈ (spawned (callerSteps σ.past)).map (·.2) :=
    List.mem_map_of_mem (mem_noted.2 ⟨step, mem_callerSteps.2 ⟨n, mem_stepsOf.1 hstep⟩, hspawn⟩)
  obtain ⟨joining, hjoining, hawaited⟩ := mem_awaited.1 (hspawned hmem)
  obtain ⟨m, hm⟩ := mem_callerSteps.1 hjoining
  exact h.over_of_awaited rfl hm hawaited

end

end System

end MessageBus
