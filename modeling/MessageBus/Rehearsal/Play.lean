import MessageBus.Rehearsal.Reply
import MessageBus.Lifecycle
/-!
# Playing a rehearsal

A rehearsal is a list of acts. An act is noted in the log, changes the world, or performs programs of the bus side by
side; the next act begins when all of them have ended. What the programs spawn runs beside the acts, each in a task of
its own. The rehearsal is over after its last act. It halts before that if a program of an act breaks off, or if nothing
can happen any more while an act still waits.

Programs that are performed side by side share one task: whenever it goes on, each of them goes on as far as it comes.
-/

namespace MessageBus.Rehearsal

/-- A part of a rehearsal. `σ` is what the acts pass on, `α` what they answer. -/
inductive Act (σ α : Type) where
  | note (e : Event)
  | change (f : World → World × α)
  /-- Programs side by side; the last to stand in the list has the last word on what is passed on. -/
  | perform (programs : σ → List (Program (σ × α)))

namespace Act

variable {σ α : Type}

/-- One program that passes nothing on. -/
def alone (p : Program α) : Act σ α := .perform fun s => [(fun a => (s, a)) <$> p]

/-- Programs side by side that pass nothing on. -/
def together (ps : List (Program α)) : Act σ α := .perform fun s => ps.map fun p => (fun a => (s, a)) <$> p

end Act

/-- Runs each strand as far as it comes. -/
def advanceAll {α : Type} (t : TaskId) : Nat → World → List (Strand α) → World × List (Strand α)
  | _, w, [] => (w, [])
  | n, w, s :: rest =>
    let (w, s) := s.advance ⟨t, n⟩ w
    let (w, rest) := advanceAll t (n + 1) w rest
    (w, s :: rest)

/-- How far a rehearsal has come. -/
inductive Course where
  | goingOn
  | over
  /-- A program of an act broke off with a message. -/
  | brokeOff (message : String)

/-- The course of an act whose programs have not all ended. -/
def Course.ofStrands {α : Type} (strands : List (Strand α)) : Course :=
  match strands.findSome? Strand.message? with
  | some message => brokeOff message
  | none => goingOn

/-- A rehearsal that is going on. -/
structure Play (σ α : Type) where
  world : World
  /-- The spawned tasks, in the order of their numbers, which begin with one. -/
  tasks : Array (Strand (Option Job))
  state : σ
  /-- The programs of the act that is going on. -/
  strands : List (Strand (σ × α))
  /-- The acts that are still to come. -/
  acts : List (Act σ α)
  /-- What each act answered that has ended. -/
  answers : Array (List α)
  course : Course

namespace Play

variable {σ α : Type}

/-- A rehearsal that has not begun. -/
def start (w : World) (s : σ) (acts : List (Act σ α)) : Play σ α := ⟨w, #[], s, [], acts, #[], .goingOn⟩

/-- Goes through the acts, as far as each ends without waiting. -/
def begin (p : Play σ α) : List (Act σ α) → Play σ α
  | [] => { p with strands := [], acts := [], course := .over }
  | .note e :: rest => begin { p with world := p.world.note e } rest
  | .change f :: rest =>
    let (w, a) := f p.world
    begin { p with world := w, answers := p.answers.push [a] } rest
  | .perform programs :: rest =>
    let (w, strands) := advanceAll World.mainTask 0 p.world ((programs p.state).map Strand.fresh)
    match strands.mapM Strand.result? with
    | some results =>
      let state := (results.getLast?.map (·.1)).getD p.state
      begin { p with world := w, state, answers := p.answers.push (results.map (·.2)) } rest
    | none => { p with world := w, strands, acts := rest, course := .ofStrands strands }

/-- Lets the rehearsal's own task go on. -/
def continueActs (p : Play σ α) : Play σ α :=
  let (w, strands) := advanceAll World.mainTask 0 p.world p.strands
  match strands.mapM Strand.result? with
  | some results =>
    let state := (results.getLast?.map (·.1)).getD p.state
    let answers := if p.strands.isEmpty then p.answers else p.answers.push (results.map (·.2))
    { p with world := w, state, strands := [], answers }.begin p.acts
  | none => { p with world := w, strands, course := .ofStrands strands }

/-- Lets a spawned task go on. A task that has another turn stays first in line. -/
def continueTask (p : Play σ α) (t : TaskId) : Play σ α :=
  match p.tasks[t.number - 1]? with
  | none => p
  | some s =>
    let (w, s) := s.advance ⟨t, 0⟩ p.world
    match s with
    | .ended (some job) =>
      { p with
        world := { w with ready := t :: w.ready.filter (· ≠ t) }
        tasks := p.tasks.set! (t.number - 1) (.fresh job.program) }
    | .running _ _ => { p with world := w, tasks := p.tasks.set! (t.number - 1) s }
    | .ended none | .brokeOff _ => { p with world := w.finish t, tasks := p.tasks.set! (t.number - 1) s }

/-- Takes up the tasks that were spawned. -/
def takeUp (p : Play σ α) : Play σ α :=
  { p with
    world := { p.world with spawned := [] }
    tasks := p.world.spawned.foldl (fun tasks e => tasks.push (.fresh e.2.program)) p.tasks }

/-- One turn: the task that is first in line goes on, or the clock moves; none if nothing can happen any more. -/
def turn? (p : Play σ α) : Option (Play σ α) :=
  match p.course with
  | .goingOn =>
    match p.world.ready with
    | [] => p.world.tick?.map fun w => { p with world := w }
    | t :: rest =>
      let p := { p with world := { p.world with ready := rest } }
      some (takeUp (if t = World.mainTask then p.continueActs else p.continueTask t))
  | _ => none

/-- So many turns, or as many as there are. -/
def run : Nat → Play σ α → Play σ α
  | 0, p => p
  | n + 1, p =>
    match p.turn? with
    | none => p
    | some p => run n p

end Play

/-- More turns than a rehearsal takes. -/
def manyTurns : Nat := 1000000000

/-- Why a rehearsal did not come to its end. -/
inductive Halt where
  /-- Nothing could happen any more. -/
  | standstill
  /-- A program of an act broke off with a message. -/
  | brokeOff (message : String)

/-- What a rehearsal comes to that answers so: its log and the answers, unless it halts. -/
abbrev Rehearsed (β : Type) : Type := Except Halt (List Entry × β)

/-- What a rehearsal comes to: its log, and what its acts answered. -/
def play {σ α : Type} (w : World) (s : σ) (acts : List (Act σ α)) : Rehearsed (List (List α)) :=
  let p := (Play.start w s acts).run manyTurns
  match p.course with
  | .over => .ok (p.world.log.toList, p.answers.toList)
  | .brokeOff message => .error (.brokeOff message)
  | .goingOn => .error .standstill

end MessageBus.Rehearsal
