import MessageBus.Rehearsal.Scene.Conditions
/-!
# Rehearsing a consumer
-/

namespace MessageBus.Rehearsal

/-- A step of rehearsing a consumer. -/
inductive IntakeStep where
  | name
  | start
  | wait (millis : Nat)
  /-- The parent token is cancelled. -/
  | cancel
  | dispose

/-- What a step of rehearsing a consumer answers. -/
inductive IntakeAnswer where
  | result (r : Except Fault Unit)
  | name (s : String)

/-- The act of a step. The consumer is what the acts pass on. -/
def IntakeStep.act (s : Settings.Consumer) : IntakeStep → Act Intake IntakeAnswer
  | name => .changing id (.name s.name)
  | start => .perform fun i => [do
    let (result, i) ← (Intake.start firstToken).run.run i
    return (i, .result result)]
  | wait millis => .waiting millis (.result (.ok ()))
  | cancel => .changing (·.cancel firstToken) (.result (.ok ()))
  | dispose => .perform fun i => [do
    let i ← i.dispose
    return (i, .result (.ok ()))]

/-- Uses a consumer step by step, whose queues give what is listed. -/
def consuming (c : Conditions) (s : Settings.Consumer) (listings : List (String × List Item))
    (steps : List IntakeStep) : Rehearsed (List (List IntakeAnswer)) :=
  let w := { c.world 1 1 with listings }
  play w (Intake.idle s firstChannel) (Act.numbered (steps.map (IntakeStep.act s)))

end MessageBus.Rehearsal
