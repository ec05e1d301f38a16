import MessageBus.Rehearsal.Event
/-!
# Planned faults

A rule says when something that is asked is held up, never ends, or fails. Each rule counts what matches it, also when
another rule applies; of the rules whose turn it is the first applies.
-/

namespace MessageBus.Rehearsal

/-- A planned fault. -/
structure Rule where
  method : String
  /-- The name of what is asked for; without it the rule matches every name. -/
  target : Option String
  /-- The one match at which the rule applies; without it the rule applies to each. -/
  nth : Option Nat
  /-- The milliseconds that pass before anything else. -/
  delay : Nat
  /-- Whether it never ends. -/
  hang : Bool
  /-- The fault that it ends with instead of being done. -/
  fault : Option Fault

/-- A rule and how often it was matched. -/
structure CountedRule where
  rule : Rule
  count : Nat

namespace Rule

/-- Whether the rule is about what is asked. -/
def isAbout (r : Rule) (a : Asked) : Bool :=
  r.method = a.method && r.target.all fun t => a.target? = some t

/-- Whether the rule applies at its match of that number. -/
def appliesAt (r : Rule) (n : Nat) : Bool := r.nth.all (· = n)

end Rule

/-- Counts what is asked; also the rule that applies to it. -/
def meet (a : Asked) : List CountedRule → List CountedRule × Option Rule
  | [] => ([], none)
  | c :: rest =>
    let (rest, later) := meet a rest
    if c.rule.isAbout a then
      let n := c.count + 1
      (⟨c.rule, n⟩ :: rest, if c.rule.appliesAt n then some c.rule else later)
    else (c :: rest, later)

end MessageBus.Rehearsal
