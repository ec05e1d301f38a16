import MessageBus.Proofs.Program.Trace
/-!
# What a program does not mind

Some replies decide what a program does next, others it passes over. `Program.Heeds seen p` says that only the replies
to requests that are seen decide anything: two ways of `p` to its end on which these are replied to alike go through the
same seen steps and have the same result, whatever else was replied on either way.

`Program.IgnoresRaces p` says that `p` makes nothing of how its races end. Each of them can then end in any way, with
all else as it was (`IgnoresRaces.exchange`).

A program is `Steadfast` if it has both. One steadfast program after another is steadfast, and so is one before which
something is done of which nothing is seen and nothing made (`Steadfast.passing`).
-/

namespace MessageBus

/-- As long as two histories are the same, what is asked for next is replied to in the same way in both. -/
def RepliedAlike (steps steps' : List Step) : Prop :=
  ∀ (past : List Step) (r : Request) (x x' : r.Reply),
    past ++ [.asked r x] <+: steps → past ++ [.asked r x'] <+: steps' → x = x'

namespace RepliedAlike

variable {first first' second second' : List Step}

theorem refl (steps : List Step) : RepliedAlike steps steps := by
  intro past r x x' h h'
  have heq := (List.prefix_of_prefix_length_le h h' (by simp)).eq_of_length (by simp)
  simpa using heq

/-- What holds of two histories holds of what they begin with. -/
theorem of_append (h : RepliedAlike (first ++ second) (first' ++ second')) : RepliedAlike first first' :=
  fun past r x x' hx hx' => h past r x x' (hx.trans (List.prefix_append _ _)) (hx'.trans (List.prefix_append _ _))

/-- If they begin with the same, it holds of the rest. -/
theorem behind (h : RepliedAlike (first ++ second) (first ++ second')) : RepliedAlike second second' := by
  intro past r x x' hx hx'
  refine h (first ++ past) r x x' ?_ ?_
  · rw [List.append_assoc]
    exact (List.prefix_append_right_inj first).2 hx
  · rw [List.append_assoc]
    exact (List.prefix_append_right_inj first).2 hx'

end RepliedAlike

/-- The steps whose requests are seen. -/
def seenIn (seen : Request → Bool) (steps : List Step) : List Step := steps.filter (seen ·.request)

@[simp] theorem seenIn_append (seen : Request → Bool) (steps steps' : List Step) :
    seenIn seen (steps ++ steps') = seenIn seen steps ++ seenIn seen steps' := List.filter_append ..

namespace Program

variable {α β : Type} {seen : Request → Bool}

/-- The program goes by the replies to what is seen, and by nothing else. -/
def Heeds (seen : Request → Bool) (p : Program α) : Prop :=
  ∀ steps a steps' a', p.Reaches steps (done a) → p.Reaches steps' (done a') →
    RepliedAlike (seenIn seen steps) (seenIn seen steps') → seenIn seen steps = seenIn seen steps' ∧ a = a'

theorem seenIn_eq_nil {p q : Program α} {steps : List Step} (hp : p.Only fun r => seen r = false)
    (h : p.Reaches steps q) : seenIn seen steps = [] :=
  List.filter_eq_nil_iff.2 fun s hs => by simp [(hp.reaches h).1 s hs]

namespace Heeds

theorem done (a : α) : (Program.done a).Heeds seen := by
  intro steps b steps' b' h h' _
  obtain ⟨rfl, hb⟩ := h.of_done
  obtain ⟨rfl, hb'⟩ := h'.of_done
  cases hb
  cases hb'
  exact ⟨rfl, rfl⟩

theorem request {r : Request} (hr : seen r = true) : (Program.request r).Heeds seen := by
  intro steps x steps' x' h h' halike
  obtain rfl := h.of_request
  obtain rfl := h'.of_request
  have hseen : ∀ y, seenIn seen [.asked r y] = [.asked r y] := fun y => List.filter_cons_of_pos hr
  rw [hseen, hseen] at halike
  obtain rfl := halike [] r x x' List.prefix_rfl List.prefix_rfl
  exact ⟨rfl, rfl⟩

theorem bind {p : Program α} {f : α → Program β} (hp : p.Heeds seen) (hf : ∀ a, (f a).Heeds seen) :
    (p >>= f).Heeds seen := by
  intro steps b steps' b' h h' halike
  obtain ⟨first, a, second, rfl, hfirst, hsecond⟩ := h.bind_done
  obtain ⟨first', a', second', rfl, hfirst', hsecond'⟩ := h'.bind_done
  rw [seenIn_append, seenIn_append] at halike ⊢
  -- the first programs have gone the same way, so the second ones begin alike
  obtain ⟨hseen, rfl⟩ := hp _ _ _ _ hfirst hfirst' halike.of_append
  rw [hseen] at halike ⊢
  obtain ⟨hrest, rfl⟩ := hf a _ _ _ _ hsecond hsecond' halike.behind
  exact ⟨by rw [hrest], rfl⟩

/-- A part of which nothing is seen, and nothing is made of its result, is passed over. -/
theorem passing {p : Program α} {q : Program β} (hp : p.Only fun r => seen r = false) (hq : q.Heeds seen) :
    (p >>= fun _ => q).Heeds seen := by
  intro steps b steps' b' h h' halike
  obtain ⟨first, a, second, rfl, hfirst, hsecond⟩ := h.bind_done
  obtain ⟨first', a', second', rfl, hfirst', hsecond'⟩ := h'.bind_done
  rw [seenIn_append, seenIn_append, seenIn_eq_nil hp hfirst, seenIn_eq_nil hp hfirst'] at halike ⊢
  exact hq _ _ _ _ hsecond hsecond' halike

end Heeds

/-! ## Races -/

/-- What comes after a race is the same however it ends. -/
def IgnoresRaces : Program α → Prop
  | done _ => True
  | ask _ k => ∀ x, (k x).IgnoresRaces
  | race _ _ k => (∀ x x', k x = k x') ∧ ∀ x, (k x).IgnoresRaces

namespace IgnoresRaces

theorem bind {p : Program α} {f : α → Program β} (hp : p.IgnoresRaces) (hf : ∀ a, (f a).IgnoresRaces) :
    (p >>= f).IgnoresRaces := by
  induction p with
  | done a => exact hf a
  | ask r k ih => exact fun x => ih x (hp x)
  | race t r k ih => exact ⟨fun x x' => congrArg (· >>= f) (hp.1 x x'), fun x => ih x (hp.2 x)⟩

theorem request (r : Request) : (Program.request r).IgnoresRaces := fun _ => trivial

/-- What ignores its own races, but for a result of which nothing is made. -/
theorem passing {p : Program α} {q : Program β} (hp : ((fun _ => ()) <$> p).IgnoresRaces) (hq : q.IgnoresRaces) :
    (p >>= fun _ => q).IgnoresRaces := by
  have hvoid : (p >>= fun _ => q) = ((fun _ => ()) <$> p) >>= fun _ => q := by simp
  rw [hvoid]
  exact hp.bind fun _ => hq

/-- A race on the way can end in any other way, and the rest of the way stays as it is. -/
theorem exchange {p q : Program α} {before after : List Step} {t : TokenId} {r : Request} {x : Option r.Reply}
    (hp : p.IgnoresRaces) (h : p.Reaches (before ++ .raced t r x :: after) q) (x' : Option r.Reply) :
    p.Reaches (before ++ .raced t r x' :: after) q := by
  induction before generalizing p with
  | nil =>
    cases h with
    | next hs hrest =>
      cases hs with
      | raced _ _ k _ => exact .next (.raced t r k x') (hp.1 x x' ▸ hrest)
  | cons s before ih =>
    cases h with
    | next hs hrest =>
      refine .next hs (ih ?_ hrest)
      cases hs with
      | asked _ k y => exact hp y
      | raced _ _ k y => exact hp.2 y

end IgnoresRaces

/-! ## Both -/

/-- The program goes by the replies to what is seen, and by nothing else, least of all by how its races end. -/
structure Steadfast (seen : Request → Bool) (p : Program α) : Prop where
  heeds : p.Heeds seen
  ignoresRaces : p.IgnoresRaces

namespace Steadfast

theorem done (a : α) : (Program.done a).Steadfast seen := ⟨.done a, trivial⟩

theorem request {r : Request} (hr : seen r = true) : (Program.request r).Steadfast seen := ⟨.request hr, .request r⟩

theorem bind {p : Program α} {f : α → Program β} (hp : p.Steadfast seen) (hf : ∀ a, (f a).Steadfast seen) :
    (p >>= f).Steadfast seen :=
  ⟨hp.heeds.bind fun a => (hf a).heeds, hp.ignoresRaces.bind fun a => (hf a).ignoresRaces⟩

/-- A part of which nothing is seen, and nothing is made of its result or its races, is passed over. -/
theorem passing {p : Program α} {q : Program β} (hp : p.Only fun r => seen r = false)
    (hraces : ((fun _ => ()) <$> p).IgnoresRaces) (hq : q.Steadfast seen) : (p >>= fun _ => q).Steadfast seen :=
  ⟨.passing hp hq.heeds, .passing hraces hq.ignoresRaces⟩

end Steadfast

end Program

namespace Attempt

variable {α β : Type} {seen : Request → Bool}

theorem steadfast_bind {a : Attempt α} {f : α → Attempt β} (ha : a.run.Steadfast seen)
    (hf : ∀ x, (f x).run.Steadfast seen) : (a >>= f).run.Steadfast seen := by
  rw [ExceptT.run_bind]
  refine ha.bind fun y => ?_
  cases y with
  | ok x => exact hf x
  | error e => exact .done _

theorem steadfast_call {c : ChannelId} {x : Call} (h : seen (.call c x) = true) : (call c x).run.Steadfast seen :=
  .request h

theorem steadfast_lift {p : Program α} (hp : p.Steadfast seen) : (liftM p : Attempt α).run.Steadfast seen := by
  rw [ExceptT.run_liftM, map_eq_pure_bind]
  exact hp.bind fun _ => .done _

/-- A program that cannot fail, of which nothing is seen and nothing made. -/
theorem steadfast_passing {p : Program α} {a : Attempt β} (hp : p.Only fun r => seen r = false)
    (hraces : ((fun _ => ()) <$> p).IgnoresRaces) (ha : a.run.Steadfast seen) :
    ((liftM p : Attempt α) >>= fun _ => a).run.Steadfast seen := by
  have hrun : ((liftM p : Attempt α) >>= fun _ => a).run = p >>= fun _ => a.run := ExceptT.run_bind_lift p _
  rw [hrun]
  exact .passing hp hraces ha

end Attempt

end MessageBus
