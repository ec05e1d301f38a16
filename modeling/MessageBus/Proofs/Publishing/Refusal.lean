import MessageBus.Proofs.Publishing.Conduct
/-!
# Publications that find no channel

Where no channel can be used any more and the pool has been given up, a publication opens nothing and fails: with the
fault of its message if that cannot be written, with a fault of publishing otherwise, or because its token was cancelled
(`Publisher.refuses_of_publish`).
-/

namespace MessageBus

/-- In these steps no channel could be used, and the pool had been given up. -/
structure FoundGone (steps : List Step) : Prop where
  shut : ∀ s ∈ steps, ∀ c, s.done? ≠ some ⟨.isOpen c, true⟩
  disposed : ∀ s ∈ steps, ∀ v : Pool, s.done? = some ⟨.lock .pool, v⟩ → v.disposed = true

namespace FoundGone

variable {steps steps' : List Step}

theorem of_subset (h : FoundGone steps) (hsub : ∀ s ∈ steps', s ∈ steps) : FoundGone steps' :=
  ⟨fun s hs => h.shut s (hsub s hs), fun s hs => h.disposed s (hsub s hs)⟩

theorem of_under {t : TokenId} (h : FoundGone (steps.map (·.under t))) : FoundGone steps where
  shut s hs c := by simpa using h.shut _ (List.mem_map_of_mem hs) c
  disposed s hs v hd := h.disposed _ (List.mem_map_of_mem hs) v (by simpa using hd)

end FoundGone

namespace Publisher

variable {p : Publisher} {size : Nat} {steps : List Step}

/-- A pool that was given up gives no connection, and so no channel. -/
theorem refuses_of_create (hp : p.source = .pooled size) {r : Except Fault ChannelId}
    (h : p.source.create.run.Reaches steps (.done r)) (hgone : FoundGone steps) : r = .error Pool.disposedFault := by
  have hacquire : ∀ {steps : List Step} {x : Except Fault ConnectionId},
      (Pool.acquire size).run.Reaches steps (.done x) → FoundGone steps → x = .error Pool.disposedFault := by
    intro steps x h hgone
    rw [Pool.run_acquire] at h
    obtain ⟨v, rest, rfl, h₁⟩ := h.of_ask
    have hdisposed := hgone.disposed _ List.mem_cons_self v rfl
    simp only [hdisposed, if_true] at h₁
    obtain ⟨_, rest, rfl, h₂⟩ := h₁.of_ask
    obtain ⟨-, hx⟩ := h₂.of_done
    cases hx
    rfl
  rw [hp] at h
  rcases Attempt.reaches_bind h with ⟨f, rfl, hfirst⟩ | ⟨first, k, second, rfl, hfirst, -⟩
  · cases hacquire hfirst hgone
    rfl
  · cases hacquire hfirst (hgone.of_subset fun s => List.mem_append_left _)

theorem refuses_of_channel (hp : p.source = .pooled size) {r : Except Fault ChannelId}
    (h : p.channel.run.Reaches steps (.done r)) (hgone : FoundGone steps) : r = .error Pool.disposedFault := by
  have hopen : ∀ {steps : List Step}, p.openChannel.run.Reaches steps (.done r) → FoundGone steps →
      r = .error Pool.disposedFault := by
    intro steps h hgone
    rw [run_openChannel] at h
    obtain ⟨creating, x, rest, rfl, hcreate, h₁⟩ := h.bind_done
    obtain rfl := refuses_of_create hp hcreate (hgone.of_subset fun s => List.mem_append_left _)
    obtain ⟨_, rest, rfl, h₂⟩ := h₁.of_ask
    obtain ⟨-, hr⟩ := h₂.of_done
    cases hr
    rfl
  rw [run_channel] at h
  obtain ⟨o, rest, rfl, h₁⟩ := h.of_ask
  cases o with
  | none => exact hopen h₁ (hgone.of_subset fun s => List.mem_cons_of_mem _)
  | some c =>
    obtain ⟨usable, rest, rfl, h₂⟩ := h₁.of_ask
    cases usable with
    | true => exact absurd rfl (hgone.shut (.asked (.isOpen c) true) (by simp) c)
    | false => exact hopen h₂ (hgone.of_subset fun s hs => List.mem_cons_of_mem _ (List.mem_cons_of_mem _ hs))

theorem refuses_of_publication (hp : p.source = .pooled size) {audience : Audience} {t : String} {out : Outbound}
    {r : Except Fault Unit} (h : (p.publication audience t out).run.Reaches steps (.done r)) (hgone : FoundGone steps) :
    r = .error Pool.disposedFault := by
  -- whatever comes after it, the channel is not found
  have hbind : ∀ {f : ChannelId → Attempt Unit}, (p.channel >>= f).run.Reaches steps (.done r) →
      r = .error Pool.disposedFault := by
    intro f h
    rcases Attempt.reaches_bind h with ⟨e, rfl, hfirst⟩ | ⟨first, c, second, rfl, hfirst, -⟩
    · cases refuses_of_channel hp hfirst hgone
      rfl
    · cases refuses_of_channel hp hfirst (hgone.of_subset fun s => List.mem_append_left _)
  cases audience with
  | subscribers => exact hbind h
  | queue name => exact hbind h

/-- What a publication gives that opens nothing: a message that cannot be written has its own fault, or is dropped. -/
def Refuses (p : Publisher) (messageType : String) (message : Json) (cancelled : Prop) (r : Except Fault Unit) : Prop :=
  match p.payload? message with
  | .error f => r = .error f
  | .ok none => r = .ok ()
  | .ok (some _) => r = .error (.publish messageType Pool.disposedFault.message) ∨ r = .error .cancelled ∧ cancelled

theorem Refuses.mono {t : String} {message : Json} {cancelled cancelled' : Prop} {r : Except Fault Unit}
    (h : p.Refuses t message cancelled r) (himp : cancelled → cancelled') : p.Refuses t message cancelled' r := by
  rw [Refuses] at h ⊢
  split at h
  · exact h
  · exact h
  · exact h.imp_right fun ⟨hr, hc⟩ => ⟨hr, himp hc⟩

theorem refuses_of_publish (hp : p.source = .pooled size) {audience : Audience} {t : String} {message : Json}
    {token : TokenId} {r : Except Fault Unit}
    (h : (p.publish audience t message token).run.Reaches steps (.done r)) (hgone : FoundGone steps) :
    p.Refuses t message (∃ s ∈ steps, s = .asked (.isCancelled token) true ∨ ∃ r, s = .raced token r none) r := by
  rw [run_publish] at h
  rw [Refuses]
  rcases hpayload : p.payload? message with f | (_ | payload) <;> rw [hpayload] at h
  · obtain ⟨-, hr⟩ := h.of_done
    cases hr
    rfl
  · obtain ⟨-, hr⟩ := h.of_done
    cases hr
    rfl
  obtain ⟨id, rest, rfl, h₁⟩ := h.of_ask
  obtain ⟨context, rest, rfl, h₂⟩ := h₁.of_ask
  rw [run_guarded] at h₂
  obtain ⟨cancelled, rest, rfl, h₃⟩ := h₂.of_ask
  cases cancelled with
  | true =>
    obtain ⟨-, hr⟩ := h₃.of_done
    cases hr
    exact .inr ⟨rfl, _, by simp, .inl rfl⟩
  | false =>
    obtain ⟨publishing, o, rest, rfl, hpublish, h₄⟩ := Program.Reaches.bind_done h₃
    rcases hpublish.interruptible_done with ⟨own, x, hown, rfl, rfl⟩ | ⟨own, r', k, after, -, rfl, -, rfl⟩
    · obtain ⟨-, hr⟩ := Program.Reaches.of_done h₄
      have howned : FoundGone (own.map (·.under token)) := hgone.of_subset fun s hs => by simp [List.mem_append_left _ hs]
      obtain rfl := refuses_of_publication hp hown howned.of_under
      cases hr
      exact .inl rfl
    · obtain ⟨-, hr⟩ := Program.Reaches.of_done h₄
      cases hr
      exact .inr ⟨rfl, _, by simp, .inr ⟨r', rfl⟩⟩

end Publisher

end MessageBus
