import MessageBus.Proofs.Address.Percent
import MessageBus.Proofs.Text.Replace
import MessageBus.Settings.Environment
/-!
# The virtual host in the path

What stands for a virtual host in the path holds no slash, and every percent sign in it begins an escape. Characters of
that form stand for a virtual host (`exists_escapedVhost`), and those that it is escaped to stand for nothing else
(`percentDecode_escapedVhost`). So escaping can be undone, whatever escapes the virtual host brings along
(`encodeVhost_reversible`).
-/

namespace MessageBus.Settings

/-- The characters of a virtual host in the path. -/
def escapedVhost (cs : List Char) : List Char :=
  cs.flatMap fun c => if c = '%' then ['%', '2', '5'] else if c = '/' then ['%', '2', 'f'] else [c]

theorem toList_encodeVhost (vhost : String) : (encodeVhost vhost).toList = escapedVhost vhost.toList :=
  String.toList_ofList

variable {cs : List Char} {c : Char}

/-- A character is a percent sign or a slash, and is escaped, or it is neither, and stands for itself. -/
theorem escapedVhost_cons (c : Char) (cs : List Char) :
    c = '%' ∧ escapedVhost (c :: cs) = '%' :: '2' :: '5' :: escapedVhost cs ∨
    c = '/' ∧ escapedVhost (c :: cs) = '%' :: '2' :: 'f' :: escapedVhost cs ∨
    c ≠ '%' ∧ c ≠ '/' ∧ escapedVhost (c :: cs) = c :: escapedVhost cs := by
  by_cases hpercent : c = '%'
  · subst hpercent
    exact .inl ⟨rfl, rfl⟩
  by_cases hslash : c = '/'
  · subst hslash
    exact .inr (.inl ⟨rfl, rfl⟩)
  refine .inr (.inr ⟨hpercent, hslash, ?_⟩)
  rw [escapedVhost, List.flatMap_cons, if_neg hpercent, if_neg hslash, ← escapedVhost, List.singleton_append]

theorem percentDecode_escapedVhost (cs : List Char) :
    Address.percentDecode (escapedVhost cs) = Bytes.ofText (String.ofList cs) := by
  induction cs with
  | nil => rfl
  | cons c cs ih =>
    rw [Address.ofText_cons, ← ih]
    obtain ⟨rfl, heq⟩ | ⟨rfl, heq⟩ | ⟨hpercent, -, heq⟩ := escapedVhost_cons c cs
    · rw [heq]
      rfl
    · rw [heq]
      rfl
    · rw [heq, Address.percentDecode_cons fun h => absurd h hpercent]

/-! ## One replacement after the other -/

/-- The percent signs that the second replacement brings come too late for the first, and the first brings no slash for
the second. -/
theorem escapedVhost_eq_replaced (cs : List Char) :
    escapedVhost cs = Text.replaced '/' ['%', '2', 'f'] (Text.replaced '%' ['%', '2', '5'] cs) := by
  induction cs with
  | nil => rfl
  | cons c cs ih =>
    obtain ⟨rfl, heq⟩ | ⟨rfl, heq⟩ | ⟨hpercent, hslash, heq⟩ := escapedVhost_cons c cs
    · rw [heq, ih]
      rfl
    · rw [heq, ih]
      rfl
    · rw [heq, ih, Text.replaced_cons, if_neg hpercent, List.singleton_append, Text.replaced_cons, if_neg hslash,
        List.singleton_append]

/-- In the other order, the escape of a slash would be escaped again. -/
example : Text.replaced '%' ['%', '2', '5'] (Text.replaced '/' ['%', '2', 'f'] ['/']) = "%252f".toList := by decide

theorem encodeVhost_eq_replace (vhost : String) :
    encodeVhost vhost = (vhost.replace '%' "%25").replace '/' "%2f" := by
  rw [← String.toList_inj, toList_encodeVhost, Text.toList_replace, Text.toList_replace]
  exact escapedVhost_eq_replaced vhost.toList

/-! ## The form of what is escaped -/

/-- No slash is among the characters, and every percent sign begins the escape of a percent sign or of a slash. -/
structure VhostEscaped (cs : List Char) : Prop where
  no_slash : '/' ∉ cs
  percent : ∀ before after, cs = before ++ '%' :: after → ['2', '5'] <+: after ∨ ['2', 'f'] <+: after

theorem vhostEscaped_nil : VhostEscaped [] :=
  ⟨List.not_mem_nil, by simp⟩

theorem vhostEscaped_cons :
    VhostEscaped (c :: cs) ↔ (c ≠ '/' ∧ (c = '%' → ['2', '5'] <+: cs ∨ ['2', 'f'] <+: cs)) ∧ VhostEscaped cs := by
  constructor
  · intro h
    refine ⟨⟨fun heq => h.no_slash (heq ▸ List.mem_cons_self), fun heq => h.percent [] cs (heq ▸ rfl)⟩,
      fun hmem => h.no_slash (List.mem_cons_of_mem c hmem), ?_⟩
    rintro before after rfl
    exact h.percent (c :: before) after rfl
  · rintro ⟨⟨hslash, hpercent⟩, h⟩
    refine ⟨fun hmem => (List.mem_cons.1 hmem).elim (fun heq => hslash heq.symm) h.no_slash, ?_⟩
    rintro (_ | ⟨x, before⟩) after heq
    · obtain ⟨rfl, rfl⟩ := List.cons.inj heq
      exact hpercent rfl
    · exact h.percent before after (List.cons.inj heq).2

theorem VhostEscaped.of_append {ds : List Char} (h : VhostEscaped (ds ++ cs)) : VhostEscaped cs := by
  induction ds with
  | nil => exact h
  | cons d ds ih => exact ih (vhostEscaped_cons.1 h).2

theorem vhostEscaped_escapedVhost (cs : List Char) : VhostEscaped (escapedVhost cs) := by
  induction cs with
  | nil => exact vhostEscaped_nil
  | cons c cs ih =>
    obtain ⟨-, heq⟩ | ⟨-, heq⟩ | ⟨hpercent, hslash, heq⟩ := escapedVhost_cons c cs
    · simp [heq, vhostEscaped_cons, ih]
    · simp [heq, vhostEscaped_cons, ih]
    · rw [heq, vhostEscaped_cons]
      exact ⟨⟨hslash, fun h => absurd h hpercent⟩, ih⟩

/-- Nothing else has that form. -/
theorem exists_escapedVhost {cs : List Char} (h : VhostEscaped cs) : ∃ vs, escapedVhost vs = cs := by
  match cs with
  | [] => exact ⟨[], rfl⟩
  | c :: cs =>
    obtain ⟨⟨hslash, hpercent⟩, hcs⟩ := vhostEscaped_cons.1 h
    by_cases hc : c = '%'
    · subst hc
      -- the escape ends after two more characters, and what follows it has the form again
      obtain ⟨rest, rfl⟩ | ⟨rest, rfl⟩ := hpercent rfl
      · obtain ⟨vs, rfl⟩ := exists_escapedVhost hcs.of_append
        exact ⟨'%' :: vs, rfl⟩
      · obtain ⟨vs, rfl⟩ := exists_escapedVhost hcs.of_append
        exact ⟨'/' :: vs, rfl⟩
    · obtain ⟨vs, rfl⟩ := exists_escapedVhost hcs
      obtain ⟨heq, -⟩ | ⟨heq, -⟩ | ⟨-, -, heq⟩ := escapedVhost_cons c vs
      · exact absurd heq hc
      · exact absurd heq hslash
      · exact ⟨c :: vs, heq⟩
termination_by cs.length

/-! ## Escaping is undone -/

theorem percentText_encodeVhost (vhost : String) : Address.percentText (encodeVhost vhost).toList = .ok vhost := by
  simp only [Address.percentText, toList_encodeVhost, percentDecode_escapedVhost, String.ofList_toList,
    Bytes.toText?_ofText]

/-- Different virtual hosts are escaped differently. -/
theorem encodeVhost_inj {v w : String} : encodeVhost v = encodeVhost w ↔ v = w := by
  refine ⟨fun h => ?_, congrArg encodeVhost⟩
  have hread := percentText_encodeVhost v
  rw [h, percentText_encodeVhost] at hread
  exact (Except.ok.inj hread).symm

/-- Characters of the form are what the virtual host that they stand for is escaped to. -/
theorem eq_encodeVhost {segment vhost : String} (h : VhostEscaped segment.toList)
    (htext : Address.percentText segment.toList = .ok vhost) : segment = encodeVhost vhost := by
  obtain ⟨vs, hvs⟩ := exists_escapedVhost h
  have hsegment : segment = encodeVhost (String.ofList vs) := by
    rw [← String.toList_inj, toList_encodeVhost, String.toList_ofList, hvs]
  rw [hsegment, percentText_encodeVhost] at htext
  rw [hsegment, Except.ok.inj htext]

/-- Addresses that differ in nothing but the virtual host are different. -/
theorem composeAddress_inj {user password host v w : String} {port : Nat} :
    composeAddress user password host port v = composeAddress user password host port w ↔ v = w :=
  (String.append_right_inj _).trans encodeVhost_inj

/-- A virtual host is escaped by replacing the percent signs in it first and then the slashes, and that can be undone.
The outcome holds no slash, and no percent sign but where an escape begins; it stands for the virtual host, and nothing
else of that form does. So no two virtual hosts are escaped alike or make the same address, whatever escapes they bring
along. -/
theorem encodeVhost_reversible (vhost : String) :
    encodeVhost vhost = (vhost.replace '%' "%25").replace '/' "%2f" ∧
    VhostEscaped (encodeVhost vhost).toList ∧
    Address.percentText (encodeVhost vhost).toList = .ok vhost ∧
    (∀ segment : String, VhostEscaped segment.toList → Address.percentText segment.toList = .ok vhost →
      segment = encodeVhost vhost) ∧
    (∀ other, encodeVhost other = encodeVhost vhost ↔ other = vhost) ∧
    ∀ user password host port other,
      composeAddress user password host port other = composeAddress user password host port vhost ↔ other = vhost := by
  have hform : VhostEscaped (encodeVhost vhost).toList :=
    toList_encodeVhost vhost ▸ vhostEscaped_escapedVhost vhost.toList
  exact ⟨encodeVhost_eq_replace vhost, hform, percentText_encodeVhost vhost, fun _ => eq_encodeVhost,
    fun _ => encodeVhost_inj, fun _ _ _ _ _ => composeAddress_inj⟩

/-- An escape that a virtual host brings along is escaped itself, and so told from the slash that it looks like. -/
theorem slash_told_from_its_escape :
    encodeVhost "a/b%2f%25" = "a%2fb%252f%2525" ∧
    Address.percentText "a%2fb%252f%2525".toList = .ok "a/b%2f%25" ∧
    encodeVhost "a%2fb%2f%25" ≠ "a%2fb%252f%2525" := by
  have hescaped : encodeVhost "a/b%2f%25" = "a%2fb%252f%2525" := by decide
  obtain ⟨-, -, htext, -, hother, -⟩ := encodeVhost_reversible "a/b%2f%25"
  rw [hescaped] at htext hother
  exact ⟨hescaped, htext, fun halike => absurd ((hother "a%2fb%2f%25").1 halike) (by decide)⟩

end MessageBus.Settings
