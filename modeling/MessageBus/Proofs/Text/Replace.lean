/-!
# Replacing a character

A text in which a character is replaced is searched from its start: what the search passes over is kept, and what it
finds makes way for the new text. So the new text comes in the place of every occurrence of the character
(`toList_replace`).
-/

namespace MessageBus.Text

open String.Slice.Pattern
open String.Slice.Pattern.Model (IsValidSearchFrom)

/-- The characters with others in the place of one of them. -/
def replaced (c : Char) (new cs : List Char) : List Char :=
  cs.flatMap fun x => if x = c then new else [x]

variable {c : Char} {new : List Char}

theorem replaced_append (cs ds : List Char) : replaced c new (cs ++ ds) = replaced c new cs ++ replaced c new ds :=
  List.flatMap_append

theorem replaced_cons (x : Char) (cs : List Char) :
    replaced c new (x :: cs) = (if x = c then new else [x]) ++ replaced c new cs :=
  List.flatMap_cons

theorem replaced_of_not_mem {cs : List Char} (h : c ∉ cs) : replaced c new cs = cs := by
  induction cs with
  | nil => rfl
  | cons x cs ih =>
    rw [List.mem_cons, not_or] at h
    rw [replaced_cons, if_neg (Ne.symm h.1), ih h.2, List.singleton_append]

/-! ## The search for the character -/

variable {s : String.Slice} {p q : s.Pos}

theorem copy_sliceFrom_of_le (h : p ≤ q) :
    (s.sliceFrom p).copy = (s.slice p q h).copy ++ (s.sliceFrom q).copy := by
  have hcut : (s.sliceTo p).copy ++ (s.sliceFrom p).copy =
      (s.sliceTo p).copy ++ ((s.slice p q h).copy ++ (s.sliceFrom q).copy) := by
    rw [← String.Slice.copy_eq_copy_sliceTo, ← String.append_assoc, ← String.Slice.copy_eq_copy_slice]
  exact (String.append_right_inj _).1 hcut

/-- What the search passes over is free of the character. -/
theorem not_mem_slice (h : p ≤ q) (hno : ∀ pos, p ≤ pos → pos < q → ¬Model.MatchesAt c pos) :
    c ∉ (s.slice p q h).copy.toList := by
  intro hmem
  obtain ⟨pos, hend, hget⟩ := String.Slice.mem_toList_copy_iff_exists_get.1 hmem
  have hlt : String.Slice.Pos.ofSlice pos < q :=
    calc String.Slice.Pos.ofSlice pos
      _ < String.Slice.Pos.ofSlice (s.slice p q h).endPos :=
        String.Slice.Pos.ofSlice_lt_ofSlice_iff.2 ((String.Slice.Pos.lt_endPos_iff _).2 hend)
      _ = q := String.Slice.Pos.ofSlice_endPos
  rw [String.Slice.Pos.get_eq_get_ofSlice] at hget
  exact hno _ String.Slice.Pos.le_ofSlice hlt (Model.Char.matchesAt_iff.2 ⟨_, hget⟩)

/-- From any place on, what the search adds to the text so far is the rest of the text with the character replaced. -/
theorem toList_foldl_search {t : String} {add : String → SearchStep s → String}
    (hmatched : ∀ sofar p q, add sofar (.matched p q) = sofar ++ t)
    (hrejected : ∀ sofar p q, add sofar (.rejected p q) = sofar ++ (s.slice! p q).copy)
    {steps : List (SearchStep s)} (h : IsValidSearchFrom c p steps) (sofar : String) :
    (steps.foldl add sofar).toList = sofar.toList ++ replaced c t.toList (s.sliceFrom p).copy.toList := by
  -- the search ends, stands at the character, or passes over a stretch that is free of it
  induction h generalizing sofar with
  | endPos => simp [replaced]
  | @matched steps p q hmatch _ ih =>
    obtain ⟨hend, rfl, hget⟩ := Model.Char.isLongestMatchAt_iff.1 hmatch
    have hle : p ≤ p.next hend := Std.le_of_lt String.Slice.Pos.lt_next
    rw [List.foldl_cons, ih, hmatched, copy_sliceFrom_of_le hle, String.Slice.copy_slice_next, hget]
    simp [replaced_cons]
  | @mismatched steps p q hlt hno _ ih =>
    have hle : p ≤ q := Std.le_of_lt hlt
    have hkept : replaced c t.toList (s.slice p q hle).copy.toList = (s.slice p q hle).copy.toList :=
      replaced_of_not_mem (not_mem_slice hle hno)
    rw [List.foldl_cons, ih, hrejected, copy_sliceFrom_of_le hle]
    simp [replaced_append, hkept, String.Slice.slice!, hle]

/-- The replacement is made wherever the character stands. -/
theorem toList_replace (s : String) (c : Char) (t : String) : (s.replace c t).toList = replaced c t.toList s.toList := by
  have hvalid : IsValidSearchFrom c s.toSlice.startPos (ToForwardSearcher.toSearcher c s.toSlice).toList :=
    Model.LawfulToForwardSearcherModel.isValidSearchFrom_toList s.toSlice
  rw [String.replace, String.Slice.replace, ← Std.Iter.foldl_toList,
    toList_foldl_search (t := t) (fun sofar _ _ => ?_) (fun sofar _ _ => String.appendSlice_eq) hvalid]
  · simp
  · exact String.appendSlice_eq.trans (congrArg (sofar ++ ·) String.copy_toSlice)

end MessageBus.Text
