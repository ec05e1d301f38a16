/-!
# Maps with text keys, in key order

A map holds its entries strictly sorted by key, so that equal maps are equal values: `ext_get?` says that a map is
determined by what it answers. The view of a map is `get?`, and every operation is pinned down by what it does to it.
-/

namespace MessageBus

/-- A map from texts to values, its entries in the order of the keys (by code point). -/
structure SortedMap (α : Type) where
  entries : List (String × α)
  sorted : entries.Pairwise fun a b => a.1 < b.1

namespace SortedMap

variable {α β : Type}

instance [DecidableEq α] : DecidableEq (SortedMap α) := fun a b =>
  decidable_of_iff (a.entries = b.entries) (by cases a; cases b; simp)

/-- The map without entries. -/
def empty : SortedMap α := ⟨[], .nil⟩

instance : EmptyCollection (SortedMap α) := ⟨empty⟩

instance : Inhabited (SortedMap α) := ⟨empty⟩

/-- The value of the first entry with the key. -/
def lookup (k : String) : List (String × α) → Option α
  | [] => none
  | (k', v) :: rest => if k' = k then some v else lookup k rest

/-- The value under the key. -/
def get? (m : SortedMap α) (k : String) : Option α := lookup k m.entries

/-- Whether there is a value under the key. -/
def contains (m : SortedMap α) (k : String) : Bool := (m.get? k).isSome

/-- The keys, sorted. -/
def keys (m : SortedMap α) : List String := m.entries.map (·.1)

/-- Puts an entry at its place, in the stead of one with the same key. -/
def place (k : String) (v : α) : List (String × α) → List (String × α)
  | [] => [(k, v)]
  | (k', v') :: rest =>
    if k < k' then (k, v) :: (k', v') :: rest
    else if k' = k then (k, v) :: rest
    else (k', v') :: place k v rest

theorem mem_place {k : String} {v : α} {l : List (String × α)} {e : String × α} (h : e ∈ place k v l) :
    e = (k, v) ∨ e ∈ l := by
  induction l with
  | nil => simpa [place] using h
  | cons a rest ih =>
    obtain ⟨k', v'⟩ := a
    unfold place at h
    split at h
    · simpa using h
    · split at h
      · rcases List.mem_cons.1 h with h | h
        · exact .inl h
        · exact .inr (List.mem_cons_of_mem _ h)
      · rcases List.mem_cons.1 h with h | h
        · exact .inr (h ▸ List.mem_cons_self)
        · exact (ih h).imp_right (List.mem_cons_of_mem _)

theorem sorted_place (k : String) (v : α) {l : List (String × α)} (h : l.Pairwise fun a b => a.1 < b.1) :
    (place k v l).Pairwise fun a b => a.1 < b.1 := by
  induction l with
  | nil => simp [place]
  | cons a rest ih =>
    obtain ⟨k', v'⟩ := a
    obtain ⟨h1, h2⟩ := List.pairwise_cons.1 h
    unfold place
    split
    · rename_i hlt
      refine List.pairwise_cons.2 ⟨fun b hb => ?_, h⟩
      rcases List.mem_cons.1 hb with rfl | hb
      · exact hlt
      · exact String.lt_trans hlt (h1 b hb)
    · split
      · rename_i _ heq
        subst heq
        exact List.pairwise_cons.2 ⟨h1, h2⟩
      · rename_i hlt hne
        refine List.pairwise_cons.2 ⟨fun b hb => ?_, ih h2⟩
        rcases mem_place hb with rfl | hb
        · exact Decidable.byContradiction fun hc =>
            hne (String.le_antisymm (String.not_lt.1 hlt) (String.not_lt.1 hc))
        · exact h1 b hb

/-- Sets the value under a key. -/
def insert (m : SortedMap α) (k : String) (v : α) : SortedMap α :=
  ⟨place k v m.entries, sorted_place k v m.sorted⟩

/-- Leaves out the entry with a key. -/
def erase (m : SortedMap α) (k : String) : SortedMap α :=
  ⟨m.entries.filter fun e => e.1 ≠ k, m.sorted.filter _⟩

/-- Keeps the entries that have a value under `f`, with that value. -/
def filterMap (f : String → α → Option β) (m : SortedMap α) : SortedMap β :=
  ⟨m.entries.filterMap fun e => (f e.1 e.2).map (e.1, ·), by
    refine m.sorted.filterMap _ fun a b hab c hc d hd => ?_
    obtain ⟨x, _, rfl⟩ := Option.map_eq_some_iff.1 hc
    obtain ⟨y, _, rfl⟩ := Option.map_eq_some_iff.1 hd
    exact hab⟩

/-- The entries set one after another: of two with the same key the later one holds. -/
def insertAll (m : SortedMap α) (l : List (String × α)) : SortedMap α :=
  l.foldl (fun m e => m.insert e.1 e.2) m

/-- The map of a list of entries, in which the later of two with the same key holds. -/
def ofList (l : List (String × α)) : SortedMap α := insertAll empty l

/-! ## What a map answers -/

theorem lookup_place (k : String) (v : α) (l : List (String × α)) (k' : String) :
    lookup k' (place k v l) = if k = k' then some v else lookup k' l := by
  induction l with
  | nil => simp [place, lookup]
  | cons a rest ih =>
    obtain ⟨x, y⟩ := a
    unfold place
    split
    · simp [lookup]
    · split
      · rename_i _ heq
        subst heq
        by_cases h : x = k' <;> simp [lookup, h]
      · rename_i _ hne
        by_cases h : x = k'
        · subst h; simp [lookup, Ne.symm hne]
        · simp [lookup, h, ih]

@[simp] theorem get?_empty (k : String) : (empty : SortedMap α).get? k = none := rfl

@[simp] theorem get?_insert (m : SortedMap α) (k : String) (v : α) (k' : String) :
    (m.insert k v).get? k' = if k = k' then some v else m.get? k' :=
  lookup_place k v m.entries k'

theorem lookup_filter (k : String) (l : List (String × α)) (k' : String) :
    lookup k' (l.filter fun e => e.1 ≠ k) = if k = k' then none else lookup k' l := by
  induction l with
  | nil => simp [lookup]
  | cons a rest ih =>
    obtain ⟨x, y⟩ := a
    by_cases h : x = k
    · subst h
      by_cases hk : x = k' <;> simp_all [lookup]
    · by_cases hx : x = k'
      · subst hx; simp [lookup, h, Ne.symm h]
      · simp_all [lookup]

@[simp] theorem get?_erase (m : SortedMap α) (k k' : String) :
    (m.erase k).get? k' = if k = k' then none else m.get? k' :=
  lookup_filter k m.entries k'

theorem lookup_eq_none_of_lt {k : String} {l : List (String × α)} (h : ∀ e ∈ l, k < e.1) : lookup k l = none := by
  induction l with
  | nil => rfl
  | cons a rest ih =>
    have hne : a.1 ≠ k := fun he => String.lt_irrefl k (he ▸ h a List.mem_cons_self)
    simp [lookup, hne, ih fun e he => h e (List.mem_cons_of_mem _ he)]

theorem lookup_eq_some_iff {k : String} {v : α} {l : List (String × α)} (h : l.Pairwise fun a b => a.1 < b.1) :
    lookup k l = some v ↔ (k, v) ∈ l := by
  induction l with
  | nil => simp [lookup]
  | cons a rest ih =>
    obtain ⟨k', v'⟩ := a
    obtain ⟨h1, h2⟩ := List.pairwise_cons.1 h
    by_cases hk : k' = k
    · subst hk
      have hn : (k', v) ∉ rest := fun hm => String.lt_irrefl k' (h1 _ hm)
      simp only [lookup, if_true, Option.some.injEq, List.mem_cons, Prod.mk.injEq, true_and, hn, or_false]
      exact eq_comm
    · have hn : k ≠ k' := fun he => hk he.symm
      simp [lookup, hk, hn, ih h2]

theorem get?_eq_some_iff {m : SortedMap α} {k : String} {v : α} : m.get? k = some v ↔ (k, v) ∈ m.entries :=
  lookup_eq_some_iff m.sorted

theorem entries_ext {l l' : List (String × α)} (h : l.Pairwise fun a b => a.1 < b.1)
    (h' : l'.Pairwise fun a b => a.1 < b.1) (he : ∀ k, lookup k l = lookup k l') : l = l' := by
  induction l generalizing l' with
  | nil =>
    cases l' with
    | nil => rfl
    | cons a rest => simpa [lookup] using he a.1
  | cons a rest ih =>
    cases l' with
    | nil => simpa [lookup] using he a.1
    | cons b rest' =>
      obtain ⟨h1, h2⟩ := List.pairwise_cons.1 h
      obtain ⟨h1', h2'⟩ := List.pairwise_cons.1 h'
      have hab : a = b := by
        have ha : (a.1, a.2) ∈ b :: rest' := (lookup_eq_some_iff h').1 ((he a.1).symm.trans (by simp [lookup]))
        have hb : (b.1, b.2) ∈ a :: rest := (lookup_eq_some_iff h).1 ((he b.1).trans (by simp [lookup]))
        rcases List.mem_cons.1 ha with ha | ha
        · exact ha
        · rcases List.mem_cons.1 hb with hb | hb
          · exact hb.symm
          · exact absurd (String.lt_trans (h1 _ hb) (h1' _ ha)) (String.lt_irrefl _)
      subst hab
      congr 1
      refine ih h2 h2' fun k => ?_
      by_cases hk : a.1 = k
      · subst hk
        rw [lookup_eq_none_of_lt h1, lookup_eq_none_of_lt h1']
      · simpa [lookup, hk] using he k

/-- Maps that answer alike are equal. -/
theorem ext_get? {m m' : SortedMap α} (h : ∀ k, m.get? k = m'.get? k) : m = m' := by
  cases m with
  | mk l hl =>
    cases m' with
    | mk l' hl' =>
      have : l = l' := entries_ext hl hl' h
      subst this
      rfl

theorem get?_filterMap (f : String → α → Option β) (m : SortedMap α) (k : String) :
    (m.filterMap f).get? k = (m.get? k).bind (f k) := by
  apply Option.ext
  intro v
  rw [get?_eq_some_iff, Option.bind_eq_some_iff]
  simp only [filterMap, List.mem_filterMap, Option.map_eq_some_iff, Prod.mk.injEq, Prod.exists, get?_eq_some_iff]
  constructor
  · rintro ⟨k', w, hm, x, hx, rfl, rfl⟩
    exact ⟨w, hm, hx⟩
  · rintro ⟨w, hm, hv⟩
    exact ⟨k, w, hm, v, hv, rfl, rfl⟩

/-- The keys are strictly sorted, hence distinct. -/
theorem sorted_keys (m : SortedMap α) : m.keys.Pairwise (· < ·) :=
  List.pairwise_map.2 m.sorted

theorem mem_keys_iff {m : SortedMap α} {k : String} : k ∈ m.keys ↔ (m.get? k).isSome := by
  rw [Option.isSome_iff_exists]
  simp only [keys, List.mem_map, Prod.exists, get?_eq_some_iff]
  constructor
  · rintro ⟨_, v, hm, rfl⟩
    exact ⟨v, hm⟩
  · rintro ⟨v, hm⟩
    exact ⟨k, v, hm, rfl⟩

theorem nodup_keys (m : SortedMap α) : m.keys.Nodup :=
  m.sorted_keys.imp fun hlt => fun heq => String.lt_irrefl _ (heq ▸ hlt)

theorem mem_keys_insert {m : SortedMap α} {k k' : String} {v : α} : k' ∈ (m.insert k v).keys ↔ k' = k ∨ k' ∈ m.keys := by
  rw [mem_keys_iff, mem_keys_iff, get?_insert]
  by_cases h : k' = k
  · simp [h]
  · simp [h, Ne.symm h]

theorem mem_keys_insertAll {m : SortedMap α} {l : List (String × α)} {k : String} :
    k ∈ (m.insertAll l).keys ↔ k ∈ m.keys ∨ k ∈ l.map (·.1) := by
  induction l generalizing m with
  | nil => simp [insertAll]
  | cons e l ih =>
    rw [insertAll, List.foldl_cons, ← insertAll, ih, mem_keys_insert, List.map_cons, List.mem_cons, or_assoc]
    exact or_left_comm

/-- The entry that was set last holds. -/
theorem get?_insertAll (m : SortedMap α) (l : List (String × α)) (k : String) :
    (m.insertAll l).get? k = ((l.filter fun e => e.1 = k).getLast?.map (·.2)).or (m.get? k) := by
  induction l generalizing m with
  | nil => rfl
  | cons e l ih =>
    rw [insertAll, List.foldl_cons, ← insertAll, ih, get?_insert]
    by_cases h : e.1 = k
    · rw [List.filter_cons_of_pos (by simpa using h), List.getLast?_cons]
      cases (l.filter fun e => e.1 = k).getLast? <;> simp [h]
    · rw [List.filter_cons_of_neg (by simpa using h), if_neg h]

/-- The keys of the map of a list are those of the list. -/
theorem mem_keys_ofList {l : List (String × α)} {k : String} : k ∈ (ofList l).keys ↔ k ∈ l.map (·.1) := by
  rw [ofList, mem_keys_insertAll]
  exact or_iff_right List.not_mem_nil

end SortedMap

end MessageBus
