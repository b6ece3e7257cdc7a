import Mathlib.Data.List.Nodup
import Mathlib.Algebra.Group.Nat.Basic

/-! A `HashMap<String, _>` of the core as an association list with distinct keys.
The list order stands for the map's iteration order, which the code never fixes;
every loop of the core over a map is modelled in this order. -/

namespace OrcTorrent

theorem lookup_isSome_iff {α : Type} (l : List (String × α)) (k : String) :
    (l.lookup k).isSome ↔ k ∈ l.map Prod.fst := by
  induction l with
  | nil => simp
  | cons e l ih =>
    obtain ⟨k', v⟩ := e
    by_cases h : k = k'
    · simp [List.lookup_cons, h]
    · have : (k == k') = false := by simpa using h
      simp only [List.lookup_cons, this, ih, List.map_cons, List.mem_cons, h, false_or]

/-- A map from strings, carrying the distinctness of its keys. -/
structure StrMap (α : Type) where
  entries : List (String × α)
  nodup : (entries.map Prod.fst).Nodup

namespace StrMap

variable {α β : Type}

def empty : StrMap α := ⟨[], List.nodup_nil⟩

def keys (m : StrMap α) : List String := m.entries.map Prod.fst

def size (m : StrMap α) : Nat := m.entries.length

def get? (m : StrMap α) (k : String) : Option α := m.entries.lookup k

def contains (m : StrMap α) (k : String) : Bool := (m.get? k).isSome

theorem contains_iff (m : StrMap α) (k : String) : m.contains k ↔ k ∈ m.keys :=
  lookup_isSome_iff m.entries k

/-- Rewrite every value, knowing its key (`values_mut`, `iter_mut`). -/
def mapEntries (m : StrMap α) (f : String → α → β) : StrMap β :=
  ⟨m.entries.map (fun e => (e.1, f e.1 e.2)), by rw [List.map_map]; exact m.nodup⟩

/-- Rewrite the value under one key, if present (`get_mut`). -/
def modify (m : StrMap α) (k : String) (f : α → α) : StrMap α :=
  m.mapEntries (fun k' v => if k' = k then f v else v)

/-- Keep the entries a predicate accepts (`retain`). -/
def retain (m : StrMap α) (p : String → α → Bool) : StrMap α :=
  ⟨m.entries.filter (fun e => p e.1 e.2), m.nodup.sublist ((List.filter_sublist _).map _)⟩

def erase (m : StrMap α) (k : String) : StrMap α := m.retain (fun k' _ => k' ≠ k)

/-- `insert`: overwrite in place, or add a new key at the end. -/
def insert (m : StrMap α) (k : String) (v : α) : StrMap α :=
  if h : m.contains k then m.modify k (fun _ => v)
  else ⟨m.entries ++ [(k, v)], by
    rw [List.map_append]
    exact List.nodup_append.mpr ⟨m.nodup, List.nodup_singleton _,
      fun x hx hk => h ((contains_iff m k).mpr (by rw [List.mem_singleton.mp hk] at hx; exact hx))⟩⟩

/-! ## Lookups -/

theorem lookup_map (l : List (String × α)) (f : String → α → β) (k : String) :
    (l.map (fun e => (e.1, f e.1 e.2))).lookup k = (l.lookup k).map (f k) := by
  induction l with
  | nil => rfl
  | cons e l ih =>
    obtain ⟨k', v⟩ := e
    by_cases h : k = k'
    · subst h; simp [List.lookup_cons]
    · have : (k == k') = false := by simpa using h
      simp only [List.map_cons, List.lookup_cons, this, ih]

@[simp] theorem get?_mapEntries (m : StrMap α) (f : String → α → β) (k : String) :
    (m.mapEntries f).get? k = (m.get? k).map (f k) :=
  lookup_map m.entries f k

@[simp] theorem keys_mapEntries (m : StrMap α) (f : String → α → β) :
    (m.mapEntries f).keys = m.keys := by
  simp [keys, mapEntries, Function.comp_def]

@[simp] theorem size_mapEntries (m : StrMap α) (f : String → α → β) :
    (m.mapEntries f).size = m.size := by
  simp [size, mapEntries]

theorem mapEntries_mapEntries {γ : Type} (m : StrMap α) (f : String → α → β) (g : String → β → γ) :
    (m.mapEntries f).mapEntries g = m.mapEntries fun k v => g k (f k v) := by
  simp only [mapEntries, List.map_map]; rfl

theorem get?_modify (m : StrMap α) (k k' : String) (f : α → α) :
    (m.modify k f).get? k' = if k' = k then (m.get? k').map f else m.get? k' := by
  by_cases h : k' = k <;> simp [modify, h]

theorem get?_insert (m : StrMap α) (k k' : String) (v : α) :
    (m.insert k v).get? k' = if k' = k then some v else m.get? k' := by
  unfold insert
  split
  · next h =>
    rw [get?_modify]
    split
    · next hk => subst hk; obtain ⟨w, hw⟩ := Option.isSome_iff_exists.mp h; simp [hw]
    · rfl
  · next h =>
    simp only [get?, List.lookup_append]
    split
    · next hk =>
      subst hk
      have h0 : m.entries.lookup k' = none := Option.not_isSome_iff_eq_none.mp h
      simp [h0]
    · next hk =>
      have : (k' == k) = false := by simpa using hk
      cases m.entries.lookup k' <;> simp [List.lookup_cons, this]

theorem contains_insert (m : StrMap α) (k k' : String) (v : α) :
    (m.insert k v).contains k' = (k' = k || m.contains k') := by
  by_cases hk : k' = k <;> simp [contains, get?_insert, hk]

theorem size_insert (m : StrMap α) (k : String) (v : α) :
    (m.insert k v).size = if m.contains k then m.size else m.size + 1 := by
  unfold insert
  split <;> simp_all [size, modify, mapEntries]

theorem keys_insert_of_contains {m : StrMap α} {k : String} (h : m.contains k) (v : α) :
    (m.insert k v).keys = m.keys := by
  simp [insert, h, modify]

theorem mem_of_get? {m : StrMap α} {k : String} {v : α} (h : m.get? k = some v) :
    (k, v) ∈ m.entries := by
  obtain ⟨l, _⟩ := m
  simp only [get?] at h
  induction l with
  | nil => simp at h
  | cons e l ih =>
    obtain ⟨k', v'⟩ := e
    by_cases hk : k = k'
    · subst hk; simp [List.lookup_cons] at h; simp [h]
    · have : (k == k') = false := by simpa using hk
      simp only [List.lookup_cons, this] at h
      exact List.mem_cons_of_mem _ (ih (List.nodup_cons.mp ‹_›).2 h)

theorem get?_of_mem {m : StrMap α} {k : String} {v : α} (h : (k, v) ∈ m.entries) :
    m.get? k = some v := by
  obtain ⟨w, hw⟩ := Option.isSome_iff_exists.mp
    ((lookup_isSome_iff m.entries k).mpr (List.mem_map_of_mem Prod.fst h))
  have hkw := List.inj_on_of_nodup_map m.nodup (mem_of_get? hw) h rfl
  exact (Prod.mk.inj hkw).2 ▸ hw

theorem ext_entries {m m' : StrMap α} (h : m.entries = m'.entries) : m = m' := by
  cases m; cases m'; cases h; rfl

theorem entries_insert (m : StrMap α) (k : String) (v : α) :
    (m.insert k v).entries = if m.contains k then m.entries.map (fun e => (e.1, if e.1 = k then v else e.2))
      else m.entries ++ [(k, v)] := by
  unfold insert; split <;> simp_all [modify, mapEntries]

/-- A second write under a key replaces the first, in place. -/
theorem insert_insert (m : StrMap α) (k : String) (v w : α) :
    (m.insert k v).insert k w = m.insert k w := by
  refine ext_entries ?_
  have hc : (m.insert k v).contains k = true := by simp [contains_insert]
  rw [entries_insert (m.insert k v), if_pos hc, entries_insert m k v, entries_insert m k w]
  by_cases h : m.contains k
  · simp only [h, ↓reduceIte, List.map_map]
    refine List.map_congr_left fun e _ => ?_
    by_cases hk : e.1 = k <;> simp [hk]
  · have hk : ∀ e ∈ m.entries, e.1 ≠ k := fun e he hk =>
      h ((contains_iff _ k).mpr (hk ▸ List.mem_map_of_mem Prod.fst he))
    simp only [h, Bool.false_eq_true, ↓reduceIte, List.map_append, List.map_cons, List.map_nil]
    congr 1
    conv_rhs => rw [← List.map_id m.entries]
    exact List.map_congr_left fun e he => by simp [hk e he]

/-! ## Erasing a key -/

theorem size_retain_le (m : StrMap α) (p : String → α → Bool) : (m.retain p).size ≤ m.size :=
  List.length_filter_le _ _

theorem erase_entries_of_get?_none {m : StrMap α} {k : String} (h : m.get? k = none) :
    (m.erase k).entries = m.entries := by
  refine List.filter_eq_self.mpr fun e he => ?_
  have : e.1 ≠ k := fun hk => by
    have := (contains_iff m k).mpr (hk ▸ List.mem_map_of_mem Prod.fst he)
    simp [contains, h] at this
  simpa using this

/-- The entry under `k` splits off: the rest is `m.erase k`. -/
theorem entries_split_of_get? {m : StrMap α} {k : String} {v : α} (h : m.get? k = some v) :
    ∃ l₁ l₂, m.entries = l₁ ++ (k, v) :: l₂ ∧ (m.erase k).entries = l₁ ++ l₂ := by
  obtain ⟨l₁, l₂, hl, h₁⟩ := List.lookup_eq_some_iff.mp h
  have hnd := m.nodup
  rw [hl, List.map_append, List.map_cons, List.nodup_append] at hnd
  have h₂ : k ∉ l₂.map Prod.fst := (List.nodup_cons.mp hnd.2.1).1
  refine ⟨l₁, l₂, hl, ?_⟩
  simp only [erase, retain, hl, List.filter_append, List.filter_cons, ne_eq, not_true_eq_false,
    decide_False, Bool.false_eq_true, if_false]
  congr 1 <;> refine List.filter_eq_self.mpr fun e he => ?_
  · have := h₁ e he; simp only [bne_iff_ne, ne_eq] at this; simpa using Ne.symm this
  · have : e.1 ≠ k := fun hk => h₂ (hk ▸ List.mem_map_of_mem Prod.fst he)
    simpa using this

theorem countP_of_get? {m : StrMap α} {k : String} {v : α} (h : m.get? k = some v)
    (q : String × α → Bool) :
    m.entries.countP q = (m.erase k).entries.countP q + if q (k, v) then 1 else 0 := by
  obtain ⟨l₁, l₂, h₁, h₂⟩ := entries_split_of_get? h
  rw [h₁, h₂, List.countP_append, List.countP_append, List.countP_cons]; omega

theorem erase_modify_entries (m : StrMap α) (k : String) (f : α → α) :
    ((m.modify k f).erase k).entries = (m.erase k).entries := by
  simp only [erase, retain, modify, mapEntries]
  induction m.entries with
  | nil => rfl
  | cons e l ih => by_cases h : e.1 = k <;> simp_all

theorem erase_insert_entries (m : StrMap α) (k : String) (v : α) :
    ((m.insert k v).erase k).entries = (m.erase k).entries := by
  unfold insert
  split
  · exact erase_modify_entries m k _
  · simp [erase, retain, List.filter_append]

theorem size_insert_eq_size_erase (m : StrMap α) (k : String) (v : α) :
    (m.insert k v).size = (m.erase k).size + 1 := by
  have := countP_of_get? ((get?_insert m k k v).trans (if_pos rfl)) fun _ => true
  simp only [List.countP_true, erase_insert_entries, if_true] at this
  exact this

theorem lookup_filter_ne (l : List (String × α)) (k k' : String) :
    (l.filter fun e => e.1 ≠ k).lookup k' = if k' = k then none else l.lookup k' := by
  induction l with
  | nil => split <;> rfl
  | cons e l ih =>
    obtain ⟨a, v⟩ := e
    by_cases ha : a = k
    · subst ha
      rw [List.filter_cons_of_neg (by simp), ih]
      by_cases hk : k' = a
      · rw [if_pos hk, if_pos hk]
      · have : (k' == a) = false := by simpa using hk
        rw [if_neg hk, if_neg hk, List.lookup_cons, this]
    · rw [List.filter_cons_of_pos (by simpa using ha), List.lookup_cons, List.lookup_cons, ih]
      by_cases hk : k' = k
      · have : (k' == a) = false := by simpa [hk] using Ne.symm ha
        rw [if_pos hk, if_pos hk, this]
      · rw [if_neg hk, if_neg hk]

theorem get?_erase (m : StrMap α) (k k' : String) :
    (m.erase k).get? k' = if k' = k then none else m.get? k' := by
  simpa [erase, retain, get?] using lookup_filter_ne m.entries k k'

/-! ## Writes under two keys -/

theorem insert_eq_modify {m : StrMap α} {k : String} (h : m.contains k) (v : α) :
    m.insert k v = m.modify k fun _ => v :=
  dif_pos h

theorem modify_comm (m : StrMap α) {k₁ k₂ : String} (hne : k₁ ≠ k₂) (f g : α → α) :
    (m.modify k₁ f).modify k₂ g = (m.modify k₂ g).modify k₁ f := by
  refine ext_entries ?_
  simp only [modify, mapEntries, List.map_map]
  refine List.map_congr_left fun e _ => ?_
  by_cases h₁ : e.1 = k₁
  · simp [h₁, hne]
  · simp [h₁]

theorem modify_modify (m : StrMap α) (k : String) (f g : α → α) :
    (m.modify k f).modify k g = m.modify k fun v => g (f v) := by
  refine ext_entries ?_
  simp only [modify, mapEntries, List.map_map]
  refine List.map_congr_left fun e _ => ?_
  by_cases h : e.1 = k <;> simp [h]

theorem erase_modify_comm (m : StrMap α) (k₁ k₂ : String) (f : α → α) :
    (m.modify k₁ f).erase k₂ = (m.erase k₂).modify k₁ f := by
  refine ext_entries ?_
  simp only [erase, retain, modify, mapEntries, List.filter_map]
  rfl

theorem erase_erase_comm (m : StrMap α) (k₁ k₂ : String) :
    (m.erase k₁).erase k₂ = (m.erase k₂).erase k₁ := by
  refine ext_entries ?_
  simp only [erase, retain, List.filter_filter]
  exact List.filter_congr fun _ _ => Bool.and_comm _ _

/-! ## Properties of every value -/

/-- `P` holds of every value of the map. -/
def Forall (P : α → Prop) (m : StrMap α) : Prop := ∀ e ∈ m.entries, P e.2

theorem forall_empty (P : α → Prop) : (empty : StrMap α).Forall P := by
  simp [Forall, empty]

theorem Forall.get? {P : α → Prop} {m : StrMap α} (h : m.Forall P) {k : String} {v : α}
    (hk : m.get? k = some v) : P v :=
  h _ (mem_of_get? hk)

theorem Forall.mapEntries {P : α → Prop} {Q : β → Prop} {m : StrMap α}
    {f : String → α → β} (h : m.Forall P) (hf : ∀ k v, P v → Q (f k v)) :
    (m.mapEntries f).Forall Q := by
  intro e he
  obtain ⟨e', he', rfl⟩ := List.mem_map.mp he
  exact hf _ _ (h e' he')

theorem Forall.modify {P : α → Prop} {m : StrMap α} {k : String} {f : α → α}
    (h : m.Forall P) (hf : ∀ v, P v → P (f v)) : (m.modify k f).Forall P :=
  h.mapEntries fun k' v hv => by by_cases hk : k' = k <;> simp [hk, hv, hf]

theorem Forall.retain {P : α → Prop} {m : StrMap α} (h : m.Forall P)
    (p : String → α → Bool) : (m.retain p).Forall P :=
  fun e he => h e (List.mem_of_mem_filter he)

theorem Forall.insert {P : α → Prop} {m : StrMap α} (h : m.Forall P) (k : String) {v : α}
    (hv : P v) : (m.insert k v).Forall P := by
  unfold StrMap.insert
  split
  · exact h.modify fun _ _ => hv
  · intro e he
    rcases List.mem_append.mp he with he | he
    · exact h e he
    · rw [List.mem_singleton.mp he]; exact hv

/-! ## Properties of every entry -/

/-- `P` holds of every key with its value. -/
def ForallKV (P : String → α → Prop) (m : StrMap α) : Prop := ∀ e ∈ m.entries, P e.1 e.2

theorem ForallKV.get? {P : String → α → Prop} {m : StrMap α} (h : m.ForallKV P) {k : String}
    {v : α} (hk : m.get? k = some v) : P k v :=
  h _ (mem_of_get? hk)

theorem ForallKV.mapEntries {P : String → α → Prop} {Q : String → β → Prop} {m : StrMap α}
    {f : String → α → β} (h : m.ForallKV P) (hf : ∀ k v, P k v → Q k (f k v)) :
    (m.mapEntries f).ForallKV Q := by
  intro e he
  obtain ⟨e', he', rfl⟩ := List.mem_map.mp he
  exact hf _ _ (h e' he')

theorem ForallKV.retain {P : String → α → Prop} {m : StrMap α} (h : m.ForallKV P)
    (p : String → α → Bool) : (m.retain p).ForallKV P :=
  fun e he => h e (List.mem_of_mem_filter he)

theorem ForallKV.insert {P : String → α → Prop} {m : StrMap α} (h : m.ForallKV P) {k : String}
    {v : α} (hv : P k v) : (m.insert k v).ForallKV P := by
  unfold StrMap.insert
  split
  · refine h.mapEntries fun k' v' hv' => ?_
    by_cases hk : k' = k
    · subst hk; simpa using hv
    · simpa [hk] using hv'
  · intro e he
    rcases List.mem_append.mp he with he | he
    · exact h e he
    · rw [List.mem_singleton.mp he]; exact hv

end StrMap

end OrcTorrent
