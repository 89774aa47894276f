import Mathlib.Data.List.Nodup
import Mathlib.Tactic.Common
import OnScreen.OrderedMap

/-!
# Maps in key order: what is stored

A key occurs once in a map, so the value found under a key is the one value stored under it. The
operations of a map are stated through `find?`, and through the list of entries where the order
matters.

Results:
* `find?_eq_some_iff`, `find?_eq_none_iff`: looking up is membership in the entries.
* `eq_of_mem_iff`, `keys_eq_of_mem_iff`: entries in key order with the same members are equal.
* `find?_insert`, `find?_adjust`, `find?_adjustAll`: what is found after a change.
* `entries_adjust_append`, `entries_erase_append`: a change in the middle of the entries.
-/

namespace OnScreen.OrderedMap

open KeyOrder

variable {κ α : Type} [KeyOrder κ]

theorem ext_entries {m m' : OrderedMap κ α} (h : m.entries = m'.entries) : m = m' := by
  cases m
  cases m'
  cases h
  rfl

/-- No key occurs twice. -/
theorem nodup_keys (m : OrderedMap κ α) : m.keys.Nodup :=
  m.sorted.imp fun h => ne_of_before h

theorem mem_keys_of_mem {m : OrderedMap κ α} {k : κ} {v : α} (h : (k, v) ∈ m.entries) :
    k ∈ m.keys :=
  List.mem_map.mpr ⟨(k, v), h, rfl⟩

omit [KeyOrder κ] in
/-- Two values stored under one key are the same value. -/
theorem value_unique {l : List (κ × α)} (hl : (l.map Prod.fst).Nodup) {k : κ} {v w : α}
    (hv : (k, v) ∈ l) (hw : (k, w) ∈ l) : v = w :=
  congrArg Prod.snd (List.inj_on_of_nodup_map hl hv hw rfl)

/-- Lists of entries in the order of their keys are equal if they have the same members. -/
theorem eq_of_mem_iff {l l' : List (κ × α)}
    (hl : (l.map Prod.fst).Pairwise fun a b => before a b = true)
    (hl' : (l'.map Prod.fst).Pairwise fun a b => before a b = true)
    (h : ∀ e, e ∈ l ↔ e ∈ l') : l = l' := by
  rw [List.pairwise_map] at hl hl'
  have hne {a b : κ × α} (hab : before a.1 b.1 = true) : a ≠ b :=
    fun heq => ne_of_before hab (congrArg Prod.fst heq)
  refine List.Perm.eq_of_pairwise ?_ hl hl'
    ((List.perm_ext_iff_of_nodup (hl.imp hne) (hl'.imp hne)).mpr h)
  intro a b _ _ hab hba
  rw [not_before_of_before hab] at hba
  cases hba

/-- Maps with the same keys have them in the same order. -/
theorem keys_eq_of_mem_iff {β : Type} {m : OrderedMap κ α} {m' : OrderedMap κ β}
    (h : ∀ k, k ∈ m.keys ↔ k ∈ m'.keys) : m.keys = m'.keys := by
  refine List.Perm.eq_of_pairwise ?_ m.sorted m'.sorted
    ((List.perm_ext_iff_of_nodup m.nodup_keys m'.nodup_keys).mpr h)
  intro a b _ _ hab hba
  rw [not_before_of_before hab] at hba
  cases hba

/-! ## Looking up -/

section Find

variable [DecidableEq κ]

theorem find?_eq_some_iff {m : OrderedMap κ α} {k : κ} {v : α} :
    m.find? k = some v ↔ (k, v) ∈ m.entries := by
  unfold find?
  constructor
  · intro h
    obtain ⟨e, he, rfl⟩ := Option.map_eq_some_iff.mp h
    have hk : e.1 = k := by simpa using List.find?_some he
    subst hk
    exact List.mem_of_find?_eq_some he
  · intro h
    cases hf : m.entries.find? (fun e => decide (e.1 = k)) with
    | none =>
      have := List.find?_eq_none.mp hf (k, v) h
      simp at this
    | some e =>
      have hk : e.1 = k := by simpa using List.find?_some hf
      subst hk
      rw [Option.map_some, value_unique m.nodup_keys (List.mem_of_find?_eq_some hf) h]

theorem find?_eq_none_iff {m : OrderedMap κ α} {k : κ} : m.find? k = none ↔ k ∉ m.keys := by
  constructor
  · intro h hk
    obtain ⟨e, he, rfl⟩ := List.mem_map.mp hk
    have : m.find? e.1 = some e.2 := find?_eq_some_iff.mpr he
    rw [h] at this
    cases this
  · intro h
    cases hf : m.find? k with
    | none => rfl
    | some v => exact absurd (mem_keys_of_mem (find?_eq_some_iff.mp hf)) h

theorem contains_iff {m : OrderedMap κ α} {k : κ} : m.contains k = true ↔ k ∈ m.keys := by
  rw [contains, Option.isSome_iff_ne_none, Ne, find?_eq_none_iff, not_not]

/-- A lookup has the one result whose membership it has. -/
theorem find?_congr {m m' : OrderedMap κ α} {k k' : κ}
    (h : ∀ v, (k, v) ∈ m.entries ↔ (k', v) ∈ m'.entries) : m.find? k = m'.find? k' := by
  apply Option.ext
  intro v
  rw [find?_eq_some_iff, find?_eq_some_iff]
  exact h v

/-! ## Inserting -/

omit [DecidableEq κ] in
theorem mem_insertEntry {k : κ} {v : α} {l : List (κ × α)} {e : κ × α}
    (hl : (l.map Prod.fst).Pairwise (fun a b => before a b = true)) :
    e ∈ insertEntry k v l ↔ e = (k, v) ∨ (e ∈ l ∧ e.1 ≠ k) := by
  induction l with
  | nil => simp [insertEntry]
  | cons e' l ih =>
    obtain ⟨k', v'⟩ := e'
    rw [List.map_cons, List.pairwise_cons] at hl
    have hrest : ∀ x ∈ l, before k' x.1 = true := fun x hx =>
      hl.1 x.1 (List.mem_map.mpr ⟨x, hx, rfl⟩)
    unfold insertEntry
    split
    · rename_i hk
      have hne : ∀ x ∈ (k', v') :: l, x.1 ≠ k := by
        intro x hx
        rcases List.mem_cons.mp hx with rfl | hx
        · exact (ne_of_before hk).symm
        · exact (ne_of_before (KeyOrder.trans hk (hrest x hx))).symm
      rw [List.mem_cons]
      constructor
      · rintro (h | h)
        · exact Or.inl h
        · exact Or.inr ⟨h, hne e h⟩
      · rintro (h | h)
        · exact Or.inl h
        · exact Or.inr h.1
    · split
      · rename_i hk
        rw [List.mem_cons, List.mem_cons, ih hl.2]
        constructor
        · rintro (rfl | h | h)
          · exact Or.inr ⟨Or.inl rfl, ne_of_before hk⟩
          · exact Or.inl h
          · exact Or.inr ⟨Or.inr h.1, h.2⟩
        · rintro (h | ⟨h | h, hne⟩)
          · exact Or.inr (Or.inl h)
          · exact Or.inl h
          · exact Or.inr (Or.inr ⟨h, hne⟩)
      · rename_i hk hk'
        have hkk : k = k' := eq_of_not_before (by simpa using hk) (by simpa using hk')
        subst hkk
        rw [List.mem_cons, List.mem_cons]
        constructor
        · rintro (h | h)
          · exact Or.inl h
          · exact Or.inr ⟨Or.inr h, (ne_of_before (hrest e h)).symm⟩
        · rintro (h | ⟨h | h, hne⟩)
          · exact Or.inl h
          · exact absurd (congrArg Prod.fst h) hne
          · exact Or.inr h

theorem find?_insert (m : OrderedMap κ α) (k k' : κ) (v : α) :
    (m.insert k v).find? k' = if k' = k then some v else m.find? k' := by
  have hmem (w : α) : (k', w) ∈ (m.insert k v).entries ↔
      (k', w) = (k, v) ∨ ((k', w) ∈ m.entries ∧ k' ≠ k) := mem_insertEntry m.sorted
  split
  · rename_i h
    rw [find?_eq_some_iff, hmem]
    exact Or.inl (by rw [h])
  · rename_i h
    apply find?_congr
    intro w
    rw [hmem]
    constructor
    · rintro (hw | hw)
      · exact absurd (congrArg Prod.fst hw) h
      · exact hw.1
    · exact fun hw => Or.inr ⟨hw, h⟩

/-! ## Changing -/

theorem find?_adjustAll (p : κ → Bool) (f : α → α) (m : OrderedMap κ α) (k : κ) :
    (m.adjustAll p f).find? k = (m.find? k).map fun v => if p k then f v else v := by
  have hmem (w : α) : (k, w) ∈ (m.adjustAll p f).entries ↔
      ∃ v, (k, v) ∈ m.entries ∧ (if p k then f v else v) = w := by
    constructor
    · intro h
      obtain ⟨⟨k', v⟩, he, heq⟩ := List.mem_map.mp h
      refine ⟨v, ?_⟩
      by_cases hp : p k' = true <;> simp only [hp, if_true, if_false, Bool.false_eq_true] at heq <;>
        cases heq <;> exact ⟨he, by simp [hp]⟩
    · rintro ⟨v, hv, rfl⟩
      refine List.mem_map.mpr ⟨(k, v), hv, ?_⟩
      by_cases hp : p k = true <;> simp [hp]
  apply Option.ext
  intro w
  rw [find?_eq_some_iff, hmem, Option.map_eq_some_iff]
  exact exists_congr fun v => and_congr_left fun _ => find?_eq_some_iff.symm

theorem find?_map (f : α → α) (m : OrderedMap κ α) (k : κ) :
    (m.map f).find? k = (m.find? k).map f := by
  unfold map
  rw [find?_adjustAll]
  rfl

theorem adjust_eq_adjustAll (m : OrderedMap κ α) (k : κ) (f : α → α) :
    m.adjust k f = m.adjustAll (fun k' => decide (k' = k)) f := by
  apply ext_entries
  unfold adjust adjustAll
  simp only [decide_eq_true_eq]

theorem find?_adjust (m : OrderedMap κ α) (k k' : κ) (f : α → α) :
    (m.adjust k f).find? k' = if k' = k then (m.find? k').map f else m.find? k' := by
  rw [adjust_eq_adjustAll, find?_adjustAll]
  by_cases h : k' = k <;> simp [h]

/-! ## A change in the middle -/

theorem entries_adjust_append {m : OrderedMap κ α} {l₁ l₂ : List (κ × α)} {k : κ} {v : α}
    (h : m.entries = l₁ ++ (k, v) :: l₂) (w : α) :
    (m.adjust k fun _ => w).entries = l₁ ++ (k, w) :: l₂ := by
  have hnd := m.nodup_keys
  unfold keys at hnd
  rw [h, List.map_append, List.map_cons, List.nodup_append, List.nodup_cons] at hnd
  obtain ⟨-, ⟨h2, -⟩, h3⟩ := hnd
  have other : ∀ l : List (κ × α), k ∉ l.map Prod.fst →
      l.map (fun e => if e.1 = k then (e.1, w) else e) = l := by
    intro l hl
    conv_rhs => rw [← List.map_id l]
    apply List.map_congr_left
    intro e he
    have hne : e.1 ≠ k := fun hk => hl (hk ▸ List.mem_map.mpr ⟨e, he, rfl⟩)
    exact if_neg hne
  have h1 : k ∉ l₁.map Prod.fst := fun hk => h3 k hk k (by simp) rfl
  show m.entries.map _ = _
  rw [h, List.map_append, List.map_cons, other l₁ h1, other l₂ h2, if_pos rfl]

theorem entries_erase_append {m : OrderedMap κ α} {l₁ l₂ : List (κ × α)} {k : κ} {v : α}
    (h : m.entries = l₁ ++ (k, v) :: l₂) : (m.erase k).entries = l₁ ++ l₂ := by
  have hnd := m.nodup_keys
  unfold keys at hnd
  rw [h, List.map_append, List.map_cons, List.nodup_append, List.nodup_cons] at hnd
  obtain ⟨-, ⟨h2, -⟩, h3⟩ := hnd
  have other : ∀ l : List (κ × α), k ∉ l.map Prod.fst →
      l.filter (fun e => decide (e.1 ≠ k)) = l := by
    intro l hl
    apply List.filter_eq_self.mpr
    intro e he
    have hne : e.1 ≠ k := fun hk => hl (hk ▸ List.mem_map.mpr ⟨e, he, rfl⟩)
    exact decide_eq_true hne
  have h1 : k ∉ l₁.map Prod.fst := fun hk => h3 k hk k (by simp) rfl
  show m.entries.filter _ = _
  rw [h, List.filter_append, List.filter_cons, other l₁ h1, other l₂ h2]
  simp

theorem find?_middle {m : OrderedMap κ α} {l₁ l₂ : List (κ × α)} {k : κ} {v : α}
    (h : m.entries = l₁ ++ (k, v) :: l₂) : m.find? k = some v :=
  find?_eq_some_iff.mpr (by rw [h]; exact List.mem_append_right _ List.mem_cons_self)

end Find

end OnScreen.OrderedMap
