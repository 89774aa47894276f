/-!
# Maps in key order

A map is a list of entries in strictly increasing key order, and carries the proof. Looking up,
inserting, changing and removing go by key; walking the map follows the order.

* `KeyOrder`: a strict total order that decides.
* `OrderedMap.find?`, `insert`, `adjust`, `erase`: access by key.
* `OrderedMap.keys`, `values`, `select`: the map in order, or the part whose keys pass a test.
* `OrderedMap.mapAccum`: one pass over the values that threads a state.
-/

namespace OnScreen

/-- A strict total order on keys, as a decision. -/
class KeyOrder (κ : Type) where
  before : κ → κ → Bool
  irrefl : ∀ a, before a a = false
  trans : ∀ {a b c}, before a b = true → before b c = true → before a c = true
  eq_of_not_before : ∀ {a b}, before a b = false → before b a = false → a = b

namespace KeyOrder

variable {κ : Type} [KeyOrder κ]

theorem ne_of_before {a b : κ} (h : before a b = true) : a ≠ b := by
  rintro rfl
  simp [irrefl] at h

theorem not_before_of_before {a b : κ} (h : before a b = true) : before b a = false := by
  cases hba : before b a with
  | false => rfl
  | true => exact absurd rfl (ne_of_before (trans h hba))

end KeyOrder

open KeyOrder

/-- Entries in strictly increasing key order. -/
structure OrderedMap (κ : Type) [KeyOrder κ] (α : Type) where
  entries : List (κ × α)
  sorted : (entries.map Prod.fst).Pairwise (fun a b => before a b = true)

namespace OrderedMap

variable {κ α σ : Type} [KeyOrder κ]

/-- The map without entries. -/
def empty : OrderedMap κ α :=
  ⟨[], List.Pairwise.nil⟩

instance : Inhabited (OrderedMap κ α) := ⟨empty⟩
instance : EmptyCollection (OrderedMap κ α) := ⟨empty⟩

/-! ## The map in order -/

/-- The keys, in order. -/
def keys (m : OrderedMap κ α) : List κ :=
  m.entries.map Prod.fst

/-- The values, in the order of their keys. -/
def values (m : OrderedMap κ α) : List α :=
  m.entries.map Prod.snd

/-- The number of entries. -/
def size (m : OrderedMap κ α) : Nat :=
  m.entries.length

/-- The values whose keys pass the test, in the order of their keys. -/
def select (p : κ → Bool) (m : OrderedMap κ α) : List α :=
  (m.entries.filter fun e => p e.1).map Prod.snd

/-! ## Access by key -/

/-- The value stored under a key. -/
def find? [DecidableEq κ] (m : OrderedMap κ α) (k : κ) : Option α :=
  (m.entries.find? fun e => decide (e.1 = k)).map Prod.snd

/-- There is a value under this key. -/
def contains [DecidableEq κ] (m : OrderedMap κ α) (k : κ) : Bool :=
  (m.find? k).isSome

/-- The entries with a value put under a key, in place of the one that was there. -/
def insertEntry (k : κ) (v : α) : List (κ × α) → List (κ × α)
  | [] => [(k, v)]
  | (k', v') :: rest =>
    if before k k' then (k, v) :: (k', v') :: rest
    else if before k' k then (k', v') :: insertEntry k v rest
    else (k, v) :: rest

theorem mem_keys_insertEntry {k x : κ} {v : α} {l : List (κ × α)}
    (h : x ∈ (insertEntry k v l).map Prod.fst) : x = k ∨ x ∈ l.map Prod.fst := by
  induction l with
  | nil => simpa [insertEntry] using h
  | cons e rest ih =>
    obtain ⟨k', v'⟩ := e
    simp only [insertEntry] at h
    split at h
    · simpa using h
    · split at h
      · simp only [List.map_cons, List.mem_cons] at h ⊢
        rcases h with h | h
        · exact Or.inr (Or.inl h)
        · rcases ih h with h | h
          · exact Or.inl h
          · exact Or.inr (Or.inr h)
      · simp only [List.map_cons, List.mem_cons] at h ⊢
        rcases h with h | h
        · exact Or.inl h
        · exact Or.inr (Or.inr h)

theorem sorted_insertEntry (k : κ) (v : α) (l : List (κ × α))
    (h : (l.map Prod.fst).Pairwise (fun a b => before a b = true)) :
    ((insertEntry k v l).map Prod.fst).Pairwise (fun a b => before a b = true) := by
  induction l with
  | nil => simp [insertEntry]
  | cons e rest ih =>
    obtain ⟨k', v'⟩ := e
    simp only [List.map_cons, List.pairwise_cons] at h
    simp only [insertEntry]
    split
    · rename_i hk
      simp only [List.map_cons, List.pairwise_cons, List.mem_cons]
      refine ⟨?_, h.1, h.2⟩
      rintro a (rfl | ha)
      · exact hk
      · exact KeyOrder.trans hk (h.1 a ha)
    · split
      · rename_i hk
        simp only [List.map_cons, List.pairwise_cons]
        refine ⟨fun a ha => ?_, ih h.2⟩
        rcases mem_keys_insertEntry ha with rfl | ha
        · exact hk
        · exact h.1 a ha
      · rename_i hk hk'
        have : k = k' := eq_of_not_before (by simpa using hk) (by simpa using hk')
        subst this
        simpa using h

/-- The map with a value under a key, in place of the one that was there. -/
def insert (m : OrderedMap κ α) (k : κ) (v : α) : OrderedMap κ α :=
  ⟨insertEntry k v m.entries, sorted_insertEntry k v m.entries m.sorted⟩

/-- The map with the value under a key changed, if there is one. -/
def adjust [DecidableEq κ] (m : OrderedMap κ α) (k : κ) (f : α → α) : OrderedMap κ α where
  entries := m.entries.map fun e => if e.1 = k then (e.1, f e.2) else e
  sorted := by
    have : (m.entries.map fun e => if e.1 = k then (e.1, f e.2) else e).map Prod.fst
        = m.entries.map Prod.fst := by
      rw [List.map_map]
      refine List.map_congr_left fun e _ => ?_
      by_cases h : e.1 = k <;> simp [h]
    rw [this]
    exact m.sorted

/-- The map with the values changed whose keys pass the test. -/
def adjustAll (p : κ → Bool) (f : α → α) (m : OrderedMap κ α) : OrderedMap κ α where
  entries := m.entries.map fun e => if p e.1 then (e.1, f e.2) else e
  sorted := by
    have : (m.entries.map fun e => if p e.1 then (e.1, f e.2) else e).map Prod.fst
        = m.entries.map Prod.fst := by
      rw [List.map_map]
      refine List.map_congr_left fun e _ => ?_
      by_cases h : p e.1 <;> simp [h]
    rw [this]
    exact m.sorted

/-- The map without a key. -/
def erase [DecidableEq κ] (m : OrderedMap κ α) (k : κ) : OrderedMap κ α where
  entries := m.entries.filter fun e => decide (e.1 ≠ k)
  sorted := m.sorted.sublist (List.filter_sublist.map Prod.fst)

/-! ## A pass over the values -/

/-- Entries with every value replaced, from the first to the last, by a step that also threads a
state. -/
def mapAccumEntries (f : σ → α → σ × α) : σ → List (κ × α) → σ × List (κ × α)
  | s, [] => (s, [])
  | s, (k, v) :: rest =>
    let (s, v) := f s v
    let (s, rest) := mapAccumEntries f s rest
    (s, (k, v) :: rest)

omit [KeyOrder κ] in
theorem keys_mapAccumEntries (f : σ → α → σ × α) (s : σ) (l : List (κ × α)) :
    (mapAccumEntries f s l).2.map Prod.fst = l.map Prod.fst := by
  induction l generalizing s with
  | nil => rfl
  | cons e rest ih => simp [mapAccumEntries, ih]

/-- The map with every value replaced, in key order, by a step that also threads a state. -/
def mapAccum (f : σ → α → σ × α) (s : σ) (m : OrderedMap κ α) : σ × OrderedMap κ α :=
  ((mapAccumEntries f s m.entries).1,
    { entries := (mapAccumEntries f s m.entries).2
      sorted := by rw [keys_mapAccumEntries]; exact m.sorted })

/-- The map with every value replaced. -/
def map (f : α → α) (m : OrderedMap κ α) : OrderedMap κ α :=
  m.adjustAll (fun _ => true) f

end OrderedMap

/-! ## Texts in byte order -/

/-- One sequence of bytes is before another: at the first difference its byte is smaller, or it
ends. -/
def bytesBefore : List UInt8 → List UInt8 → Bool
  | _, [] => false
  | [], _ :: _ => true
  | a :: as, b :: bs => if a < b then true else if b < a then false else bytesBefore as bs

theorem bytesBefore_irrefl (a : List UInt8) : bytesBefore a a = false := by
  induction a with
  | nil => rfl
  | cons x xs ih => simp [bytesBefore, ih, UInt8.lt_irrefl]

theorem bytesBefore_trans {a b c : List UInt8} (hab : bytesBefore a b = true)
    (hbc : bytesBefore b c = true) : bytesBefore a c = true := by
  induction a generalizing b c with
  | nil =>
    cases b with
    | nil => simp [bytesBefore] at hab
    | cons y ys =>
      cases c with
      | nil => simp [bytesBefore] at hbc
      | cons z zs => rfl
  | cons x xs ih =>
    cases b with
    | nil => simp [bytesBefore] at hab
    | cons y ys =>
      cases c with
      | nil => simp [bytesBefore] at hbc
      | cons z zs =>
        simp only [bytesBefore, UInt8.lt_iff_toNat_lt] at hab hbc ⊢
        by_cases hxy : x.toNat < y.toNat
        · by_cases hyz : y.toNat < z.toNat
          · simp [show x.toNat < z.toNat by omega]
          · by_cases hzy : z.toNat < y.toNat
            · simp [hyz, hzy] at hbc
            · simp [show x.toNat < z.toNat by omega]
        · by_cases hyx : y.toNat < x.toNat
          · simp [hxy, hyx] at hab
          · simp only [hxy, hyx, if_false] at hab
            by_cases hyz : y.toNat < z.toNat
            · simp [show x.toNat < z.toNat by omega]
            · by_cases hzy : z.toNat < y.toNat
              · simp [hyz, hzy] at hbc
              · simp only [hyz, hzy, if_false] at hbc
                simp [show ¬ x.toNat < z.toNat by omega, show ¬ z.toNat < x.toNat by omega,
                  ih hab hbc]

theorem eq_of_not_bytesBefore {a b : List UInt8} (hab : bytesBefore a b = false)
    (hba : bytesBefore b a = false) : a = b := by
  induction a generalizing b with
  | nil =>
    cases b with
    | nil => rfl
    | cons y ys => simp [bytesBefore] at hab
  | cons x xs ih =>
    cases b with
    | nil => simp [bytesBefore] at hba
    | cons y ys =>
      simp only [bytesBefore, UInt8.lt_iff_toNat_lt] at hab hba
      by_cases hxy : x.toNat < y.toNat
      · simp [hxy] at hab
      · by_cases hyx : y.toNat < x.toNat
        · simp [hyx] at hba
        · simp only [hxy, hyx, if_false] at hab hba
          have : x = y := UInt8.toNat_inj.1 (by omega)
          rw [this, ih hab hba]

/-- The UTF-8 bytes of a text. -/
def utf8Bytes (s : String) : List UInt8 :=
  s.toByteArray.data.toList

theorem utf8Bytes_inj {s t : String} (h : utf8Bytes s = utf8Bytes t) : s = t :=
  String.toByteArray_inj.1 (ByteArray.ext (Array.toList_inj.1 h))

/-- Texts are ordered by their UTF-8 bytes. -/
instance : KeyOrder String where
  before s t := bytesBefore (utf8Bytes s) (utf8Bytes t)
  irrefl s := bytesBefore_irrefl (utf8Bytes s)
  trans := bytesBefore_trans
  eq_of_not_before h h' := utf8Bytes_inj (eq_of_not_bytesBefore h h')

end OnScreen
