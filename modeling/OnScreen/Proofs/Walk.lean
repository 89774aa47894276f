import OnScreen.Proofs.OrderedMap
import OnScreen.Stack

/-!
# A walk is one pass over the messages

A walk goes by the keys that are stored when it begins, and looks each of them up in a map from
which it removes entries on the way. The map always holds the entries that are not yet visited, in
their place between the ones that were kept, so every entry is visited once and none is missed.

Results:
* `walk_state`, `walk_entries`, `walk_removed`: the three results of a walk, in terms of the visits
  of one pass over the entries.
* `map_entry_visits`, `answer_of_mem_visits`: the visits are of the entries, in order, and every
  answer is the visitor's.
-/

namespace OnScreen

/-- One visit: the entry that is visited, the visitor's state before it, and the answer. -/
structure Visited (σ : Type) where
  state : σ
  key : Key
  message : Message
  answer : σ × Message × Visit

namespace Visited

variable {σ : Type}

/-- The entry as it was visited. -/
def entry (v : Visited σ) : Key × Message :=
  (v.key, v.message)

/-- The message as the visitor has left it. -/
def result (v : Visited σ) : Message :=
  v.answer.2.1

/-- The visitor decided to keep the message. -/
def isKept (v : Visited σ) : Bool :=
  v.answer.2.2 = .keep

end Visited

/-- The entries that are left by visits, in the order of the visits. -/
def keptBy {σ : Type} (vs : List (Visited σ)) : List (Key × Message) :=
  (vs.filter Visited.isKept).map fun v => (v.key, v.result)

theorem keptBy_cons {σ : Type} (v : Visited σ) (vs : List (Visited σ)) :
    keptBy (v :: vs) = if v.isKept then (v.key, v.result) :: keptBy vs else keptBy vs := by
  unfold keptBy
  rw [List.filter_cons]
  split <;> rfl

/-- The messages that are removed by visits, in the order of the visits. -/
def removedBy {σ : Type} (vs : List (Visited σ)) : List Message :=
  (vs.filter fun v => !v.isKept).map Visited.result

theorem removedBy_cons {σ : Type} (v : Visited σ) (vs : List (Visited σ)) :
    removedBy (v :: vs) = if v.isKept then removedBy vs else v.result :: removedBy vs := by
  unfold removedBy
  rw [List.filter_cons]
  cases v.isKept <;> rfl

namespace Stack

variable {σ : Type}

/-- The visits of a pass over entries, from the first to the last. -/
def visits (visit : σ → Message → σ × Message × Visit) : σ → List (Key × Message) → List (Visited σ)
  | _, [] => []
  | s, (key, m) :: rest => ⟨s, key, m, visit s m⟩ :: visits visit (visit s m).1 rest

/-- The visitor's state after a pass over entries. -/
def stateAfter (visit : σ → Message → σ × Message × Visit) (s : σ)
    (entries : List (Key × Message)) : σ :=
  entries.foldl (fun s e => (visit s e.2).1) s

/-- A list in the order of a walk. -/
def inOrder {α : Type} (reversed : Bool) (l : List α) : List α :=
  if reversed then l.reverse else l

theorem inOrder_map {α β : Type} (reversed : Bool) (f : α → β) (l : List α) :
    inOrder reversed (l.map f) = (inOrder reversed l).map f := by
  cases reversed with
  | false => rfl
  | true => exact List.map_reverse.symm

theorem inOrder_filter {α : Type} (reversed : Bool) (p : α → Bool) (l : List α) :
    inOrder reversed (l.filter p) = (inOrder reversed l).filter p := by
  cases reversed with
  | false => rfl
  | true => exact List.filter_reverse.symm

theorem inOrder_perm {α : Type} (reversed : Bool) (l : List α) : (inOrder reversed l).Perm l := by
  cases reversed with
  | false => exact List.Perm.refl l
  | true => exact List.reverse_perm l

theorem inOrder_inOrder {α : Type} (reversed : Bool) (l : List α) :
    inOrder reversed (inOrder reversed l) = l := by
  cases reversed with
  | false => rfl
  | true => exact List.reverse_reverse l

/-! ## The visits of a pass -/

theorem map_entry_visits (visit : σ → Message → σ × Message × Visit) (s : σ)
    (entries : List (Key × Message)) : (visits visit s entries).map Visited.entry = entries := by
  induction entries generalizing s with
  | nil => rfl
  | cons e rest ih =>
    rw [visits, List.map_cons, ih]
    rfl

theorem answer_of_mem_visits {visit : σ → Message → σ × Message × Visit} {s : σ}
    {entries : List (Key × Message)} {v : Visited σ} (hv : v ∈ visits visit s entries) :
    v.answer = visit v.state v.message := by
  induction entries generalizing s with
  | nil => cases hv
  | cons e rest ih =>
    rcases List.mem_cons.mp hv with rfl | hv
    · rfl
    · exact ih hv

theorem mem_of_mem_visits {visit : σ → Message → σ × Message × Visit} {s : σ}
    {entries : List (Key × Message)} {v : Visited σ} (hv : v ∈ visits visit s entries) :
    (v.key, v.message) ∈ entries := by
  rw [← map_entry_visits visit s entries]
  exact List.mem_map.mpr ⟨v, hv, rfl⟩

theorem exists_visit_of_mem {entries : List (Key × Message)} {key : Key} {m : Message}
    (visit : σ → Message → σ × Message × Visit) (s : σ) (h : (key, m) ∈ entries) :
    ∃ v ∈ visits visit s entries, v.key = key ∧ v.message = m := by
  rw [← map_entry_visits visit s entries] at h
  obtain ⟨v, hv, he⟩ := List.mem_map.mp h
  exact ⟨v, hv, congrArg Prod.fst he, congrArg Prod.snd he⟩

/-! ## The walk -/

/-- Going by a list of keys in the map is a pass over the entries under those keys: they stand
together in the map, between what was kept before (`front`, or `back` if the walk is reversed) and
what is not to be visited. -/
theorem visitKeys_eq (visit : σ → Message → σ × Message × Visit) (reversed : Bool)
    (todo : List (Key × Message)) (s : σ) (m : OrderedMap Key Message)
    (front back : List (Key × Message))
    (hm : m.entries = front ++ (inOrder reversed todo ++ back)) :
    (visitKeys visit (todo.map Prod.fst) s m).state = stateAfter visit s todo ∧
      (visitKeys visit (todo.map Prod.fst) s m).messages.entries =
        front ++ (inOrder reversed (keptBy (visits visit s todo)) ++ back) ∧
      (visitKeys visit (todo.map Prod.fst) s m).removed = removedBy (visits visit s todo) := by
  induction todo generalizing s m front back with
  | nil => exact ⟨rfl, hm, rfl⟩
  | cons e rest ih =>
    obtain ⟨key, msg⟩ := e
    -- the entry with what stands on its two sides
    have hsplit : ∃ l₁ l₂, m.entries = l₁ ++ (key, msg) :: l₂ ∧
        (∀ msg', ∃ front' back',
          l₁ ++ (key, msg') :: l₂ = front' ++ (inOrder reversed rest ++ back') ∧
          ∀ kept, front' ++ (inOrder reversed kept ++ back') =
            front ++ (inOrder reversed ((key, msg') :: kept) ++ back)) ∧
        l₁ ++ l₂ = front ++ (inOrder reversed rest ++ back) := by
      cases reversed with
      | false =>
        refine ⟨front, rest ++ back, hm, fun msg' => ⟨front ++ [(key, msg')], back, ?_, ?_⟩, rfl⟩
        · simp [inOrder]
        · intro kept
          simp [inOrder]
      | true =>
        refine ⟨front ++ rest.reverse, back, ?_,
          fun msg' => ⟨front, (key, msg') :: back, ?_, ?_⟩, ?_⟩
        · rw [hm]
          simp [inOrder]
        · simp [inOrder]
        · intro kept
          simp [inOrder]
        · simp [inOrder]
    obtain ⟨l₁, l₂, hentries, hkeep, herase⟩ := hsplit
    have hfind : m.find? key = some msg := OrderedMap.find?_middle hentries
    rw [List.map_cons, visitKeys, hfind]
    rcases hvisit : visit s msg with ⟨s', msg', decision⟩
    cases decision with
    | keep =>
      obtain ⟨front', back', hplace, hkept⟩ := hkeep msg'
      have hadjust : (m.adjust key fun _ => msg').entries =
          front' ++ (inOrder reversed rest ++ back') := by
        rw [OrderedMap.entries_adjust_append hentries, hplace]
      obtain ⟨h1, h2, h3⟩ := ih s' _ front' back' hadjust
      refine ⟨?_, ?_, ?_⟩
      · simp only [h1, stateAfter, List.foldl_cons, hvisit]
      · simp only [h2, hkept, visits, hvisit, keptBy, Visited.isKept, Visited.result, decide_true,
          List.filter_cons_of_pos, List.map_cons]
      · simp only [h3, visits, hvisit, removedBy, Visited.isKept, decide_true, Bool.not_true,
          List.filter_cons, Bool.false_eq_true, if_false]
    | remove =>
      have hremove : (m.erase key).entries = front ++ (inOrder reversed rest ++ back) := by
        rw [OrderedMap.entries_erase_append hentries, herase]
      obtain ⟨h1, h2, h3⟩ := ih s' _ front back hremove
      refine ⟨?_, ?_, ?_⟩
      · simp only [h1, stateAfter, List.foldl_cons, hvisit]
      · simp [h2, visits, hvisit, keptBy, Visited.isKept]
      · simp [h3, visits, hvisit, removedBy, Visited.isKept, Visited.result]

/-- The visits of a walk over a stack. -/
def walkVisits (stack : Stack) (reversed : Bool) (visit : σ → Message → σ × Message × Visit)
    (s : σ) : List (Visited σ) :=
  visits visit s (inOrder reversed stack.messages.entries)

theorem walk_eq (stack : Stack) (reversed : Bool) (visit : σ → Message → σ × Message × Visit)
    (s : σ) :
    (stack.walk reversed visit s).state =
        stateAfter visit s (inOrder reversed stack.messages.entries) ∧
      (stack.walk reversed visit s).messages.entries =
        inOrder reversed (keptBy (stack.walkVisits reversed visit s)) ∧
      (stack.walk reversed visit s).removed = removedBy (stack.walkVisits reversed visit s) := by
  have hkeys : (if reversed then stack.messages.keys.reverse else stack.messages.keys) =
      (inOrder reversed stack.messages.entries).map Prod.fst :=
    inOrder_map reversed Prod.fst stack.messages.entries
  have h := visitKeys_eq visit reversed (inOrder reversed stack.messages.entries) s stack.messages
    [] [] (by simp [inOrder_inOrder])
  unfold walk walkVisits
  simp only [hkeys]
  simpa using h

/-- The visitor's state is handed from one visit to the next. -/
theorem walk_state (stack : Stack) (reversed : Bool) (visit : σ → Message → σ × Message × Visit)
    (s : σ) : (stack.walk reversed visit s).state =
      stateAfter visit s (inOrder reversed stack.messages.entries) :=
  (stack.walk_eq reversed visit s).1

/-- The kept messages are left in key order, as the visitor has left them. -/
theorem walk_entries (stack : Stack) (reversed : Bool) (visit : σ → Message → σ × Message × Visit)
    (s : σ) : (stack.walk reversed visit s).messages.entries =
      inOrder reversed (keptBy (stack.walkVisits reversed visit s)) :=
  (stack.walk_eq reversed visit s).2.1

/-- The removed messages come in the order of the visits. -/
theorem walk_removed (stack : Stack) (reversed : Bool) (visit : σ → Message → σ × Message × Visit)
    (s : σ) : (stack.walk reversed visit s).removed =
      removedBy (stack.walkVisits reversed visit s) :=
  (stack.walk_eq reversed visit s).2.2

end Stack

end OnScreen
