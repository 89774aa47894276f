import Mathlib.Data.List.Induction
import OnScreen.Proofs.Walk

/-!
# What is visited of a stack

A stack is changed by inserting messages, discarding those of a type, walking over all of them, and
draining it. Whatever was done before, its messages stand in the order of their types, and within a
type in the order in which they were inserted; and a walk is one pass over them in this order, or
backwards. A visitor may change a message in any way, or put another one in its place.

Results:
* `Stack.Numbered`, `Stack.numbered_after`: the keys tell the types and the order of insertion.
* `Stack.calls_visits`: what a visitor that keeps a record of its calls has recorded.
* `Stack.entries_walk_judging`, `Stack.removed_walk_judging`: walks of a visitor whose answers do
  not depend on its state.
* `Stack.walk_visits_once`: all of this for walks over the stacks that changes lead to.
-/

namespace OnScreen

/-- The state and the message with which the visitor was called. -/
def Visited.call {σ : Type} (v : Visited σ) : σ × Message :=
  (v.state, v.message)

namespace Stack

variable {σ : Type}

/-! ## Stacks and their changes -/

/-- What is done with a stack. -/
inductive Change : Type 1
  | insert (m : Message)
  | discard (type : MessageType)
  | walk {σ : Type} (reversed : Bool) (visit : σ → Message → σ × Message × Visit) (s : σ)
  | drain

/-- The stack after a change. -/
def change (stack : Stack) : Change → Stack
  | .insert m => stack.insert m
  | .discard type => (stack.discardType type).1
  | .walk reversed visit s => stack.afterWalk (stack.walk reversed visit s)
  | .drain => stack.cleared

/-- The stack after several changes. -/
def after (stack : Stack) (changes : List Change) : Stack :=
  changes.foldl change stack

theorem after_concat (stack : Stack) (changes : List Change) (c : Change) :
    stack.after (changes ++ [c]) = (stack.after changes).change c :=
  List.foldl_concat _ _ _ _

/-- The messages that changes insert, in order. -/
def inserted (changes : List Change) : List Message :=
  changes.filterMap fun
    | .insert m => some m
    | _ => none

theorem inserted_concat (changes : List Change) (c : Change) :
    inserted (changes ++ [c]) = inserted changes ++ inserted [c] :=
  List.filterMap_append

/-! ## The order of the keys -/

/-- The number in a key tells which of the inserted messages was stored under it, and the key has
the type that this message had. -/
structure Numbered (stack : Stack) (ms : List Message) : Prop where
  next : stack.nextSequence = ms.length
  key : ∀ key ∈ stack.messages.keys, ms[key.sequence]?.map Message.type = some key.type

theorem keys_discardType (stack : Stack) (type : MessageType) :
    (stack.discardType type).1.messages.keys = stack.messages.keys := by
  show (stack.messages.entries.map _).map Prod.fst = stack.messages.entries.map Prod.fst
  rw [List.map_map]
  refine List.map_congr_left fun e _ => ?_
  dsimp only [Function.comp_apply]
  split <;> rfl

/-- The keys that a walk leaves are keys of the stack, in the same order. -/
theorem keys_walk_sublist (stack : Stack) (reversed : Bool)
    (visit : σ → Message → σ × Message × Visit) (s : σ) :
    (stack.walk reversed visit s).messages.keys.Sublist stack.messages.keys := by
  have hvisited : stack.messages.keys =
      inOrder reversed ((stack.walkVisits reversed visit s).map Visited.key) := by
    have hentries : (stack.walkVisits reversed visit s).map Visited.entry =
        inOrder reversed stack.messages.entries := map_entry_visits _ _ _
    have hkeys := congrArg (List.map Prod.fst) hentries
    rw [List.map_map, ← inOrder_map] at hkeys
    exact ((congrArg (inOrder reversed) hkeys).trans (inOrder_inOrder _ _)).symm
  have hleft : (stack.walk reversed visit s).messages.keys =
      inOrder reversed
        (((stack.walkVisits reversed visit s).filter Visited.isKept).map Visited.key) := by
    unfold OrderedMap.keys
    rw [walk_entries, ← inOrder_map, keptBy, List.map_map]
    rfl
  rw [hvisited, hleft]
  have hsub := (List.filter_sublist (p := Visited.isKept)
    (l := stack.walkVisits reversed visit s)).map Visited.key
  cases reversed with
  | false => exact hsub
  | true => exact hsub.reverse

variable {stack : Stack} {ms : List Message}

theorem Numbered.sequence_lt (h : stack.Numbered ms) {key : Key}
    (hkey : key ∈ stack.messages.keys) : key.sequence < stack.nextSequence := by
  obtain ⟨m, hm, -⟩ := Option.map_eq_some_iff.mp (h.key key hkey)
  rw [h.next]
  exact (List.getElem?_eq_some_iff.mp hm).1

/-- Keys that are left are numbered as they were. -/
theorem Numbered.of_keys {stack' : Stack} (h : stack.Numbered ms)
    (hnext : stack'.nextSequence = stack.nextSequence)
    (hkeys : ∀ key ∈ stack'.messages.keys, key ∈ stack.messages.keys) : stack'.Numbered ms :=
  ⟨hnext.trans h.next, fun key hkey => h.key key (hkeys key hkey)⟩

theorem Numbered.insert (h : stack.Numbered ms) (m : Message) :
    (stack.insert m).Numbered (ms ++ [m]) := by
  constructor
  · show stack.nextSequence + 1 = _
    rw [h.next, List.length_append]
    rfl
  · intro key hkey
    rcases OrderedMap.mem_keys_insertEntry hkey with rfl | hkey
    · rw [h.next, List.getElem?_concat_length]
      rfl
    · rw [List.getElem?_append_left (h.next ▸ h.sequence_lt hkey)]
      exact h.key key hkey

theorem Numbered.change (h : stack.Numbered ms) (c : Change) :
    (stack.change c).Numbered (ms ++ inserted [c]) := by
  cases c with
  | insert m => exact h.insert m
  | discard type =>
    refine (List.append_nil ms).symm ▸ h.of_keys rfl fun key hkey => ?_
    exact stack.keys_discardType type ▸ hkey
  | walk reversed visit s =>
    refine (List.append_nil ms).symm ▸ h.of_keys rfl fun key hkey => ?_
    exact (stack.keys_walk_sublist reversed visit s).subset hkey
  | drain =>
    refine (List.append_nil ms).symm ▸ h.of_keys rfl fun key hkey => ?_
    cases hkey

/-- By induction on the changes, the keys of a stack tell what was inserted. -/
theorem numbered_after (layout : StackLayout) (changes : List Change) :
    (after { layout := layout } changes).Numbered (inserted changes) := by
  induction changes using List.reverseRecOn with
  | nil => exact ⟨rfl, fun key hkey => by cases hkey⟩
  | append_singleton changes c ih =>
    rw [after_concat, inserted_concat]
    exact ih.change c

/-! ## The calls of a visitor -/

/-- A visitor that keeps a record of its calls: the state and the message of each, in order. -/
def recording (visit : σ → Message → σ × Message × Visit) :
    σ × List (σ × Message) → Message → (σ × List (σ × Message)) × Message × Visit :=
  fun s m => (((visit s.1 m).1, s.2 ++ [(s.1, m)]), (visit s.1 m).2)

section

variable (visit : σ → Message → σ × Message × Visit) (s : σ) (record : List (σ × Message))
  (entries : List (Key × Message))

/-- The record has the calls of the visits. -/
theorem calls_visits :
    stateAfter (recording visit) (s, record) entries =
      (stateAfter visit s entries, record ++ (visits visit s entries).map Visited.call) := by
  induction entries generalizing s record with
  | nil => exact congrArg _ (List.append_nil record).symm
  | cons e rest ih =>
    show stateAfter (recording visit) ((visit s e.2).1, record ++ [(s, e.2)]) rest = _
    rw [ih, List.append_assoc]
    rfl

/-- Keeping a record changes no decision. -/
theorem keptBy_recording :
    keptBy (visits (recording visit) (s, record) entries) = keptBy (visits visit s entries) := by
  induction entries generalizing s record with
  | nil => rfl
  | cons e rest ih =>
    rw [visits, visits, keptBy_cons, keptBy_cons]
    exact ite_congr rfl (fun _ => congrArg _ (ih _ _)) fun _ => ih _ _

theorem removedBy_recording :
    removedBy (visits (recording visit) (s, record) entries) =
      removedBy (visits visit s entries) := by
  induction entries generalizing s record with
  | nil => rfl
  | cons e rest ih =>
    rw [visits, visits, removedBy_cons, removedBy_cons]
    exact ite_congr rfl (fun _ => ih _ _) fun _ => congrArg _ (ih _ _)

/-- Every visit begins with the state that the one before it has answered. -/
theorem states_visits :
    (visits visit s entries).map Visited.state ++ [stateAfter visit s entries] =
      s :: (visits visit s entries).map fun v => v.answer.1 := by
  induction entries generalizing s with
  | nil => rfl
  | cons e rest ih =>
    rw [visits, List.map_cons, List.map_cons, List.cons_append]
    exact congrArg _ (ih _)

end

/-! ## Visitors that judge a message by itself -/

/-- A visitor whose answer does not depend on its state. -/
def judging (next : σ → Message → σ) (judge : Message → Message × Visit) :
    σ → Message → σ × Message × Visit :=
  fun s m => (next s m, judge m)

section

variable (next : σ → Message → σ) (judge : Message → Message × Visit) (s : σ)
  (entries : List (Key × Message))

theorem keptBy_judging :
    keptBy (visits (judging next judge) s entries) =
      (entries.filter fun e => decide ((judge e.2).2 = .keep)).map fun e =>
        (e.1, (judge e.2).1) := by
  induction entries generalizing s with
  | nil => rfl
  | cons e rest ih =>
    rw [visits, keptBy_cons, ih, List.filter_cons]
    show (if decide ((judge e.2).2 = .keep) = true then _ else _) = _
    split <;> rfl

theorem removedBy_judging :
    removedBy (visits (judging next judge) s entries) =
      (entries.filter fun e => !decide ((judge e.2).2 = .keep)).map fun e => (judge e.2).1 := by
  induction entries generalizing s with
  | nil => rfl
  | cons e rest ih =>
    rw [visits, removedBy_cons, ih, List.filter_cons]
    show (if decide ((judge e.2).2 = .keep) = true then _ else _) = _
    cases decide ((judge e.2).2 = .keep) <;> rfl

/-- What such a walk leaves does not depend on its direction. -/
theorem entries_walk_judging (stack : Stack) (reversed : Bool) :
    (stack.walk reversed (judging next judge) s).messages.entries =
      (stack.messages.entries.filter fun e => decide ((judge e.2).2 = .keep)).map fun e =>
        (e.1, (judge e.2).1) := by
  rw [walk_entries, walkVisits, keptBy_judging, inOrder_map, inOrder_filter, inOrder_inOrder]

/-- What it returns comes in the order of the visits. -/
theorem removed_walk_judging (stack : Stack) (reversed : Bool) :
    (stack.walk reversed (judging next judge) s).removed =
      inOrder reversed ((stack.messages.entries.filter fun e =>
        !decide ((judge e.2).2 = .keep)).map fun e => (judge e.2).1) := by
  rw [walk_removed, walkVisits, removedBy_judging, inOrder_map, inOrder_filter]

end

/-! ## Walks -/

/-- Messages stand in the order of their types, and within a type in that of their insertion. -/
theorem pairwise_keys (stack : Stack) :
    stack.messages.keys.Pairwise fun a b =>
      a.type.rank < b.type.rank ∨ a.type = b.type ∧ a.sequence < b.sequence := by
  refine stack.messages.sorted.imp fun {a b} hab => ?_
  rcases of_decide_eq_true hab with hrank | ⟨hrank, hsequence⟩
  · exact Or.inl hrank
  · exact Or.inr ⟨MessageType.rank_inj hrank, hsequence⟩

/-- A walk visits every message once. In each stack that changes lead to, the messages stand by type
and within a type in the order of their insertion: the number in a key tells which of the inserted
messages was stored there, and the type which type that had. The calls of a walk's visitor, which a
record of them does not disturb, are one for each message, in this order or backwards; the visitor
gets the state of the call before, and the walk ends with the last one. The walk returns rejected
messages in the order of the calls, and leaves the others under their keys, all as the visitor has
left them, and nothing else of the stack changes. A visitor that judges every message by itself
leaves the same stack in both directions, and the lists of rejected messages are each other's
reverse. -/
theorem walk_visits_once (layout : StackLayout) (changes : List Change) :
    let stack := after { layout := layout } changes
    (stack.messages.keys.Pairwise fun a b =>
      a.type.rank < b.type.rank ∨ a.type = b.type ∧ a.sequence < b.sequence) ∧
    (∀ key ∈ stack.messages.keys,
      (inserted changes)[key.sequence]?.map Message.type = some key.type) ∧
    (∀ {σ : Type} (reversed : Bool) (visit : σ → Message → σ × Message × Visit) (s : σ),
      let walk := stack.walk reversed visit s
      let recorded := stack.walk reversed (recording visit) (s, [])
      let left := stack.afterWalk walk
      (recorded.state.1 = walk.state ∧ recorded.messages = walk.messages ∧
        recorded.removed = walk.removed) ∧
      ∃ visited : List (Visited σ),
        visited.map Visited.call = recorded.state.2 ∧
        visited.map Visited.entry = inOrder reversed stack.messages.entries ∧
        (∀ v ∈ visited, v.answer = visit v.state v.message) ∧
        visited.map Visited.state ++ [walk.state] = s :: visited.map (fun v => v.answer.1) ∧
        walk.removed =
          (visited.filter fun v => decide (v.answer.2.2 = .remove)).map Visited.result ∧
        left.messages.entries =
          inOrder reversed ((visited.filter fun v => decide (v.answer.2.2 = .keep)).map fun v =>
            (v.key, v.result)) ∧
        left.messages.keys.Sublist stack.messages.keys ∧
        left.layout = stack.layout ∧ left.nextSequence = stack.nextSequence) ∧
    ∀ {σ : Type} (next : σ → Message → σ) (judge : Message → Message × Visit) (s s' : σ),
      let forward := stack.walk false (judging next judge) s
      let backward := stack.walk true (judging next judge) s'
      stack.afterWalk backward = stack.afterWalk forward ∧
        backward.removed = forward.removed.reverse := by
  intro stack
  refine ⟨stack.pairwise_keys, (numbered_after layout changes).key, ?_, ?_⟩
  · intro σ reversed visit s walk recorded left
    have hstate : recorded.state =
        (walk.state, (stack.walkVisits reversed visit s).map Visited.call) := by
      rw [walk_state, walk_state, calls_visits]
      rfl
    refine ⟨⟨congrArg Prod.fst hstate, ?_, ?_⟩, stack.walkVisits reversed visit s,
      (congrArg Prod.snd hstate).symm, map_entry_visits _ _ _, fun v hv => answer_of_mem_visits hv,
      ?_, ?_, stack.walk_entries reversed visit s, stack.keys_walk_sublist reversed visit s,
      rfl, rfl⟩
    · apply OrderedMap.ext_entries
      rw [walk_entries, walk_entries]
      exact congrArg _ (keptBy_recording visit s [] _)
    · rw [walk_removed, walk_removed]
      exact removedBy_recording visit s [] _
    · rw [walk_state]
      exact states_visits visit s _
    · rw [walk_removed, removedBy]
      refine congrArg _ (List.filter_congr fun v _ => ?_)
      unfold Visited.isKept
      cases v.answer.2.2 <;> rfl
  · intro σ next judge s s' forward backward
    have hmessages : backward.messages = forward.messages := by
      apply OrderedMap.ext_entries
      rw [entries_walk_judging, entries_walk_judging]
    refine ⟨congrArg (fun messages => { stack with messages := messages }) hmessages, ?_⟩
    rw [removed_walk_judging, removed_walk_judging]
    rfl

end Stack

end OnScreen
