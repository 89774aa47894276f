import Mathlib.Data.List.Forall2
import OnScreen.Proofs.Pass
import OnScreen.Proofs.Stack

/-!
# Stacks as lists of messages

The keys of a stack only keep its messages in order: by type, and within a type as they were queued.
What the operations of a stack do can be told from the list of its messages alone.

Results:
* `Stack.toList_insert`, `Stack.toList_discardType`, `Stack.toList_enqueue`: what queueing does.
* `Stack.hasMessage_eq_any`: what the duplicate check looks for.
* `Stack.forall₂_draw_of_visits`, `Stack.forall₂_draw`: what a frame leaves.
-/

namespace OnScreen

/-- A list of messages in the order of their types with one more message, which is put behind the
others of its type. -/
def arrange (m : Message) : List Message → List Message
  | [] => [m]
  | m' :: ms => if m.type.rank < m'.type.rank then m :: m' :: ms else m' :: arrange m ms

/-- Messages of types that come no later stay in front of the new one. -/
theorem arrange_append {m : Message} {ms : List Message}
    (h : ∀ m' ∈ ms, ¬ m.type.rank < m'.type.rank) (rest : List Message) :
    arrange m (ms ++ rest) = ms ++ arrange m rest := by
  induction ms with
  | nil => rfl
  | cons m' ms ih =>
    obtain ⟨hm', hms⟩ := List.forall_mem_cons.mp h
    rw [List.cons_append, arrange, if_neg hm', ih hms, List.cons_append]

namespace Stack

variable {stack : Stack}

/-- In a keyed stack every entry has the type of its key, and a number that was given out. -/
theorem Keyed.of_mem (h : stack.Keyed) {e : Key × Message} (he : e ∈ stack.messages.entries) :
    e.2.type = e.1.type ∧ e.1.sequence < stack.nextSequence :=
  have hfind : stack.messages.find? e.1 = some e.2 := OrderedMap.find?_eq_some_iff.mpr he
  ⟨h.type _ _ hfind, h.sequence _ _ hfind⟩

/-! ## Queueing -/

/-- An entry with a new number is inserted behind the others of its type. -/
theorem map_snd_insertEntry {key : Key} {m : Message} (hm : m.type = key.type)
    {entries : List (Key × Message)}
    (hentries : ∀ e ∈ entries, e.2.type = e.1.type ∧ e.1.sequence < key.sequence) :
    (OrderedMap.insertEntry key m entries).map Prod.snd = arrange m (entries.map Prod.snd) := by
  induction entries with
  | nil => rfl
  | cons e rest ih =>
    obtain ⟨key', m'⟩ := e
    obtain ⟨htype, hsequence⟩ := hentries (key', m') List.mem_cons_self
    have hrest := ih fun e he => hentries e (List.mem_cons_of_mem _ he)
    dsimp only at htype hsequence
    have hbefore : KeyOrder.before key key' = decide (m.type.rank < m'.type.rank) := by
      rw [hm, htype]
      exact decide_eq_decide.mpr (by omega)
    have hbehind : KeyOrder.before key' key = decide (¬ m.type.rank < m'.type.rank) := by
      rw [hm, htype]
      exact decide_eq_decide.mpr (by omega)
    rw [List.map_cons, arrange, OrderedMap.insertEntry, hbefore, hbehind]
    by_cases hrank : m.type.rank < m'.type.rank
    · rw [if_pos (decide_eq_true hrank), if_pos hrank]
      rfl
    · rw [if_neg (ne_true_of_eq_false (decide_eq_false hrank)), if_pos (decide_eq_true hrank),
        if_neg hrank, List.map_cons, hrest]

theorem toList_insert (h : stack.Keyed) (m : Message) :
    (stack.insert m).toList = arrange m stack.toList :=
  map_snd_insertEntry rfl fun _ he => h.of_mem he

theorem Keyed.discardType (h : stack.Keyed) (type : MessageType) :
    (stack.discardType type).1.Keyed := by
  refine h.of_keys (Nat.le_refl _) ?_
  intro key m' hm'
  rw [find?_discardType] at hm'
  obtain ⟨m, hm, rfl⟩ := Option.map_eq_some_iff.mp hm'
  refine ⟨m, hm, ?_⟩
  split <;> rfl

theorem toList_discardType (h : stack.Keyed) (type : MessageType) :
    (stack.discardType type).1.toList =
      stack.toList.map fun m => if m.type = type then m.discard else m := by
  show (stack.messages.entries.map _).map Prod.snd = (stack.messages.entries.map Prod.snd).map _
  rw [List.map_map, List.map_map]
  refine List.map_congr_left fun e he => ?_
  have htype := (h.of_mem he).1
  dsimp only [Function.comp_apply]
  rw [htype]
  by_cases hkey : e.1.type = type
  · rw [if_pos (decide_eq_true hkey), if_pos hkey]
  · rw [if_neg (ne_true_of_eq_false (decide_eq_false hkey)), if_neg hkey]

/-- The messages that a new one supersedes are discarded, and it is put behind the others of its
type. -/
theorem toList_enqueue (h : stack.Keyed) (m : Message) :
    (Overlay.enqueue stack m).toList =
      arrange m (stack.toList.map fun m' =>
        if m.type.Supersedes m'.type then m'.discard else m') := by
  unfold Overlay.enqueue
  cases ht : m.type with
  | typed tag =>
    have hsup : ∀ type, (MessageType.typed tag).Supersedes type ↔ type = .typed tag := fun type =>
      ⟨fun h => h.2, fun h => ⟨by simp, h⟩⟩
    dsimp only
    rw [toList_insert (h.discardType _), toList_discardType h]
    simp only [hsup]
  | typeless =>
    have hsup : ∀ type, ¬ MessageType.typeless.Supersedes type := fun type h => h.1 rfl
    dsimp only
    rw [toList_insert h]
    simp only [hsup, if_false, List.map_id']

/-- The messages of a type are found under its keys. -/
theorem ofType_eq_filter (h : stack.Keyed) (type : MessageType) :
    stack.ofType type = stack.toList.filter fun m => decide (m.type = type) := by
  unfold ofType OrderedMap.select toList OrderedMap.values
  rw [List.filter_map]
  refine congrArg (List.map Prod.snd) (List.filter_congr fun e he => ?_)
  rw [Function.comp_apply, (h.of_mem he).1]

/-- As many are counted when they are discarded. -/
theorem discardType_count (h : stack.Keyed) (type : MessageType) :
    (stack.discardType type).2 = stack.toList.countP fun m => decide (m.type = type) := by
  show (stack.ofType type).length = _
  rw [ofType_eq_filter h, List.countP_eq_length_filter]

/-- The duplicate check looks for a pending message of this type and text. -/
theorem hasMessage_eq_any (h : stack.Keyed) (type : MessageType) (text : String) (now : Reading) :
    stack.hasMessage type text now =
      stack.toList.any fun m =>
        decide (m.type = type) && (m.isPending now && decide (m.text = text)) := by
  unfold hasMessage
  rw [ofType_eq_filter h, List.any_filter]

/-! ## Frames -/

theorem forall₂_inOrder {α β : Type} {r : α → β → Prop} {l : List α} {l' : List β}
    (reversed : Bool) (h : List.Forall₂ r l l') :
    List.Forall₂ r (inOrder reversed l) (inOrder reversed l') := by
  cases reversed with
  | false => exact h
  | true => exact List.forall₂_reverse_iff.mpr h

/-- A frame leaves the pending messages, in their order, each as its visit leaves it. -/
theorem forall₂_draw_of_visits {ρ : Type} {R : Renderer ρ} {frame : FrameSettings}
    {canvas : Canvas ρ} {r : Message → Message → Prop}
    (h : ∀ v ∈ stack.passVisits R frame canvas, v.message.isPending frame.now = true →
      r v.message v.result) :
    List.Forall₂ r (stack.toList.filter fun m => m.isPending frame.now)
      (stack.draw R frame canvas).stack.toList := by
  have hbefore : stack.toList.filter (fun m => m.isPending frame.now) =
      inOrder stack.layout.reversed
        (((stack.passVisits R frame canvas).filter fun v =>
          v.message.isPending frame.now).map Visited.message) := by
    have hentries : stack.messages.entries = inOrder stack.layout.reversed
        ((stack.passVisits R frame canvas).map Visited.entry) := by
      rw [map_entry_passVisits, inOrder_inOrder]
    unfold toList OrderedMap.values
    rw [hentries, ← inOrder_map, ← inOrder_filter, List.map_map, List.filter_map]
    rfl
  have hafter : (stack.draw R frame canvas).stack.toList =
      inOrder stack.layout.reversed
        (((stack.passVisits R frame canvas).filter fun v =>
          v.message.isPending frame.now).map Visited.result) := by
    unfold toList OrderedMap.values
    rw [draw_entries, ← inOrder_map, keptBy, filter_isKept_passVisits, List.map_map]
    rfl
  rw [hbefore, hafter]
  refine forall₂_inOrder _ ?_
  rw [List.forall₂_map_left_iff, List.forall₂_map_right_iff, List.forall₂_same]
  intro v hv
  obtain ⟨hv, hp⟩ := List.mem_filter.mp hv
  exact h v hv hp

/-- A frame leaves the pending messages, in their order, each as it keeps it. -/
theorem forall₂_draw {ρ : Type} (R : Renderer ρ) (stack : Stack) (frame : FrameSettings)
    (canvas : Canvas ρ) :
    List.Forall₂ (fun m m' => m.KeptAs frame.drawing m')
      (stack.toList.filter fun m => m.isPending frame.now)
      (stack.draw R frame canvas).stack.toList :=
  forall₂_draw_of_visits fun _ hv hp => result_of_mem_passVisits hv hp

end Stack

end OnScreen
