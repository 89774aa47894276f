import Mathlib.Algebra.Ring.Nat
import OnScreen.Proofs.Pass
import OnScreen.Proofs.Registry

/-!
# A frame over all stacks

A frame draws the default stack and then the named stacks, each on the canvas that the one before
has left. What the frame does is the sum of the turns of the stacks.

Results:
* `draw_placements`, `draw_pruned_eq`, `draw_registry_entries`: a frame as the sum of its turns.
* `map_snd_placed`, `mem_placedIds_iff`, `of_mem_placed`: the placements of the report, each with
  the id of its message; they are for the pending messages, each once.
* `message?_draw_of_pending`, `message?_draw_eq_some`: what is stored after a frame.
* `draw_pruned`: the frame counts every message that it removes, once.
-/

namespace OnScreen

variable {ρ : Type} (R : Renderer ρ)

/-- A stack's turn in a frame: the name it is registered under, the stack before the frame, and the
canvas it is drawn on. -/
structure Turn (ρ : Type) where
  name : String
  stack : Stack
  canvas : Canvas ρ

/-- What comes of a turn. -/
def Turn.drawn (settings : FrameSettings) (turn : Turn ρ) : DrawnStack ρ :=
  turn.stack.draw R settings turn.canvas

/-- The turns of stacks that are drawn one after the other. -/
def turns (settings : FrameSettings) : Canvas ρ → List (String × Stack) → List (Turn ρ)
  | _, [] => []
  | canvas, (name, stack) :: rest =>
    ⟨name, stack, canvas⟩ :: turns settings (stack.draw R settings canvas).canvas rest

/-- The canvas after stacks were drawn one after the other. -/
def canvasAfter (settings : FrameSettings) (canvas : Canvas ρ) (entries : List (String × Stack)) :
    Canvas ρ :=
  entries.foldl (fun canvas e => (e.2.draw R settings canvas).canvas) canvas

theorem map_turns (settings : FrameSettings) (canvas : Canvas ρ) (entries : List (String × Stack)) :
    (turns R settings canvas entries).map (fun t => (t.name, t.stack)) = entries := by
  induction entries generalizing canvas with
  | nil => rfl
  | cons e rest ih =>
    rw [turns, List.map_cons, ih]

theorem mapAccumEntries_drawNext (settings : FrameSettings) (canvas : Canvas ρ)
    (report : FrameReport) (entries : List (String × Stack)) :
    OrderedMap.mapAccumEntries (Overlay.drawNext R settings) (canvas, report) entries =
      ((canvasAfter R settings canvas entries,
          { placements := report.placements ++
              (turns R settings canvas entries).flatMap fun t =>
                (t.drawn R settings).report.placements
            pruned := report.pruned +
              ((turns R settings canvas entries).map fun t =>
                (t.drawn R settings).report.pruned).sum }),
        (turns R settings canvas entries).map fun t => (t.name, (t.drawn R settings).stack)) := by
  induction entries generalizing canvas report with
  | nil => simp [OrderedMap.mapAccumEntries, canvasAfter, turns]
  | cons e rest ih =>
    obtain ⟨name, stack⟩ := e
    simp only [OrderedMap.mapAccumEntries, Overlay.drawNext, ih]
    simp only [turns, canvasAfter, List.foldl_cons, List.flatMap_cons, List.map_cons, List.sum_cons,
      List.append_assoc, Nat.add_assoc, Turn.drawn]

namespace Overlay

/-! ## The turns of a frame -/

/-- What the stacks of a frame have in common. -/
def settings (overlay : Overlay) (now : Reading) : FrameSettings :=
  ⟨now, overlay.enabled, overlay.obscured⟩

/-- The canvas on which the first stack is drawn: textures that waited for the frame are destroyed
before. -/
def startCanvas (overlay : Overlay) (renderer : ρ) : Canvas ρ :=
  ({ renderer := renderer } : Canvas ρ).destroyAll R overlay.registry.orphans

/-- The turns of a frame. -/
def frameTurns (overlay : Overlay) (now : Reading) (renderer : ρ) : List (Turn ρ) :=
  turns R (overlay.settings now) (overlay.startCanvas R renderer) overlay.registry.entries

theorem draw_eq (overlay : Overlay) (now : Reading) (renderer : ρ) :
    (overlay.draw R now renderer).report =
        { placements := (overlay.frameTurns R now renderer).flatMap fun t =>
            (t.drawn R (overlay.settings now)).report.placements
          pruned := ((overlay.frameTurns R now renderer).map fun t =>
            (t.drawn R (overlay.settings now)).report.pruned).sum } ∧
      (overlay.draw R now renderer).canvas =
        canvasAfter R (overlay.settings now) (overlay.startCanvas R renderer)
          overlay.registry.entries ∧
      (overlay.draw R now renderer).overlay.registry.entries =
        (overlay.frameTurns R now renderer).map fun t =>
          (t.name, (t.drawn R (overlay.settings now)).stack) := by
  have h := mapAccumEntries_drawNext R (overlay.settings now) (overlay.startCanvas R renderer) {}
    overlay.registry.entries
  simp only [List.nil_append, Nat.zero_add] at h
  unfold Registry.entries OrderedMap.mapAccumEntries at h
  have h1 := congrArg (fun r => r.1.2) h
  have h2 := congrArg (fun r => r.1.1) h
  have h3 := congrArg (fun r => r.2) h
  exact ⟨h1, h2, h3⟩

/-- The placements of a frame are those of the stacks, in the order of their turns. -/
theorem draw_placements (overlay : Overlay) (now : Reading) (renderer : ρ) :
    (overlay.draw R now renderer).report.placements =
      (overlay.frameTurns R now renderer).flatMap fun t =>
        (t.drawn R (overlay.settings now)).report.placements := by
  rw [(overlay.draw_eq R now renderer).1]

theorem draw_pruned_eq (overlay : Overlay) (now : Reading) (renderer : ρ) :
    (overlay.draw R now renderer).report.pruned =
      ((overlay.frameTurns R now renderer).map fun t =>
        (t.drawn R (overlay.settings now)).report.pruned).sum := by
  rw [(overlay.draw_eq R now renderer).1]

theorem draw_canvas (overlay : Overlay) (now : Reading) (renderer : ρ) :
    (overlay.draw R now renderer).canvas =
      canvasAfter R (overlay.settings now) (overlay.startCanvas R renderer)
        overlay.registry.entries :=
  (overlay.draw_eq R now renderer).2.1

theorem draw_registry_entries (overlay : Overlay) (now : Reading) (renderer : ρ) :
    (overlay.draw R now renderer).overlay.registry.entries =
      (overlay.frameTurns R now renderer).map fun t =>
        (t.name, (t.drawn R (overlay.settings now)).stack) :=
  (overlay.draw_eq R now renderer).2.2

theorem draw_orphans (overlay : Overlay) (now : Reading) (renderer : ρ) :
    (overlay.draw R now renderer).overlay.registry.orphans = [] := rfl

variable {overlay : Overlay} {now : Reading} {renderer : ρ}

theorem mem_entries_of_mem_frameTurns {t : Turn ρ} (ht : t ∈ overlay.frameTurns R now renderer) :
    (t.name, t.stack) ∈ overlay.registry.entries := by
  rw [← map_turns R (overlay.settings now) (overlay.startCanvas R renderer)
    overlay.registry.entries]
  exact List.mem_map.mpr ⟨t, ht, rfl⟩

theorem exists_turn {name : String} {stack : Stack}
    (h : (name, stack) ∈ overlay.registry.entries) :
    ∃ t ∈ overlay.frameTurns R now renderer, t.name = name ∧ t.stack = stack := by
  rw [← map_turns R (overlay.settings now) (overlay.startCanvas R renderer)
    overlay.registry.entries] at h
  obtain ⟨t, ht, heq⟩ := List.mem_map.mp h
  exact ⟨t, ht, congrArg Prod.fst heq, congrArg Prod.snd heq⟩

/-! ## What is stored after a frame -/

theorem draw_unnamed (h : overlay.registry.WellFormed) :
    (overlay.draw R now renderer).overlay.registry.named.find? "" = none := by
  have hkeys : (overlay.draw R now renderer).overlay.registry.named.keys =
      overlay.registry.named.keys := OrderedMap.keys_mapAccumEntries _ _ _
  rw [OrderedMap.find?_eq_none_iff, hkeys, ← OrderedMap.find?_eq_none_iff]
  exact h.unnamed

/-- A stack is found after a frame as its turn has left it. -/
theorem get?_draw (h : overlay.registry.WellFormed) {name : String} {stack' : Stack} :
    (overlay.draw R now renderer).overlay.registry.get? name = some stack' ↔
      ∃ t ∈ overlay.frameTurns R now renderer,
        t.name = name ∧ (t.drawn R (overlay.settings now)).stack = stack' := by
  rw [Registry.get?_iff_mem (draw_unnamed R h), draw_registry_entries, List.mem_map]
  constructor
  · rintro ⟨t, ht, heq⟩
    exact ⟨t, ht, congrArg Prod.fst heq, congrArg Prod.snd heq⟩
  · rintro ⟨t, ht, rfl, rfl⟩
    exact ⟨t, ht, rfl⟩

/-- A frame registers no stack and removes none. -/
theorem isSome_get?_draw (h : overlay.registry.WellFormed) (name : String) :
    ((overlay.draw R now renderer).overlay.registry.get? name).isSome =
      (overlay.registry.get? name).isSome := by
  rw [Bool.eq_iff_iff, Option.isSome_iff_exists, Option.isSome_iff_exists]
  constructor
  · rintro ⟨stack', hs'⟩
    obtain ⟨t, ht, rfl, -⟩ := (get?_draw R h).mp hs'
    exact ⟨t.stack, (Registry.get?_iff_mem h.unnamed).mpr (mem_entries_of_mem_frameTurns R ht)⟩
  · rintro ⟨stack, hs⟩
    obtain ⟨t, ht, hname, -⟩ := exists_turn R ((Registry.get?_iff_mem h.unnamed).mp hs)
    exact ⟨_, (get?_draw R h).mpr ⟨t, ht, hname, rfl⟩⟩

/-- A message that a frame finds pending is stored after it, marked as drawn if the frame draws. -/
theorem message?_draw_of_pending (renderer : ρ) (h : overlay.registry.WellFormed) {id : MessageId}
    {m : Message} (hm : overlay.registry.message? id = some m) (hp : m.isPending now = true) :
    ∃ m', (overlay.draw R now renderer).overlay.registry.message? id = some m' ∧
      m.KeptAs overlay.enabled m' := by
  obtain ⟨stack, hs, hk⟩ := Registry.message?_eq_some_iff.mp hm
  obtain ⟨t, ht, hname, rfl⟩ := exists_turn R ((Registry.get?_iff_mem h.unnamed).mp hs)
  have hpending : m.isPending (overlay.settings now).now = true := hp
  obtain ⟨m', hm', hkept⟩ := Stack.find?_draw_of_pending R t.canvas hk hpending
  have hs' : (overlay.draw R now renderer).overlay.registry.get? id.stack =
      some (t.drawn R (overlay.settings now)).stack := (get?_draw R h).mpr ⟨t, ht, hname, rfl⟩
  exact ⟨m', Registry.message?_eq_some_iff.mpr ⟨_, hs', hm'⟩, hkept⟩

/-- What is stored after a frame was pending before it. -/
theorem message?_draw_eq_some (h : overlay.registry.WellFormed) {id : MessageId} {m' : Message}
    (hm' : (overlay.draw R now renderer).overlay.registry.message? id = some m') :
    ∃ m, overlay.registry.message? id = some m ∧ m.isPending now = true ∧
      m.KeptAs overlay.enabled m' := by
  obtain ⟨stack', hs', hk'⟩ := Registry.message?_eq_some_iff.mp hm'
  obtain ⟨t, ht, hname, rfl⟩ := (get?_draw R h).mp hs'
  obtain ⟨m, hm, hp, hkept⟩ := Stack.find?_draw_eq_some R hk'
  have hs : overlay.registry.get? id.stack = some t.stack := by
    rw [Registry.get?_iff_mem h.unnamed, ← hname]
    exact mem_entries_of_mem_frameTurns R ht
  exact ⟨m, Registry.message?_eq_some_iff.mpr ⟨t.stack, hs, hm⟩, hp, hkept⟩

theorem message?_draw_of_none (h : overlay.registry.WellFormed) {id : MessageId}
    (hm : overlay.registry.message? id = none) :
    (overlay.draw R now renderer).overlay.registry.message? id = none := by
  cases hm' : (overlay.draw R now renderer).overlay.registry.message? id with
  | none => rfl
  | some m' =>
    obtain ⟨m, hsome, -⟩ := message?_draw_eq_some R h hm'
    rw [hm] at hsome
    cases hsome

/-- A message that a frame does not find pending is not stored after it. -/
theorem message?_draw_of_not_pending (h : overlay.registry.WellFormed) {id : MessageId}
    {m : Message} (hm : overlay.registry.message? id = some m) (hp : m.isPending now = false) :
    (overlay.draw R now renderer).overlay.registry.message? id = none := by
  cases hm' : (overlay.draw R now renderer).overlay.registry.message? id with
  | none => rfl
  | some m' =>
    obtain ⟨m₀, hsome, hp₀, -⟩ := message?_draw_eq_some R h hm'
    rw [hm] at hsome
    cases hsome
    rw [hp] at hp₀
    cases hp₀

theorem wellFormed_draw (h : overlay.registry.WellFormed) :
    (overlay.draw R now renderer).overlay.registry.WellFormed := by
  apply h.of_get? (draw_unnamed R h)
  intro name stack' hs'
  obtain ⟨t, ht, rfl, rfl⟩ := (get?_draw R h).mp hs'
  refine ⟨t.stack, ?_, Stack.draw_layout R _ _ _, ?_, ?_⟩
  · rw [Registry.get?_iff_mem h.unnamed]
    exact mem_entries_of_mem_frameTurns R ht
  · exact Nat.le_of_eq (Stack.draw_nextSequence R _ _ _).symm
  · intro key m' hm'
    obtain ⟨m, hm, -, hkept⟩ := Stack.find?_draw_eq_some R hm'
    exact ⟨m, hm, hkept.type⟩

theorem issued_draw (h : overlay.registry.WellFormed) {id : MessageId}
    (hid : overlay.registry.Issued id) :
    (overlay.draw R now renderer).overlay.registry.Issued id := by
  obtain ⟨stack, hs, hlt⟩ := hid
  obtain ⟨t, ht, hname, rfl⟩ := exists_turn R ((Registry.get?_iff_mem h.unnamed).mp hs)
  exact ⟨_, (get?_draw R h).mpr ⟨t, ht, hname, rfl⟩, hlt⟩

/-! ## Placements -/

/-- The placements of a frame, each with the id of the message it is for. -/
def placed (overlay : Overlay) (now : Reading) (renderer : ρ) : List (MessageId × Placement) :=
  (overlay.frameTurns R now renderer).flatMap fun t =>
    (t.stack.placed R (overlay.settings now) t.canvas).map fun e => (⟨t.name, e.1⟩, e.2)

/-- The ids of the messages that a frame places, in the order of the placements. -/
def placedIds (overlay : Overlay) (now : Reading) (renderer : ρ) : List MessageId :=
  (overlay.placed R now renderer).map Prod.fst

/-- They are the placements of the report. -/
theorem map_snd_placed (overlay : Overlay) (now : Reading) (renderer : ρ) :
    (overlay.placed R now renderer).map Prod.snd =
      (overlay.draw R now renderer).report.placements := by
  rw [draw_placements, placed, List.map_flatMap]
  apply List.flatMap_congr
  intro t _
  rw [List.map_map]
  exact Stack.map_snd_placed R t.stack (overlay.settings now) t.canvas

theorem placedIds_eq (overlay : Overlay) (now : Reading) (renderer : ρ) :
    overlay.placedIds R now renderer =
      overlay.registry.entries.flatMap fun e =>
        if overlay.enabled then (e.2.pendingEntries now).map fun e' => ⟨e.1, e'.1⟩ else [] := by
  rw [← map_turns R (overlay.settings now) (overlay.startCanvas R renderer)
    overlay.registry.entries, List.flatMap_map]
  unfold placedIds placed
  rw [List.map_flatMap]
  apply List.flatMap_congr
  intro t _
  have hkeys := Stack.map_fst_placed R t.stack (overlay.settings now) t.canvas
  have hmap := congrArg (List.map (MessageId.mk t.name)) hkeys
  rw [List.map_map] at hmap ⊢
  refine hmap.trans ?_
  show List.map _ (if overlay.enabled = true then _ else _) = _
  cases overlay.enabled with
  | false => rfl
  | true => exact List.map_map

/-- A frame places exactly the pending messages, and none if it does not draw. -/
theorem mem_placedIds_iff (h : overlay.registry.WellFormed) {id : MessageId} :
    id ∈ overlay.placedIds R now renderer ↔
      overlay.enabled = true ∧
        ∃ m, overlay.registry.message? id = some m ∧ m.isPending now = true := by
  rw [placedIds_eq, List.mem_flatMap]
  constructor
  · rintro ⟨⟨name, stack⟩, he, hid⟩
    split at hid
    · rename_i henabled
      obtain ⟨⟨key, m⟩, hmem, rfl⟩ := List.mem_map.mp hid
      obtain ⟨hmem, hp⟩ := List.mem_filter.mp hmem
      refine ⟨henabled, m, ?_, hp⟩
      rw [Registry.message?_of_get? ((Registry.get?_iff_mem h.unnamed).mpr he),
        OrderedMap.find?_eq_some_iff]
      exact (Stack.inOrder_perm _ _).mem_iff.mp hmem
    · cases hid
  · rintro ⟨henabled, m, hm, hp⟩
    obtain ⟨stack, hs, hk⟩ := Registry.message?_eq_some_iff.mp hm
    refine ⟨(id.stack, stack), (Registry.get?_iff_mem h.unnamed).mp hs, ?_⟩
    rw [if_pos henabled]
    refine List.mem_map.mpr ⟨(id.key, m), List.mem_filter.mpr ⟨?_, hp⟩, rfl⟩
    exact (Stack.inOrder_perm _ _).mem_iff.mpr (OrderedMap.find?_eq_some_iff.mp hk)

/-- A frame places no message twice. -/
theorem nodup_placedIds (h : overlay.registry.WellFormed) :
    (overlay.placedIds R now renderer).Nodup := by
  rw [placedIds_eq, List.nodup_flatMap]
  constructor
  · intro e _
    split
    · have hkeys : ((e.2.pendingEntries now).map Prod.fst).Nodup := by
        apply List.Nodup.sublist (List.filter_sublist.map _)
        exact ((Stack.inOrder_perm _ _).map _).nodup_iff.mpr e.2.messages.nodup_keys
      have hids := hkeys.map fun a b (hab : MessageId.mk e.1 a = MessageId.mk e.1 b) =>
        congrArg MessageId.key hab
      rw [List.map_map] at hids
      exact hids
    · exact List.nodup_nil
  · apply (List.pairwise_map.mp h.nodup_names).imp
    intro e e' hne id hid hid'
    have hstack : ∀ x : String × Stack, id ∈ (if overlay.enabled then
        (x.2.pendingEntries now).map fun e' => MessageId.mk x.1 e'.1 else []) → id.stack = x.1 := by
      intro x hx
      split at hx
      · obtain ⟨k, -, rfl⟩ := List.mem_map.mp hx
        rfl
      · cases hx
    exact hne ((hstack e hid).symm.trans (hstack e' hid'))

/-- A placement is for a message pending in the stack whose name it carries, and shows the text of
the message at its opacity. -/
theorem of_mem_placed (h : overlay.registry.WellFormed) {id : MessageId} {p : Placement}
    (hp : (id, p) ∈ overlay.placed R now renderer) :
    ∃ m, overlay.registry.message? id = some m ∧ m.isPending now = true ∧ p.stack = id.stack ∧
      p.text = m.text ∧ p.opacity = m.opacity (m.timeLeft now) := by
  obtain ⟨t, ht, hp⟩ := List.mem_flatMap.mp hp
  obtain ⟨⟨key, q⟩, hq, heq⟩ := List.mem_map.mp hp
  cases heq
  obtain ⟨m, hm, hpending, hstack, htext, hopacity⟩ := Stack.of_mem_placed R hq
  have hs := (Registry.get?_iff_mem h.unnamed).mpr (mem_entries_of_mem_frameTurns R ht)
  refine ⟨m, ?_, hpending, ?_, htext, hopacity⟩
  · rw [Registry.message?_of_get? hs, OrderedMap.find?_eq_some_iff]
    exact hm
  · rw [hstack]
    exact h.name _ _ hs

/-! ## Removed messages -/

/-- The ids of the messages that a frame removes. -/
def removedIds (overlay : Overlay) (now : Reading) (renderer : ρ) : List MessageId :=
  overlay.registry.ids.filter fun id =>
    ((overlay.draw R now renderer).overlay.registry.message? id).isNone

/-- A frame removes the messages that it does not find pending. -/
theorem mem_removedIds_iff (h : overlay.registry.WellFormed) {id : MessageId} :
    id ∈ overlay.removedIds R now renderer ↔
      ∃ m, overlay.registry.message? id = some m ∧ m.isPending now = false := by
  unfold removedIds
  rw [List.mem_filter, h.mem_ids_iff, Option.isSome_iff_exists]
  constructor
  · rintro ⟨⟨m, hm⟩, hnone⟩
    refine ⟨m, hm, ?_⟩
    cases hp : m.isPending now with
    | false => rfl
    | true =>
      obtain ⟨m', hm', -⟩ := message?_draw_of_pending R renderer h hm hp
      rw [hm'] at hnone
      cases hnone
  · rintro ⟨m, hm, hp⟩
    exact ⟨⟨m, hm⟩, by rw [message?_draw_of_not_pending R h hm hp]; rfl⟩

theorem nodup_removedIds (h : overlay.registry.WellFormed) :
    (overlay.removedIds R now renderer).Nodup :=
  h.nodup_ids.filter _

/-- A frame counts the messages that it removes, each once. -/
theorem draw_pruned (h : overlay.registry.WellFormed) :
    (overlay.draw R now renderer).report.pruned = (overlay.removedIds R now renderer).length := by
  have hremoved : ∀ e ∈ overlay.registry.entries,
      ((e.2.messages.keys.map (MessageId.mk e.1)).filter fun id =>
        ((overlay.draw R now renderer).overlay.registry.message? id).isNone).length =
      (e.2.messages.entries.filter fun e' => !e'.2.isPending now).length := by
    intro e he
    unfold OrderedMap.keys
    rw [List.map_map, List.filter_map, List.length_map]
    congr 1
    apply List.filter_congr
    intro e' he'
    have hm : overlay.registry.message? ⟨e.1, e'.1⟩ = some e'.2 := by
      rw [Registry.message?_of_get? ((Registry.get?_iff_mem h.unnamed).mpr he),
        OrderedMap.find?_eq_some_iff]
      exact he'
    show Option.isNone ((overlay.draw R now renderer).overlay.registry.message? ⟨e.1, e'.1⟩) = _
    cases hp : e'.2.isPending now with
    | false =>
      rw [message?_draw_of_not_pending R h hm hp]
      rfl
    | true =>
      obtain ⟨m', hm', -⟩ := message?_draw_of_pending R renderer h hm hp
      rw [hm']
      rfl
  have hturns : (overlay.draw R now renderer).report.pruned =
      (overlay.registry.entries.map fun e =>
        (e.2.messages.entries.filter fun e' => !e'.2.isPending now).length).sum := by
    rw [draw_pruned_eq, ← map_turns R (overlay.settings now) (overlay.startCanvas R renderer)
      overlay.registry.entries, List.map_map]
    congr 1
    apply List.map_congr_left
    intro t _
    exact Stack.draw_pruned R t.stack (overlay.settings now) t.canvas
  unfold removedIds Registry.ids
  rw [hturns, List.filter_flatMap, List.length_flatMap]
  congr 1
  exact (List.map_congr_left hremoved).symm

end Overlay

end OnScreen
