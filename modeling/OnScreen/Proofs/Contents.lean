import OnScreen.Proofs.Accumulation
import OnScreen.Proofs.Arrangement
import OnScreen.Proofs.Icons
import OnScreen.Proofs.Registration

/-!
# What frames leave in the stacks

What a stack holds is a list of messages. A frame that draws leaves a pending message marked as
drawn and without an icon that waits; the frames after it leave it as it is then.

Results:
* `Message.LeftAs.eq_of_leftAs`: a second frame changes nothing.
* `Stack.forall₂_draw_leftAs`, `Overlay.forall₂_draw_leftAs`: what a frame leaves of the messages of
  a stack.
* `Registry.flatMap_names`, `Registry.messages_eq_flatMap`: the messages of all stacks, by the names
  of the stacks.
-/

namespace OnScreen

/-! ## What a frame leaves -/

namespace Message

/-- What a frame leaves of a message that it keeps: if it draws, the message is marked as drawn and
its icon is used up. -/
structure LeftAs (m : Message) (drawing : Bool) (m' : Message) : Prop where
  kept : m.KeptAs drawing m'
  picture : drawing = true → m'.picture = m.picture.answered m'.textureId?

variable {m m' m'' : Message} {drawing : Bool}

/-- A message without an icon to upload is only marked. -/
theorem LeftAs.eq_of_icon?_eq_none (h : m.LeftAs drawing m') (hicon : m.picture.icon? = none) :
    m' = { m with everDrawn := m.everDrawn || drawing } := by
  have hpicture : m'.picture = m.picture := by
    cases drawing with
    | false => exact h.kept.picture rfl
    | true => exact (h.picture rfl).trans (Picture.answered_of_icon?_eq_none hicon _)
  rw [h.kept.fields, hpicture]

/-- A second frame leaves the message as the first one did. -/
theorem LeftAs.eq_of_leftAs (h : m.LeftAs drawing m') (h' : m'.LeftAs drawing m'') : m'' = m' := by
  cases drawing with
  | false => rw [h'.kept.fields, h'.kept.picture rfl, Bool.or_false]
  | true =>
    have hicon : m'.picture.icon? = none := by
      rw [h.picture rfl]
      exact Picture.icon?_answered _ _
    have hdrawn : m'.everDrawn = true := by
      rw [h.kept.fields]
      exact Bool.or_true _
    rw [h'.eq_of_icon?_eq_none hicon, Bool.or_true, ← hdrawn]

end Message

theorem Stack.forall₂_draw_leftAs {ρ : Type} (R : Renderer ρ) (stack : Stack)
    (frame : FrameSettings) (canvas : Canvas ρ) :
    List.Forall₂ (fun m m' => m.LeftAs frame.drawing m')
      (stack.toList.filter fun m => m.isPending frame.now)
      (stack.draw R frame canvas).stack.toList :=
  forall₂_draw_of_visits fun _ hv hp =>
    ⟨result_of_mem_passVisits hv hp, picture_of_mem_passVisits hv hp⟩

theorem Stack.pendingMessages_eq (stack : Stack) (now : Reading) :
    stack.pendingMessages now =
      inOrder stack.layout.reversed (stack.toList.filter fun m => m.isPending now) := by
  unfold pendingMessages pendingEntries toList OrderedMap.values
  rw [← inOrder_filter, List.filter_map, ← inOrder_map]
  rfl

/-- What a frame leaves in a stack. -/
theorem Overlay.forall₂_draw_leftAs {ρ : Type} {R : Renderer ρ} {overlay : Overlay} {now : Reading}
    {renderer : ρ} (h : overlay.registry.WellFormed) {name : String} {stack' : Stack}
    (hs' : (overlay.draw R now renderer).overlay.registry.get? name = some stack') :
    ∃ stack, overlay.registry.get? name = some stack ∧
      List.Forall₂ (fun m m' => m.LeftAs overlay.enabled m')
        (stack.toList.filter fun m => m.isPending now) stack'.toList := by
  obtain ⟨t, ht, rfl, rfl⟩ := (get?_draw R h).mp hs'
  exact ⟨t.stack, (Registry.get?_iff_mem h.unnamed).mpr (mem_entries_of_mem_frameTurns R ht),
    t.stack.forall₂_draw_leftAs R (overlay.settings now) t.canvas⟩

theorem Overlay.placements_of_disabled {ρ : Type} (R : Renderer ρ) {overlay : Overlay}
    (henabled : overlay.enabled = false) (now : Reading) (renderer : ρ) :
    (overlay.draw R now renderer).report.placements = [] := by
  have hids : overlay.placedIds R now renderer = [] := by
    rw [placedIds_eq, List.flatMap_eq_nil_iff]
    intro e _
    rw [henabled]
    rfl
  rw [← map_snd_placed, List.map_eq_nil_iff.mp hids]
  rfl

/-! ## All stacks -/

namespace Registry

variable {registry : Registry}

/-- Where nothing is stored, no stack holds a message. -/
theorem toList_eq_nil (hnone : ∀ id, registry.message? id = none) {name : String} {stack : Stack}
    (hs : registry.get? name = some stack) : stack.toList = [] := by
  refine List.map_eq_nil_iff.mpr (List.eq_nil_iff_forall_not_mem.mpr fun e he => ?_)
  have hstored := (message?_of_get? hs e.1).trans (OrderedMap.find?_eq_some_iff.mpr he)
  rw [hnone] at hstored
  cases hstored

variable (h : registry.WellFormed)

include h

/-- Where only the default stack and one more have something, the others can be left out. -/
theorem flatMap_names {β : Type} {target : String} (ht : (registry.get? target).isSome = true)
    {f : String → List β} (hf : ∀ name, name ≠ "" → name ≠ target → f name = []) :
    ("" :: registry.names).flatMap f = f "" ++ if target = "" then [] else f target := by
  have hnames : ∀ name ∈ registry.names, name ≠ "" := fun name hname =>
    ((mem_names_iff h.unnamed).mp hname).1
  rw [List.flatMap_cons]
  congr 1
  split
  · rename_i htarget
    exact List.flatMap_eq_nil_iff.mpr fun name hname =>
      hf name (hnames name hname) (htarget ▸ hnames name hname)
  · rename_i htarget
    have hnodup : (registry.names.map id).Nodup := by
      rw [List.map_id]
      exact registry.named.nodup_keys
    rw [← flatMap_ite_eq hnodup ((mem_names_iff h.unnamed).mpr ⟨htarget, ht⟩) f]
    refine List.flatMap_congr fun name hname => ?_
    split
    · rfl
    · rename_i hne
      exact hf name (hnames name hname) hne

/-- The stored messages, if it is known by name what the stacks hold. -/
theorem messages_eq_flatMap {f : String → List Message}
    (hf : ∀ name stack, registry.get? name = some stack → stack.toList = f name) :
    registry.messages = ("" :: registry.names).flatMap f := by
  have hstacks : registry.allStacks = registry.entries.map Prod.snd := rfl
  have hnames : "" :: registry.names = registry.entries.map Prod.fst := rfl
  unfold messages
  rw [hstacks, hnames, List.flatMap_map, List.flatMap_map]
  exact List.flatMap_congr fun e he => hf e.1 e.2 ((get?_iff_mem h.unnamed).mpr he)

end Registry

end OnScreen
