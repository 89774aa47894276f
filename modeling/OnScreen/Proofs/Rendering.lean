import OnScreen.Proofs.Likeness
import OnScreen.Proofs.Placements
import OnScreen.Renderer.Headless

/-!
# What rendering does not reach

The answers of a renderer decide where messages are placed and what becomes of their icons. Nothing
else depends on them: which messages are stored, what is found of them, and what a frame shows and
removes, is the same for every renderer, and wherever the stacks are placed.

Results:
* `Sense.lifecycle`: two runs may differ in their renderers, in the margins, and in what a layout
  has beside its name and the order of drawing.
* `Stack.Like.draw`, `Stack.Like.map_mark_placements`, `Stack.Like.pruned_eq`: the turn of a stack.
* `Sense.frames_lifecycle`, `Overlay.Like.map_mark_placements`, `Overlay.Like.pruned_eq`: a frame.
* `Session.rendering_independent`: whole runs.
-/

namespace OnScreen

/-- Messages are alike but for their pictures, and layouts but for where they place a stack. -/
def Sense.lifecycle : Sense where
  reading now now' := now = now'
  picture _ _ := True
  layout layout layout' := layout.name = layout'.name ∧ layout.reversed = layout'.reversed
  pixels _ _ := True

theorem Sense.lawful_lifecycle : lifecycle.Lawful where
  elapsed := by
    rintro a _ b _ rfl rfl
    rfl
  picture _ := trivial
  name h := h.1
  unnamed := ⟨rfl, rfl⟩
  pixels := trivial

/-- What a placement says beside the position and the size. -/
def Placement.mark (p : Placement) : String × Nat × String × Single :=
  (p.stack, p.index, p.shown)

/-- Images under relations that keep elements alike are alike. -/
theorem forall₂_images {α β α' β' : Type} {r : α → β → Prop} {f : α → α' → Prop}
    {g : β → β' → Prop} {r' : α' → β' → Prop}
    (h : ∀ {a b a' b'}, r a b → f a a' → g b b' → r' a' b') {as : List α} {bs : List β}
    {as' : List α'} {bs' : List β'} (hr : List.Forall₂ r as bs) (hf : List.Forall₂ f as as')
    (hg : List.Forall₂ g bs bs') : List.Forall₂ r' as' bs' := by
  induction hr generalizing as' bs' with
  | nil =>
    cases hf
    cases hg
    exact .nil
  | cons hhead _ ih =>
    cases hf with
    | cons hf hfs =>
      cases hg with
      | cons hg hgs => exact .cons (h hhead hf hg) (ih hfs hgs)

/-! ## The turn of a stack -/

section

variable {ρ ρ' : Type} (R : Renderer ρ) (R' : Renderer ρ')

namespace Stack.Like

variable {stack stack' : Stack} {frame frame' : FrameSettings} (canvas : Canvas ρ)
  (canvas' : Canvas ρ') (h : stack.Like .lifecycle stack') (hnow : frame.now = frame'.now)

include h hnow

/-- The pending messages correspond. -/
theorem pending : List.Forall₂ (Message.Like .lifecycle)
    (stack.toList.filter fun m => m.isPending frame.now)
    (stack'.toList.filter fun m => m.isPending frame'.now) :=
  forall₂_filter h.messages fun hm => hm.isPending_eq Sense.lawful_lifecycle hnow

/-- As many messages are removed. -/
theorem pruned_eq : (stack.draw R frame canvas).report.pruned =
    (stack'.draw R' frame' canvas').report.pruned := by
  have hcount (stack : Stack) (now : Reading) :
      (stack.messages.entries.filter fun e => !e.2.isPending now).length =
        (stack.toList.filter fun m => !m.isPending now).length := by
    unfold toList OrderedMap.values
    rw [List.filter_map, List.length_map]
    rfl
  have hremoved : List.Forall₂ (Message.Like .lifecycle)
      (stack.toList.filter fun m => !m.isPending frame.now)
      (stack'.toList.filter fun m => !m.isPending frame'.now) :=
    forall₂_filter h.messages fun hm => by rw [hm.isPending_eq Sense.lawful_lifecycle hnow]
  rw [draw_pruned, draw_pruned, hcount, hcount, hremoved.length_eq]

variable (hdrawing : frame.drawing = frame'.drawing)

include hdrawing

/-- What is left of the stacks is alike. -/
theorem draw : (stack.draw R frame canvas).stack.Like .lifecycle
    (stack'.draw R' frame' canvas').stack := by
  have hafter := forall₂_draw R stack frame canvas
  have hafter' := forall₂_draw R' stack' frame' canvas'
  rw [hdrawing] at hafter
  exact ⟨h.layout, forall₂_images (fun hm ha ha' => hm.keptAs ha ha' trivial) (h.pending hnow)
    hafter hafter'⟩

/-- The same is shown. -/
theorem map_shown_placements : (stack.draw R frame canvas).report.placements.map Placement.shown =
    (stack'.draw R' frame' canvas').report.placements.map Placement.shown := by
  cases hd : frame.drawing with
  | false =>
    have hnone {ρ : Type} (R : Renderer ρ) (stack : Stack) {frame : FrameSettings}
        (hd : frame.drawing = false) (canvas : Canvas ρ) :
        (stack.draw R frame canvas).report.placements = [] := by
      have hplaced := map_fst_placed R stack frame canvas
      rw [hd, if_neg Bool.false_ne_true, List.map_eq_nil_iff] at hplaced
      rw [← map_snd_placed, hplaced]
      rfl
    rw [hnone R stack hd, hnone R' stack' (hdrawing ▸ hd)]
  | true =>
    have hshown (stack : Stack) (now : Reading) :
        (stack.pendingEntries now).map (fun e => e.2.shown now) =
          (inOrder stack.layout.reversed
            (stack.toList.filter fun m => m.isPending now)).map fun m => m.shown now := by
      unfold pendingEntries toList OrderedMap.values
      rw [List.filter_map, inOrder_map, inOrder_filter, List.map_map]
      rfl
    rw [Stack.map_shown_placements R stack frame canvas hd,
      Stack.map_shown_placements R' stack' frame' canvas' (hdrawing ▸ hd), hshown, hshown,
      ← h.layout.2, ← List.forall₂_eq_eq_eq, List.forall₂_map_left_iff,
      List.forall₂_map_right_iff]
    refine forall₂_inOrder _ ((h.pending hnow).imp fun m m' hm => ?_)
    unfold Message.shown
    rw [hm.text, hm.opacity_eq Sense.lawful_lifecycle hnow]

/-- The placements are the same but for their positions and sizes. -/
theorem map_mark_placements : (stack.draw R frame canvas).report.placements.map Placement.mark =
    (stack'.draw R' frame' canvas').report.placements.map Placement.mark := by
  have hmark {ρ : Type} (R : Renderer ρ) (stack : Stack) (frame : FrameSettings)
      (canvas : Canvas ρ) :
      (stack.draw R frame canvas).report.placements.map Placement.mark =
        let shown := (stack.draw R frame canvas).report.placements.map Placement.shown
        (List.replicate shown.length stack.name).zip ((List.range shown.length).zip shown) := by
    have hstack : (stack.draw R frame canvas).report.placements.map Placement.stack =
        List.replicate (stack.draw R frame canvas).report.placements.length stack.name := by
      rw [List.eq_replicate_iff, List.length_map]
      refine ⟨rfl, fun name hname => ?_⟩
      obtain ⟨p, hp, rfl⟩ := List.mem_map.mp hname
      exact stack_of_mem_placements R hp
    dsimp only
    rw [List.length_map, ← map_index_placements, ← hstack, List.zip_map', List.zip_map']
    rfl
  have hname : stack.name = stack'.name := h.layout.1
  rw [hmark, hmark, h.map_shown_placements R R' canvas canvas' hnow hdrawing, hname]

end Stack.Like

/-! ## Frames -/

namespace Overlay.Like

variable {overlay overlay' : Overlay} {now now' : Reading} {renderer : ρ} {renderer' : ρ'}
  (h : overlay.Like .lifecycle (fun _ => True) overlay') (hwf : overlay.registry.WellFormed)
  (hwf' : overlay'.registry.WellFormed) (hnow : now = now')

include h hwf hwf'

/-- The turns of the frames correspond. -/
theorem forall₂_frameTurns :
    List.Forall₂ (fun t t' => t.name = t'.name ∧ t.stack.Like .lifecycle t'.stack)
      (overlay.frameTurns R now renderer) (overlay'.frameTurns R' now' renderer') := by
  have hentries := h.registry.forall₂_entries hwf hwf'
  rw [← map_turns R (overlay.settings now) (overlay.startCanvas R renderer)
      overlay.registry.entries,
    ← map_turns R' (overlay'.settings now') (overlay'.startCanvas R' renderer')
      overlay'.registry.entries,
    List.forall₂_map_left_iff, List.forall₂_map_right_iff] at hentries
  exact hentries.imp fun t t' ht => ⟨ht.1, ht.2 trivial⟩

include hnow

theorem pruned_eq : (overlay.draw R now renderer).report.pruned =
    (overlay'.draw R' now' renderer').report.pruned := by
  have hturns : (overlay.frameTurns R now renderer).map
        (fun t => (t.drawn R (overlay.settings now)).report.pruned) =
      (overlay'.frameTurns R' now' renderer').map
        fun t => (t.drawn R' (overlay'.settings now')).report.pruned := by
    rw [← List.forall₂_eq_eq_eq, List.forall₂_map_left_iff, List.forall₂_map_right_iff]
    exact (h.forall₂_frameTurns R R' hwf hwf').imp fun t t' ht =>
      ht.2.pruned_eq R R' t.canvas t'.canvas hnow
  rw [draw_pruned_eq, draw_pruned_eq, hturns]

theorem map_mark_placements : (overlay.draw R now renderer).report.placements.map Placement.mark =
    (overlay'.draw R' now' renderer').report.placements.map Placement.mark := by
  have hturns : (overlay.frameTurns R now renderer).map
        (fun t => (t.drawn R (overlay.settings now)).report.placements.map Placement.mark) =
      (overlay'.frameTurns R' now' renderer').map
        fun t => (t.drawn R' (overlay'.settings now')).report.placements.map Placement.mark := by
    rw [← List.forall₂_eq_eq_eq, List.forall₂_map_left_iff, List.forall₂_map_right_iff]
    exact (h.forall₂_frameTurns R R' hwf hwf').imp fun t t' ht =>
      ht.2.map_mark_placements R R' t.canvas t'.canvas hnow h.enabled
  rw [draw_placements, draw_placements, List.map_flatMap, List.map_flatMap, List.flatMap_def,
    List.flatMap_def, hturns]

end Overlay.Like

/-- Frames leave what is alike but for pictures and places, whoever draws them. -/
theorem Sense.frames_lifecycle :
    lifecycle.Frames (fun _ => True) (fun (_ : Renderer ρ) (_ : Renderer ρ') => True)
      fun _ _ => True := by
  intro overlay overlay' now now' R R' renderer renderer' hwf hwf' h hnow _ _
  refine ⟨⟨h.enabled, trivial, trivial, ?_⟩, trivial⟩
  refine h.registry_draw hwf hwf' fun t ht t' ht' hname hconcerns => ?_
  have hstack := h.stack_of_turns hwf hwf' ht ht' hname hconcerns
  exact hstack.draw R R' t.canvas t'.canvas hnow h.enabled

end

/-! ## Runs -/

namespace Session

variable {ρ ρ' : Type}

/-- Nothing but positions and sizes depends on the rendering. Of two runs that differ in the
renderers of their frames, in the margins, and in what the layouts have beside their names and the
order of drawing, submissions have the same results and questions the same answers; frames remove as
many messages, and place the same texts in the same stacks, in the same order and with the same
opacities. -/
theorem rendering_independent (initial : ρ) (initial' : ρ') {steps : List (Step ρ)}
    {steps' : List (Step ρ')}
    (hsteps : List.Forall₂ (Step.Like .lifecycle fun _ _ => True) steps steps') :
    let overlay := ((start initial).run steps).overlay
    let overlay' := ((start initial').run steps').overlay
    ∀ now : Reading,
      (∀ type request, (overlay.submit now type request).value.2 =
        (overlay'.submit now type request).value.2) ∧
      (∀ stack type text,
        overlay.hasMessage now stack type text = overlay'.hasMessage now stack type text) ∧
      (∀ stack, overlay.messageCount? stack = overlay'.messageCount? stack) ∧
      ∀ {σ σ' : Type} (R : Renderer σ) (R' : Renderer σ') (r : σ) (r' : σ'),
        let report := (overlay.draw R now r).report
        let report' := (overlay'.draw R' now r').report
        report.pruned = report'.pruned ∧
          report.placements.map (fun p => (p.stack, p.index, p.text, p.opacity)) =
            report'.placements.map fun p => (p.stack, p.index, p.text, p.opacity) := by
  intro overlay overlay' now
  have hwf : overlay.registry.WellFormed := wellFormed_run (wellFormed_start initial) steps
  have hwf' : overlay'.registry.WellFormed := wellFormed_run (wellFormed_start initial') steps'
  have hstart : (start initial).Like .lifecycle (fun _ => True) (fun _ _ => True)
      (start initial') := .start Sense.lawful_lifecycle trivial
  have hlike : overlay.Like .lifecycle (fun _ => True) overlay' :=
    (hstart.run (wellFormed_start initial) (wellFormed_start initial') Sense.lawful_lifecycle
      Sense.frames_lifecycle hsteps).overlay
  refine ⟨?_, ?_, ?_, ?_⟩
  · intro type request
    exact hlike.submission_eq hwf hwf' Sense.lawful_lifecycle rfl type trivial
  · intro stack type text
    exact hlike.hasMessage_eq hwf hwf' Sense.lawful_lifecycle rfl trivial type text
  · intro stack
    exact hlike.messageCount?_eq trivial
  · intro σ σ' R R' r r' report report'
    exact ⟨hlike.pruned_eq R R' hwf hwf' rfl, hlike.map_mark_placements R R' hwf hwf' rfl⟩

/-- A message with an icon of one pixel is queued, and a frame is drawn with the given margin. -/
def photoSteps (top : Int32) : List (Step Headless) :=
  [⟨0, .submit .typeless
      { text := "Photo taken"
        duration := 1000
        color := Color.cyan
        icon := some ⟨1, 1, ⟨#[255, 255, 255, 255]⟩⟩ }⟩,
    ⟨0, .obscureTop top⟩, ⟨100, .draw Headless.renderer⟩]

/-- The next frame shows the same on a screen that took the icon and on a narrow one that did
not. -/
theorem photo_shown_alike :
    let screen : Headless := { viewport := ⟨Binary.ofNat 640, Binary.ofNat 480⟩ }
    let narrow : Headless :=
      { viewport := ⟨Binary.ofNat 320, Binary.ofNat 480⟩, failUploads := true }
    let overlay := ((start screen).run (photoSteps 0)).overlay
    let overlay' := ((start narrow).run (photoSteps 20)).overlay
    (overlay.draw Headless.renderer 900 screen).report.placements.map
        (fun p => (p.stack, p.index, p.text, p.opacity)) =
      (overlay'.draw Headless.renderer 900 narrow).report.placements.map
        fun p => (p.stack, p.index, p.text, p.opacity) := by
  intro screen narrow
  have hsteps : List.Forall₂ (Step.Like .lifecycle fun _ _ => True) (photoSteps 0)
      (photoSteps 20) := by
    unfold photoSteps
    refine .cons ⟨rfl, ?_⟩ (.cons ⟨rfl, ?_⟩ (.cons ⟨rfl, ?_⟩ .nil))
    · exact .submit _ _
    · exact .obscureTop trivial
    · exact .draw trivial
  exact ((rendering_independent screen narrow hsteps 900).2.2.2 Headless.renderer
    Headless.renderer screen narrow).2

end Session

end OnScreen
