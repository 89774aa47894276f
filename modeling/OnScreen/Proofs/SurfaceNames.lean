import OnScreen.Proofs.Decimal
import OnScreen.Proofs.Drawings
import OnScreen.Proofs.Session

/-!
# The names of surfaces

The name of a surface tells the stack and the place of a message in it. A separator may stand in the
name of the stack as well, but never in the decimal digits of the place: what follows the last
separator is the place.

Results:
* `surfaceName_inj`: a name tells the stack and the place.
* `Overlay.surfaceNames_draw`: a frame opens one surface for each placement, in order.
* `Overlay.nodup_slots_draw`: no two placements of a frame are in one place of a stack.
* `Session.surfaces_told_apart`: the names that a frame uses are all different.
-/

namespace OnScreen

/-! ## Names -/

/-- A list is taken apart in one way only at the last place of an element. -/
theorem append_cons_inj_of_last {α : Type} {front front' back back' : List α} {a : α}
    (hback : a ∉ back) (hback' : a ∉ back') :
    front ++ a :: back = front' ++ a :: back' ↔ front = front' ∧ back = back' := by
  constructor
  · intro h
    rcases List.append_eq_append_iff.mp h with ⟨between, hfront, hrest⟩ | ⟨between, hfront, hrest⟩
    · cases between with
      | nil => exact ⟨by rw [hfront, List.append_nil], (List.cons.inj hrest).2⟩
      | cons b between =>
        obtain ⟨-, rfl⟩ := List.cons.inj hrest
        simp at hback
    · cases between with
      | nil => exact ⟨by rw [hfront, List.append_nil], (List.cons.inj hrest).2.symm⟩
      | cons b between =>
        obtain ⟨-, rfl⟩ := List.cons.inj hrest
        simp at hback'
  · rintro ⟨rfl, rfl⟩
    rfl

theorem toList_surfaceName (stack : String) (index : Nat) :
    (surfaceName stack index).toList =
      ("osd_".toList ++ stack.toList) ++ '_' :: digitsOf index := by
  simp [surfaceName, digitsOf, Nat.toString_eq_repr, Nat.toList_repr]

theorem separator_notMem_digitsOf (n : Nat) : '_' ∉ digitsOf n := by
  intro h
  have hdigit := isDigit_of_mem_digitsOf h
  revert hdigit
  decide

theorem digitsOf_inj {m n : Nat} (h : digitsOf m = digitsOf n) : m = n := by
  have hread := congrArg (fun digits => Nat.ofDigitChars 10 digits 0) h
  simpa [digitsOf] using hread

/-- The name of a surface tells the stack and the place in it. -/
theorem surfaceName_inj {stack stack' : String} {index index' : Nat} :
    surfaceName stack index = surfaceName stack' index' ↔ stack = stack' ∧ index = index' := by
  constructor
  · intro h
    have hchars := congrArg String.toList h
    rw [toList_surfaceName, toList_surfaceName,
      append_cons_inj_of_last (separator_notMem_digitsOf _) (separator_notMem_digitsOf _)] at hchars
    obtain ⟨hstack, hindex⟩ := hchars
    exact ⟨String.toList_inj.mp (List.append_cancel_left hstack), digitsOf_inj hindex⟩
  · rintro ⟨rfl, rfl⟩
    rfl

/-! ## Frames -/

variable {ρ : Type}

/-- The name under which a call opens a surface. -/
def Call.opens? : Call → Option String
  | .beginSurface name _ => some name
  | _ => none

/-- The names under which surfaces were opened on a canvas, in order. -/
def Canvas.surfaceNames (canvas : Canvas ρ) : List String :=
  canvas.calls.filterMap fun c => c.1.opens?

/-- The place of a stack in which a message was drawn. -/
def Placement.slot (p : Placement) : String × Nat :=
  (p.stack, p.index)

/-- A drawing opens its own surface, and no other. -/
theorem Drawing.opens_calls (d : Drawing) :
    d.calls.filterMap (fun c => c.1.opens?) = [d.surface] := by
  unfold Drawing.calls
  cases d.before.picture.icon? <;> cases d.after.picture.texture? <;> simp [Call.opens?]

theorem opens_destructions (textures : List TextureId) :
    (textures.map destruction).filterMap (fun c => c.1.opens?) = [] := by
  simp [destruction, Call.opens?]

namespace Overlay

variable (R : Renderer ρ)

/-- A frame opens one surface for each placement, in the order of the report. -/
theorem surfaceNames_draw (overlay : Overlay) (now : Reading) (renderer : ρ) :
    (overlay.draw R now renderer).canvas.surfaceNames =
      (overlay.draw R now renderer).report.placements.map fun p => surfaceName p.stack p.index := by
  have hturn (t : Turn ρ) :
      ((t.stack.drawings R (overlay.settings now) t.canvas).flatMap Drawing.calls ++
          (textureIds (t.stack.dropped now)).map destruction).filterMap (fun c => c.1.opens?) =
        (t.drawn R (overlay.settings now)).report.placements.map
          fun p => surfaceName p.stack p.index := by
    have hplacements := Stack.map_placement_drawings R t.stack (overlay.settings now) t.canvas
    rw [List.filterMap_append, opens_destructions, List.append_nil, List.filterMap_flatMap]
    simp only [Drawing.opens_calls]
    rw [← List.map_eq_flatMap, show (t.drawn R (overlay.settings now)).report.placements = _ from
      hplacements.symm, List.map_map]
    rfl
  unfold Canvas.surfaceNames
  rw [draw_calls, List.filterMap_append, opens_destructions, List.nil_append,
    List.filterMap_flatMap, draw_placements, List.map_flatMap]
  exact List.flatMap_congr fun t _ => hturn t

/-- No two placements of a frame are in one place of a stack. -/
theorem nodup_slots_draw {overlay : Overlay} (h : overlay.registry.WellFormed) (now : Reading)
    (renderer : ρ) :
    ((overlay.draw R now renderer).report.placements.map Placement.slot).Nodup := by
  have hslots : ∀ name ∈ "" :: overlay.registry.names,
      ((overlay.draw R now renderer).report.forStack name).map Placement.slot =
        (List.range ((overlay.draw R now renderer).report.forStack name).length).map
          fun index => (name, index) := by
    intro name hname
    obtain ⟨e, he, rfl⟩ : ∃ e ∈ overlay.registry.entries, e.1 = name := List.mem_map.mp hname
    have hs := (Registry.get?_iff_mem h.unnamed).mpr he
    rw [← map_index_forStack R hs h, List.map_map]
    refine List.map_congr_left fun p hp => ?_
    have hstack : p.stack = e.1 := of_decide_eq_true (List.mem_filter.mp hp).2
    exact Prod.ext hstack rfl
  rw [← flatMap_forStack R h, List.map_flatMap, List.flatMap_congr hslots, List.nodup_flatMap]
  constructor
  · intro name _
    exact List.nodup_range.map fun i j hij => congrArg Prod.snd hij
  · have hnames : ("" :: overlay.registry.names).Nodup := h.nodup_names
    apply hnames.imp
    intro name name' hne slot hslot hslot'
    obtain ⟨index, -, rfl⟩ := List.mem_map.mp hslot
    obtain ⟨index', -, heq⟩ := List.mem_map.mp hslot'
    exact hne (congrArg Prod.fst heq).symm

end Overlay

/-- Surfaces are told apart by their names. A name belongs to one place of one stack, whatever the
stack is called; and in every frame of a run, over all stacks, the surfaces are opened under
different names, one for each placement, and the placements are in different places. -/
theorem Session.surfaces_told_apart (initial : ρ) (steps : List (Step ρ)) :
    (Function.Injective fun slot : String × Nat => surfaceName slot.1 slot.2) ∧
    ∀ {σ : Type} (R : Renderer σ) (renderer : σ) (now : Reading),
      let frame := ((start initial).run steps).overlay.draw R now renderer
      frame.canvas.surfaceNames =
          frame.report.placements.map (fun p => surfaceName p.stack p.index) ∧
        frame.canvas.surfaceNames.Nodup ∧
        (frame.report.placements.map fun p => (p.stack, p.index)).Nodup := by
  have hname : Function.Injective fun slot : String × Nat => surfaceName slot.1 slot.2 := by
    intro slot slot' h
    obtain ⟨hstack, hindex⟩ := surfaceName_inj.mp h
    exact Prod.ext hstack hindex
  refine ⟨hname, fun R renderer now => ?_⟩
  have hwf : ((start initial).run steps).overlay.registry.WellFormed :=
    wellFormed_run (wellFormed_start initial) steps
  have hslots := Overlay.nodup_slots_draw R hwf now renderer
  have hnames := Overlay.surfaceNames_draw R ((start initial).run steps).overlay now renderer
  refine ⟨hnames, ?_, hslots⟩
  rw [hnames]
  have hnodup := hslots.map hname
  rw [List.map_map] at hnodup
  exact hnodup

end OnScreen
