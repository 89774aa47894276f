import Mathlib.Data.List.DropRight
import Mathlib.Data.List.Infix
import OnScreen.Proofs.Ownership
import OnScreen.Proofs.Surfaces

/-!
# What a headless renderer records

A headless renderer may be called in any order. A block is what happens from the opening of a
surface to the next opening or closing. The kept surfaces are those of the blocks that end with a
closing; a block that ends with another opening is dropped, and what happens outside of all blocks
is not recorded. The textures are numbered, whatever is done with the surfaces.

Results:
* `Headless.openBlock?_begin`, `openBlock?_end`, `openBlock?_concat`: which block is open after a
  history.
* `Headless.current_after`, `surfaces_after`: the open surface and the kept ones are those of
  blocks.
* `Binary.NonNegative.larger`: widths are numbers from zero up.
* `Headless.accounted_after`: the numbers of textures, and which of them are live.
* `Headless.records_blocks`: all of it, for every history.
-/

namespace OnScreen

/-! ## Histories -/

/-- What can be done with a headless renderer. -/
inductive Headless.Use
  | call (call : Call)
  /-- Take the kept surfaces. -/
  | take
  | resize (viewport : Size Single)

namespace Headless.Use

/-- The canvas after a use. -/
def apply (canvas : Canvas Headless) : Use → Canvas Headless
  | call c => canvas.perform Headless.renderer c
  | take => { canvas with renderer := canvas.renderer.takeSurfaces.2 }
  | resize viewport => { canvas with renderer := { canvas.renderer with viewport := viewport } }

/-- The use opens or closes a surface. -/
def isBracket : Use → Bool
  | call (.beginSurface ..) | call .endSurface => true
  | _ => false

/-- The use takes the kept surfaces. -/
def isTake : Use → Bool
  | take => true
  | _ => false

/-- The use tries to upload an image. -/
def isUpload : Use → Bool
  | call (.upload _) => true
  | _ => false

/-- The size of what the use draws, if anything. -/
def drawn? (screen : Headless) : Use → Option (Size Single)
  | call (.drawImage _ size) => some size
  | call (.drawText text _ scale) => some (screen.textSize text scale)
  | _ => none

/-- The text that the use draws, if any, and its color. -/
def text? : Use → Option (String × Rgba)
  | call (.drawText text color _) => some (text, color)
  | _ => none

/-- The size of the image that the use draws, if any. -/
def image? : Use → Option (Size Single)
  | call (.drawImage _ size) => some size
  | _ => none

/-- The position for the surface of a name, if the use gives one. -/
def position? (name : String) : Use → Option (Point Single)
  | call (.placeSurface name' position) => if name = name' then some position else none
  | _ => none

end Headless.Use

namespace Headless

/-- A fresh renderer with the settings of the given one, after a history. -/
def after (screen : Headless) (uses : List Use) : Canvas Headless :=
  uses.foldl Use.apply { renderer := screen.settings }

theorem after_concat (screen : Headless) (uses : List Use) (u : Use) :
    screen.after (uses ++ [u]) = Use.apply (screen.after uses) u := by
  unfold after
  rw [List.foldl_append]
  rfl

/-- Nothing changes how texts are measured. -/
theorem textSize_after (screen : Headless) (uses : List Use) (text : String) (scale : Single) :
    (screen.after uses).renderer.textSize text scale = screen.textSize text scale := by
  have hmetrics : (screen.after uses).renderer.glyphWidth = screen.glyphWidth ∧
      (screen.after uses).renderer.lineHeight = screen.lineHeight := by
    induction uses using List.reverseRecOn with
    | nil => exact ⟨rfl, rfl⟩
    | append_singleton uses u ih =>
      rw [after_concat]
      cases u with
      | call c =>
        have hsettings := (screen.after uses).renderer.settings_perform c
        exact ⟨(congrArg glyphWidth hsettings).trans ih.1,
          (congrArg lineHeight hsettings).trans ih.2⟩
      | take => exact ih
      | resize viewport => exact ih
  unfold textSize
  rw [hmetrics.1, hmetrics.2]

/-! ## Blocks -/

/-- What happened since a surface was opened. -/
structure Block where
  name : String
  opacity : Single
  inner : List Use

/-- The block with one more use. -/
def Block.add (b : Block) (u : Use) : Block :=
  { b with inner := b.inner ++ [u] }

/-- The surface of a block: all texts that were drawn, the color of the last one, the size of the
last image, and the last position that was meant for it. What was drawn is stacked. -/
def Block.surface (screen : Headless) (b : Block) : Surface where
  name := b.name
  opacity := b.opacity
  text := String.join ((b.inner.filterMap Use.text?).map Prod.fst)
  color := ((b.inner.filterMap Use.text?).getLast?.map Prod.snd).getD Rgba.clear
  position := (b.inner.filterMap (Use.position? b.name)).getLast?.getD
    ⟨Binary.zero false, Binary.zero false⟩
  size :=
    { width := ((b.inner.filterMap (Use.drawn? screen)).map Size.width).foldl Binary.larger
        (Binary.zero false)
      height := ((b.inner.filterMap (Use.drawn? screen)).map Size.height).foldl (· + ·)
        (Binary.zero false) }
  image := (b.inner.filterMap Use.image?).getLast?

/-- The block that is open after a history: the last use that opens or closes a surface opens it. -/
def openBlock? (uses : List Use) : Option Block :=
  match (uses.rdropWhile fun u => !u.isBracket).getLast? with
  | some (.call (.beginSurface name opacity)) =>
    some ⟨name, opacity, uses.rtakeWhile fun u => !u.isBracket⟩
  | _ => none

/-- The block that the last use of a history closes, if any. -/
def closedBlock? (uses : List Use) : Option Block :=
  match uses.getLast? with
  | some (.call .endSurface) => openBlock? uses.dropLast
  | _ => none

/-- The blocks that were closed since the kept surfaces were last taken, in order. -/
def keptBlocks (uses : List Use) : List Block :=
  (uses.rtakeWhile fun u => !u.isTake).inits.filterMap fun recent =>
    closedBlock? ((uses.rdropWhile fun u => !u.isTake) ++ recent)

section

variable (uses : List Use) (u : Use)

theorem openBlock?_begin (name : String) (opacity : Single) :
    openBlock? (uses ++ [.call (.beginSurface name opacity)]) = some ⟨name, opacity, []⟩ := by
  unfold openBlock?
  rw [List.rdropWhile_concat_neg _ _ _ (by simp [Use.isBracket]),
    List.rtakeWhile_concat_neg _ _ _ (by simp [Use.isBracket]), List.getLast?_concat]

theorem openBlock?_end : openBlock? (uses ++ [.call .endSurface]) = none := by
  unfold openBlock?
  rw [List.rdropWhile_concat_neg _ _ _ (by simp [Use.isBracket]), List.getLast?_concat]

/-- What neither opens nor closes a surface belongs to the open block. -/
theorem openBlock?_concat (h : u.isBracket = false) :
    openBlock? (uses ++ [u]) = (openBlock? uses).map fun b => b.add u := by
  unfold openBlock?
  rw [List.rdropWhile_concat_pos _ _ _ (by simp [h]),
    List.rtakeWhile_concat_pos _ _ _ (by simp [h])]
  split <;> rfl

theorem closedBlock?_concat :
    closedBlock? (uses ++ [u]) =
      match u with
      | .call .endSurface => openBlock? uses
      | _ => none := by
  unfold closedBlock?
  rw [List.getLast?_concat, List.dropLast_concat]
  split <;> simp_all

theorem keptBlocks_concat :
    keptBlocks (uses ++ [u]) =
      if u.isTake then [] else keptBlocks uses ++ (closedBlock? (uses ++ [u])).toList := by
  unfold keptBlocks
  cases hu : u.isTake with
  | true =>
    have hnone : closedBlock? (uses ++ [u]) = none := by
      rw [closedBlock?_concat]
      cases u with
      | take => rfl
      | call c => cases hu
      | resize viewport => cases hu
    rw [List.rtakeWhile_concat_neg _ _ _ (by simp [hu]),
      List.rdropWhile_concat_neg _ _ _ (by simp [hu])]
    simp [hnone]
  | false =>
    rw [List.rtakeWhile_concat_pos _ _ _ (by simp [hu]),
      List.rdropWhile_concat_pos _ _ _ (by simp [hu]), List.inits_append, List.filterMap_append]
    refine congrArg (_ ++ ·) ?_
    have hall : (uses.rdropWhile fun u => !u.isTake) ++
        ((uses.rtakeWhile fun u => !u.isTake) ++ [u]) = uses ++ [u] := by
      rw [← List.append_assoc, List.rdropWhile_append_rtakeWhile]
    show List.filterMap _ [(uses.rtakeWhile fun u => !u.isTake) ++ [u]] = _
    rw [List.filterMap_cons, hall]
    cases closedBlock? (uses ++ [u]) <;> rfl

end

/-! ## Surfaces -/

section

variable (screen : Headless) (b : Block)

/-- What one more use adds to the surface of a block. -/
theorem surface_add (u : Use) :
    (b.add u).surface screen =
      { name := b.name
        opacity := b.opacity
        text := (u.text?.map fun drawn => (b.surface screen).text ++ drawn.1).getD
          (b.surface screen).text
        color := (u.text?.map Prod.snd).getD (b.surface screen).color
        position := (u.position? b.name).getD (b.surface screen).position
        size := ((u.drawn? screen).map fun size =>
          ((b.surface screen).grow size.width size.height).size).getD (b.surface screen).size
        image := u.image?.or (b.surface screen).image } := by
  have hlast {α : Type} (f : Use → Option α) :
      (b.inner ++ [u]).filterMap f = b.inner.filterMap f ++ (f u).toList := by
    rw [List.filterMap_append, List.filterMap_cons]
    cases f u <;> rfl
  unfold Block.surface Block.add Surface.grow
  simp only [hlast, List.map_append, List.foldl_append, List.getLast?_append, String.join_append]
  refine Surface.mk.injEq .. |>.mpr ⟨rfl, rfl, ?_, ?_, ?_, ?_, ?_⟩
  · cases u.text? <;> simp
  · cases u.text? <;> simp
  · cases u.position? b.name <;> simp
  · cases u.drawn? screen <;> simp
  · cases u.image? <;> simp

end

/-- A use inside of a block changes the open surface by what it adds to the block. -/
theorem current_concat {screen : Headless} {canvas : Canvas Headless} {uses : List Use} {u : Use}
    (h : canvas.renderer.current = (openBlock? uses).map (Block.surface screen))
    (hbracket : u.isBracket = false) {f : Surface → Surface}
    (hcurrent : (Use.apply canvas u).renderer.current = canvas.renderer.current.map f)
    (hadd : ∀ b : Block, (b.add u).surface screen = f (b.surface screen)) :
    (Use.apply canvas u).renderer.current =
      (openBlock? (uses ++ [u])).map (Block.surface screen) := by
  rw [hcurrent, h, openBlock?_concat _ _ hbracket, Option.map_map, Option.map_map]
  exact congrArg (Option.map · _) (funext fun b => (hadd b).symm)

/-- The surface that is open after a history is that of the open block. -/
theorem current_after (screen : Headless) (uses : List Use) :
    (screen.after uses).renderer.current = (openBlock? uses).map (Block.surface screen) := by
  -- by the last use: an opening starts an empty block, an end leaves none open, and any other use
  -- changes the open surface as it changes that of its block
  induction uses using List.reverseRecOn with
  | nil => rfl
  | append_singleton uses u ih =>
    have hmeasure := screen.textSize_after uses
    rw [after_concat]
    generalize screen.after uses = canvas at ih hmeasure ⊢
    have hsame {current : Option Surface} : current = current.map id := Option.map_id_fun ▸ rfl
    cases u with
    | take => exact current_concat ih rfl hsame fun b => surface_add screen b _
    | resize viewport => exact current_concat ih rfl hsame fun b => surface_add screen b _
    | call c =>
      cases c with
      | beginSurface name opacity =>
        rw [openBlock?_begin]
        rfl
      | endSurface =>
        rw [openBlock?_end]
        show canvas.renderer.endSurface.current = none
        unfold endSurface
        cases h : canvas.renderer.current with
        | none => exact h
        | some surface => rfl
      | upload icon =>
        refine current_concat (f := id) ih rfl ?_ fun b => surface_add screen b _
        exact (canvas.renderer.upload_keeps_surfaces _).1.trans hsame
      | destroy texture =>
        refine current_concat (f := id) ih rfl ?_ fun b => surface_add screen b _
        show (canvas.renderer.destroy texture).renderer.current = _
        unfold destroy
        split <;> exact hsame
      | drawImage texture size => exact current_concat ih rfl rfl fun b => surface_add screen b _
      | drawText text color scale =>
        refine current_concat ih rfl rfl fun b => ?_
        rw [surface_add]
        dsimp only
        rw [hmeasure]
        rfl
      | placeSurface name position =>
        refine current_concat (f := fun surface =>
          if surface.name = name then { surface with position := position } else surface)
          ih rfl ?_ fun b => ?_
        · show (canvas.renderer.placeSurface name position).renderer.current = _
          unfold placeSurface
          cases h : canvas.renderer.current with
          | none => exact h
          | some surface =>
            dsimp only
            split
            · rename_i hname
              exact congrArg some (if_pos hname).symm
            · rename_i hname
              exact h.trans (congrArg some (if_neg hname).symm)
        · have hposition : Use.position? b.name (.call (.placeSurface name position)) =
              if b.name = name then some position else none := rfl
          rw [surface_add, hposition]
          show _ = if b.name = name then _ else _
          split <;> rfl

/-- The surfaces that are kept after a history are those of the blocks that were closed. -/
theorem surfaces_after (screen : Headless) (uses : List Use) :
    (screen.after uses).renderer.surfaces = (keptBlocks uses).map (Block.surface screen) := by
  induction uses using List.reverseRecOn with
  | nil => rfl
  | append_singleton uses u ih =>
    have hcurrent := screen.current_after uses
    rw [after_concat, keptBlocks_concat, closedBlock?_concat]
    generalize screen.after uses = canvas at ih hcurrent ⊢
    have hsame : canvas.renderer.surfaces =
        (keptBlocks uses ++ (none : Option Block).toList).map (Block.surface screen) := by
      rw [ih]
      exact congrArg (List.map _) (List.append_nil _).symm
    cases u with
    | take => rfl
    | resize viewport => exact hsame
    | call c =>
      cases c with
      | beginSurface name opacity => exact hsame
      | upload icon => exact (canvas.renderer.upload_keeps_surfaces _).2.1.trans hsame
      | drawImage texture size => exact hsame
      | drawText text color scale => exact hsame
      | placeSurface name position =>
        show (canvas.renderer.placeSurface name position).renderer.surfaces = _
        unfold placeSurface
        cases canvas.renderer.current with
        | none => exact hsame
        | some surface =>
          dsimp only
          split <;> exact hsame
      | endSurface =>
        show canvas.renderer.endSurface.surfaces =
          (keptBlocks uses ++ (openBlock? uses).toList).map (Block.surface screen)
        unfold endSurface
        rw [hcurrent, List.map_append, ← ih]
        cases openBlock? uses with
        | none => exact (List.append_nil _).symm
        | some b => rfl
      | destroy texture =>
        show (canvas.renderer.destroy texture).renderer.surfaces = _
        unfold destroy
        split <;> exact hsame

end Headless

/-! ## Widths -/

namespace Binary

variable {F : BinaryFormat}

/-- A number from zero up, or infinity. Both zeros are among these. -/
def NonNegative (x : Binary F) : Prop :=
  x ≠ .nan ∧ less x (zero false) = false

theorem finite_less_eq_false_iff {s t : Bool} {m n : Nat} {e f : Int} {hm : F.Canonical m e}
    {hn : F.Canonical n f} :
    less (finite s m e hm) (finite t n f hn) = false ↔
      (finite t n f hn).toRat ≤ (finite s m e hm).toRat := by
  rw [Bool.eq_false_iff, ← Rat.not_lt]
  exact Iff.rfl

/-- What is not below a number from zero up is such a number itself. -/
theorem NonNegative.of_not_less {x y : Binary F} (hx : x.NonNegative) (hy : y ≠ .nan)
    (h : less y x = false) : y.NonNegative := by
  refine ⟨hy, ?_⟩
  cases x with
  | nan => exact absurd rfl hx.1
  | infinite s =>
    have hs : s = false := hx.2
    subst hs
    cases y with
    | nan => exact absurd rfl hy
    | infinite t => exact (Bool.and_true t).symm.trans h
    | finite t n f hn => cases h
  | finite s m e hm =>
    cases y with
    | nan => exact absurd rfl hy
    | infinite t => exact h
    | finite t n f hn =>
      have hzero := finite_less_eq_false_iff.mp hx.2
      exact finite_less_eq_false_iff.mpr (Rat.le_trans hzero (finite_less_eq_false_iff.mp h))

/-- The larger of a number from zero up and anything else is such a number. -/
theorem NonNegative.larger {x : Binary F} (hx : x.NonNegative) (y : Binary F) :
    (larger x y).NonNegative := by
  unfold Binary.larger
  split
  · exact absurd rfl hx.1
  · exact hx
  · rename_i hnan
    split
    · exact hx
    · rename_i hless
      exact hx.of_not_less hnan (Bool.eq_false_iff.mpr hless)

theorem NonNegative.foldl_larger {x : Binary F} (hx : x.NonNegative) (ys : List (Binary F)) :
    (ys.foldl Binary.larger x).NonNegative := by
  induction ys generalizing x with
  | nil => exact hx
  | cons y ys ih => exact ih (hx.larger y)

theorem nonNegative_zero : (zero false : Single).NonNegative :=
  ⟨nofun, finite_less_eq_false_iff.mpr Rat.le_refl⟩

end Binary

namespace Headless

theorem Block.nonNegative_width (screen : Headless) (b : Block) :
    (b.surface screen).size.width.NonNegative :=
  Binary.nonNegative_zero.foldl_larger _

end Headless

/-! ## Calls without a surface -/

/-- The call is about the open surface. -/
def Call.needsSurface : Call → Bool
  | .drawImage .. | .drawText .. | .placeSurface .. | .endSurface => true
  | _ => false

/-- Without an open surface, calls about one change nothing. -/
theorem Headless.perform_of_closed {r : Headless} (h : r.current = none) {c : Call}
    (hc : c.needsSurface = true) : (r.perform c).renderer = r := by
  obtain ⟨⟩ := r
  dsimp only at h
  subst h
  cases c with
  | drawImage texture size => rfl
  | drawText text color scale => rfl
  | placeSurface name position => rfl
  | endSurface => rfl
  | beginSurface name opacity => cases hc
  | upload icon => cases hc
  | destroy texture => cases hc

/-! ## Textures -/

section

variable {ρ : Type} {trace : List TraceEntry} {t : TextureId}

/-- What the last entry of a trace means for a texture. -/
theorem live_concat_iff {e : TraceEntry} :
    Live (trace ++ [e]) t ↔
      (∃ icon, e = .call (.upload icon) (some t)) ∨
        (Live trace t ∧ ∀ answer, e ≠ .call (.destroy t) answer) := by
  constructor
  · rintro ⟨before, icon, since, h, hsince⟩
    rcases List.eq_nil_or_concat since with rfl | ⟨since, last, rfl⟩
    · obtain ⟨-, he⟩ := List.append_inj' h rfl
      exact Or.inl ⟨icon, List.singleton_inj.mp he⟩
    · rw [List.concat_eq_append] at h hsince
      rw [← List.cons_append, ← List.append_assoc] at h
      obtain ⟨htrace, he⟩ := List.append_inj' h rfl
      obtain rfl := List.singleton_inj.mp he
      refine Or.inr ⟨⟨before, icon, since, htrace, ?_⟩, ?_⟩
      · exact fun answer hmem => hsince answer (List.mem_append_left _ hmem)
      · rintro answer rfl
        exact hsince answer (List.mem_append_right _ List.mem_cons_self)
  · rintro (⟨icon, rfl⟩ | ⟨hlive, he⟩)
    · exact ⟨trace, icon, [], rfl, by simp⟩
    · exact hlive.concat he

/-- Entries that are no calls leave live what was. -/
theorem live_append_iff {entries : List TraceEntry}
    (hcalls : ∀ e ∈ entries, ∀ c answer, e ≠ .call c answer) :
    Live (trace ++ entries) t ↔ Live trace t := by
  induction entries using List.reverseRecOn with
  | nil => rw [List.append_nil]
  | append_singleton entries e ih =>
    obtain ⟨hbefore, he⟩ := List.forall_mem_append.mp hcalls
    have hlast := he e (List.mem_singleton_self e)
    rw [← List.append_assoc]
    refine live_concat_iff.trans (Iff.trans ⟨?_, fun h => Or.inr ⟨h, ?_⟩⟩ (ih hbefore))
    · rintro (⟨icon, h⟩ | ⟨h, -⟩)
      · exact absurd h (hlast _ _)
      · exact h
    · exact fun answer => hlast _ _

/-- A call makes the texture live that it is answered with, and destroys the one that it names. -/
theorem live_perform_iff (R : Renderer ρ) (canvas : Canvas ρ) (c : Call) :
    Live (canvas.perform R c).trace t ↔
      (∃ icon, c = .upload icon ∧ (R.perform canvas.renderer c).texture = some t) ∨
        (Live canvas.trace t ∧ c ≠ .destroy t) := by
  have htrace : (canvas.perform R c).trace =
      (canvas.trace ++ [.call c (R.perform canvas.renderer c).texture]) ++
        (R.perform canvas.renderer c).entries := by
    rw [List.append_assoc]
    rfl
  have hcalls : ∀ e ∈ (R.perform canvas.renderer c).entries, ∀ c answer, e ≠ .call c answer := by
    rintro e he c answer rfl
    rcases Response.of_mem_entries he with ⟨failure, heq⟩ | ⟨event, -, heq⟩ <;> cases heq
  rw [htrace, live_append_iff hcalls, live_concat_iff]
  simp

theorem Live.mem_uploaded (h : Live trace t) : t ∈ TraceEntry.uploaded trace := by
  obtain ⟨before, icon, since, rfl, -⟩ := h
  simp [TraceEntry.uploaded]

end

namespace Headless

/-- The textures of a renderer go by what happened: no number was handed out twice, and the live
textures are those that were handed out and not destroyed since. -/
structure Accounted (canvas : Canvas Headless) : Prop where
  nodup : (TraceEntry.uploaded canvas.trace).Nodup
  fresh : ∀ t ∈ TraceEntry.uploaded canvas.trace, t.number < canvas.renderer.nextTexture
  live : ∀ t, t ∈ canvas.renderer.liveTextures ↔ Live canvas.trace t
  once : canvas.renderer.liveTextures.Nodup

namespace Accounted

variable {canvas : Canvas Headless}

theorem upload (h : Accounted canvas) (icon : Icon) :
    Accounted (canvas.perform Headless.renderer (.upload icon)) := by
  have hup := TraceEntry.uploaded_perform Headless.renderer canvas (.upload icon)
  have hlive t := live_perform_iff (t := t) Headless.renderer canvas (.upload icon)
  have hrenderer : (canvas.perform Headless.renderer (.upload icon)).renderer =
      (canvas.renderer.upload icon).renderer := rfl
  have htexture : (Headless.renderer.perform canvas.renderer (.upload icon)).texture =
      (canvas.renderer.upload icon).texture := rfl
  -- either nothing is handed out, or the next number, which is beyond all that were
  rcases (canvas.renderer.upload_cases icon).2 with
    ⟨hanswer, htextures, hnext⟩ | ⟨hanswer, htextures, hnext⟩
  · rw [htexture, hanswer] at hup
    have hsame : TraceEntry.uploaded (canvas.perform Headless.renderer (.upload icon)).trace =
        TraceEntry.uploaded canvas.trace := hup.trans (List.append_nil _)
    refine ⟨?_, ?_, fun t => ?_, ?_⟩
    · rw [hsame]
      exact h.nodup
    · rw [hsame, hrenderer, hnext]
      exact h.fresh
    · rw [hlive, hrenderer, htextures, htexture, hanswer, h.live]
      simp
    · rw [hrenderer, htextures]
      exact h.once
  · rw [htexture, hanswer] at hup
    have hnew : TraceEntry.uploaded (canvas.perform Headless.renderer (.upload icon)).trace =
        TraceEntry.uploaded canvas.trace ++ [⟨canvas.renderer.nextTexture⟩] := hup
    have hunused : ⟨canvas.renderer.nextTexture⟩ ∉ TraceEntry.uploaded canvas.trace :=
      fun hmem => Nat.lt_irrefl _ (h.fresh _ hmem)
    refine ⟨?_, ?_, fun t => ?_, ?_⟩
    · rw [hnew, (List.perm_append_singleton _ _).nodup_iff]
      exact List.nodup_cons.mpr ⟨hunused, h.nodup⟩
    · rw [hnew, hrenderer, hnext]
      intro t ht
      rcases List.mem_append.mp ht with ht | ht
      · exact Nat.lt_succ_of_lt (h.fresh t ht)
      · rw [List.mem_singleton.mp ht]
        exact Nat.lt_succ_self _
    · rw [hlive, hrenderer, htextures, htexture, hanswer, List.mem_append, List.mem_singleton,
        h.live]
      constructor
      · rintro (ht | rfl)
        · exact Or.inr ⟨ht, nofun⟩
        · exact Or.inl ⟨icon, rfl, rfl⟩
      · rintro (⟨-, -, ht⟩ | ⟨ht, -⟩)
        · exact Or.inr (Option.some_inj.mp ht).symm
        · exact Or.inl ht
    · rw [hrenderer, htextures, (List.perm_append_singleton _ _).nodup_iff]
      exact List.nodup_cons.mpr ⟨fun hmem => hunused ((h.live _).mp hmem).mem_uploaded, h.once⟩

theorem destroy (h : Accounted canvas) (texture : TextureId) :
    Accounted (canvas.perform Headless.renderer (.destroy texture)) := by
  have hup : TraceEntry.uploaded (canvas.perform Headless.renderer (.destroy texture)).trace =
      TraceEntry.uploaded canvas.trace :=
    (TraceEntry.uploaded_perform Headless.renderer canvas _).trans (List.append_nil _)
  have hlive t := live_perform_iff (t := t) Headless.renderer canvas (.destroy texture)
  have hrenderer : (canvas.perform Headless.renderer (.destroy texture)).renderer =
      (canvas.renderer.destroy texture).renderer := rfl
  have hnext : (canvas.renderer.destroy texture).renderer.nextTexture =
      canvas.renderer.nextTexture := by
    unfold Headless.destroy
    split <;> rfl
  have htextures : (canvas.renderer.destroy texture).renderer.liveTextures =
      canvas.renderer.liveTextures.filter fun t => decide (t ≠ texture) := by
    by_cases hmem : texture ∈ canvas.renderer.liveTextures
    · rw [canvas.renderer.destroy_of_mem hmem]
    · unfold Headless.destroy
      rw [if_neg fun hcontains => hmem (List.contains_iff_mem.mp hcontains)]
      refine (List.filter_eq_self.mpr fun t ht => decide_eq_true ?_).symm
      rintro rfl
      exact hmem ht
  refine ⟨?_, ?_, fun t => ?_, ?_⟩
  · rw [hup]
    exact h.nodup
  · rw [hup, hrenderer, hnext]
    exact h.fresh
  · rw [hlive, hrenderer, htextures, List.mem_filter, h.live, decide_eq_true_eq]
    simp [eq_comm]
  · rw [hrenderer, htextures]
    exact h.once.filter _

theorem perform (h : Accounted canvas) (c : Call) :
    Accounted (canvas.perform Headless.renderer c) := by
  by_cases hupload : ∃ icon, c = .upload icon
  · obtain ⟨icon, rfl⟩ := hupload
    exact h.upload icon
  by_cases hdestroy : ∃ texture, c = .destroy texture
  · obtain ⟨texture, rfl⟩ := hdestroy
    exact h.destroy texture
  · have hno_upload : ∀ icon, c ≠ .upload icon := fun icon hc => hupload ⟨icon, hc⟩
    have hno_destroy : ∀ t, c ≠ .destroy t := fun t hc => hdestroy ⟨t, hc⟩
    obtain ⟨htextures, hnext, -⟩ := canvas.renderer.perform_other hno_upload hno_destroy
    have hrenderer : (canvas.perform Headless.renderer c).renderer =
        (canvas.renderer.perform c).renderer := rfl
    have hnone : TraceEntry.uploaded [.call c (canvas.renderer.perform c).texture] = [] := by
      cases c with
      | upload icon => exact absurd rfl (hno_upload icon)
      | _ => rfl
    have hup : TraceEntry.uploaded (canvas.perform Headless.renderer c).trace =
        TraceEntry.uploaded canvas.trace := by
      refine (TraceEntry.uploaded_perform Headless.renderer canvas c).trans ?_
      exact (congrArg (_ ++ ·) hnone).trans (List.append_nil _)
    refine ⟨?_, ?_, fun t => ?_, ?_⟩
    · rw [hup]
      exact h.nodup
    · rw [hup, hrenderer, hnext]
      exact h.fresh
    · rw [hrenderer, htextures, live_perform_iff, h.live]
      simp [hno_upload, hno_destroy]
    · rw [hrenderer, htextures]
      exact h.once

theorem apply (h : Accounted canvas) (u : Use) : Accounted (u.apply canvas) := by
  cases u with
  | call c => exact h.perform c
  | take => exact ⟨h.nodup, h.fresh, h.live, h.once⟩
  | resize viewport => exact ⟨h.nodup, h.fresh, h.live, h.once⟩

end Accounted

/-- The textures go by what happened, after every history. -/
theorem accounted_after (screen : Headless) (uses : List Use) :
    Accounted (screen.after uses) := by
  induction uses using List.reverseRecOn with
  | nil =>
    refine ⟨List.nodup_nil, fun t ht => absurd ht List.not_mem_nil, fun t => ?_, List.nodup_nil⟩
    refine ⟨fun ht => absurd ht List.not_mem_nil, ?_⟩
    rintro ⟨before, icon, since, h, -⟩
    exact absurd h (by simp [after])
  | append_singleton uses u ih =>
    rw [after_concat]
    exact ih.apply u

/-- Every attempt to upload an image is counted. -/
theorem uploads_after (screen : Headless) (uses : List Use) :
    (screen.after uses).renderer.uploads = uses.countP Use.isUpload := by
  induction uses using List.reverseRecOn with
  | nil => rfl
  | append_singleton uses u ih =>
    rw [after_concat, List.countP_append, ← ih]
    generalize screen.after uses = canvas
    cases u with
    | take => rfl
    | resize viewport => rfl
    | call c =>
      show (canvas.renderer.perform c).renderer.uploads = _
      cases c with
      | beginSurface name opacity => rfl
      | drawImage texture size => rfl
      | drawText text color scale => rfl
      | upload icon =>
        unfold perform upload
        dsimp only
        split <;> rfl
      | placeSurface name position =>
        unfold perform placeSurface
        cases canvas.renderer.current with
        | none => rfl
        | some surface =>
          dsimp only
          split <;> rfl
      | endSurface =>
        unfold perform endSurface
        cases canvas.renderer.current <;> rfl
      | destroy texture =>
        unfold perform destroy
        dsimp only
        split <;> rfl

/-! ## Results -/

/-- After every history of a fresh renderer, the open surface is that of the open block, and the
kept surfaces are those of the blocks that were closed since surfaces were last taken, in order. All
their widths are numbers from zero up. Without an open surface, the calls about one change nothing.
Every attempt to upload an image is counted, no two uploads are answered with the same texture, and
the live textures are those that were handed out and not destroyed since, each once. To destroy any
other texture changes nothing, and is reported. -/
theorem records_blocks (screen : Headless) (uses : List Use) :
    let canvas := screen.after uses
    let r := canvas.renderer
    r.current = (openBlock? uses).map (Block.surface screen) ∧
      r.takeSurfaces.1 = (keptBlocks uses).map (Block.surface screen) ∧
      (∀ surface ∈ r.current.toList ++ r.surfaces, surface.size.width.NonNegative) ∧
      (r.current = none → ∀ c : Call, c.needsSurface = true → (r.perform c).renderer = r) ∧
      r.uploads = uses.countP Use.isUpload ∧
      (TraceEntry.uploaded canvas.trace).Nodup ∧
      (∀ t, t ∈ r.liveTextures ↔ Live canvas.trace t) ∧ r.liveTextures.Nodup ∧
      ∀ t, ¬ Live canvas.trace t →
        r.perform (.destroy t) = { renderer := r, events := [.unknownTexture t] } := by
  intro canvas r
  have hcurrent : r.current = _ := screen.current_after uses
  have hsurfaces : r.surfaces = _ := screen.surfaces_after uses
  have haccounted := screen.accounted_after uses
  refine ⟨hcurrent, hsurfaces, ?_, fun hclosed c => perform_of_closed hclosed,
    screen.uploads_after uses, haccounted.nodup, haccounted.live, haccounted.once, ?_⟩
  · intro surface hmem
    have hblock : ∃ b : Block, b.surface screen = surface := by
      rw [hcurrent, hsurfaces] at hmem
      rcases List.mem_append.mp hmem with hmem | hmem
      · obtain ⟨b, -, hb⟩ := Option.map_eq_some_iff.mp (Option.mem_toList.mp hmem)
        exact ⟨b, hb⟩
      · obtain ⟨b, -, hb⟩ := List.mem_map.mp hmem
        exact ⟨b, hb⟩
    obtain ⟨b, rfl⟩ := hblock
    exact b.nonNegative_width screen
  · intro t ht
    exact if_neg fun hcontains =>
      ht ((haccounted.live t).mp (List.contains_iff_mem.mp hcontains))

example :
    let screen : Headless := { viewport := ⟨Binary.ofNat 640, Binary.ofNat 480⟩ }
    let draw (text : String) : Use := .call (.drawText text Rgba.clear (Binary.ofNat 1))
    let opening (name : String) : Use := .call (.beginSurface name (Binary.ofNat 1))
    let history := [draw "early", opening "dropped", draw "lost", opening "kept", draw "a",
      draw "b", .call .endSurface, draw "late", .call .endSurface]
    ((screen.after history).renderer.surfaces.map fun s => (s.name, s.text)) =
      [("kept", "ab")] := by
  decide +kernel

end Headless

end OnScreen
