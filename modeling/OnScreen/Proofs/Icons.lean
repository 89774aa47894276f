import Mathlib.Data.List.Induction
import OnScreen.Proofs.Drawings
import OnScreen.Proofs.Lifetime
import OnScreen.Proofs.Textures

/-!
# An icon is uploaded once

The icon of a message waits for the first frame that draws the message. It is uploaded there, and
what the renderer answers decides about every later frame: a texture is drawn each time, and an icon
that was refused is never tried again. Messages that no frame draws, and messages without an icon,
upload nothing.

Results:
* `Picture.answered`, `drawMessage_picture`: what drawing a message does to its picture.
* `Overlay.drawn`, `Overlay.drawn_calls`: the drawings of a frame, each with the id of its message,
  make all of its calls but the destructions.
* `Session.drawingsIn_cases`: what a step draws of a message, and what it leaves of it.
* `Session.exists_illustrated`: the drawings of a message through a run.
* `Session.icon_uploaded_once`: the calls that a run makes for a message.
-/

namespace OnScreen

variable {ρ : Type} (R : Renderer ρ)

/-! ## The picture of a message -/

/-- The size at which an icon is drawn. -/
def Icon.drawnSize (icon : Icon) : Size Single :=
  ⟨Binary.ofNat icon.width.toNat, Binary.ofNat icon.height.toNat⟩

namespace Picture

/-- What a drawing leaves of a picture, if an upload is answered in this way: an icon that waits
becomes a texture or is dropped, and everything else stays. -/
def answered (picture : Picture) (answer : Option TextureId) : Picture :=
  match picture with
  | absent => absent
  | waiting icon =>
    match answer with
    | some t => uploaded ⟨t, icon.drawnSize⟩
    | none => absent
  | uploaded texture => uploaded texture

/-- No icon waits after a drawing. -/
theorem icon?_answered (picture : Picture) (answer : Option TextureId) :
    (picture.answered answer).icon? = none := by
  cases picture with
  | absent => rfl
  | waiting icon => cases answer <;> rfl
  | uploaded texture => rfl

/-- Where no icon waits, a drawing changes nothing. -/
theorem answered_of_icon?_eq_none {picture : Picture} (h : picture.icon? = none)
    (answer : Option TextureId) : picture.answered answer = picture := by
  cases picture with
  | absent => rfl
  | waiting icon => cases h
  | uploaded texture => rfl

/-- There is no second answer. -/
theorem answered_answered (picture : Picture) (answer answer' : Option TextureId) :
    (picture.answered answer).answered answer' = picture.answered answer :=
  answered_of_icon?_eq_none (picture.icon?_answered answer) answer'

end Picture

theorem uploadIcon_picture (canvas : Canvas ρ) (m : Message) :
    (uploadIcon R canvas m).2.picture =
      m.picture.answered (uploadIcon R canvas m).2.textureId? := by
  rcases uploadIcon_cases R canvas m with ⟨hnone, heq⟩ | ⟨icon, hp, ⟨t, -, heq⟩ | ⟨-, heq⟩⟩
  · rw [heq, Picture.answered_of_icon?_eq_none hnone]
  · rw [heq, hp]
    rfl
  · rw [heq, hp]
    rfl

theorem drawMessage_picture (layout : StackLayout) (viewport : Size Single) (now : Reading)
    (pass : Pass ρ) (m : Message) :
    (drawMessage R layout viewport now pass m).2.picture =
      m.picture.answered (drawMessage R layout viewport now pass m).2.textureId? :=
  uploadIcon_picture R _ m

/-- A drawing marks its message as drawn and uses up its icon. -/
structure Drawing.Answered (d : Drawing) : Prop where
  kept : d.before.KeptAs true d.after
  picture : d.after.picture = d.before.picture.answered d.after.textureId?

/-! ## The drawings of a turn, by key -/

namespace Stack

/-- The drawings of a stack's turn, each with the key of its message. -/
def drawn (stack : Stack) (frame : FrameSettings) (canvas : Canvas ρ) : List (Key × Drawing) :=
  (stack.passVisits R frame canvas).flatMap fun v => v.drawings.map fun d => (v.key, d)

theorem map_snd_drawn (stack : Stack) (frame : FrameSettings) (canvas : Canvas ρ) :
    (stack.drawn R frame canvas).map Prod.snd = stack.drawings R frame canvas := by
  unfold drawn drawings
  rw [List.map_flatMap]
  refine List.flatMap_congr fun v _ => ?_
  rw [List.map_map]
  exact List.map_id _

theorem map_placement_drawn (stack : Stack) (frame : FrameSettings) (canvas : Canvas ρ) :
    (stack.drawn R frame canvas).map (fun e => (e.1, e.2.placement)) =
      stack.placed R frame canvas := by
  unfold drawn placed Visited.drawings
  rw [List.map_flatMap]
  refine List.flatMap_congr fun v _ => ?_
  rw [List.map_map, List.map_map]
  rfl

variable {R} {stack : Stack} {frame : FrameSettings} {canvas : Canvas ρ}

/-- What a frame that draws leaves of the picture of a pending message. -/
theorem picture_of_mem_passVisits {v : Visited (Pass ρ)}
    (hv : v ∈ stack.passVisits R frame canvas) (hpending : v.message.isPending frame.now = true)
    (hdrawing : frame.drawing = true) :
    v.result.picture = v.message.picture.answered v.result.textureId? := by
  unfold Visited.result
  rw [answer_of_mem_passVisits hv]
  rcases visitMessage_cases R frame stack.layout (R.viewport canvas.renderer) v.state v.message
    with ⟨hnot, -⟩ | ⟨-, hnot, -⟩ | ⟨-, -, hvisit⟩
  · rw [hpending] at hnot
    cases hnot
  · rw [hdrawing] at hnot
    cases hnot
  · rw [hvisit]
    exact drawMessage_picture R stack.layout (R.viewport canvas.renderer) frame.now v.state
      v.message

/-- A drawing is of a stored message, as it is before and after the turn. -/
theorem of_mem_drawn {key : Key} {d : Drawing} (h : (key, d) ∈ stack.drawn R frame canvas) :
    (key, d.before) ∈ stack.messages.entries ∧
      (key, d.after) ∈ (stack.draw R frame canvas).stack.messages.entries ∧ d.Answered := by
  obtain ⟨v, hv, h⟩ := List.mem_flatMap.mp h
  obtain ⟨d', hd, heq⟩ := List.mem_map.mp h
  cases heq
  obtain ⟨p, hp, rfl⟩ := List.mem_map.mp hd
  have hdrawn : (v.message.isPending frame.now && frame.drawing) = true := by
    by_contra hnot
    rw [placed_of_not_drawn hv (by simpa using hnot)] at hp
    cases hp
  obtain ⟨hpending, hdrawing⟩ := Bool.and_eq_true_iff.mp hdrawn
  have hkept := result_of_mem_passVisits hv hpending
  rw [hdrawing] at hkept
  exact ⟨(inOrder_perm _ _).mem_iff.mp (mem_of_mem_visits hv),
    (mem_draw_entries R).mpr ⟨v, hv, hpending, rfl, rfl⟩, hkept,
    picture_of_mem_passVisits hv hpending hdrawing⟩

end Stack

/-! ## The drawings of a frame, by id -/

/-- The call destroys a texture. -/
def Call.isDestruction : Call → Bool
  | .destroy _ => true
  | _ => false

/-- Drawing a message destroys nothing. -/
theorem Drawing.filter_calls (d : Drawing) :
    (d.calls.filter fun c => !c.1.isDestruction) = d.calls := by
  rw [List.filter_eq_self]
  intro c hc
  unfold Drawing.calls at hc
  simp only [List.mem_append, List.mem_cons, List.mem_map, List.not_mem_nil, or_false] at hc
  rcases hc with ((rfl | ⟨icon, -, rfl⟩) | ⟨texture, -, rfl⟩) | (rfl | rfl | rfl) <;> rfl

theorem filter_destructions (textures : List TextureId) :
    ((textures.map destruction).filter fun c => !c.1.isDestruction) = [] := by
  rw [List.filter_eq_nil_iff]
  intro c hc
  obtain ⟨t, -, rfl⟩ := List.mem_map.mp hc
  simp [destruction, Call.isDestruction]

namespace Overlay

/-- The drawings of a frame, each with the id of its message. -/
def drawn (overlay : Overlay) (now : Reading) (renderer : ρ) : List (MessageId × Drawing) :=
  (overlay.frameTurns R now renderer).flatMap fun t =>
    (t.stack.drawn R (overlay.settings now) t.canvas).map fun e => (⟨t.name, e.1⟩, e.2)

/-- There is one for each placement. -/
theorem map_placement_drawn (overlay : Overlay) (now : Reading) (renderer : ρ) :
    (overlay.drawn R now renderer).map (fun e => (e.1, e.2.placement)) =
      overlay.placed R now renderer := by
  unfold drawn placed
  rw [List.map_flatMap]
  refine List.flatMap_congr fun t _ => ?_
  rw [← Stack.map_placement_drawn, List.map_map, List.map_map]
  rfl

theorem map_fst_drawn (overlay : Overlay) (now : Reading) (renderer : ρ) :
    (overlay.drawn R now renderer).map Prod.fst = overlay.placedIds R now renderer := by
  unfold placedIds
  rw [← map_placement_drawn, List.map_map]
  rfl

/-- A frame makes the calls of its drawings, and all its other calls destroy textures. -/
theorem drawn_calls (overlay : Overlay) (now : Reading) (renderer : ρ) :
    ((overlay.draw R now renderer).canvas.calls.filter fun c => !c.1.isDestruction) =
      (overlay.drawn R now renderer).flatMap fun e => e.2.calls := by
  unfold drawn
  rw [draw_calls, List.filter_append, filter_destructions, List.nil_append, List.filter_flatMap,
    List.flatMap_assoc]
  refine List.flatMap_congr fun t _ => ?_
  rw [List.filter_append, filter_destructions, List.append_nil, List.filter_flatMap,
    List.flatMap_map, ← Stack.map_snd_drawn, List.flatMap_map]
  exact List.flatMap_congr fun e _ => e.2.filter_calls

variable {R} {overlay : Overlay} {now : Reading} {renderer : ρ}

/-- A drawing is of a stored message, as it is before and after the frame. -/
theorem of_mem_drawn (h : overlay.registry.WellFormed) {id : MessageId} {d : Drawing}
    (hd : (id, d) ∈ overlay.drawn R now renderer) :
    overlay.registry.message? id = some d.before ∧
      (overlay.draw R now renderer).overlay.registry.message? id = some d.after ∧ d.Answered := by
  obtain ⟨t, ht, hd⟩ := List.mem_flatMap.mp hd
  obtain ⟨⟨key, d'⟩, he, heq⟩ := List.mem_map.mp hd
  cases heq
  obtain ⟨hbefore, hafter, hanswered⟩ := Stack.of_mem_drawn he
  have hs := (Registry.get?_iff_mem h.unnamed).mpr (mem_entries_of_mem_frameTurns R ht)
  have hs' := (get?_draw R h).mpr ⟨t, ht, rfl, rfl⟩
  refine ⟨?_, ?_, hanswered⟩
  · rw [Registry.message?_of_get? hs, OrderedMap.find?_eq_some_iff]
    exact hbefore
  · rw [Registry.message?_of_get? hs', OrderedMap.find?_eq_some_iff]
    exact hafter

end Overlay

/-! ## The drawings of one message in a run -/

/-- Of entries with different keys, one has a given key. -/
theorem filter_eq_singleton {α β : Type} [DecidableEq α] {l : List (α × β)} {a : α} {b : β}
    (hnodup : (l.map Prod.fst).Nodup) (h : (a, b) ∈ l) :
    (l.filter fun e => e.1 = a) = [(a, b)] := by
  induction l with
  | nil => cases h
  | cons e l ih =>
    rw [List.map_cons, List.nodup_cons] at hnodup
    rcases List.mem_cons.mp h with rfl | h
    · have hrest : (l.filter fun e => e.1 = a) = [] := by
        rw [List.filter_eq_nil_iff]
        intro e he hea
        exact hnodup.1 (List.mem_map.mpr ⟨e, he, of_decide_eq_true hea⟩)
      rw [List.filter_cons_of_pos (by simp), hrest]
    · have hne : e.1 ≠ a := by
        rintro rfl
        exact hnodup.1 (List.mem_map.mpr ⟨_, h, rfl⟩)
      rw [List.filter_cons_of_neg (by simpa using hne), ih hnodup.2 h]

namespace Session

/-- The drawings that a step makes for the message with the id. -/
def drawingsIn (id : MessageId) (s : Session ρ) (x : Step ρ) : List Drawing :=
  match x.operation with
  | .draw R => ((s.overlay.drawn R x.now s.renderer).filter fun e => e.1 = id).map Prod.snd
  | _ => []

/-- The drawings that a run makes for the message with the id, from the first to the last. -/
def drawings (id : MessageId) (s : Session ρ) : List (Step ρ) → List Drawing
  | [] => []
  | x :: steps => drawingsIn id s x ++ drawings id (s.step x) steps

theorem drawings_append (id : MessageId) (s : Session ρ) (steps steps' : List (Step ρ)) :
    drawings id s (steps ++ steps') = drawings id s steps ++ drawings id (s.run steps) steps' := by
  induction steps generalizing s with
  | nil => rfl
  | cons x steps ih =>
    rw [List.cons_append, drawings, drawings, ih, List.append_assoc]
    rfl

theorem drawings_concat (id : MessageId) (s : Session ρ) (steps : List (Step ρ)) (x : Step ρ) :
    drawings id s (steps ++ [x]) = drawings id s steps ++ drawingsIn id (s.run steps) x := by
  rw [drawings_append, drawings, drawings, List.append_nil]

/-- A step draws the messages that it places. -/
theorem drawingsIn_ne_nil_iff {id : MessageId} {s : Session ρ} {x : Step ρ} :
    drawingsIn id s x ≠ [] ↔ Places id s x := by
  obtain ⟨now, operation⟩ := x
  unfold drawingsIn Places
  cases operation with
  | draw R =>
    constructor
    · intro h
      obtain ⟨d, hd⟩ := List.exists_mem_of_ne_nil _ h
      obtain ⟨e, he, -⟩ := List.mem_map.mp hd
      obtain ⟨he, heq⟩ := List.mem_filter.mp he
      refine ⟨R, rfl, ?_⟩
      rw [← Overlay.map_fst_drawn, List.mem_map]
      exact ⟨e, he, of_decide_eq_true heq⟩
    · rintro ⟨R', hR, hid⟩
      cases hR
      rw [← Overlay.map_fst_drawn, List.mem_map] at hid
      obtain ⟨e, he, heq⟩ := hid
      exact List.ne_nil_of_mem (List.mem_map.mpr
        ⟨e, List.mem_filter.mpr ⟨he, decide_eq_true heq⟩, rfl⟩)
  | _ =>
    refine ⟨fun h => absurd rfl h, ?_⟩
    rintro ⟨R, hR, -⟩
    cases hR

theorem drawings_ne_nil_iff {id : MessageId} {s : Session ρ} {steps : List (Step ρ)} :
    drawings id s steps ≠ [] ↔ s.WasPlaced id steps := by
  induction steps using List.reverseRecOn with
  | nil => exact ⟨fun h => absurd rfl h, fun h => absurd h not_happens_nil⟩
  | append_singleton steps x ih =>
    unfold WasPlaced at ih ⊢
    rw [happens_concat, ← ih, ← drawingsIn_ne_nil_iff, drawings_concat, Ne,
      List.append_eq_nil_iff, not_and_or]

variable {s : Session ρ} {id : MessageId} {x : Step ρ}

/-- A step that queues no message under the id makes one drawing for the message that is stored
there, as it is before and after the step, or it makes none and leaves the picture as it is. -/
theorem drawingsIn_cases (h : s.WellFormed) (hadds : ¬ Adds id s x) :
    (drawingsIn id s x = [] ∧ ∀ m', (s.step x).message? id = some m' →
      ∃ m, s.message? id = some m ∧ m.SameText m' ∧ m'.picture = m.picture) ∨
    ∃ d, drawingsIn id s x = [d] ∧ s.message? id = some d.before ∧
      (s.step x).message? id = some d.after ∧ d.Answered := by
  by_cases hplaces : Places id s x
  · right
    obtain ⟨now, operation⟩ := x
    obtain ⟨R, hR, hid⟩ := hplaces
    cases hR
    rw [← Overlay.map_fst_drawn, List.mem_map] at hid
    obtain ⟨⟨id, d⟩, hd, rfl⟩ := hid
    have hnodup : ((s.overlay.drawn R now s.renderer).map Prod.fst).Nodup := by
      rw [Overlay.map_fst_drawn]
      exact Overlay.nodup_placedIds R h
    refine ⟨d, ?_, Overlay.of_mem_drawn h hd⟩
    show ((s.overlay.drawn R now s.renderer).filter fun e => e.1 = id).map Prod.snd = [d]
    rw [filter_eq_singleton hnodup hd]
    rfl
  · left
    refine ⟨not_not.mp fun hne => hplaces (drawingsIn_ne_nil_iff.mp hne), fun m' hm' => ?_⟩
    obtain ⟨m, hm, hremained⟩ := (adds_or_remained s x h hm').resolve_left hadds
    refine ⟨m, hm, hremained.sameText, ?_⟩
    cases hremained with
    | kept hframe hp hkept =>
      have hdisabled : s.overlay.enabled = false := by
        rw [places_iff h hframe hm hp] at hplaces
        exact Bool.eq_false_iff.mpr hplaces
      exact hkept.picture hdisabled
    | superseded _ _ hafter => exact hafter ▸ rfl
    | same _ _ hafter => exact hafter ▸ rfl

/-! ## The invariant of a run -/

/-- The drawings of a queued message and what is stored of it, if its upload was answered in this
way: the picture is as it was queued until the first drawing, and has its answer from then on. -/
structure Illustrated (m : Message) (answer : Option TextureId) (ds : List Drawing)
    (stored : Option Message) : Prop where
  drawn : ∀ i d, ds[i]? = some d → m.SameText d.before ∧
    d.before.picture = (if i = 0 then m.picture else m.picture.answered answer) ∧
    d.after.picture = m.picture.answered answer
  stored : ∀ m', stored = some m' → m.SameText m' ∧
    m'.picture = if ds = [] then m.picture else m.picture.answered answer

variable {m : Message} {answer : Option TextureId} {ds : List Drawing} {stored : Option Message}

theorem getElem?_concat_cases {α : Type} {l : List α} {a b : α} {i : Nat}
    (h : (l ++ [a])[i]? = some b) : l[i]? = some b ∨ (i = l.length ∧ b = a) := by
  rcases lt_or_ge i l.length with hi | hi
  · rw [List.getElem?_append_left hi] at h
    exact Or.inl h
  · rw [List.getElem?_append_right hi] at h
    obtain ⟨hlast, rfl⟩ := List.getElem?_eq_some_iff.mp h
    simp only [List.length_singleton] at hlast
    exact Or.inr ⟨by omega, List.getElem_singleton _⟩

/-- The first drawing brings the answer. -/
theorem Illustrated.first (h : Illustrated m answer [] stored) {d : Drawing}
    (hbefore : stored = some d.before) (hd : d.Answered) :
    Illustrated m d.after.textureId? [d] (some d.after) := by
  obtain ⟨htext, hpicture⟩ := h.stored _ hbefore
  rw [if_pos rfl] at hpicture
  have hafter : d.after.picture = m.picture.answered d.after.textureId? := by
    rw [← hpicture]
    exact hd.picture
  constructor
  · intro i d' hd'
    rcases getElem?_concat_cases (l := []) hd' with h | ⟨rfl, rfl⟩
    · cases h
    · exact ⟨htext, hpicture, hafter⟩
  · rintro m' ⟨⟩
    exact ⟨htext.trans hd.kept.sameText, hafter⟩

/-- A later drawing finds the answer and leaves it. -/
theorem Illustrated.next (h : Illustrated m answer ds stored) (hne : ds ≠ []) {d : Drawing}
    (hbefore : stored = some d.before) (hd : d.Answered) :
    Illustrated m answer (ds ++ [d]) (some d.after) := by
  obtain ⟨htext, hpicture⟩ := h.stored _ hbefore
  rw [if_neg hne] at hpicture
  have hafter : d.after.picture = m.picture.answered answer := by
    rw [hd.picture, hpicture, Picture.answered_answered]
  constructor
  · intro i d' hd'
    rcases getElem?_concat_cases hd' with hd' | ⟨rfl, rfl⟩
    · exact h.drawn i d' hd'
    · rw [if_neg (List.length_eq_zero_iff.not.mpr hne)]
      exact ⟨htext, hpicture, hafter⟩
  · rintro m' ⟨⟩
    rw [if_neg (List.append_ne_nil_of_left_ne_nil hne _)]
    exact ⟨htext.trans hd.kept.sameText, hafter⟩

/-- The drawings of a message, from the time at which it is stored. -/
theorem exists_illustrated (hwf : s.WellFormed) (hm : s.message? id = some m)
    (steps : List (Step ρ)) :
    ∃ answer, Illustrated m answer (drawings id s steps) ((s.run steps).message? id) := by
  -- from the end of the run, since what a step finds depends on what happened before it
  induction steps using List.reverseRecOn with
  | nil =>
    refine ⟨none, ⟨fun i d hd => (by cases hd), fun m' hm' => ?_⟩⟩
    rw [show (s.run []).message? id = some m from hm] at hm'
    cases hm'
    exact ⟨⟨rfl, rfl, rfl⟩, rfl⟩
  | append_singleton steps x ih =>
    obtain ⟨answer, h⟩ := ih
    have hwf' : (s.run steps).WellFormed := wellFormed_run hwf steps
    have hadds : ¬ Adds id (s.run steps) x :=
      (issued_run hwf (Registry.WellFormed.issued hwf hm) steps).not_adds x
    rw [drawings_concat, run_concat]
    rcases drawingsIn_cases hwf' hadds with
      ⟨hnone, hstored⟩ | ⟨d, hd, hbefore, hafter, hanswered⟩
    · rw [hnone, List.append_nil]
      refine ⟨answer, h.drawn, fun m' hm' => ?_⟩
      obtain ⟨m₀, hm₀, htext, hpicture⟩ := hstored m' hm'
      obtain ⟨htext₀, hpicture₀⟩ := h.stored m₀ hm₀
      exact ⟨htext₀.trans htext, hpicture.trans hpicture₀⟩
    · rw [hd, hafter]
      by_cases hempty : drawings id s steps = []
      · rw [hempty] at h ⊢
        exact ⟨_, h.first hbefore hanswered⟩
      · exact ⟨answer, h.next hempty hbefore hanswered⟩

end Session

/-! ## The calls for a message -/

/-- The calls that draw the message of a request at its place. The first time, the icon is uploaded;
whenever there is a texture for it, that is drawn above the text. -/
def Request.calls (request : Request) (answer : Option TextureId) (first : Bool) (p : Placement) :
    List (Call × Option TextureId) :=
  [(.beginSurface (surfaceName p.stack p.index) p.opacity, none)] ++
    (if first then request.icon.toList.map fun icon => (.upload icon, answer) else []) ++
    (request.icon.toList.flatMap fun icon =>
      answer.toList.map fun t => (.drawImage t icon.drawnSize, none)) ++
    [(.drawText request.text request.color.unpack request.scale, none),
      (.placeSurface (surfaceName p.stack p.index) p.position, none), (.endSurface, none)]

theorem Request.filter_calls (request : Request) (answer : Option TextureId) (first : Bool)
    (p : Placement) :
    ((request.calls answer first p).filter fun c => c.1.isUpload) =
      if first then request.icon.toList.map fun icon => (.upload icon, answer) else [] := by
  unfold calls
  cases first <;> cases request.icon <;> cases answer <;> rfl

/-- The calls of a drawing, by the picture that it finds and the answer that it leaves. -/
theorem Drawing.calls_eq_request {request : Request} {type : MessageType} {now : Reading}
    {answer : Option TextureId} {first : Bool} {d : Drawing}
    (htext : (request.toMessage type now).SameText d.before)
    (hbefore : d.before.picture =
      if first then Picture.ofIcon? request.icon
      else (Picture.ofIcon? request.icon).answered answer)
    (hafter : d.after.picture = (Picture.ofIcon? request.icon).answered answer) :
    d.calls = request.calls answer first d.placement := by
  obtain ⟨htext, hcolor, hscale⟩ := htext
  unfold calls Request.calls surface Message.textureId?
  rw [hbefore, hafter, htext, hcolor, hscale]
  cases first <;> cases request.icon <;> cases answer <;> rfl

namespace Session

/-- A message is not placed before it is queued. -/
theorem drawings_before_queued (renderer : ρ) (steps : List (Step ρ)) (type : MessageType)
    (request : Request) :
    drawings (((start renderer).run steps).overlay.nextId type request) (start renderer) steps =
      [] := by
  by_contra hne
  obtain ⟨past, x, future, rfl, R, -, hplaced⟩ := drawings_ne_nil_iff.mp hne
  have hwf : ((start renderer).run past).WellFormed :=
    wellFormed_run (wellFormed_start renderer) past
  obtain ⟨-, m, hm, -⟩ := (Overlay.mem_placedIds_iff R hwf).mp hplaced
  have hissued := issued_run hwf (Registry.WellFormed.issued hwf hm) (x :: future)
  rw [← run_append] at hissued
  exact Registry.Issued.ne_next hissued _ _ rfl

/-- An icon is uploaded once. Every frame makes the calls of its drawings, one for each placement,
and besides only destroys textures. The message of a queued submission is drawn by the frames that
place it. Its icon is uploaded in the first of these drawings and in no other, if there is one and
the message has an icon; and there is one answer so that every drawing shows the texture, if it is
the answer, once and before the text, and otherwise no image. -/
theorem icon_uploaded_once (renderer : ρ) {before after : List (Step ρ)} {now : Reading}
    {type : MessageType} {request : Request}
    (hqueued : ((start renderer).run before).overlay.Queues now type request) :
    let s := start renderer
    let id := (s.run before).overlay.nextId type request
    let steps := before ++ ⟨now, .submit type request⟩ :: after
    let ds := drawings id s steps
    (∀ past future (R : Renderer ρ) at', steps = past ++ ⟨at', .draw R⟩ :: future →
      let s' := s.run past
      let frame := s'.overlay.draw R at' s'.renderer
      let drawn := s'.overlay.drawn R at' s'.renderer
      (frame.canvas.calls.filter fun c => !c.1.isDestruction) =
          drawn.flatMap (fun e => e.2.calls) ∧
        drawn.map (fun e => e.2.placement) = frame.report.placements ∧
        drawn.map Prod.fst = s'.overlay.placedIds R at' s'.renderer ∧
        (s'.overlay.placedIds R at' s'.renderer).Nodup) ∧
    (ds ≠ [] ↔ s.WasPlaced id steps) ∧
    ∃ answer : Option TextureId,
      ((ds.flatMap Drawing.calls).filter fun c => c.1.isUpload) =
          (if ds = [] then [] else request.icon.toList.map fun icon => (.upload icon, answer)) ∧
        ∀ i d, ds[i]? = some d → d.calls = request.calls answer (i = 0) d.placement := by
  intro s id steps ds
  have hwf : ((s.run before).step ⟨now, .submit type request⟩).WellFormed :=
    wellFormed_step _ _ (wellFormed_run (wellFormed_start renderer) before)
  have hstored : ((s.run before).step ⟨now, .submit type request⟩).message? id =
      some (request.toMessage type now) :=
    Overlay.message?_submit_nextId hqueued
  obtain ⟨answer, h⟩ := exists_illustrated hwf hstored after
  have hds : ds = drawings id ((s.run before).step ⟨now, .submit type request⟩) after := by
    show drawings id s (before ++ _) = _
    rw [drawings_append, drawings_before_queued, List.nil_append]
    rfl
  rw [← hds] at h
  have hcalls : ∀ i d, ds[i]? = some d →
      d.calls = request.calls answer (i = 0) d.placement := by
    intro i d hd
    obtain ⟨htext, hbefore, hafter⟩ := h.drawn i d hd
    refine Drawing.calls_eq_request htext ?_ hafter
    rw [hbefore]
    simp only [decide_eq_true_eq]
    rfl
  refine ⟨?_, drawings_ne_nil_iff, answer, ?_, hcalls⟩
  · intro past future R at' hsteps s' frame drawn
    have hs' : s'.WellFormed := wellFormed_run (wellFormed_start renderer) past
    refine ⟨Overlay.drawn_calls R _ _ _, ?_, Overlay.map_fst_drawn R _ _ _,
      Overlay.nodup_placedIds R hs'⟩
    rw [← Overlay.map_snd_placed, ← Overlay.map_placement_drawn, List.map_map]
    rfl
  · cases hcase : ds with
    | nil => rfl
    | cons d rest =>
      rw [hcase] at hcalls
      have hfirst := hcalls 0 d rfl
      have hrest : ((rest.flatMap Drawing.calls).filter fun c => c.1.isUpload) = [] := by
        rw [List.filter_flatMap, List.flatMap_eq_nil_iff]
        intro d' hd'
        obtain ⟨i, hi⟩ := List.mem_iff_getElem?.mp hd'
        rw [hcalls (i + 1) d' hi, Request.filter_calls]
        rfl
      rw [List.flatMap_cons, List.filter_append, hrest, List.append_nil, hfirst,
        Request.filter_calls, if_neg (List.cons_ne_nil _ _)]
      rfl

/-- A message with an icon is drawn by two frames, with the texture that came of its only upload. -/
theorem pixel_uploaded_once :
    let screen : Headless := { viewport := ⟨Binary.ofNat 640, Binary.ofNat 480⟩ }
    let id : MessageId := ⟨"", ⟨.typeless, 0⟩⟩
    let ds := drawings id (start screen) (pixelDrawn ++ [⟨900, .draw Headless.renderer⟩])
    ds.map (fun d => d.after.textureId?) = [some ⟨1⟩, some ⟨1⟩] ∧
      ∃ answer, ((ds.flatMap Drawing.calls).filter fun c => c.1.isUpload) =
        [(.upload pixel, answer)] := by
  intro screen id ds
  have htextures : ds.map (fun d => d.after.textureId?) = [some ⟨1⟩, some ⟨1⟩] := by
    decide +kernel
  obtain ⟨-, -, answer, huploads, -⟩ := @icon_uploaded_once _ screen []
    [⟨0, .draw Headless.renderer⟩, ⟨900, .draw Headless.renderer⟩] 0 .typeless
    { text := "pixel", duration := 1000, color := Color.green, icon := some pixel } rfl
  have hdrawn : ds ≠ [] := by
    intro h
    rw [h] at htextures
    cases htextures
  exact ⟨htextures, answer, huploads.trans (if_neg hdrawn)⟩

end Session

end OnScreen
