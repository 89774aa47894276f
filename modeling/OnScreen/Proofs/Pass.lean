import OnScreen.Frame
import OnScreen.Proofs.Expiry
import OnScreen.Proofs.Walk

/-!
# The pass of a frame over a stack

A frame visits every message of a stack once. It removes the messages that are not pending, and if
it draws, it draws each of the others and adds one placement for it. Which messages are removed,
kept and drawn depends on the messages and the reading alone, never on what the renderer answers.

Results:
* `uploadIcon_cases`, `visitMessage_cases`: what the upload of an icon and what one visit can do.
* `map_fst_placed`, `map_snd_placed`: the placements of the report, each with the key of the message
  it is for; the keys are those of the pending messages.
* `draw_keys`, `mem_draw_entries`, `draw_pruned`: what the pass leaves of a stack.
-/

namespace OnScreen

variable {ρ : Type} (R : Renderer ρ)

/-! ## One visit -/

/-- What a frame leaves of a message that it keeps: a frame that draws marks it as drawn, and only
then the icon may be used up. -/
structure Message.KeptAs (m : Message) (drawing : Bool) (m' : Message) : Prop where
  fields : m' = { m with picture := m'.picture, everDrawn := m.everDrawn || drawing }
  picture : drawing = false → m'.picture = m.picture

theorem Message.KeptAs.type {m m' : Message} {drawing : Bool} (h : m.KeptAs drawing m') :
    m'.type = m.type := by
  rw [h.fields]

theorem Message.KeptAs.isLive {m m' : Message} {drawing : Bool} (h : m.KeptAs drawing m') :
    m'.isLive = m.isLive := by
  rw [h.fields]
  rfl

/-- The messages show the same text in the same way. -/
structure Message.SameText (m m' : Message) : Prop where
  text : m'.text = m.text
  color : m'.color = m.color
  scale : m'.scale = m.scale

theorem Message.KeptAs.sameText {m m' : Message} {drawing : Bool} (h : m.KeptAs drawing m') :
    m.SameText m' := by
  rw [h.fields]
  exact ⟨rfl, rfl, rfl⟩

theorem Message.SameText.trans {m m' m'' : Message} (h : m.SameText m') (h' : m'.SameText m'') :
    m.SameText m'' :=
  ⟨h'.text.trans h.text, h'.color.trans h.color, h'.scale.trans h.scale⟩

/-- An icon that waits is uploaded, and its texture takes its place. If that fails, the icon is
dropped, which is reported. -/
theorem uploadIcon_cases (canvas : Canvas ρ) (m : Message) :
    (m.picture.icon? = none ∧ uploadIcon R canvas m = (canvas, m)) ∨
      ∃ icon, m.picture = .waiting icon ∧
        ((∃ t, (canvas.upload R icon).2 = some t ∧
            uploadIcon R canvas m = ((canvas.upload R icon).1,
              { m with
                picture := .uploaded
                  ⟨t, ⟨Binary.ofNat icon.width.toNat, Binary.ofNat icon.height.toNat⟩⟩ })) ∨
          ((canvas.upload R icon).2 = none ∧
            uploadIcon R canvas m =
              ((canvas.upload R icon).1.report (.uploadFailed icon.width icon.height m.text),
                { m with picture := .absent }))) := by
  unfold uploadIcon
  cases m.picture with
  | absent => exact Or.inl ⟨rfl, rfl⟩
  | uploaded texture => exact Or.inl ⟨rfl, rfl⟩
  | waiting icon =>
    refine Or.inr ⟨icon, rfl, ?_⟩
    dsimp only
    rcases canvas.upload R icon with ⟨canvas', _ | t⟩
    · exact Or.inr ⟨rfl, rfl⟩
    · exact Or.inl ⟨t, rfl, rfl⟩

theorem uploadIcon_fields (canvas : Canvas ρ) (m : Message) :
    (uploadIcon R canvas m).2 = { m with picture := (uploadIcon R canvas m).2.picture } := by
  rcases uploadIcon_cases R canvas m with ⟨-, heq⟩ | ⟨icon, -, ⟨t, -, heq⟩ | ⟨-, heq⟩⟩ <;>
    rw [heq]

theorem drawMessage_keptAs (layout : StackLayout) (viewport : Size Single) (now : Reading)
    (pass : Pass ρ) (m : Message) :
    m.KeptAs true (drawMessage R layout viewport now pass m).2 := by
  constructor
  · unfold drawMessage
    simp only [Message.markDrawn]
    rw [uploadIcon_fields]
    simp
  · intro h
    cases h

/-- Drawing a message adds one placement, with the text of the message and its opacity. -/
theorem drawMessage_placements (layout : StackLayout) (viewport : Size Single) (now : Reading)
    (pass : Pass ρ) (m : Message) :
    ∃ p : Placement, (drawMessage R layout viewport now pass m).1.placements =
        pass.placements ++ [p] ∧
      p.stack = layout.name ∧ p.index = pass.placements.length ∧ p.text = m.text ∧
      p.opacity = m.opacity (m.timeLeft now) := by
  refine ⟨_, rfl, rfl, rfl, ?_, rfl⟩
  show (uploadIcon R _ m).2.text = m.text
  rw [uploadIcon_fields]

/-- A message that is not pending is removed and left alone; a pending one is kept, and drawn if the
frame draws. -/
theorem visitMessage_cases (frame : FrameSettings) (layout : StackLayout) (viewport : Size Single)
    (pass : Pass ρ) (m : Message) :
    (m.isPending frame.now = false ∧
      ∃ e, (e = .expiredDropped m.text ∨ e = .supersededDropped m.text) ∧
        visitMessage R frame layout viewport pass m =
          ({ pass with canvas := pass.canvas.report e }, m, .remove)) ∨
    (m.isPending frame.now = true ∧ frame.drawing = false ∧
      visitMessage R frame layout viewport pass m = (pass, m, .keep)) ∨
    (m.isPending frame.now = true ∧ frame.drawing = true ∧
      visitMessage R frame layout viewport pass m =
        ((drawMessage R layout viewport frame.now pass m).1,
          (drawMessage R layout viewport frame.now pass m).2, .keep)) := by
  have hpending := @Message.fate_eq_pending_iff m frame.now
  unfold visitMessage
  cases hf : m.fate frame.now with
  | expired =>
    rw [hf] at hpending
    exact Or.inl ⟨by simpa using hpending, _, Or.inl rfl, rfl⟩
  | superseded =>
    rw [hf] at hpending
    exact Or.inl ⟨by simpa using hpending, _, Or.inr rfl, rfl⟩
  | pending =>
    have hm := hpending.mp hf
    cases hd : frame.drawing with
    | false => exact Or.inr (Or.inl ⟨hm, rfl, rfl⟩)
    | true => exact Or.inr (Or.inr ⟨hm, rfl, rfl⟩)

/-- The placements that a visit adds to those of the pass. -/
def Visited.placed (v : Visited (Pass ρ)) : List Placement :=
  v.answer.1.placements.drop v.state.placements.length

namespace Stack

/-! ## The visits of a pass -/

/-- The state in which the pass over a stack starts. -/
def passStart (stack : Stack) (frame : FrameSettings) (canvas : Canvas ρ) : Pass ρ where
  canvas := canvas
  cursor := stack.layout.startCursor (R.viewport canvas.renderer)
    (R.framebufferScale canvas.renderer) frame.obscured

/-- What the pass does with a message. -/
def passVisit (stack : Stack) (frame : FrameSettings) (canvas : Canvas ρ) :
    Pass ρ → Message → Pass ρ × Message × Visit :=
  visitMessage R frame stack.layout (R.viewport canvas.renderer)

/-- The visits of the pass over a stack. -/
def passVisits (stack : Stack) (frame : FrameSettings) (canvas : Canvas ρ) :
    List (Visited (Pass ρ)) :=
  stack.walkVisits stack.layout.reversed (stack.passVisit R frame canvas)
    (stack.passStart R frame canvas)

variable {R} {stack : Stack} {frame : FrameSettings} {canvas : Canvas ρ} {v : Visited (Pass ρ)}

theorem answer_of_mem_passVisits (hv : v ∈ stack.passVisits R frame canvas) :
    v.answer = visitMessage R frame stack.layout (R.viewport canvas.renderer) v.state v.message :=
  answer_of_mem_visits hv

theorem isKept_of_mem_passVisits (hv : v ∈ stack.passVisits R frame canvas) :
    v.isKept = v.message.isPending frame.now := by
  unfold Visited.isKept
  rw [answer_of_mem_passVisits hv]
  rcases visitMessage_cases R frame stack.layout (R.viewport canvas.renderer) v.state v.message with
    ⟨hp, e, -, h⟩ | ⟨hp, -, h⟩ | ⟨hp, -, h⟩ <;> rw [h, hp] <;> rfl

variable (R stack frame canvas)

/-- The visits are of the messages of the stack, in the order in which frames go through them. -/
theorem map_entry_passVisits :
    (stack.passVisits R frame canvas).map Visited.entry =
      inOrder stack.layout.reversed stack.messages.entries :=
  map_entry_visits _ _ _

theorem filter_isKept_passVisits :
    (stack.passVisits R frame canvas).filter Visited.isKept =
      (stack.passVisits R frame canvas).filter fun v => v.message.isPending frame.now :=
  List.filter_congr fun _ => isKept_of_mem_passVisits

theorem filter_not_isKept_passVisits :
    ((stack.passVisits R frame canvas).filter fun v => !v.isKept) =
      (stack.passVisits R frame canvas).filter fun v => !v.message.isPending frame.now :=
  List.filter_congr fun _ hv => congrArg Bool.not (isKept_of_mem_passVisits hv)

variable {R stack frame canvas}

theorem result_of_mem_passVisits (hv : v ∈ stack.passVisits R frame canvas)
    (hp : v.message.isPending frame.now = true) : v.message.KeptAs frame.drawing v.result := by
  unfold Visited.result
  rw [answer_of_mem_passVisits hv]
  rcases visitMessage_cases R frame stack.layout (R.viewport canvas.renderer) v.state v.message with
    ⟨hp', -⟩ | ⟨-, hd, h⟩ | ⟨-, hd, h⟩
  · rw [hp] at hp'
    cases hp'
  · rw [h, hd]
    exact ⟨by simp, fun _ => rfl⟩
  · rw [h, hd]
    exact drawMessage_keptAs R stack.layout (R.viewport canvas.renderer) frame.now v.state v.message

/-! ## Placements -/

/-- A visit adds to the placements of the pass, and takes none away. -/
theorem placements_visit (frame : FrameSettings) (layout : StackLayout) (viewport : Size Single)
    (pass : Pass ρ) (m : Message) :
    pass.placements ++
        (visitMessage R frame layout viewport pass m).1.placements.drop pass.placements.length =
      (visitMessage R frame layout viewport pass m).1.placements := by
  rcases visitMessage_cases R frame layout viewport pass m with
    ⟨-, e, -, h⟩ | ⟨-, -, h⟩ | ⟨-, -, h⟩
  · simp [h]
  · simp [h]
  · obtain ⟨p, hp, -⟩ := drawMessage_placements R layout viewport frame.now pass m
    simp [h, hp]

theorem placed_of_not_drawn (hv : v ∈ stack.passVisits R frame canvas)
    (h : (v.message.isPending frame.now && frame.drawing) = false) : v.placed = [] := by
  unfold Visited.placed
  rw [answer_of_mem_passVisits hv]
  rcases visitMessage_cases R frame stack.layout (R.viewport canvas.renderer) v.state v.message with
    ⟨-, e, -, he⟩ | ⟨-, -, he⟩ | ⟨hp, hd, -⟩
  · rw [he]
    exact List.drop_length
  · rw [he]
    exact List.drop_length
  · rw [hp, hd] at h
    cases h

/-- The visit of a message that is drawn adds one placement. -/
theorem placed_of_drawn (hv : v ∈ stack.passVisits R frame canvas)
    (hp : v.message.isPending frame.now = true) (hd : frame.drawing = true) :
    ∃ p : Placement, v.placed = [p] ∧ p.stack = stack.name ∧ p.index = v.state.placements.length ∧
      p.text = v.message.text ∧ p.opacity = v.message.opacity (v.message.timeLeft frame.now) := by
  unfold Visited.placed
  rw [answer_of_mem_passVisits hv]
  rcases visitMessage_cases R frame stack.layout (R.viewport canvas.renderer) v.state v.message with
    ⟨hp', -⟩ | ⟨-, hd', -⟩ | ⟨-, -, h⟩
  · rw [hp] at hp'
    cases hp'
  · rw [hd] at hd'
    cases hd'
  · obtain ⟨p, h1, h2⟩ := drawMessage_placements R stack.layout (R.viewport canvas.renderer)
      frame.now v.state v.message
    exact ⟨p, by rw [h, h1]; exact List.drop_left, h2⟩

variable (R)

theorem placements_stateAfter (frame : FrameSettings) (layout : StackLayout)
    (viewport : Size Single) (pass : Pass ρ) (entries : List (Key × Message)) :
    (stateAfter (visitMessage R frame layout viewport) pass entries).placements =
      pass.placements ++
        (visits (visitMessage R frame layout viewport) pass entries).flatMap Visited.placed := by
  induction entries generalizing pass with
  | nil => simp [stateAfter, visits]
  | cons e rest ih =>
    show (stateAfter _ (visitMessage R frame layout viewport pass e.2).1 rest).placements = _
    rw [ih, visits, List.flatMap_cons, ← List.append_assoc]
    congr 1
    exact (placements_visit frame layout viewport pass e.2).symm

/-- The placements that a frame makes for the messages of a stack, each with the key of its
message. -/
def placed (stack : Stack) (frame : FrameSettings) (canvas : Canvas ρ) : List (Key × Placement) :=
  (stack.passVisits R frame canvas).flatMap fun v => v.placed.map fun p => (v.key, p)

/-- They are the placements of the report. -/
theorem map_snd_placed (stack : Stack) (frame : FrameSettings) (canvas : Canvas ρ) :
    (stack.placed R frame canvas).map Prod.snd = (stack.draw R frame canvas).report.placements := by
  have hreport : (stack.draw R frame canvas).report.placements =
      (stack.walk stack.layout.reversed (stack.passVisit R frame canvas)
        (stack.passStart R frame canvas)).state.placements := rfl
  rw [hreport, walk_state]
  unfold passVisit
  rw [placements_stateAfter]
  unfold placed
  rw [List.map_flatMap]
  simp only [List.map_map, Function.comp_def, List.map_id']
  rfl

/-- The entries whose messages are pending, in the order of a stack's walk. -/
def pendingEntries (stack : Stack) (now : Reading) : List (Key × Message) :=
  (inOrder stack.layout.reversed stack.messages.entries).filter fun e => e.2.isPending now

/-- A frame that draws places the pending messages, each once and in the order of the walk. -/
theorem map_fst_placed (stack : Stack) (frame : FrameSettings) (canvas : Canvas ρ) :
    (stack.placed R frame canvas).map Prod.fst =
      if frame.drawing then (stack.pendingEntries frame.now).map Prod.fst else [] := by
  have hvisits : ∀ vs : List (Visited (Pass ρ)), (∀ v ∈ vs, v ∈ stack.passVisits R frame canvas) →
      (vs.flatMap fun v => v.placed.map fun p => (v.key, p)).map Prod.fst =
        if frame.drawing then
          ((vs.map Visited.entry).filter fun e => e.2.isPending frame.now).map Prod.fst
        else [] := by
    intro vs hvs
    induction vs with
    | nil => simp
    | cons v vs ih =>
      have hv := hvs v List.mem_cons_self
      rw [List.flatMap_cons, List.map_append, ih fun w hw => hvs w (List.mem_cons_of_mem _ hw)]
      cases hd : frame.drawing with
      | false => simp [placed_of_not_drawn hv (by rw [hd, Bool.and_false])]
      | true =>
        cases hp : v.message.isPending frame.now with
        | false => simp [placed_of_not_drawn hv (by rw [hp, Bool.false_and]), Visited.entry, hp]
        | true =>
          obtain ⟨p, hplaced, -⟩ := placed_of_drawn hv hp hd
          simp [hplaced, Visited.entry, hp]
  unfold placed pendingEntries
  rw [hvisits _ fun v hv => hv, passVisits, walkVisits, map_entry_visits]

/-- A placement carries the name of the stack, and the text and the opacity of its message. -/
theorem of_mem_placed {key : Key} {p : Placement} (h : (key, p) ∈ stack.placed R frame canvas) :
    ∃ m, (key, m) ∈ stack.messages.entries ∧ m.isPending frame.now = true ∧
      p.stack = stack.name ∧ p.text = m.text ∧ p.opacity = m.opacity (m.timeLeft frame.now) := by
  obtain ⟨v, hv, h⟩ := List.mem_flatMap.mp h
  obtain ⟨p', hp', heq⟩ := List.mem_map.mp h
  cases heq
  have hmem : (v.key, v.message) ∈ stack.messages.entries :=
    (inOrder_perm _ _).mem_iff.mp (mem_of_mem_visits hv)
  cases hd : v.message.isPending frame.now && frame.drawing with
  | false =>
    rw [placed_of_not_drawn hv hd] at hp'
    cases hp'
  | true =>
    rw [Bool.and_eq_true] at hd
    obtain ⟨q, hq, h1, -, h3, h4⟩ := placed_of_drawn hv hd.1 hd.2
    rw [hq, List.mem_singleton] at hp'
    subst hp'
    exact ⟨v.message, hmem, hd.1, h1, h3, h4⟩

/-! ## What is left of a stack -/

theorem draw_layout (stack : Stack) (frame : FrameSettings) (canvas : Canvas ρ) :
    (stack.draw R frame canvas).stack.layout = stack.layout := rfl

theorem draw_nextSequence (stack : Stack) (frame : FrameSettings) (canvas : Canvas ρ) :
    (stack.draw R frame canvas).stack.nextSequence = stack.nextSequence := rfl

theorem draw_entries (stack : Stack) (frame : FrameSettings) (canvas : Canvas ρ) :
    (stack.draw R frame canvas).stack.messages.entries =
      inOrder stack.layout.reversed (keptBy (stack.passVisits R frame canvas)) :=
  walk_entries _ _ _ _

/-- The pass keeps the pending messages. -/
theorem mem_draw_entries {key : Key} {m' : Message} :
    (key, m') ∈ (stack.draw R frame canvas).stack.messages.entries ↔
      ∃ v ∈ stack.passVisits R frame canvas,
        v.message.isPending frame.now = true ∧ v.key = key ∧ v.result = m' := by
  rw [draw_entries, (inOrder_perm _ _).mem_iff, keptBy, List.mem_map]
  constructor
  · rintro ⟨v, hv, heq⟩
    obtain ⟨hv, hkept⟩ := List.mem_filter.mp hv
    rw [isKept_of_mem_passVisits hv] at hkept
    exact ⟨v, hv, hkept, congrArg Prod.fst heq, congrArg Prod.snd heq⟩
  · rintro ⟨v, hv, hp, rfl, rfl⟩
    exact ⟨v, List.mem_filter.mpr ⟨hv, by rw [isKept_of_mem_passVisits hv]; exact hp⟩, rfl⟩

theorem keptBy_keys {vs : List (Visited (Pass ρ))}
    (h : ∀ v ∈ vs, v ∈ stack.passVisits R frame canvas) :
    (keptBy vs).map Prod.fst =
      ((vs.map Visited.entry).filter fun e => e.2.isPending frame.now).map Prod.fst := by
  have hfilter : vs.filter Visited.isKept = vs.filter fun v => v.message.isPending frame.now :=
    List.filter_congr fun v hv => isKept_of_mem_passVisits (h v hv)
  unfold keptBy
  rw [hfilter, List.filter_map, List.map_map, List.map_map]
  rfl

/-- The keys that are left are those of the pending messages. -/
theorem draw_keys (stack : Stack) (frame : FrameSettings) (canvas : Canvas ρ) :
    (stack.draw R frame canvas).stack.messages.keys =
      (stack.messages.entries.filter fun e => e.2.isPending frame.now).map Prod.fst := by
  unfold OrderedMap.keys
  rw [draw_entries, ← inOrder_map, keptBy_keys R (fun v hv => hv), map_entry_passVisits]
  cases stack.layout.reversed with
  | false => rfl
  | true => simp [inOrder]

/-- The number of messages that the pass counts as pruned is that of the messages not pending. -/
theorem draw_pruned (stack : Stack) (frame : FrameSettings) (canvas : Canvas ρ) :
    (stack.draw R frame canvas).report.pruned =
      (stack.messages.entries.filter fun e => !e.2.isPending frame.now).length := by
  have hpruned : (stack.draw R frame canvas).report.pruned =
      (removedBy (stack.passVisits R frame canvas)).length :=
    congrArg List.length (walk_removed _ _ _ _)
  rw [hpruned, removedBy, List.length_map, filter_not_isKept_passVisits,
    ← ((inOrder_perm stack.layout.reversed stack.messages.entries).filter _).length_eq,
    ← map_entry_passVisits R stack frame canvas, List.filter_map, List.length_map]
  rfl

/-- What a lookup finds after the pass: a pending message, marked as drawn if the frame draws, and
nothing in place of a message that is not pending. -/
theorem find?_draw_of_pending (canvas : Canvas ρ) {key : Key} {m : Message}
    (h : stack.messages.find? key = some m) (hp : m.isPending frame.now = true) :
    ∃ m', (stack.draw R frame canvas).stack.messages.find? key = some m' ∧
      m.KeptAs frame.drawing m' := by
  have hmem : (key, m) ∈ inOrder stack.layout.reversed stack.messages.entries :=
    (inOrder_perm _ _).mem_iff.mpr (OrderedMap.find?_eq_some_iff.mp h)
  obtain ⟨v, hv, rfl, rfl⟩ := exists_visit_of_mem (stack.passVisit R frame canvas)
    (stack.passStart R frame canvas) hmem
  exact ⟨v.result,
    OrderedMap.find?_eq_some_iff.mpr ((mem_draw_entries R).mpr ⟨v, hv, hp, rfl, rfl⟩),
    result_of_mem_passVisits hv hp⟩

theorem find?_draw_eq_some {key : Key} {m' : Message}
    (h : (stack.draw R frame canvas).stack.messages.find? key = some m') :
    ∃ m, stack.messages.find? key = some m ∧ m.isPending frame.now = true ∧
      m.KeptAs frame.drawing m' := by
  obtain ⟨v, hv, hp, rfl, rfl⟩ := (mem_draw_entries R).mp (OrderedMap.find?_eq_some_iff.mp h)
  have hmem : (v.key, v.message) ∈ stack.messages.entries :=
    (inOrder_perm _ _).mem_iff.mp (mem_of_mem_visits hv)
  exact ⟨v.message, OrderedMap.find?_eq_some_iff.mpr hmem, hp, result_of_mem_passVisits hv hp⟩

end Stack

end OnScreen
