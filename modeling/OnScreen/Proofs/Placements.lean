import OnScreen.Proofs.Frame

/-!
# The report of a frame, stack by stack

The placements of a frame come grouped by stack, in the order of the turns. Within a stack they are
numbered from zero, and as many as the messages that the frame leaves.

Results:
* `Stack.map_index_placements`: the placements of a stack are numbered without gaps.
* `Stack.map_shown_placements`: they show the pending messages, in the order of the walk.
* `Overlay.forStack_draw`: the placements of a report that carry the name of a stack are those of
  its turn.
* `Overlay.flatMap_forStack`: stack by stack, they are all placements.
* `Overlay.messageCount?_draw`: a frame that draws leaves as many messages as it places.
-/

namespace OnScreen

variable {ρ : Type} (R : Renderer ρ)

/-- What a placement shows of its message: the text, and the opacity. -/
def Placement.shown (p : Placement) : String × Single :=
  (p.text, p.opacity)

/-- What a frame at this reading shows of a message. -/
def Message.shown (m : Message) (now : Reading) : String × Single :=
  (m.text, m.opacity (m.timeLeft now))

/-! ## One stack -/

namespace Stack

/-- The placements of a stack are those of the pass over it. -/
theorem draw_report_placements (stack : Stack) (frame : FrameSettings) (canvas : Canvas ρ) :
    (stack.draw R frame canvas).report.placements =
      (stateAfter (stack.passVisit R frame canvas) (stack.passStart R frame canvas)
        (inOrder stack.layout.reversed stack.messages.entries)).placements := by
  rw [← walk_state]
  rfl

/-- A pass whose placements are numbered from zero goes on with the next number. -/
theorem map_index_stateAfter (frame : FrameSettings) (layout : StackLayout)
    (viewport : Size Single) (pass : Pass ρ) (entries : List (Key × Message))
    (h : pass.placements.map Placement.index = List.range pass.placements.length) :
    (stateAfter (visitMessage R frame layout viewport) pass entries).placements.map
        Placement.index =
      List.range
        (stateAfter (visitMessage R frame layout viewport) pass entries).placements.length := by
  induction entries generalizing pass with
  | nil => exact h
  | cons e rest ih =>
    refine ih (visitMessage R frame layout viewport pass e.2).1 ?_
    rcases visitMessage_cases R frame layout viewport pass e.2 with
      ⟨-, event, -, hv⟩ | ⟨-, -, hv⟩ | ⟨-, -, hv⟩
    · rw [hv]
      exact h
    · rw [hv]
      exact h
    · obtain ⟨p, hp, -, hindex, -⟩ := drawMessage_placements R layout viewport frame.now pass e.2
      rw [hv]
      dsimp only
      rw [hp, List.map_append, h, List.length_append, List.map_singleton, hindex,
        List.length_singleton, List.range_succ]

/-- The placements of a stack are numbered from zero without gaps. -/
theorem map_index_placements (stack : Stack) (frame : FrameSettings) (canvas : Canvas ρ) :
    (stack.draw R frame canvas).report.placements.map Placement.index =
      List.range (stack.draw R frame canvas).report.placements.length := by
  rw [draw_report_placements]
  exact map_index_stateAfter R frame _ _ _ _ rfl

/-- A pass that draws adds what is to be shown of the pending messages. -/
theorem map_shown_stateAfter {frame : FrameSettings} (hdrawing : frame.drawing = true)
    (layout : StackLayout) (viewport : Size Single) (pass : Pass ρ)
    (entries : List (Key × Message)) :
    (stateAfter (visitMessage R frame layout viewport) pass entries).placements.map
        Placement.shown =
      pass.placements.map Placement.shown ++
        (entries.filter fun e => e.2.isPending frame.now).map fun e => e.2.shown frame.now := by
  induction entries generalizing pass with
  | nil => exact (List.append_nil _).symm
  | cons e rest ih =>
    have hrest := ih (visitMessage R frame layout viewport pass e.2).1
    refine hrest.trans ?_
    rcases visitMessage_cases R frame layout viewport pass e.2 with
      ⟨hp, event, -, hv⟩ | ⟨-, hd, -⟩ | ⟨hp, -, hv⟩
    · rw [hv, List.filter_cons, hp, if_neg Bool.false_ne_true]
    · rw [hdrawing] at hd
      cases hd
    · obtain ⟨p, hplaced, -, -, htext, hopacity⟩ :=
        drawMessage_placements R layout viewport frame.now pass e.2
      have hshown : p.shown = e.2.shown frame.now := Prod.ext htext hopacity
      rw [hv, List.filter_cons, hp, if_pos rfl]
      dsimp only
      rw [hplaced, List.map_append, List.map_singleton, hshown, List.append_assoc, List.map_cons,
        List.singleton_append]

/-- A frame that draws shows the pending messages of a stack, in the order of the walk. -/
theorem map_shown_placements (stack : Stack) (frame : FrameSettings) (canvas : Canvas ρ)
    (hdrawing : frame.drawing = true) :
    (stack.draw R frame canvas).report.placements.map Placement.shown =
      (stack.pendingEntries frame.now).map fun e => e.2.shown frame.now := by
  rw [draw_report_placements]
  exact map_shown_stateAfter R hdrawing _ _ _ _

/-- A placement of a stack carries its name. -/
theorem stack_of_mem_placements {stack : Stack} {frame : FrameSettings} {canvas : Canvas ρ}
    {p : Placement} (hp : p ∈ (stack.draw R frame canvas).report.placements) :
    p.stack = stack.name := by
  rw [← map_snd_placed] at hp
  obtain ⟨e, he, rfl⟩ := List.mem_map.mp hp
  obtain ⟨m, -, -, hname, -⟩ := of_mem_placed R he
  exact hname

/-- A frame that draws leaves as many messages as it places. -/
theorem size_draw (stack : Stack) (frame : FrameSettings) (canvas : Canvas ρ)
    (hdrawing : frame.drawing = true) :
    (stack.draw R frame canvas).stack.size =
      (stack.draw R frame canvas).report.placements.length := by
  have hkeys := congrArg List.length (draw_keys R stack frame canvas)
  have hplaced := congrArg List.length (map_fst_placed R stack frame canvas)
  rw [if_pos hdrawing, List.length_map, List.length_map] at hplaced
  have hpending : (stack.pendingEntries frame.now).length =
      (stack.messages.entries.filter fun e => e.2.isPending frame.now).length :=
    ((inOrder_perm _ _).filter _).length_eq
  rw [← map_snd_placed, List.length_map, hplaced, hpending]
  unfold OrderedMap.keys at hkeys
  rw [List.length_map, List.length_map] at hkeys
  exact hkeys

end Stack

/-! ## All stacks -/

/-- Of parts that are told apart by their names, the ones with a given name are one part. -/
theorem flatMap_ite_eq {α β κ : Type} [DecidableEq κ] {f : α → κ} {l : List α}
    (hnodup : (l.map f).Nodup) {a : α} (ha : a ∈ l) (g : α → List β) :
    l.flatMap (fun b => if f b = f a then g b else []) = g a := by
  induction l with
  | nil => cases ha
  | cons b l ih =>
    rw [List.map_cons, List.nodup_cons] at hnodup
    rw [List.flatMap_cons]
    rcases List.mem_cons.mp ha with rfl | ha
    · have hrest : l.flatMap (fun b => if f b = f a then g b else []) = [] := by
        apply List.flatMap_eq_nil_iff.mpr
        intro b hb
        exact if_neg fun heq => hnodup.1 (List.mem_map.mpr ⟨b, hb, heq⟩)
      rw [if_pos rfl, hrest, List.append_nil]
    · have hne : f b ≠ f a := fun heq => hnodup.1 (heq ▸ List.mem_map.mpr ⟨a, ha, rfl⟩)
      rw [if_neg hne, List.nil_append, ih hnodup.2 ha]

/-- The default stack is before all named ones, and these are in the byte order of their names. -/
theorem Registry.sorted_names {registry : Registry} (h : registry.named.find? "" = none) :
    ("" :: registry.names).Pairwise fun a b => bytesBefore (utf8Bytes a) (utf8Bytes b) = true := by
  rw [List.pairwise_cons]
  refine ⟨?_, registry.named.sorted⟩
  intro name hname
  have hne : name ≠ "" := fun heq => OrderedMap.find?_eq_none_iff.mp h (heq ▸ hname)
  show bytesBefore [] (utf8Bytes name) = true
  cases hbytes : utf8Bytes name with
  | nil => exact absurd (utf8Bytes_inj (t := "") hbytes) hne
  | cons byte bytes => rfl

namespace Overlay

variable {overlay : Overlay} {now : Reading} {renderer : ρ}

theorem map_name_frameTurns (overlay : Overlay) (now : Reading) (renderer : ρ) :
    (overlay.frameTurns R now renderer).map Turn.name = "" :: overlay.registry.names := by
  have h := congrArg (List.map Prod.fst)
    (map_turns R (overlay.settings now) (overlay.startCanvas R renderer) overlay.registry.entries)
  rw [List.map_map] at h
  exact h

/-- The placements of a report that carry the name of a stack are those of its turn. -/
theorem forStack_draw (h : overlay.registry.WellFormed) {t : Turn ρ}
    (ht : t ∈ overlay.frameTurns R now renderer) :
    (overlay.draw R now renderer).report.forStack t.name =
      (t.drawn R (overlay.settings now)).report.placements := by
  have hturn : ∀ t' ∈ overlay.frameTurns R now renderer,
      (t'.drawn R (overlay.settings now)).report.placements.filter
          (fun p => decide (p.stack = t.name)) =
        if t'.name = t.name then (t'.drawn R (overlay.settings now)).report.placements else [] := by
    intro t' ht'
    have hname : t'.stack.name = t'.name :=
      h.name _ _ ((Registry.get?_iff_mem h.unnamed).mpr (mem_entries_of_mem_frameTurns R ht'))
    have hstack : ∀ p ∈ (t'.drawn R (overlay.settings now)).report.placements,
        p.stack = t'.name := fun p hp => (Stack.stack_of_mem_placements R hp).trans hname
    split
    · rename_i heq
      exact List.filter_eq_self.mpr fun p hp => decide_eq_true ((hstack p hp).trans heq)
    · rename_i hne
      exact List.filter_eq_nil_iff.mpr fun p hp heq =>
        hne ((hstack p hp).symm.trans (of_decide_eq_true heq))
  have hnodup : ((overlay.frameTurns R now renderer).map Turn.name).Nodup := by
    rw [map_name_frameTurns]
    exact h.nodup_names
  unfold FrameReport.forStack
  rw [draw_placements, List.filter_flatMap, List.flatMap_congr hturn]
  exact flatMap_ite_eq hnodup ht _

/-- Stack by stack, the default stack first, the placements are all placements. -/
theorem flatMap_forStack (h : overlay.registry.WellFormed) :
    ("" :: overlay.registry.names).flatMap (overlay.draw R now renderer).report.forStack =
      (overlay.draw R now renderer).report.placements := by
  rw [← map_name_frameTurns R overlay now renderer, List.flatMap_map, draw_placements]
  exact List.flatMap_congr fun t ht => forStack_draw R h ht

/-- A report has no placements of a stack that is not registered. -/
theorem forStack_of_get?_eq_none (h : overlay.registry.WellFormed) {name : String}
    (hnone : overlay.registry.get? name = none) :
    (overlay.draw R now renderer).report.forStack name = [] := by
  unfold FrameReport.forStack
  rw [← map_snd_placed, List.filter_eq_nil_iff]
  intro p hp hname
  obtain ⟨⟨id, p⟩, hplaced, rfl⟩ := List.mem_map.mp hp
  obtain ⟨m, hm, -, hstack, -⟩ := of_mem_placed R h hplaced
  obtain ⟨stack, hs, -⟩ := Registry.message?_eq_some_iff.mp hm
  rw [← hstack, of_decide_eq_true hname, hnone] at hs
  cases hs

section

variable {name : String} {stack : Stack} (hs : overlay.registry.get? name = some stack)
include hs

/-- What a report says of a registered stack is what the stack's turn says. -/
theorem exists_turn_forStack (now : Reading) (renderer : ρ) (h : overlay.registry.WellFormed) :
    ∃ t ∈ overlay.frameTurns R now renderer, t.name = name ∧ t.stack = stack ∧
      (overlay.draw R now renderer).report.forStack name =
        (stack.draw R (overlay.settings now) t.canvas).report.placements := by
  obtain ⟨t, ht, rfl, rfl⟩ : ∃ t ∈ overlay.frameTurns R now renderer,
      t.name = name ∧ t.stack = stack :=
    exists_turn R ((Registry.get?_iff_mem h.unnamed).mp hs)
  exact ⟨t, ht, rfl, rfl, forStack_draw R h ht⟩

/-- The placements of a stack are numbered from zero without gaps. -/
theorem map_index_forStack (h : overlay.registry.WellFormed) :
    ((overlay.draw R now renderer).report.forStack name).map Placement.index =
      List.range ((overlay.draw R now renderer).report.forStack name).length := by
  obtain ⟨t, -, -, -, hreport⟩ := exists_turn_forStack R hs now renderer h
  rw [hreport]
  exact Stack.map_index_placements R stack (overlay.settings now) t.canvas

/-- A frame that draws shows the pending messages of a stack, in the order of the walk. -/
theorem map_shown_forStack (h : overlay.registry.WellFormed) (henabled : overlay.enabled = true) :
    ((overlay.draw R now renderer).report.forStack name).map Placement.shown =
      (stack.pendingEntries now).map fun e => e.2.shown now := by
  obtain ⟨t, -, -, -, hreport⟩ := exists_turn_forStack R hs now renderer h
  rw [hreport]
  exact Stack.map_shown_placements R stack (overlay.settings now) t.canvas henabled

/-- The ids of the messages that a frame places from a stack. -/
theorem filter_placedIds (h : overlay.registry.WellFormed) (henabled : overlay.enabled = true) :
    (overlay.placedIds R now renderer).filter (fun id => decide (id.stack = name)) =
      (stack.pendingEntries now).map fun e => ⟨name, e.1⟩ := by
  have hstack : ∀ e ∈ overlay.registry.entries,
      ((e.2.pendingEntries now).map fun e' => MessageId.mk e.1 e'.1).filter
          (fun id => decide (id.stack = name)) =
        if e.1 = name then (e.2.pendingEntries now).map fun e' => MessageId.mk e.1 e'.1
        else [] := by
    intro e _
    split
    · rename_i heq
      refine List.filter_eq_self.mpr ?_
      intro id hid
      obtain ⟨e', -, rfl⟩ := List.mem_map.mp hid
      exact decide_eq_true heq
    · rename_i hne
      refine List.filter_eq_nil_iff.mpr ?_
      intro id hid heq
      obtain ⟨e', -, rfl⟩ := List.mem_map.mp hid
      exact hne (of_decide_eq_true heq)
  rw [placedIds_eq]
  simp only [henabled, if_true]
  rw [List.filter_flatMap, List.flatMap_congr hstack]
  exact flatMap_ite_eq h.nodup_names ((Registry.get?_iff_mem h.unnamed).mp hs) _

end

/-- After a frame that draws, a stack has as many messages as it has placements. -/
theorem messageCount?_draw (h : overlay.registry.WellFormed) (henabled : overlay.enabled = true)
    (name : String) :
    (overlay.draw R now renderer).overlay.messageCount? name =
      (overlay.messageCount? name).map fun _ =>
        ((overlay.draw R now renderer).report.forStack name).length := by
  unfold messageCount?
  cases hs : overlay.registry.get? name with
  | none =>
    have hnone : (overlay.draw R now renderer).overlay.registry.get? name = none := by
      rw [← Option.not_isSome_iff_eq_none, isSome_get?_draw R h, hs]
      exact Bool.false_ne_true
    rw [hnone]
    rfl
  | some stack =>
    obtain ⟨t, ht, rfl, rfl, hreport⟩ := exists_turn_forStack R hs now renderer h
    have hs' : (overlay.draw R now renderer).overlay.registry.get? t.name =
        some (t.drawn R (overlay.settings now)).stack := (get?_draw R h).mpr ⟨t, ht, rfl, rfl⟩
    have hsize : (t.drawn R (overlay.settings now)).stack.size =
        (t.drawn R (overlay.settings now)).report.placements.length :=
      Stack.size_draw R t.stack (overlay.settings now) t.canvas henabled
    rw [hs', hreport, Option.map_some, hsize]
    rfl

end Overlay

end OnScreen
