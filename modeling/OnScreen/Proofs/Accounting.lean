import OnScreen.Proofs.Duplicate
import OnScreen.Proofs.Placements
import OnScreen.Renderer.Headless

/-!
# No message is lost

Every message that is queued is stored until a frame prunes it or all messages are dropped. Counted
over a run, the queued messages are the stored, the pruned and the dropped ones.

Results:
* `Overlay.messageTotal_eq`: the numbers of messages of the stacks add up to the number of ids.
* `balance_step`, `balance_run`: what a step, and what a run, does to the number of stored messages.
* `messages_accounted`: the account of a run, and of each frame and submission in it.
-/

namespace OnScreen

/-! ## Counting what is stored -/

/-- The number of stored messages: the sum over the stacks. -/
def Overlay.messageTotal (overlay : Overlay) : Nat :=
  (("" :: overlay.registry.names).map fun name => (overlay.messageCount? name).getD 0).sum

namespace Registry

variable {registry registry' : Registry}

theorem length_ids (registry : Registry) :
    registry.ids.length = (registry.entries.map fun e => e.2.size).sum := by
  unfold ids
  rw [List.length_flatMap]
  congr 1
  apply List.map_congr_left
  intro e _
  rw [List.length_map]
  exact List.length_map Prod.fst

/-- Clearing counts every stored message. -/
theorem clear_count (registry : Registry) : registry.clear.2 = registry.ids.length := by
  have hstacks : registry.allStacks = registry.entries.map Prod.snd := rfl
  show registry.messages.length = _
  unfold messages
  rw [length_ids, List.length_flatMap, hstacks, List.map_map]
  congr 1
  apply List.map_congr_left
  intro e _
  exact List.length_map Prod.snd

/-- Two registries that store messages under the same ids store as many. -/
theorem length_ids_eq (h : registry.WellFormed) (h' : registry'.WellFormed)
    (hids : ∀ id, (registry'.message? id).isSome = (registry.message? id).isSome) :
    registry'.ids.length = registry.ids.length := by
  apply List.Perm.length_eq
  rw [List.perm_ext_iff_of_nodup h'.nodup_ids h.nodup_ids]
  intro id
  rw [h'.mem_ids_iff, h.mem_ids_iff, hids]

end Registry

namespace Overlay

variable {overlay : Overlay}

theorem messageTotal_eq (h : overlay.registry.WellFormed) :
    overlay.messageTotal = overlay.registry.ids.length := by
  have hnames : "" :: overlay.registry.names = overlay.registry.entries.map Prod.fst := rfl
  unfold messageTotal
  rw [Registry.length_ids, hnames, List.map_map]
  congr 1
  apply List.map_congr_left
  intro e he
  have hget : overlay.registry.get? e.1 = some e.2 := (Registry.get?_iff_mem h.unnamed).mpr he
  show ((overlay.registry.get? e.1).map Stack.size).getD 0 = e.2.size
  rw [hget]
  rfl

/-- A queued submission stores one message more. -/
theorem messageTotal_submit {now : Reading} {type : MessageType} {request : Request}
    (h : overlay.registry.WellFormed) (hq : overlay.Queues now type request) :
    (overlay.submit now type request).value.1.messageTotal = overlay.messageTotal + 1 := by
  rw [messageTotal_eq (wellFormed_submit h now type request), messageTotal_eq h,
    (ids_submit_perm h hq).length_eq, List.length_cons]

/-- What is stored before a frame is stored after it, or pruned. -/
theorem messageTotal_draw {ρ : Type} (R : Renderer ρ) (h : overlay.registry.WellFormed)
    (now : Reading) (renderer : ρ) :
    overlay.messageTotal =
      (overlay.draw R now renderer).overlay.messageTotal +
        (overlay.draw R now renderer).report.pruned := by
  have hafter : (overlay.draw R now renderer).overlay.registry.WellFormed := wellFormed_draw R h
  have hleft : ((overlay.draw R now renderer).overlay.registry.ids).Perm
      (overlay.registry.ids.filter fun id =>
        !((overlay.draw R now renderer).overlay.registry.message? id).isNone) := by
    rw [List.perm_ext_iff_of_nodup hafter.nodup_ids (h.nodup_ids.filter _)]
    intro id
    rw [List.mem_filter, hafter.mem_ids_iff, h.mem_ids_iff]
    constructor
    · intro hsome
      obtain ⟨m', hm'⟩ := Option.isSome_iff_exists.mp hsome
      obtain ⟨m, hm, -⟩ := message?_draw_eq_some R h hm'
      rw [hm, hm']
      exact ⟨rfl, rfl⟩
    · rintro ⟨-, hsome⟩
      rw [← Option.not_isNone]
      exact hsome
  rw [messageTotal_eq h, messageTotal_eq hafter, draw_pruned R h, hleft.length_eq]
  have hsplit := (List.filter_append_perm (fun id =>
    ((overlay.draw R now renderer).overlay.registry.message? id).isNone)
    overlay.registry.ids).length_eq
  rw [List.length_append] at hsplit
  unfold removedIds
  omega

end Overlay

/-! ## The account of a run -/

namespace Session

variable {ρ : Type}

/-- The number of messages that a step queues. -/
def queuedBy (s : Session ρ) (x : Step ρ) : Nat :=
  match x.operation with
  | .submit type request =>
    if (s.overlay.submit x.now type request).value.2 = .queued then 1 else 0
  | _ => 0

/-- The number of messages that a step reports as pruned. -/
def prunedBy (s : Session ρ) (x : Step ρ) : Nat :=
  match x.operation with
  | .draw R => (s.overlay.draw R x.now s.renderer).report.pruned
  | _ => 0

/-- The number of messages that a step drops by clearing. -/
def clearedBy (s : Session ρ) (x : Step ρ) : Nat :=
  match x.operation with
  | .clear => s.overlay.registry.clear.2
  | _ => 0

/-- The sum of what the steps of a run count. -/
def total (count : Session ρ → Step ρ → Nat) : Session ρ → List (Step ρ) → Nat
  | _, [] => 0
  | s, x :: steps => count s x + total count (s.step x) steps

/-- A step changes the number of stored messages by what it queues, prunes and drops. -/
theorem balance_step (s : Session ρ) (x : Step ρ) (h : s.WellFormed) :
    s.overlay.messageTotal + s.queuedBy x =
      (s.step x).overlay.messageTotal + s.prunedBy x + s.clearedBy x := by
  have hafter : (s.step x).WellFormed := wellFormed_step s x h
  obtain ⟨now, operation⟩ := x
  cases operation with
  | submit type request =>
    show s.overlay.messageTotal +
        (if (s.overlay.submit now type request).value.2 = .queued then 1 else 0) =
      (s.overlay.submit now type request).value.1.messageTotal + 0 + 0
    split
    · rename_i hq
      rw [Overlay.messageTotal_submit h hq]
    · rename_i hq
      rw [Overlay.submit_of_not_queues hq]
  | register layout =>
    show s.overlay.messageTotal + 0 =
      (s.step ⟨now, .register layout⟩).overlay.messageTotal + 0 + 0
    rw [Overlay.messageTotal_eq h, Overlay.messageTotal_eq hafter]
    refine congrArg (· + 0) (Registry.length_ids_eq h hafter fun id => ?_).symm
    exact congrArg Option.isSome (Registry.message?_register _ layout id)
  | enable on => rfl
  | obscureLeft pixels => rfl
  | obscureTop pixels => rfl
  | clear =>
    have hnone : (s.step ⟨now, .clear⟩).overlay.registry.ids = [] := by
      apply List.eq_nil_iff_forall_not_mem.mpr
      intro id hid
      rw [Registry.WellFormed.mem_ids_iff hafter] at hid
      have hgone : (s.step ⟨now, .clear⟩).overlay.registry.message? id = none :=
        Registry.message?_clear s.overlay.registry id
      rw [hgone] at hid
      cases hid
    show s.overlay.messageTotal + 0 =
      (s.step ⟨now, .clear⟩).overlay.messageTotal + 0 + s.overlay.registry.clear.2
    rw [Overlay.messageTotal_eq h, Overlay.messageTotal_eq hafter, Registry.clear_count, hnone]
    simp
  | draw R =>
    show s.overlay.messageTotal + 0 = (s.overlay.draw R now s.renderer).overlay.messageTotal +
      (s.overlay.draw R now s.renderer).report.pruned + 0
    exact Overlay.messageTotal_draw R h now s.renderer

/-- What was stored before a run or queued in it is stored after it, pruned or dropped. -/
theorem balance_run {s : Session ρ} (h : s.WellFormed) (steps : List (Step ρ)) :
    s.overlay.messageTotal + total queuedBy s steps =
      (s.run steps).overlay.messageTotal + total prunedBy s steps + total clearedBy s steps := by
  induction steps generalizing s with
  | nil => rfl
  | cons x steps ih =>
    have hstep := balance_step s x h
    have hrest := ih (wellFormed_step s x h)
    have hrun : s.run (x :: steps) = (s.step x).run steps := rfl
    rw [hrun]
    simp only [total]
    omega

/-- No message is lost or counted twice. Over a run, the queued messages are as many as the stored
ones, those that frames pruned and those that clearing dropped. A frame prunes what is missing after
it, and if it draws, it leaves in every stack as many messages as it places. A queued message takes
a free place; the stored ones stay, superseded at most. -/
theorem messages_accounted (renderer : ρ) (steps : List (Step ρ)) :
    let s := (start renderer).run steps
    total queuedBy (start renderer) steps =
        s.overlay.messageTotal + total prunedBy (start renderer) steps +
          total clearedBy (start renderer) steps ∧
    (∀ (R : Renderer ρ) now renderer',
      let frame := s.overlay.draw R now renderer'
      s.overlay.messageTotal = frame.overlay.messageTotal + frame.report.pruned ∧
        (s.overlay.enabled = true → ∀ stack,
          frame.overlay.messageCount? stack =
            (s.overlay.messageCount? stack).map fun _ => (frame.report.forStack stack).length)) ∧
    ∀ now type request, s.overlay.Queues now type request →
      let after := (s.overlay.submit now type request).value.1
      s.message? (s.overlay.nextId type request) = none ∧
        after.messageTotal = s.overlay.messageTotal + 1 ∧
        ∀ id m, s.message? id = some m →
          after.registry.message? id = some m ∨ after.registry.message? id = some m.discard := by
  intro s
  have hwf : s.WellFormed := wellFormed_run (wellFormed_start renderer) steps
  refine ⟨?_, ?_, ?_⟩
  · have hbalance := balance_run (wellFormed_start renderer) steps
    have hempty : (start renderer).overlay.messageTotal = 0 := rfl
    rw [hempty, Nat.zero_add] at hbalance
    exact hbalance
  · intro R now renderer' frame
    exact ⟨Overlay.messageTotal_draw R hwf now renderer',
      fun henabled stack => Overlay.messageCount?_draw R hwf henabled stack⟩
  · intro now type request hq after
    refine ⟨Registry.WellFormed.message?_next hwf _ _, Overlay.messageTotal_submit hwf hq, ?_⟩
    intro id m hm
    have hafter := Overlay.message?_submit_of_some hwf hq hm
    split at hafter
    · exact Or.inr hafter
    · exact Or.inl hafter

/-- A typeless message of two seconds for the default stack. -/
def notice (now : Reading) (text : String) : Step Headless :=
  ⟨now, .submit .typeless { text := text, duration := 2000, color := Color.green }⟩

/-- Of three queued messages one is pruned, one is dropped, and the last one is stored. A frame then
leaves as many messages in the default stack as it places, and a fourth message takes a free place.
-/
theorem notices_accounted :
    let screen : Headless := { viewport := ⟨Binary.ofNat 640, Binary.ofNat 480⟩ }
    let steps := [notice 0 "saving", ⟨9000, .draw Headless.renderer⟩, notice 9000 "saved",
      ⟨9000, .clear⟩, notice 9000 "done"]
    let s := (start screen).run steps
    let frame := s.overlay.draw Headless.renderer 9000 screen
    total queuedBy (start screen) steps = 3 ∧ s.overlay.messageTotal = 1 ∧
      total prunedBy (start screen) steps = 1 ∧ total clearedBy (start screen) steps = 1 ∧
      frame.overlay.messageCount? "" = some (frame.report.forStack "").length ∧
      s.message? ⟨"", ⟨.typeless, 3⟩⟩ = none := by
  intro screen steps s frame
  have h := messages_accounted screen steps
  have hqueued : total queuedBy (start screen) steps = 3 := by decide
  have hpruned : total prunedBy (start screen) steps = 1 := by decide
  have hcleared : total clearedBy (start screen) steps = 1 := by decide
  refine ⟨hqueued, ?_, hpruned, hcleared, ?_, ?_⟩
  · have hbalance : _ = s.overlay.messageTotal + _ + _ := h.1
    rw [hqueued, hpruned, hcleared] at hbalance
    omega
  · exact (h.2.1 Headless.renderer 9000 screen).2 rfl ""
  · exact (h.2.2 9000 .typeless { text := "again", duration := 2000, color := Color.green } rfl).1

end Session

end OnScreen
