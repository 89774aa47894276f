import Mathlib.Data.List.Induction
import Mathlib.Data.List.Sort
import OnScreen.Proofs.Placements
import OnScreen.Proofs.Session
import OnScreen.Renderer.Headless

/-!
# Placements in the order of submission

A stack keeps its messages by type and number. The numbers are given out one after the other, and
never twice, so messages of one type stand in the order in which they were queued: what a frame
places is the list of the pending messages in the order of submission, stably sorted by type.

Results:
* `increasing_queuedIds`: the numbers of a stack increase in the order of submission.
* `mem_pendingQueued_iff`: what is pending in a stack was queued in the run.
* `mergeSort_eq_of_increasing`: sorting by rank what is numbered in order sorts by rank and number.
* `placements_in_submission_order`: the placements of a frame, stack by stack.
-/

namespace OnScreen

/-! ## Sorting what is numbered in order -/

/-- The stable sort by rank of a list whose numbers increase is in the order of rank, then number.
-/
theorem mergeSort_eq_of_increasing {α : Type} {rank number : α → Nat} {l l' : List α}
    (hnumber : l.Pairwise fun a b => number a < number b) (hperm : l'.Perm l)
    (hl' : l'.Pairwise fun a b => rank a < rank b ∨ rank a = rank b ∧ number a < number b) :
    l.mergeSort (fun a b => decide (rank a ≤ rank b)) = l' := by
  have htrans : ∀ a b c : α, decide (rank a ≤ rank b) = true → decide (rank b ≤ rank c) = true →
      decide (rank a ≤ rank c) = true := by
    intro a b c hab hbc
    rw [decide_eq_true_eq] at hab hbc ⊢
    omega
  have htotal : ∀ a b : α, (decide (rank a ≤ rank b) || decide (rank b ≤ rank a)) = true := by
    intro a b
    rw [Bool.or_eq_true, decide_eq_true_eq, decide_eq_true_eq]
    omega
  have hsorted := List.pairwise_mergeSort htrans htotal l
  have hsort := List.mergeSort_perm l fun a b => decide (rank a ≤ rank b)
  -- elements of one rank keep their order
  have hstable : ∀ r, (l.mergeSort fun a b => decide (rank a ≤ rank b)).filter
      (fun a => decide (rank a = r)) = l.filter fun a => decide (rank a = r) := by
    intro r
    have hequal : (l.filter fun a => decide (rank a = r)).Pairwise fun a b =>
        decide (rank a ≤ rank b) = true := by
      rw [List.pairwise_iff_forall_sublist]
      intro a b hab
      have ha : rank a = r := by simpa using (List.mem_filter.mp (hab.subset (by simp))).2
      have hb : rank b = r := by simpa using (List.mem_filter.mp (hab.subset (by simp))).2
      rw [decide_eq_true_eq]
      omega
    have hsub := (List.sublist_mergeSort htrans htotal hequal List.filter_sublist).filter
      fun a => decide (rank a = r)
    rw [List.filter_filter] at hsub
    simp only [Bool.and_self] at hsub
    exact (hsub.eq_of_length (hsort.filter _).length_eq.symm).symm
  have hkeys : (l.mergeSort fun a b => decide (rank a ≤ rank b)).Pairwise fun a b =>
      rank a < rank b ∨ rank a = rank b ∧ number a < number b := by
    rw [List.pairwise_iff_forall_sublist]
    intro a b hab
    have hle : rank a ≤ rank b := by
      simpa using List.pairwise_iff_forall_sublist.mp hsorted hab
    rcases Nat.lt_or_eq_of_le hle with hlt | heq
    · exact Or.inl hlt
    · have hrank := hab.filter fun a => decide (rank a = rank b)
      rw [hstable] at hrank
      have hpair : [a, b].filter (fun a => decide (rank a = rank b)) = [a, b] := by simp [heq]
      rw [hpair] at hrank
      exact Or.inr ⟨heq, List.pairwise_iff_forall_sublist.mp hnumber
        (hrank.trans List.filter_sublist)⟩
  refine List.Perm.eq_of_pairwise ?_ hkeys hl' (hsort.trans hperm.symm)
  intro a b _ _ hab hba
  omega

namespace Session

variable {ρ : Type}

/-! ## The submissions of a run -/

/-- The id under which a step queues a message. -/
def queuedId? (s : Session ρ) (x : Step ρ) : Option MessageId :=
  match x.operation with
  | .submit type request =>
    if (s.overlay.submit x.now type request).value.2 = .queued then
      some (s.overlay.nextId type request)
    else none
  | _ => none

/-- The ids of the messages that a run queues, in the order in which they are queued. -/
def queuedIds : Session ρ → List (Step ρ) → List MessageId
  | _, [] => []
  | s, x :: steps => (s.queuedId? x).toList ++ queuedIds (s.step x) steps

theorem queuedId?_eq_some_iff {s : Session ρ} {x : Step ρ} {id : MessageId} :
    s.queuedId? x = some id ↔ Adds id s x := by
  obtain ⟨now, operation⟩ := x
  constructor
  · intro h
    cases operation with
    | submit type request =>
      simp only [queuedId?] at h
      split at h
      · rename_i hq
        exact ⟨type, request, rfl, hq, (Option.some.inj h).symm⟩
      · cases h
    | _ => cases h
  · rintro ⟨type, request, hop, hq, rfl⟩
    cases hop
    exact if_pos hq

theorem queuedIds_concat (s : Session ρ) (steps : List (Step ρ)) (x : Step ρ) :
    s.queuedIds (steps ++ [x]) = s.queuedIds steps ++ ((s.run steps).queuedId? x).toList := by
  induction steps generalizing s with
  | nil => exact List.append_nil _
  | cons y steps ih =>
    show (s.queuedId? y).toList ++ (s.step y).queuedIds (steps ++ [x]) =
      (s.queuedId? y).toList ++ (s.step y).queuedIds steps ++ _
    rw [ih, List.append_assoc]
    rfl

theorem Adds.issued {id : MessageId} {s : Session ρ} {x : Step ρ} (h : Adds id s x)
    (hwf : s.WellFormed) : (s.step x).Issued id := by
  have hafter : (s.step x).WellFormed := wellFormed_step s x hwf
  obtain ⟨now, operation⟩ := x
  obtain ⟨type, request, hop, hq, rfl⟩ := h
  cases hop
  exact Registry.WellFormed.issued hafter (Overlay.message?_submit_nextId hq)

/-- What a run queued was given out. -/
theorem issued_of_mem_queuedIds {s : Session ρ} (hwf : s.WellFormed) {steps : List (Step ρ)}
    {id : MessageId} (hid : id ∈ s.queuedIds steps) : (s.run steps).Issued id := by
  induction steps generalizing s with
  | nil => cases hid
  | cons x steps ih =>
    rcases List.mem_append.mp hid with hid | hid
    · have hadds : Adds id s x := queuedId?_eq_some_iff.mp (Option.mem_toList.mp hid)
      exact issued_run (wellFormed_step s x hwf) (hadds.issued hwf) steps
    · exact ih (wellFormed_step s x hwf) hid

/-- The number of a new message is greater than those of its stack that were given out before. -/
theorem Adds.sequence_lt {id id' : MessageId} {s : Session ρ} {x : Step ρ} (h : Adds id' s x)
    (hid : s.Issued id) (hstack : id.stack = id'.stack) : id.key.sequence < id'.key.sequence := by
  obtain ⟨type, request, -, -, rfl⟩ := h
  obtain ⟨stack, hs, hlt⟩ := hid
  rw [hstack] at hs
  have hstackOf : s.overlay.registry.stackOf (s.overlay.target request) = stack := by
    rw [Registry.stackOf, show s.overlay.registry.get? (s.overlay.target request) = _ from hs]
    rfl
  show id.key.sequence < (s.overlay.registry.stackOf (s.overlay.target request)).nextSequence
  rw [hstackOf]
  exact hlt

/-- The numbers of a stack increase in the order of submission. -/
theorem increasing_queuedIds {s : Session ρ} (hwf : s.WellFormed) (steps : List (Step ρ)) :
    (s.queuedIds steps).Pairwise fun id id' =>
      id.stack = id'.stack → id.key.sequence < id'.key.sequence := by
  induction steps using List.reverseRecOn with
  | nil => exact List.Pairwise.nil
  | append_singleton steps x ih =>
    rw [queuedIds_concat, List.pairwise_append]
    refine ⟨ih, ?_, ?_⟩
    · cases (s.run steps).queuedId? x with
      | none => exact List.Pairwise.nil
      | some id => exact List.pairwise_singleton _ _
    · intro id hid id' hid' hstack
      have hadds : Adds id' (s.run steps) x :=
        queuedId?_eq_some_iff.mp (Option.mem_toList.mp hid')
      exact hadds.sequence_lt (issued_of_mem_queuedIds hwf hid) hstack

/-- What is stored after a run was queued in it. -/
theorem mem_queuedIds_of_message? (renderer : ρ) (steps : List (Step ρ)) {id : MessageId}
    {m : Message} (hm : ((start renderer).run steps).message? id = some m) :
    id ∈ (start renderer).queuedIds steps := by
  induction steps using List.reverseRecOn generalizing m with
  | nil =>
    rw [show ((start renderer).run []).message? id = none from Registry.message?_empty id] at hm
    cases hm
  | append_singleton steps x ih =>
    have hwf : ((start renderer).run steps).WellFormed :=
      wellFormed_run (wellFormed_start renderer) steps
    rw [queuedIds_concat, List.mem_append]
    rw [run_concat] at hm
    rcases adds_or_remained _ x hwf hm with hadds | ⟨m', hm', -⟩
    · exact Or.inr (Option.mem_toList.mpr (queuedId?_eq_some_iff.mpr hadds))
    · exact Or.inl (ih hm')

/-! ## The pending messages of a stack -/

/-- The messages that a run queued in a stack and that are pending after it, in the order in which
they were queued. -/
def pendingQueued (s : Session ρ) (steps : List (Step ρ)) (now : Reading) (stack : String) :
    List (MessageId × Message) :=
  ((s.queuedIds steps).filter fun id => decide (id.stack = stack)).filterMap fun id =>
    (((s.run steps).message? id).filter fun m => m.isPending now).map fun m => (id, m)

section

variable {renderer : ρ} {steps : List (Step ρ)} {now : Reading} {name : String}

/-- What is pending in a stack after a run was queued in it. -/
theorem mem_pendingQueued_iff {id : MessageId} {m : Message} :
    (id, m) ∈ (start renderer).pendingQueued steps now name ↔
      id.stack = name ∧ ((start renderer).run steps).message? id = some m ∧
        m.isPending now = true := by
  unfold pendingQueued
  rw [List.mem_filterMap]
  constructor
  · rintro ⟨id', hid', heq⟩
    obtain ⟨m', hm', heq⟩ := Option.map_eq_some_iff.mp heq
    cases heq
    obtain ⟨hm, hp⟩ := Option.filter_eq_some_iff.mp hm'
    exact ⟨of_decide_eq_true (List.mem_filter.mp hid').2, hm, hp⟩
  · rintro ⟨hstack, hm, hp⟩
    refine ⟨id, List.mem_filter.mpr ⟨mem_queuedIds_of_message? renderer steps hm,
      decide_eq_true hstack⟩, ?_⟩
    rw [Option.filter_eq_some_iff.mpr ⟨hm, hp⟩]
    rfl

theorem increasing_pendingQueued (renderer : ρ) (steps : List (Step ρ)) (now : Reading)
    (name : String) :
    ((start renderer).pendingQueued steps now name).Pairwise fun e e' =>
      e.1.key.sequence < e'.1.key.sequence := by
  unfold pendingQueued
  rw [List.pairwise_filterMap, List.pairwise_filter]
  refine (increasing_queuedIds (wellFormed_start renderer) steps).imp ?_
  intro id id' hlt hid hid' e he e' he'
  obtain ⟨m, -, rfl⟩ := Option.map_eq_some_iff.mp he
  obtain ⟨m', -, rfl⟩ := Option.map_eq_some_iff.mp he'
  exact hlt ((of_decide_eq_true hid).trans (of_decide_eq_true hid').symm)

/-- The pending messages of a stack in the order of its keys are the pending ones in the order of
submission, stably sorted by type. -/
theorem mergeSort_pendingQueued {stack : Stack}
    (hs : ((start renderer).run steps).overlay.registry.get? name = some stack) :
    ((start renderer).pendingQueued steps now name).mergeSort
        (fun e e' => decide (e.2.type.rank ≤ e'.2.type.rank)) =
      (stack.messages.entries.filter fun e => e.2.isPending now).map
        fun e => (⟨name, e.1⟩, e.2) := by
  have hwf : ((start renderer).run steps).WellFormed :=
    wellFormed_run (wellFormed_start renderer) steps
  have hincreasing := increasing_pendingQueued renderer steps now name
  have hsorted : stack.messages.entries.Pairwise fun e e' =>
      e.1.type.rank < e'.1.type.rank ∨
        e.1.type.rank = e'.1.type.rank ∧ e.1.sequence < e'.1.sequence :=
    (List.pairwise_map.mp stack.messages.sorted).imp of_decide_eq_true
  have hkeyed := Registry.WellFormed.keyed hwf name stack hs
  have htype : ∀ e ∈ stack.messages.entries, e.2.type = e.1.type := fun e he =>
    hkeyed.type e.1 e.2 (OrderedMap.find?_eq_some_iff.mpr he)
  refine mergeSort_eq_of_increasing hincreasing ?_ ?_
  · rw [List.perm_ext_iff_of_nodup]
    · rintro ⟨id, m⟩
      rw [mem_pendingQueued_iff, List.mem_map]
      constructor
      · rintro ⟨e, he, heq⟩
        cases heq
        obtain ⟨he, hp⟩ := List.mem_filter.mp he
        refine ⟨rfl, ?_, hp⟩
        exact (Registry.message?_of_get? hs e.1).trans (OrderedMap.find?_eq_some_iff.mpr he)
      · rintro ⟨rfl, hm, hp⟩
        have hm := (Registry.message?_of_get? hs id.key).symm.trans hm
        exact ⟨(id.key, m), List.mem_filter.mpr ⟨OrderedMap.find?_eq_some_iff.mp hm, hp⟩, rfl⟩
    · apply List.Nodup.map
      · intro e e' heq
        exact congrArg (fun e : MessageId × Message => (e.1.key, e.2)) heq
      · exact (List.Nodup.of_map _ stack.messages.nodup_keys).filter _
    · exact hincreasing.imp fun hlt heq => by
        rw [heq] at hlt
        exact Nat.lt_irrefl _ hlt
  · rw [List.pairwise_map]
    refine List.Pairwise.imp_of_mem ?_ (hsorted.sublist List.filter_sublist)
    intro e e' he he' hlt
    rw [htype e (List.mem_filter.mp he).1, htype e' (List.mem_filter.mp he').1]
    exact hlt

end

/-! ## The placements of a frame -/

/-- The placements of a frame that draws come stack by stack, the default stack first and the named
ones in the byte order of their names. Those of a stack are numbered from zero, and are for its
pending messages in the order in which they were queued, stably sorted by type, the whole list
reversed if the layout asks for it. -/
theorem placements_in_submission_order (renderer : ρ) (steps : List (Step ρ)) (R : Renderer ρ)
    (now : Reading) :
    let s := (start renderer).run steps
    let names := "" :: s.overlay.registry.names
    let report := (s.overlay.draw R now s.renderer).report
    s.overlay.enabled = true →
      names.Pairwise (fun a b => bytesBefore (utf8Bytes a) (utf8Bytes b) = true) ∧
      names.flatMap report.forStack = report.placements ∧
      ∀ name ∈ names, ∃ stack, s.overlay.registry.get? name = some stack ∧
        let pending := (start renderer).pendingQueued steps now name
        let shown := Stack.inOrder stack.layout.reversed
          (pending.mergeSort fun e e' => decide (e.2.type.rank ≤ e'.2.type.rank))
        let placed := (s.overlay.placed R now s.renderer).filter fun e => decide (e.2.stack = name)
        (∀ id m, (id, m) ∈ pending ↔
          id.stack = name ∧ s.message? id = some m ∧ m.isPending now = true) ∧
        placed.map Prod.snd = report.forStack name ∧
        placed.map Prod.fst = shown.map Prod.fst ∧
        (report.forStack name).map Placement.shown = shown.map (fun e => e.2.shown now) ∧
        (report.forStack name).map Placement.index =
          List.range (report.forStack name).length := by
  intro s names report henabled
  have hwf : s.WellFormed := wellFormed_run (wellFormed_start renderer) steps
  refine ⟨Registry.sorted_names hwf.unnamed, Overlay.flatMap_forStack R hwf, ?_⟩
  intro name hname
  obtain ⟨stack, hs⟩ : ∃ stack, s.overlay.registry.get? name = some stack := by
    obtain ⟨e, he, rfl⟩ : ∃ e ∈ s.overlay.registry.entries, e.1 = name := List.mem_map.mp hname
    exact ⟨e.2, (Registry.get?_iff_mem hwf.unnamed).mpr he⟩
  refine ⟨stack, hs, ?_⟩
  intro pending shown placed
  have hshown : shown = (stack.pendingEntries now).map fun e => (⟨name, e.1⟩, e.2) := by
    show Stack.inOrder _ _ = _
    rw [mergeSort_pendingQueued hs, Stack.inOrder_map, Stack.inOrder_filter]
    rfl
  refine ⟨fun id m => mem_pendingQueued_iff, ?_, ?_, ?_, Overlay.map_index_forStack R hs hwf⟩
  · unfold report FrameReport.forStack
    rw [← Overlay.map_snd_placed, List.filter_map]
    rfl
  · have hstack : placed =
        (s.overlay.placed R now s.renderer).filter fun e => decide (e.1.stack = name) := by
      refine List.filter_congr fun e he => ?_
      obtain ⟨m, -, -, hstack, -⟩ := Overlay.of_mem_placed R hwf he
      rw [hstack]
    have hids : (s.overlay.placedIds R now s.renderer).filter (fun id => decide (id.stack = name)) =
        (stack.pendingEntries now).map fun e => ⟨name, e.1⟩ :=
      Overlay.filter_placedIds R hs hwf henabled
    unfold Overlay.placedIds at hids
    rw [List.filter_map] at hids
    rw [hstack, hshown, List.map_map]
    exact hids
  · rw [hshown, List.map_map]
    exact Overlay.map_shown_forStack R hs hwf henabled

/-- A message of one second. -/
def brief (type : MessageType) (text : String) : Step Headless :=
  ⟨0, .submit type { text := text, duration := 1000, color := Color.green }⟩

/-- Typed messages are drawn before typeless ones and by their numbers, not as they were queued. -/
theorem drawn_by_type :
    let screen : Headless := { viewport := ⟨Binary.ofNat 640, Binary.ofNat 480⟩ }
    let steps := [brief .typeless "c", brief (.typed 7) "b", brief (.typed 3) "a"]
    let s := (start screen).run steps
    let report := (s.overlay.draw Headless.renderer 500 s.renderer).report
    (report.forStack "").map Placement.text = ["a", "b", "c"] := by
  intro screen steps s report
  obtain ⟨-, -, hstacks⟩ := placements_in_submission_order screen steps Headless.renderer 500 rfl
  obtain ⟨stack, hs, -, -, -, hshown, -⟩ := hstacks "" List.mem_cons_self
  rw [mergeSort_pendingQueued hs] at hshown
  have htexts := congrArg (List.map Prod.fst) hshown
  rw [List.map_map, List.map_map] at htexts
  refine htexts.trans ?_
  cases hs
  decide

end Session

end OnScreen
