import OnScreen.Proofs.Mirroring

/-!
# Independent submissions commute

Two submissions are independent if they go to different stacks or have different types. In either
order they leave the same messages, in the same places: the order only shows in the numbers under
which the messages are stored, and nothing that is asked or drawn later tells the numbers.

Results:
* `arrange_comm`, `Stack.toList_enqueue_comm`: messages of different types in one stack.
* `Overlay.submission_submit`: a submission does not change the result of one that is independent.
* `Overlay.Like.submit_comm`: overlays after the two orders are alike.
* `Renderer.parallel_self`, `Session.independent_submissions_commute`: whatever happens then is the
  same.
-/

namespace OnScreen

/-- The sense in which nothing may differ but the numbers of the messages. -/
def Sense.numbering : Sense :=
  .faithful (· = ·) (· = ·)

/-! ## Messages of different types in one stack -/

section

variable {m m' : Message} (h : m.type ≠ m'.type)

include h

theorem arrange_comm (ms : List Message) :
    arrange m (arrange m' ms) = arrange m' (arrange m ms) := by
  have hrank : m.type.rank ≠ m'.type.rank := fun heq => h (MessageType.rank_inj heq)
  induction ms with
  | nil =>
    rcases Nat.lt_or_gt_of_ne hrank with hlt | hlt
    · simp only [arrange, if_pos hlt, if_neg (Nat.lt_asymm hlt)]
    · simp only [arrange, if_pos hlt, if_neg (Nat.lt_asymm hlt)]
  | cons a ms ih =>
    -- the three ranks are in one of a few orders, and `a` goes before or behind each message
    by_cases hm : m.type.rank < a.type.rank <;> by_cases hm' : m'.type.rank < a.type.rank
    · rcases Nat.lt_or_gt_of_ne hrank with hlt | hlt
      · simp only [arrange, if_pos hm, if_pos hm', if_pos hlt, if_neg (Nat.lt_asymm hlt)]
      · simp only [arrange, if_pos hm, if_pos hm', if_pos hlt, if_neg (Nat.lt_asymm hlt)]
    · have hlt : ¬ m'.type.rank < m.type.rank := by omega
      simp only [arrange, if_pos hm, if_neg hm', if_neg hlt]
    · have hlt : ¬ m.type.rank < m'.type.rank := by omega
      simp only [arrange, if_neg hm, if_pos hm', if_neg hlt]
    · simp only [arrange, if_neg hm, if_neg hm', ih]

end

theorem map_arrange {f : Message → Message} (hf : ∀ m, (f m).type = m.type) (m : Message)
    (ms : List Message) : (arrange m ms).map f = arrange (f m) (ms.map f) := by
  induction ms with
  | nil => rfl
  | cons a ms ih =>
    rw [List.map_cons, arrange, arrange, hf, hf]
    split
    · rfl
    · rw [List.map_cons, ih]

namespace Message

/-- What becomes of a message when a new one is queued. -/
def supersededBy (m new : Message) : Message :=
  if new.type.Supersedes m.type then m.discard else m

variable {m m' : Message}

theorem type_supersededBy (m new : Message) : (m.supersededBy new).type = m.type := by
  unfold supersededBy
  split <;> rfl

theorem supersededBy_of_ne {new : Message} (h : new.type ≠ m.type) : m.supersededBy new = m :=
  if_neg fun hsup => h hsup.2.symm

theorem supersededBy_comm (h : m.type ≠ m'.type) (a : Message) :
    (a.supersededBy m).supersededBy m' = (a.supersededBy m').supersededBy m := by
  by_cases ha : m.type = a.type
  · have hne : m'.type ≠ a.type := fun ha' => h (ha.trans ha'.symm)
    have hne' : m'.type ≠ (a.supersededBy m).type := by
      rwa [type_supersededBy]
    rw [supersededBy_of_ne hne, supersededBy_of_ne hne']
  · have ha' : m.type ≠ (a.supersededBy m').type := by
      rwa [type_supersededBy]
    rw [supersededBy_of_ne ha, supersededBy_of_ne ha']

end Message

namespace Stack

variable {stack : Stack} {m m' : Message}

/-- Messages of different types can be queued in either order. -/
theorem toList_enqueue_comm (hkeyed : stack.Keyed) (h : m.type ≠ m'.type) :
    (Overlay.enqueue (Overlay.enqueue stack m) m').toList =
      (Overlay.enqueue (Overlay.enqueue stack m') m).toList := by
  have htwice {first second : Message} (hne : second.type ≠ first.type) :
      (Overlay.enqueue (Overlay.enqueue stack first) second).toList =
        arrange second (arrange first
          (stack.toList.map fun a => (a.supersededBy first).supersededBy second)) := by
    rw [toList_enqueue (hkeyed.enqueue first), toList_enqueue hkeyed]
    show arrange second ((arrange first (stack.toList.map (Message.supersededBy · first))).map
      (Message.supersededBy · second)) = _
    rw [map_arrange fun a => a.type_supersededBy second, Message.supersededBy_of_ne hne,
      List.map_map]
    rfl
  have hcomm : (fun a : Message => (a.supersededBy m).supersededBy m') =
      fun a => (a.supersededBy m').supersededBy m :=
    funext fun a => Message.supersededBy_comm h a
  rw [htwice h.symm, htwice h, arrange_comm h.symm, hcomm]

/-- A message does not change what the duplicate check finds of other types. -/
theorem hasMessage_enqueue_of_ne {type : MessageType} (h : m.type ≠ type) (text : String)
    (now : Reading) :
    (Overlay.enqueue stack m).hasMessage type text now = stack.hasMessage type text now := by
  have hfind {key : Key} (hkey : key.type = type) :
      (Overlay.enqueue stack m).messages.find? key = stack.messages.find? key := by
    have hne : key ≠ ⟨m.type, stack.nextSequence⟩ := by
      rintro rfl
      exact h hkey
    have hsup : ¬ m.type.Supersedes key.type := fun hsup => h (hsup.2.symm.trans hkey)
    rw [find?_enqueue, if_neg hne]
    simp only [if_neg hsup, Option.map_id']
  rw [Bool.eq_iff_iff, hasMessage_iff, hasMessage_iff]
  refine exists_congr fun key => exists_congr fun a => ⟨?_, ?_⟩
  · rintro ⟨hfound, hkey, hrest⟩
    exact ⟨(hfind hkey).symm.trans hfound, hkey, hrest⟩
  · rintro ⟨hfound, hkey, hrest⟩
    exact ⟨(hfind hkey).trans hfound, hkey, hrest⟩

end Stack

/-! ## Registries -/

/-- Stacks with the same layout and the same messages in the same order are alike. -/
theorem Stack.Like.of_toList_eq {stack stack' : Stack} (hlayout : stack.layout = stack'.layout)
    (hmessages : stack.toList = stack'.toList) : stack.Like .numbering stack' := by
  refine ⟨hlayout, ?_⟩
  rw [hmessages]
  exact (Stack.Like.refl (fun _ => rfl) (fun _ => rfl) stack').messages

/-- Messages for different stacks or of different types can be queued in either order. -/
theorem Registry.Like.enqueue_comm {registry : Registry} (hwf : registry.WellFormed)
    {name name' : String} {m m' : Message} (h : name ≠ name' ∨ m.type ≠ m'.type) :
    ((registry.adjust name (Overlay.enqueue · m)).adjust name' (Overlay.enqueue · m')).Like
      .numbering (fun _ => True)
      ((registry.adjust name' (Overlay.enqueue · m')).adjust name (Overlay.enqueue · m)) := by
  constructor
  · intro name₀
    simp only [isSome_get?_adjust]
  · intro name₀ stack stack' _ hs hs'
    simp only [get?_adjust] at hs hs'
    by_cases hboth : name₀ = name ∧ name₀ = name'
    · obtain ⟨hname, hname'⟩ := hboth
      have htype : m.type ≠ m'.type := h.resolve_left fun hne => hne (hname.symm.trans hname')
      rw [if_pos hname', if_pos hname] at hs
      rw [if_pos hname, if_pos hname'] at hs'
      rw [Option.map_map] at hs hs'
      obtain ⟨stack₀, hs₀, rfl⟩ := Option.map_eq_some_iff.mp hs
      obtain ⟨stack₁, hs₁, rfl⟩ := Option.map_eq_some_iff.mp hs'
      obtain rfl : stack₀ = stack₁ := Option.some.inj (hs₀.symm.trans hs₁)
      refine .of_toList_eq ?_ (Stack.toList_enqueue_comm (hwf.keyed _ _ hs₀) htype)
      simp only [Function.comp_apply, Stack.layout_enqueue]
    · have heq : some stack = some stack' := by
        rw [← hs, ← hs']
        by_cases hname : name₀ = name
        · have hname' : ¬ name₀ = name' := fun hname' => hboth ⟨hname, hname'⟩
          rw [if_neg hname', if_pos hname, if_pos hname, if_neg hname']
        · rw [if_neg hname, if_neg hname]
      cases heq
      exact .refl (fun _ => rfl) (fun _ => rfl) stack

/-! ## Overlays -/

namespace Overlay

variable {overlay : Overlay} {now : Reading} {type type' : MessageType} {request request' : Request}

/-- Submissions go to the same stacks after a submission. -/
theorem target_submit (overlay : Overlay) (now : Reading) (type : MessageType)
    (request request' : Request) :
    (overlay.submit now type request).value.1.target request' = overlay.target request' := by
  by_cases hq : overlay.Queues now type request
  · rw [submit_of_queues hq]
    unfold target
    rw [Registry.resolve_eq, Registry.Like.isSome_get?_adjust, ← Registry.resolve_eq]
  · rw [submit_of_not_queues hq]

/-- A submission does not change what the check finds of other types or in other stacks. -/
theorem hasMessage_submit_of_ne {name : String} (h : overlay.target request ≠ name ∨ type ≠ type')
    (now' : Reading) (text : String) :
    (overlay.submit now type request).value.1.hasMessage now' name type' text =
      overlay.hasMessage now' name type' text := by
  by_cases hq : overlay.Queues now type request
  · rw [submit_of_queues hq]
    unfold hasMessage
    rw [Registry.get?_adjust]
    by_cases hname : name = overlay.target request
    · have htype : (request.toMessage type now).type ≠ type' :=
        h.resolve_left fun hne => hne hname.symm
      rw [if_pos hname]
      cases overlay.registry.get? name with
      | none => rfl
      | some stack => exact Stack.hasMessage_enqueue_of_ne htype text now'
    · rw [if_neg hname]
  · rw [submit_of_not_queues hq]

section

variable (h : overlay.target request ≠ overlay.target request' ∨ type ≠ type')

include h

theorem queues_submit_iff (now now' : Reading) :
    (overlay.submit now type request).value.1.Queues now' type' request' ↔
      overlay.Queues now' type' request' := by
  rw [← not_iff_not, not_queues_iff, not_queues_iff, target_submit,
    hasMessage_submit_of_ne h]

/-- A submission does not change the result of one that is independent of it. -/
theorem submission_submit (now' : Reading) :
    ((overlay.submit now type request).value.1.submit now' type' request').value.2 =
      (overlay.submit now' type' request').value.2 := by
  have hiff := queues_submit_iff h now now'
  by_cases hq : overlay.Queues now' type' request'
  · exact (hiff.mpr hq).trans hq.symm
  · rw [submit_of_not_queues hq, submit_of_not_queues (mt hiff.mp hq)]

/-- Independent submissions leave overlays that are alike, in whichever order they are made. -/
theorem Like.submit_comm (hwf : overlay.registry.WellFormed) (now now' : Reading) :
    ((overlay.submit now type request).value.1.submit now' type' request').value.1.Like .numbering
      (fun _ => True)
      ((overlay.submit now' type' request').value.1.submit now type request).value.1 := by
  have h' : overlay.target request' ≠ overlay.target request ∨ type' ≠ type :=
    h.imp Ne.symm Ne.symm
  have hsecond := queues_submit_iff h now now'
  have hfirst := queues_submit_iff h' now' now
  have hrefl (overlay : Overlay) : overlay.Like .numbering (fun _ => True) overlay := by
    refine ⟨rfl, rfl, rfl, fun _ => rfl, ?_⟩
    intro name stack stack' _ hs hs'
    obtain rfl : stack = stack' := Option.some.inj (hs.symm.trans hs')
    exact .refl (fun _ => rfl) (fun _ => rfl) stack
  by_cases hq : overlay.Queues now type request <;>
    by_cases hq' : overlay.Queues now' type' request'
  · rw [submit_of_queues (hsecond.mpr hq'), submit_of_queues (hfirst.mpr hq), target_submit,
      target_submit, submit_of_queues hq, submit_of_queues hq']
    exact ⟨rfl, rfl, rfl, .enqueue_comm hwf h⟩
  · rw [submit_of_not_queues (mt hsecond.mp hq'), submit_of_not_queues hq']
    exact hrefl _
  · rw [submit_of_not_queues (mt hfirst.mp hq), submit_of_not_queues hq]
    exact hrefl _
  · rw [submit_of_not_queues (mt hsecond.mp hq'), submit_of_not_queues (mt hfirst.mp hq),
      submit_of_not_queues hq, submit_of_not_queues hq']
    exact hrefl _

end

end Overlay

/-! ## Runs -/

variable {ρ : Type}

/-- A renderer answers like itself. -/
theorem Renderer.parallel_self (R : Renderer ρ) :
    R.Parallel R (· = ·) (· = ·) (· = ·) where
  viewport h := by rw [h]
  framebufferScale h := by rw [h]
  report h _ := by rw [h]
  destroy h ht := by rw [h, ht]
  begin h _ _ := by rw [h]
  upload {c c'} h icon := by
    subst h
    refine ⟨rfl, ?_⟩
    cases (c.upload R icon).2 with
    | none => exact .none
    | some t => exact .some rfl
  reportOpened h _ := by rw [h]
  drawImage h ht _ := by rw [h, ht]
  drawText h _ _ _ := by rw [h]
  measure h := by
    subst h
    exact ⟨rfl, rfl⟩
  place h _ _ := by rw [h]
  close h := by rw [h]

namespace Session

/-- Whatever is done to sessions whose overlays differ in the numbers of messages only, their
renderers do the same. -/
theorem Mirrors.same_frames {s s' : Session ρ}
    (h : s.Mirrors (· = ·) (· = ·) (· = ·) [] s') (hs : s.WellFormed) (hs' : s'.WellFormed)
    (R : Renderer ρ) (now : Reading) :
    (s.overlay.draw R now s.renderer).report = (s'.overlay.draw R now s'.renderer).report ∧
      (s.overlay.draw R now s.renderer).canvas = (s'.overlay.draw R now s'.renderer).canvas := by
  have hcanvas : (({ renderer := s.renderer } : Canvas ρ).destroyAll R []) =
      { renderer := s'.renderer } :=
    congrArg (fun renderer => ({ renderer := renderer } : Canvas ρ)) h.renderer
  obtain ⟨hreport, hafter, -⟩ :=
    h.draw hs hs' Sense.lawful_faithful_eq R.parallel_self hcanvas (rfl : now = now)
  exact ⟨hreport, hafter⟩

theorem renderersMirror_self :
    RenderersMirror (· = ·) ((· = ·) : Renderer ρ → Renderer ρ → Prop) (· = ·) (· = []) := by
  rintro R _ renderer _ _ rfl rfl rfl
  refine ⟨(· = ·), (· = ·), R.parallel_self, rfl, ?_⟩
  rintro canvas _ rfl
  rfl

/-- Independent submissions commute. In every state of a run, two submissions to different stacks
or of different types have the same results in either order. Whatever is done after them, both
orders give the same answers, and every frame has the same report and the same calls of the
renderer, with the same textures, which is left in the same state. -/
theorem independent_submissions_commute (initial : ρ) (past : List (Step ρ)) (now : Reading)
    (type type' : MessageType) (request request' : Request)
    (hindependent :
      let overlay := ((start initial).run past).overlay
      overlay.target request ≠ overlay.target request' ∨ type ≠ type') :
    let s := (start initial).run past
    let first : Step ρ := ⟨now, .submit type request⟩
    let second : Step ρ := ⟨now, .submit type' request'⟩
    ((s.step second).overlay.submit now type request).value.2 =
        (s.overlay.submit now type request).value.2 ∧
      ((s.step first).overlay.submit now type' request').value.2 =
        (s.overlay.submit now type' request').value.2 ∧
      ∀ future : List (Step ρ),
        let t := s.run (first :: second :: future)
        let t' := s.run (second :: first :: future)
        t.overlay.SameAnswers t'.overlay ∧ t.renderer = t'.renderer ∧
          ∀ R now,
            (t.overlay.draw R now t.renderer).report =
                (t'.overlay.draw R now t'.renderer).report ∧
              (t.overlay.draw R now t.renderer).canvas =
                (t'.overlay.draw R now t'.renderer).canvas := by
  intro s first second
  have hwf : s.WellFormed := wellFormed_run (wellFormed_start initial) past
  refine ⟨Overlay.submission_submit (hindependent.imp Ne.symm Ne.symm) now,
    Overlay.submission_submit hindependent now, ?_⟩
  intro future t t'
  have hswapped : (s.run [first, second]).Mirrors (· = ·) (· = ·) (· = ·) []
      (s.run [second, first]) := by
    refine ⟨⟨Overlay.Like.submit_comm hindependent hwf now now, rfl⟩,
      s.overlay.registry.orphans, ?_, ?_⟩
    · exact (Overlay.orphans_submit _ now type' request').trans
        (Overlay.orphans_submit s.overlay now type request)
    · have horphans : (s.run [second, first]).overlay.registry.orphans =
          s.overlay.registry.orphans :=
        (Overlay.orphans_submit _ now type request).trans
          (Overlay.orphans_submit s.overlay now type' request')
      rw [horphans]
      exact List.forall₂_same.mpr fun _ _ => rfl
  have hafter : t.Mirrors (· = ·) (· = ·) (· = ·) [] t' := by
    have hrun := hswapped.run (wellFormed_run hwf _) (wellFormed_run hwf _)
      Sense.lawful_faithful_eq renderersMirror_self rfl rfl
      (List.forall₂_same.mpr fun step (_ : step ∈ future) =>
        Step.Like.same (fun _ => rfl) (fun _ => rfl) (fun _ => rfl) fun _ _ => rfl)
    unfold owedAfter at hrun
    rw [ite_self] at hrun
    exact hrun
  have hwft : t.WellFormed := wellFormed_run hwf _
  have hwft' : t'.WellFormed := wellFormed_run hwf _
  refine ⟨?_, hafter.renderer, ?_⟩
  · exact hafter.overlay.sameAnswers hwft hwft' Sense.lawful_faithful_eq (fun _ => rfl)
      fun _ => rfl
  · intro R now
    exact hafter.same_frames hwft hwft' R now

/-- A message of a type for the default stack. -/
def typedNotice (tag : UInt32) (text : String) : Step Headless :=
  ⟨0, .submit (.typed tag) { text := text, duration := 1000, color := Color.cyan }⟩

/-- A notice about the volume and one about the network are numbered in the order in which they are
submitted; the next frame shows them in the same places. -/
theorem volume_and_network_commute :
    let screen : Headless := { viewport := ⟨Binary.ofNat 640, Binary.ofNat 480⟩ }
    let t := (start screen).run [typedNotice 1 "Volume 40%", typedNotice 2 "Connected"]
    let t' := (start screen).run [typedNotice 2 "Connected", typedNotice 1 "Volume 40%"]
    t.overlay.registry.ids ≠ t'.overlay.registry.ids ∧
      (t.overlay.draw Headless.renderer 100 t.renderer).report =
        (t'.overlay.draw Headless.renderer 100 t'.renderer).report := by
  intro screen t t'
  have hcommute := independent_submissions_commute screen [] 0 (.typed 1) (.typed 2)
    { text := "Volume 40%", duration := 1000, color := Color.cyan }
    { text := "Connected", duration := 1000, color := Color.cyan } (Or.inr (by decide))
  exact ⟨by decide, ((hcommute.2.2 []).2.2 Headless.renderer 100).1⟩

end Session

end OnScreen
