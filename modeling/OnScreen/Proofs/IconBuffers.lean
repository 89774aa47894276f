import OnScreen.Image.File
import OnScreen.Proofs.Icons

/-!
# The buffers of uploaded icons

A renderer that uploads an icon trusts that its buffer holds the pixels, and nothing else; the
headless renderer asserts it. The overlay makes no icons: what a frame uploads was submitted before,
as it was built. An icon that is built from bytes or from a file is full, but dimensions whose bytes
cannot be counted in a machine word stop the program instead of being refused; and an icon that is
built from an image takes over what its buffer has to spare.

Results:
* `Icon.byteCount_eq`, `Icon.ofBytes_eq`: the check in natural numbers.
* `Icon.Built.holds`, `Icon.Built.full_or_spare`: the buffers of icons, however they are built.
* `Overlay.mem_uploads_draw`: a frame uploads icons that wait in stored messages.
* `Session.waiting_submitted`, `Session.upload_submitted`: icons that wait and icons that are
  uploaded were submitted.
* `Headless.failure_perform_iff`, `custody_asserted`: assertions fail for uploaded icons that are
  not full, and at no other time.
* `Session.uploads_as_built`: what is known of the buffer of every upload, and of the assertion.
-/

namespace OnScreen

/-! ## The check -/

namespace Icon

/-- The bytes of an image of the given dimensions, four for each pixel. -/
def pixelBytes (width height : UInt32) : Nat :=
  width.toNat * height.toNat * 4

/-- The buffer holds the pixels and nothing else. -/
def IsFull (icon : Icon) : Prop :=
  icon.rgba.size = pixelBytes icon.width icon.height

/-- The pixels of an image can always be counted, its bytes cannot. -/
theorem byteCount_eq (width height : UInt32) :
    byteCount width height =
      if pixelBytes width height < UInt64.size then .ok (pixelBytes width height)
      else .error .overflow := by
  have hpixels : width.toNat * height.toNat < UInt64.size := by
    show _ < 2 ^ 32 * 2 ^ 32
    exact Nat.mul_lt_mul'' width.toNat_lt height.toNat_lt
  unfold byteCount
  rw [wordProduct, if_pos hpixels]
  rfl

theorem ofBytes_eq (width height : UInt32) (rgba : ByteArray) :
    ofBytes width height rgba =
      if pixelBytes width height < UInt64.size then
        .ok (if rgba.size = pixelBytes width height then .ok ⟨width, height, rgba⟩
          else .error ⟨width, height, pixelBytes width height, rgba.size⟩)
      else .error .overflow := by
  unfold ofBytes
  rw [byteCount_eq]
  split
  · show (if _ then _ else _) = _
    split <;> rfl
  · rfl

/-! ## Icons, as they are built -/

/-- How an icon comes to be: from the bytes that its dimensions ask for, from an image, or from a
file. -/
inductive Built : Icon → Prop
  | bytes {width height : UInt32} {rgba : ByteArray} {icon : Icon} :
    ofBytes width height rgba = .ok (.ok icon) → Built icon
  | image (image : RgbaImage) : Built (ofImage image)
  | file {tree : FileTree} {path : String} {icon : Icon} : load tree path = .ok icon → Built icon

variable {icon : Icon}

theorem isFull_of_ofBytes {width height : UInt32} {rgba : ByteArray}
    (h : ofBytes width height rgba = .ok (.ok icon)) :
    icon.IsFull ∧ icon.rgba.size < UInt64.size := by
  rw [ofBytes_eq] at h
  split at h
  · rename_i hfits
    split at h
    · rename_i hsize
      cases h
      exact ⟨hsize, hsize ▸ hfits⟩
    · cases h
  · cases h

theorem isFull_of_toIcon {raster : Raster} (h : raster.toIcon = .ok icon) :
    icon.IsFull ∧ icon.rgba.size < UInt64.size := by
  unfold Raster.toIcon at h
  dsimp only at h
  split at h
  · rename_i hsize
    cases h
    exact hsize
  · cases h

/-- A file holds an image without spare bytes. -/
theorem isFull_of_load {tree : FileTree} {path : String} (h : load tree path = .ok icon) :
    icon.IsFull ∧ icon.rgba.size < UInt64.size := by
  unfold load ofFile at h
  split at h
  · cases h
  · cases h
  · cases h
  · split at h
    · cases h
    · exact isFull_of_toIcon h

/-- The buffer of an icon holds at least the pixels. -/
theorem Built.holds (h : icon.Built) :
    pixelBytes icon.width icon.height ≤ icon.rgba.size ∧ icon.rgba.size < UInt64.size := by
  cases h with
  | bytes h => exact ⟨Nat.le_of_eq (isFull_of_ofBytes h).1.symm, (isFull_of_ofBytes h).2⟩
  | image image => exact ⟨image.holds, image.fits⟩
  | file h => exact ⟨Nat.le_of_eq (isFull_of_load h).1.symm, (isFull_of_load h).2⟩

/-- Only an image can bring bytes to spare. -/
theorem Built.full_or_spare (h : icon.Built) :
    icon.IsFull ∨ ∃ image : RgbaImage, icon = ofImage image ∧
      pixelBytes image.width image.height < image.bytes.size := by
  cases h with
  | bytes h => exact Or.inl (isFull_of_ofBytes h).1
  | file h => exact Or.inl (isFull_of_load h).1
  | image image =>
    rcases Nat.lt_or_eq_of_le image.holds with hspare | hfull
    · exact Or.inr ⟨image, rfl, hspare⟩
    · exact Or.inl hfull.symm

/-- The bytes of an icon that was built can be counted, so the assertion is about their number. -/
theorem Built.failure?_eq_some_iff (h : icon.Built) (failure : Failure) :
    icon.failure? = some failure ↔
      ¬ icon.IsFull ∧ failure = .unequal icon.rgba.size (pixelBytes icon.width icon.height) := by
  obtain ⟨hholds, hfits⟩ := h.holds
  unfold failure? IsFull
  rw [byteCount_eq, if_pos (Nat.lt_of_le_of_lt hholds hfits)]
  dsimp only
  split
  · rename_i hfull
    exact ⟨nofun, fun h => absurd hfull h.1⟩
  · rename_i hnot
    rw [Option.some_inj]
    exact ⟨fun h => ⟨hnot, h.symm⟩, fun h => h.2.symm⟩

end Icon

/-! ## The uploads of a frame -/

variable {ρ : Type}

theorem Picture.icon?_ofIcon? (icon : Option Icon) : (Picture.ofIcon? icon).icon? = icon := by
  cases icon <;> rfl

/-- A drawing uploads the icon that it finds waiting. -/
theorem Drawing.mem_uploads {d : Drawing} {icon : Icon} {answer : Option TextureId}
    (h : (.upload icon, answer) ∈ d.calls) : d.before.picture.icon? = some icon := by
  unfold calls at h
  simp only [List.mem_append, List.mem_cons, List.mem_map, List.not_mem_nil, or_false] at h
  rcases h with ((h | ⟨icon', hicon, h⟩) | ⟨texture, -, h⟩) | (h | h | h)
  · cases h
  · cases h
    exact Option.mem_toList.mp hicon
  · cases h
  · cases h
  · cases h
  · cases h

/-- A frame uploads icons that wait in stored messages. -/
theorem Overlay.mem_uploads_draw {R : Renderer ρ} {overlay : Overlay} {now : Reading}
    {renderer : ρ} (h : overlay.registry.WellFormed) {icon : Icon} {answer : Option TextureId}
    (hcall : (.upload icon, answer) ∈ (overlay.draw R now renderer).canvas.calls) :
    ∃ id m, overlay.registry.message? id = some m ∧ m.picture.icon? = some icon := by
  have hdrawn : (.upload icon, answer) ∈
      (overlay.drawn R now renderer).flatMap fun e => e.2.calls := by
    rw [← drawn_calls]
    exact List.mem_filter.mpr ⟨hcall, rfl⟩
  obtain ⟨⟨id, d⟩, hd, hcall⟩ := List.mem_flatMap.mp hdrawn
  exact ⟨id, d.before, (of_mem_drawn h hd).1, Drawing.mem_uploads hcall⟩

/-! ## The uploads of a run -/

/-- The icon that a step submits. -/
def Step.icon? (x : Step ρ) : Option Icon :=
  match x.operation with
  | .submit _ request => request.icon
  | _ => none

namespace Session

/-- An icon that waits in a stored message was submitted with it. -/
theorem waiting_submitted (renderer : ρ) (steps : List (Step ρ)) {id : MessageId} {m : Message}
    {icon : Icon} (hm : ((start renderer).run steps).message? id = some m)
    (hicon : m.picture.icon? = some icon) : ∃ x ∈ steps, x.icon? = some icon := by
  induction steps using List.reverseRecOn generalizing m with
  | nil =>
    have hnone : ((start renderer).run []).message? id = none := Registry.message?_empty id
    rw [hnone] at hm
    cases hm
  | append_singleton steps x ih =>
    have hwf := wellFormed_run (wellFormed_start renderer) steps
    rw [run_concat] at hm
    -- the last step queued the message, or drew it, after which no icon waits, or left its picture
    by_cases hadds : Adds id ((start renderer).run steps) x
    · obtain ⟨type, request, hop, hq, rfl⟩ := hadds
      obtain ⟨now, operation⟩ := x
      cases hop
      have hstored := (Overlay.message?_submit_nextId hq).symm.trans hm
      cases hstored
      refine ⟨_, List.mem_append_right _ List.mem_cons_self, ?_⟩
      exact (Picture.icon?_ofIcon? request.icon).symm.trans hicon
    · have hbefore : ∃ m₀, ((start renderer).run steps).message? id = some m₀ ∧
          m₀.picture.icon? = some icon := by
        rcases drawingsIn_cases hwf hadds with ⟨-, hsame⟩ | ⟨d, -, -, hafter, hanswered⟩
        · obtain ⟨m₀, hm₀, -, hpicture⟩ := hsame m hm
          exact ⟨m₀, hm₀, hpicture ▸ hicon⟩
        · cases hafter.symm.trans hm
          rw [hanswered.picture, Picture.icon?_answered] at hicon
          cases hicon
      obtain ⟨m₀, hm₀, hicon₀⟩ := hbefore
      obtain ⟨y, hy, hsubmitted⟩ := ih hm₀ hicon₀
      exact ⟨y, List.mem_append_left _ hy, hsubmitted⟩

theorem not_call_mem_events (events : List Event) (call : Call) (answer : Option TextureId) :
    .call call answer ∉ events.map TraceEntry.event := by
  intro h
  obtain ⟨event, -, heq⟩ := List.mem_map.mp h
  cases heq

/-- An icon that is uploaded was submitted before. -/
theorem upload_submitted (renderer : ρ) (steps : List (Step ρ)) {icon : Icon}
    {answer : Option TextureId}
    (h : .call (.upload icon) answer ∈ ((start renderer).run steps).trace) :
    ∃ x ∈ steps, x.icon? = some icon := by
  induction steps using List.reverseRecOn with
  | nil => cases h
  | append_singleton steps x ih =>
    have hwf := wellFormed_run (wellFormed_start renderer) steps
    have hearlier (h : .call (.upload icon) answer ∈ ((start renderer).run steps).trace) :
        ∃ y ∈ steps ++ [x], y.icon? = some icon := by
      obtain ⟨y, hy, hsubmitted⟩ := ih h
      exact ⟨y, List.mem_append_left _ hy, hsubmitted⟩
    rw [run_concat] at h
    obtain ⟨now, operation⟩ := x
    cases operation with
    | enable on => exact hearlier h
    | obscureLeft pixels => exact hearlier h
    | obscureTop pixels => exact hearlier h
    | submit type request =>
      rcases List.mem_append.mp h with h | h
      · exact hearlier h
      · exact absurd h (not_call_mem_events _ _ _)
    | register layout =>
      rcases List.mem_append.mp h with h | h
      · exact hearlier h
      · exact absurd h (not_call_mem_events _ _ _)
    | clear =>
      rcases List.mem_append.mp h with h | h
      · exact hearlier h
      · exact absurd h (not_call_mem_events _ _ _)
    | draw R =>
      rcases List.mem_append.mp h with h | h
      · exact hearlier h
      · have hcall : (.upload icon, answer) ∈
            (((start renderer).run steps).overlay.draw R now
              ((start renderer).run steps).renderer).canvas.calls := by
          refine List.mem_map.mpr ⟨(.upload icon, answer), ?_, rfl⟩
          exact List.mem_filterMap.mpr ⟨_, h, rfl⟩
        obtain ⟨id, m, hm, hicon⟩ := Overlay.mem_uploads_draw hwf hcall
        obtain ⟨y, hy, hsubmitted⟩ := waiting_submitted renderer steps hm hicon
        exact ⟨y, List.mem_append_left _ hy, hsubmitted⟩

/-- In a run that submits one icon only, that is the one for each texture. -/
theorem upload_of_mem_uploaded (renderer : ρ) {steps : List (Step ρ)} {icon : Icon}
    (honly : ∀ x ∈ steps, ∀ icon', x.icon? = some icon' → icon' = icon) {t : TextureId}
    (ht : t ∈ TraceEntry.uploaded ((start renderer).run steps).trace) :
    .call (.upload icon) (some t) ∈ ((start renderer).run steps).trace := by
  obtain ⟨entry, hentry, heq⟩ := List.mem_filterMap.mp ht
  split at heq
  · rename_i icon' answer
    subst heq
    obtain ⟨x, hx, hicon⟩ := upload_submitted renderer steps hentry
    rw [← honly x hx icon' hicon]
    exact hentry
  · cases heq

/-- A run that submits one message and draws submits the icon of that message only. -/
theorem icon_of_mem_drawn (type : MessageType) {request : Request} {icon : Icon}
    (hrequest : request.icon = some icon) {submitted drawn : Reading} {R : Renderer ρ} :
    ∀ x ∈ ([⟨submitted, .submit type request⟩, ⟨drawn, .draw R⟩] : List (Step ρ)), ∀ icon',
      x.icon? = some icon' → icon' = icon := by
  intro x hx icon' hicon
  simp only [List.mem_cons, List.not_mem_nil, or_false] at hx
  rcases hx with rfl | rfl
  · exact Option.some_inj.mp (hicon.symm.trans hrequest)
  · cases hicon

end Session

/-! ## The assertion -/

theorem Headless.failure_perform_other (r : Headless) {c : Call}
    (hc : ∀ icon, c ≠ .upload icon) : (r.perform c).failure = none := by
  cases c with
  | upload icon => exact absurd rfl (hc icon)
  | placeSurface name position =>
    unfold perform placeSurface
    cases r.current with
    | none => rfl
    | some surface =>
      dsimp only
      split <;> rfl
  | destroy texture =>
    unfold perform destroy
    dsimp only
    split <;> rfl
  | beginSurface | drawImage | drawText | endSurface => rfl

/-- The headless renderer makes its assertion about an icon that it uploads, and about nothing
else. -/
theorem Headless.failure_perform_iff (r : Headless) (c : Call) (failure : Failure) :
    (r.perform c).failure = some failure ↔
      ∃ icon t, c = .upload icon ∧ (r.perform c).texture = some t ∧
        icon.failure? = some failure := by
  by_cases hupload : ∃ icon, c = .upload icon
  · obtain ⟨icon, rfl⟩ := hupload
    unfold perform upload
    dsimp only
    split
    · exact ⟨nofun, fun ⟨_, _, _, h, _⟩ => nomatch h⟩
    · constructor
      · exact fun h => ⟨icon, _, rfl, rfl, h⟩
      · rintro ⟨_, _, hc, -, h⟩
        cases hc
        exact h
  · rw [r.failure_perform_other fun icon hc => hupload ⟨icon, hc⟩]
    exact ⟨nofun, fun ⟨icon, _, hc, _⟩ => absurd ⟨icon, hc⟩ hupload⟩

/-- The assertions that failed are those about the icons that were uploaded. -/
def Canvas.Asserted (canvas : Canvas Headless) : Prop :=
  ∀ failure, .failure failure ∈ canvas.trace ↔
    ∃ icon t, .call (.upload icon) (some t) ∈ canvas.trace ∧ icon.failure? = some failure

theorem Response.failure_mem_entries_iff {response : Response ρ} {failure : Failure} :
    .failure failure ∈ response.entries ↔ response.failure = some failure := by
  unfold entries
  simp

theorem Canvas.Asserted.report {canvas : Canvas Headless} (h : canvas.Asserted) (event : Event) :
    (canvas.report event).Asserted := by
  intro failure
  unfold Canvas.report
  simpa using h failure

/-- A call adds a failure together with the upload that it is about. -/
theorem Canvas.Asserted.perform {canvas : Canvas Headless} (h : canvas.Asserted) (c : Call) :
    (canvas.perform Headless.renderer c).Asserted := by
  intro failure
  have hfailure : .failure failure ∈ (canvas.perform Headless.renderer c).trace ↔
      .failure failure ∈ canvas.trace ∨ (canvas.renderer.perform c).failure = some failure := by
    unfold Canvas.perform
    rw [List.mem_append, List.mem_cons, Response.failure_mem_entries_iff]
    exact or_congr_right (or_iff_right nofun)
  have hcall (icon : Icon) (t : TextureId) :
      .call (.upload icon) (some t) ∈ (canvas.perform Headless.renderer c).trace ↔
        .call (.upload icon) (some t) ∈ canvas.trace ∨
          (c = .upload icon ∧ (canvas.renderer.perform c).texture = some t) := by
    have hnone : .call (.upload icon) (some t) ∉ (canvas.renderer.perform c).entries := by
      intro hmem
      rcases Response.of_mem_entries hmem with ⟨_, heq⟩ | ⟨_, -, heq⟩ <;> cases heq
    unfold Canvas.perform
    rw [List.mem_append, List.mem_cons]
    refine or_congr_right ((or_iff_left hnone).trans ?_)
    rw [TraceEntry.call.injEq]
    exact and_congr eq_comm eq_comm
  rw [hfailure, h failure, Headless.failure_perform_iff]
  simp only [hcall, or_and_right, exists_or, and_assoc]

theorem Canvas.asserted_start (renderer : Headless) :
    Canvas.Asserted { renderer := renderer } :=
  fun _ => ⟨nofun, fun ⟨_, _, h, _⟩ => nomatch h⟩

theorem custody_asserted : Custody (· = Headless.renderer) fun canvas _ => canvas.Asserted where
  perm _ h := h
  report event _ h := h.report event
  call hR c _ _ _ h := hR ▸ h.perform c
  upload hR icon h := hR ▸ h.perform (.upload icon)
  destroy hR t h := hR ▸ h.perform (.destroy t)

namespace Session

/-! ## Results -/

/-- An icon is uploaded with the buffer that it was built from. Dimensions whose bytes cannot be
counted in a machine word stop the program. For all others a buffer is taken as an icon exactly if
it holds the pixels and nothing else, and is refused with both sizes if not. Every upload of a run
is of an icon that was submitted in it. However this was built, its buffer holds the pixels; it
holds more only if it was built from an image whose buffer did. On headless renderers the assertion
about an uploaded icon fails exactly in that case. -/
theorem uploads_as_built {ρ : Type} (renderer : ρ) (steps : List (Step ρ)) :
    (∀ (width height : UInt32) (rgba : ByteArray),
      Icon.ofBytes width height rgba =
        if Icon.pixelBytes width height < UInt64.size then
          .ok (if rgba.size = Icon.pixelBytes width height then .ok ⟨width, height, rgba⟩
            else .error ⟨width, height, Icon.pixelBytes width height, rgba.size⟩)
        else .error .overflow) ∧
    (∀ (icon : Icon) (answer : Option TextureId),
      .call (.upload icon) answer ∈ ((start renderer).run steps).trace →
        (∃ x ∈ steps, x.icon? = some icon) ∧
        ((∀ x ∈ steps, ∀ icon, x.icon? = some icon → icon.Built) →
          Icon.pixelBytes icon.width icon.height ≤ icon.rgba.size ∧
          (icon.IsFull ∨ ∃ image : RgbaImage, icon = .ofImage image ∧
            Icon.pixelBytes image.width image.height < image.bytes.size))) ∧
    ∀ (screen : Headless) (steps : List (Step Headless)),
      (∀ x ∈ steps, ∀ R, x.operation = .draw R → R = Headless.renderer) →
      (∀ x ∈ steps, ∀ icon, x.icon? = some icon → icon.Built) →
        let trace := ((start screen).run steps).trace
        ∀ failure, .failure failure ∈ trace ↔
          ∃ icon t, .call (.upload icon) (some t) ∈ trace ∧ ¬ icon.IsFull ∧
            failure = .unequal icon.rgba.size (Icon.pixelBytes icon.width icon.height) := by
  refine ⟨Icon.ofBytes_eq, ?_, ?_⟩
  · intro icon answer hcall
    obtain ⟨x, hx, hicon⟩ := upload_submitted renderer steps hcall
    refine ⟨⟨x, hx, hicon⟩, fun hbuilt => ?_⟩
    have hthis := hbuilt x hx icon hicon
    exact ⟨hthis.holds.1, hthis.full_or_spare⟩
  · intro screen steps hsteps hbuilt trace failure
    have hasserted : ((start screen).run steps).canvas.Asserted :=
      custody_asserted.run (Canvas.asserted_start screen) steps hsteps
    refine (hasserted failure).trans (exists_congr fun icon => exists_congr fun t => ?_)
    refine and_congr_right fun hcall => ?_
    obtain ⟨x, hx, hicon⟩ := upload_submitted screen steps hcall
    exact (hbuilt x hx icon hicon).failure?_eq_some_iff failure

/-- The frames of a run that submits one message and draws it are drawn by the headless renderer. -/
theorem eq_renderer_of_mem_drawn (type : MessageType) (request : Request)
    {submitted drawn : Reading} :
    ∀ x ∈ ([⟨submitted, .submit type request⟩, ⟨drawn, .draw Headless.renderer⟩] :
        List (Step Headless)), ∀ R, x.operation = .draw R → R = Headless.renderer := by
  intro x hx R hR
  simp only [List.mem_cons, List.not_mem_nil, or_false] at hx
  rcases hx with rfl | rfl
  · cases hR
  · cases hR
    rfl

/-- The icon of one white pixel is uploaded with its four bytes, and the assertion holds. -/
theorem pixel_uploaded_full :
    let screen : Headless := { viewport := ⟨Binary.ofNat 640, Binary.ofNat 480⟩ }
    let trace := ((start screen).run pixelDrawn).trace
    Icon.ofBytes 1 1 ⟨#[255, 255, 255, 255]⟩ = .ok (.ok pixel) ∧
      .call (.upload pixel) (some ⟨1⟩) ∈ trace ∧ pixel.IsFull ∧
      ∀ failure, .failure failure ∉ trace := by
  intro screen trace
  have hpixel : Icon.ofBytes 1 1 ⟨#[255, 255, 255, 255]⟩ = .ok (.ok pixel) := rfl
  have honly : ∀ x ∈ pixelDrawn, ∀ icon, x.icon? = some icon → icon = pixel :=
    icon_of_mem_drawn .typeless rfl
  have hbuilt : ∀ x ∈ pixelDrawn, ∀ icon, x.icon? = some icon → icon.Built := fun x hx icon hicon =>
    honly x hx icon hicon ▸ .bytes hpixel
  have hcall : .call (.upload pixel) (some ⟨1⟩) ∈ trace :=
    upload_of_mem_uploaded screen honly (by decide +kernel)
  obtain ⟨-, huploads, hassertions⟩ := uploads_as_built screen pixelDrawn
  have hfull : pixel.IsFull := by
    rcases ((huploads pixel _ hcall).2 hbuilt).2 with
      hfull | ⟨⟨_, _, _, _, _⟩, himage, hspare⟩
    · exact hfull
    · cases himage
      exact absurd hspare (Nat.lt_irrefl 4)
  refine ⟨hpixel, hcall, hfull, fun failure hfailure => ?_⟩
  obtain ⟨icon, t, hupload, hnot, -⟩ :=
    (hassertions screen pixelDrawn (eq_renderer_of_mem_drawn _ _) hbuilt failure).mp hfailure
  obtain ⟨x, hx, hicon⟩ := (huploads icon _ hupload).1
  exact hnot (honly x hx icon hicon ▸ hfull)

/-- An image of one pixel, in a buffer that holds two. -/
def roomy : RgbaImage where
  width := 1
  height := 1
  bytes := ⟨#[255, 255, 255, 255, 0, 0, 0, 0]⟩
  holds := by decide
  fits := by decide

/-- A message with the icon of that image is queued and drawn. -/
def roomyDrawn : List (Step Headless) :=
  [⟨0, .submit .typeless
      { text := "roomy", duration := 1000, color := Color.green, icon := some (.ofImage roomy) }⟩,
    ⟨0, .draw Headless.renderer⟩]

/-- Dimensions of `2 ^ 62` pixels are not refused with the number of their bytes: to count these
stops the program. The spare bytes of an image become bytes of its icon, which is uploaded with
them, and the assertion fails. -/
theorem roomy_uploaded :
    let screen : Headless := { viewport := ⟨Binary.ofNat 640, Binary.ofNat 480⟩ }
    let trace := ((start screen).run roomyDrawn).trace
    Icon.ofBytes 2147483648 2147483648 ByteArray.empty = .error .overflow ∧
      ¬ (Icon.ofImage roomy).IsFull ∧
      .call (.upload (.ofImage roomy)) (some ⟨1⟩) ∈ trace ∧
      .failure (.unequal 8 4) ∈ trace := by
  intro screen trace
  have honly : ∀ x ∈ roomyDrawn, ∀ icon, x.icon? = some icon → icon = .ofImage roomy :=
    icon_of_mem_drawn .typeless rfl
  have hcall : .call (.upload (.ofImage roomy)) (some ⟨1⟩) ∈ trace :=
    upload_of_mem_uploaded screen honly (by decide +kernel)
  have hasserted : ((start screen).run roomyDrawn).canvas.Asserted :=
    custody_asserted.run (Canvas.asserted_start screen) _ (eq_renderer_of_mem_drawn _ _)
  refine ⟨rfl, ?_, hcall, (hasserted _).mpr ⟨_, _, hcall, by decide⟩⟩
  unfold Icon.IsFull Icon.pixelBytes
  decide

end Session

end OnScreen
