import OnScreen.Config
import OnScreen.Proofs.JsonNumeral
import OnScreen.Proofs.JsonObjects

/-!
# Configurations that are written by hand

A configuration is read from every object that tells its values: with the members in any order,
without those that have their defaults, and with others between them. The same holds for each of
its stacks.

Results:
* `StackLayout.fieldTexts`, `Config.fieldTexts`: what may stand for a layout and a configuration.
* `StackLayout.gives_reader`, `Config.gives_reader`: both are read from there.
* `Config.parse_of_isWritten`: whole texts are read, and files.
-/

namespace OnScreen

/-- A field is read as its value is, which is put into the record. -/
theorem Json.Reads.fieldOf {α β : Type} {read : Reader β} {s : List Char} {b? : Option β}
    (h : Reads read s b?) (name : String) (put : α → β → α) (value : α) :
    Reads ((Json.fieldOf name read put).read value) s (b?.map (put value)) := by
  intro blanks rest hblanks hrest
  have hread := h blanks rest hblanks hrest
  show ((read _).map fun r => (put value r.1, r.2)).toOption = _
  cases b? with
  | none =>
    obtain ⟨e, he⟩ := toOption_eq_none_iff.mp hread
    rw [he]
    rfl
  | some b =>
    rw [toOption_eq_some_iff.mp hread]
    rfl

theorem Json.Gives.fieldOf {α β : Type} {read : Reader β} {s : List Char} {b : β}
    (h : Gives read s b) (name : String) {put : α → β → α} {value value' : α}
    (hput : put value b = value') : Gives ((Json.fieldOf name read put).read value) s value' := by
  have hread := (reads_some_iff.mpr h).fieldOf name put value
  rw [Option.map_some, hput] at hread
  exact reads_some_iff.mp hread

/-- What was not seen is as its default. -/
theorem Json.ite_seen {α : Type} {a default : α} {key : String} {seen : List String}
    (h : key ∉ seen → a = default) : (if key ∈ seen then a else default) = a := by
  split
  · rfl
  · rename_i hkey
    exact (h hkey).symm

/-! ## Layouts -/

namespace StackLayout

/-- What may stand for a layout: the offsets as any numbers that are read as them, and no member for
what is empty, zero, downward or false. -/
def fieldTexts (layout : StackLayout) : List Json.FieldText :=
  [⟨"name", Json.IsSpelling layout.name, layout.name = ""⟩,
    ⟨"x_offset", fun s => Json.singleValue s = .ok (layout.offset.x, []),
      layout.offset.x = Binary.zero false⟩,
    ⟨"y_offset", fun s => Json.singleValue s = .ok (layout.offset.y, []),
      layout.offset.y = Binary.zero false⟩,
    ⟨"direction", Json.IsSpelling layout.direction.name, layout.direction = .downward⟩,
    ⟨"centered", fun s => s = Json.truth layout.centered, layout.centered = false⟩,
    ⟨"reversed", fun s => s = Json.truth layout.reversed, layout.reversed = false⟩]

/-- The layout as far as its fields were seen. -/
def sofar (layout : StackLayout) (seen : List String) : StackLayout where
  name := if "name" ∈ seen then layout.name else ""
  offset :=
    { x := if "x_offset" ∈ seen then layout.offset.x else Binary.zero false
      y := if "y_offset" ∈ seen then layout.offset.y else Binary.zero false }
  direction := if "direction" ∈ seen then layout.direction else .downward
  centered := if "centered" ∈ seen then layout.centered else false
  reversed := if "reversed" ∈ seen then layout.reversed else false

/-- Nothing is missing of a layout if what was not seen has its default. -/
theorem sofar_eq_self (layout : StackLayout) {seen : List String}
    (h : ∀ text ∈ layout.fieldTexts, text.name ∉ seen → text.Omittable) :
    layout.sofar seen = layout := by
  simp only [fieldTexts, List.forall_mem_cons] at h
  obtain ⟨hname, hx, hy, hdirection, hcentered, hreversed, -⟩ := h
  unfold sofar
  rw [Json.ite_seen hname, Json.ite_seen hx, Json.ite_seen hy, Json.ite_seen hdirection,
    Json.ite_seen hcentered, Json.ite_seen hreversed]

theorem gives_direction {d : Direction} {s : List Char} (h : Json.IsSpelling d.name s) :
    Json.Gives Direction.reader s d := by
  unfold Direction.reader
  cases d with
  | downward => exact Json.gives_plainVariant rfl h
  | upward => exact Json.gives_plainVariant rfl h
  | leftward => exact Json.gives_plainVariant rfl h
  | rightward => exact Json.gives_plainVariant rfl h

/-- A layout is read from each object that tells its values. -/
theorem gives_reader {layout : StackLayout} {s : List Char}
    (h : Json.IsObject layout.fieldTexts s) : Json.Gives reader s layout := by
  have hfields : List.Forall₂ (Json.ReadsField layout.sofar) fields layout.fieldTexts := by
    refine .cons ⟨rfl, fun seen _ s hs => ?_⟩ (.cons ⟨rfl, fun seen _ s hs => ?_⟩
      (.cons ⟨rfl, fun seen _ s hs => ?_⟩ (.cons ⟨rfl, fun seen _ s hs => ?_⟩
        (.cons ⟨rfl, fun seen _ s hs => ?_⟩ (.cons ⟨rfl, fun seen _ s hs => ?_⟩ .nil)))))
    · exact (Json.gives_textValue hs).fieldOf _ (by simp [sofar])
    · exact (Json.gives_singleValue hs).fieldOf _ (by simp [sofar])
    · exact (Json.gives_singleValue hs).fieldOf _ (by simp [sofar])
    · exact (gives_direction hs).fieldOf _ (by simp [sofar])
    · obtain rfl : s = Json.truth layout.centered := hs
      exact (Json.gives_truthValue _).fieldOf _ (by simp [sofar])
    · obtain rfl : s = Json.truth layout.reversed := hs
      exact (Json.gives_truthValue _).fieldOf _ (by simp [sofar])
  exact h.gives _ hfields fun seen hseen => layout.sofar_eq_self hseen

end StackLayout

/-! ## Configurations -/

namespace Config

/-- What may stand for a configuration. -/
def fieldTexts (config : Config) : List Json.FieldText :=
  [⟨"messages_enabled", fun s => s = Json.truth config.messagesEnabled,
      config.messagesEnabled = true⟩,
    ⟨"stacks", fun s => ∃ parts text, s = '[' :: text ∧ Json.Sequence ']' true parts text ∧
        List.Forall₂ (fun layout part => Json.IsObject layout.fieldTexts part) config.layouts parts,
      config.layouts = []⟩]

/-- The configuration as far as its fields were seen. -/
def sofar (config : Config) (seen : List String) : Config where
  messagesEnabled := if "messages_enabled" ∈ seen then config.messagesEnabled else true
  layouts := if "stacks" ∈ seen then config.layouts else []

theorem sofar_eq_self (config : Config) {seen : List String}
    (h : ∀ text ∈ config.fieldTexts, text.name ∉ seen → text.Omittable) :
    config.sofar seen = { config with path := "" } := by
  simp only [fieldTexts, List.forall_mem_cons] at h
  obtain ⟨henabled, hlayouts, -⟩ := h
  unfold sofar
  rw [Json.ite_seen henabled, Json.ite_seen hlayouts]

/-- A configuration is read from each object that tells its values. -/
theorem gives_reader {config : Config} {s : List Char}
    (h : Json.IsObject config.fieldTexts s) :
    Json.Gives reader s { config with path := "" } := by
  have hfields : List.Forall₂ (Json.ReadsField config.sofar) fields config.fieldTexts := by
    refine .cons ⟨rfl, fun seen _ s hs => ?_⟩ (.cons ⟨rfl, fun seen _ s hs => ?_⟩ .nil)
    · obtain rfl : s = Json.truth config.messagesEnabled := hs
      exact (Json.gives_truthValue _).fieldOf _ (by simp [sofar])
    · obtain ⟨parts, text, rfl, htext, hparts⟩ := hs
      have hlayouts : Json.Gives (Json.listOf StackLayout.reader) ('[' :: text) config.layouts :=
        Json.gives_listOf htext (hparts.imp fun _ _ h => ⟨h.opens, StackLayout.gives_reader h⟩)
      exact hlayouts.fieldOf _ (by simp [sofar])
  exact h.gives _ hfields fun seen hseen => config.sofar_eq_self hseen

/-- A text for a configuration: an object that tells its values, with blanks around it. -/
def IsWritten (config : Config) (s : List Char) : Prop :=
  ∃ before object after, s = before ++ (object ++ after) ∧ Json.Blank before ∧ Json.Blank after ∧
    Json.IsObject config.fieldTexts object

theorem toOption_parse_ofList (s : List Char) :
    (parse (String.ofList s)).toOption = (Json.whole reader s).toOption := by
  rw [← Json.toOption_decode]
  unfold parse
  cases Json.decode reader (String.ofList s) <;> rfl

theorem IsWritten.parse_eq {config : Config} {s : List Char} (h : config.IsWritten s) :
    parse (String.ofList s) = .ok { config with path := "" } := by
  obtain ⟨before, object, after, rfl, hbefore, hafter, hobject⟩ := h
  have hread := Json.reads_some_iff.mpr (gives_reader hobject)
  exact Json.toOption_eq_some_iff.mp
    ((toOption_parse_ofList _).trans (hread.whole hbefore hafter))

/-! ## Results -/

/-- A configuration is read from every text for it: its flag and its stacks are told by objects with
their members in any order, without those that have their defaults, and with any values under other
names between them. A file with such a text is loaded. -/
theorem parse_of_isWritten {config : Config} {s : List Char} (h : config.IsWritten s) :
    parse (String.ofList s) = .ok { config with path := "" } ∧
      ∀ tree path, FileTree.readText tree path = .ok (String.ofList s) →
        loadFrom tree path = .ok { config with path := path } := by
  refine ⟨h.parse_eq, fun tree path hfile => ?_⟩
  unfold loadFrom ofFile
  rw [hfile]
  simp only [h.parse_eq]
  rfl

/-! ## An example -/

/-- The members of a stack in another order, with a member that is no field and without the fields
that have their defaults. -/
def shiftedMembers : List (String × Json) :=
  [("reversed", .bool true), ("comment", .text "\"late\""),
    ("x_offset", .number ['1', '2', '.', '5'])]

/-- The layout that they tell. -/
def shifted : StackLayout :=
  { StackLayout.named "" with
    offset := ⟨Binary.ofInt 25 / Binary.ofInt 2, Binary.zero false⟩, reversed := true }

theorem tells_shifted :
    Json.Tells shifted.fieldTexts (shiftedMembers.map (Json.writtenMember .tight 2)) := by
  have hoffset : Json.singleValue ['1', '2', '.', '5'] = .ok (shifted.offset.x, []) :=
    Json.toOption_eq_some_iff.mp (by decide +kernel)
  have hreversed : shifted.reversed = true := rfl
  have hcomment : Json.IsValue (Json.quote "\"late\"") := Json.isValue_quote _
  constructor
  · simp [StackLayout.fieldTexts, shiftedMembers, Json.writtenMember, Json.spacedChars, hoffset,
      hreversed]
  · simp [StackLayout.fieldTexts, shifted, shiftedMembers, Json.writtenMember, StackLayout.named]
  · simp [StackLayout.fieldTexts, shifted, shiftedMembers, Json.writtenMember]
  · simp [StackLayout.fieldTexts, shiftedMembers, Json.writtenMember, Json.spacedChars, hcomment]

/-- The default stack has no members. -/
theorem tells_unnamed :
    Json.Tells (StackLayout.named "").fieldTexts
      (([] : List (String × Json)).map (Json.writtenMember .tight 2)) := by
  constructor <;> simp [StackLayout.fieldTexts, StackLayout.named]

/-- The value of a member that is no field. -/
def theme : Json :=
  .object [("dark", .array [.null, .number ['-', '1', '.', '5', '0', 'e', '3']])]

theorem isValue_theme : Json.IsValue (Json.spacedChars .tight 1 theme) := by
  have hdigits {c : Char} {cs : List Char} (h : (c :: cs).all Json.isDigit = true) :
      Json.IsDigits (c :: cs) :=
    ⟨List.cons_ne_nil c cs, List.all_eq_true.mp h⟩
  have hpower : Json.IsExponent ['e', '3'] :=
    @Json.IsExponent.power 'e' (Or.inl rfl) [] ['3'] (Or.inl rfl) (hdigits rfl)
  have hnumber : Json.IsNumber ['-', '1', '.', '5', '0', 'e', '3'] :=
    @Json.IsNumber.mk ['-'] ['1'] ['.', '5', '0'] ['e', '3'] (Or.inr rfl) (hdigits rfl) (by simp)
      (.point (hdigits rfl)) hpower
  refine Json.isValue_object _ _ (List.forall_mem_singleton.mpr (Json.isValue_array _ _ ?_))
  refine List.forall_mem_cons.mpr ⟨?_, List.forall_mem_singleton.mpr ?_⟩
  · rw [Json.spacedChars]
    exact .null
  · rw [Json.spacedChars]
    exact .number hnumber

/-- A configuration without its flag: a member that is no field, and two stacks, the second without
members. -/
def sparse : Json :=
  .object [("theme", theme), ("stacks", .array [.object shiftedMembers, .object []])]

/-- It is read with the values that are told and the defaults of the others. -/
theorem sparse_text_parses :
    parse sparse.compact = .ok { layouts := [shifted, .named ""] } := by
  have hstacks : ∃ parts text, Json.spacedChars .tight 1
      (.array [.object shiftedMembers, .object []]) = '[' :: text ∧
        Json.Sequence ']' true parts text ∧ List.Forall₂ (fun layout part =>
          Json.IsObject layout.fieldTexts part) [shifted, .named ""] parts := by
    refine ⟨_, _, by rw [Json.spacedChars], Json.sequence_spacedItems .tight 1 true _, ?_⟩
    exact .cons (Json.isObject_spacedChars _ _ tells_shifted)
      (.cons (Json.isObject_spacedChars _ _ tells_unnamed) .nil)
  have htells : Json.Tells (fieldTexts { layouts := [shifted, .named ""] })
      ([("theme", theme), ("stacks", .array [.object shiftedMembers, .object []])].map
        (Json.writtenMember .tight 0)) := by
    constructor
    · simpa [fieldTexts, Json.writtenMember] using hstacks
    · simp [fieldTexts, Json.writtenMember]
    · simp [fieldTexts, Json.writtenMember]
    · simp [fieldTexts, Json.writtenMember, isValue_theme]
  have hwritten : IsWritten { layouts := [shifted, .named ""] }
      (Json.spacedChars .tight 0 sparse) :=
    ⟨[], _, [], (List.append_nil _).symm, Json.blank_nil, Json.blank_nil,
      Json.isObject_spacedChars _ _ htells⟩
  rw [Json.compact, Json.compactChars_eq 0]
  exact (parse_of_isWritten hwritten).1

end Config

end OnScreen
