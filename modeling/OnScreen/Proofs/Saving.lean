import OnScreen.Proofs.Configuring
import OnScreen.Proofs.Files

/-!
# Saved configurations

A configuration is read back from both of its texts, and from the file that it was saved to. All of
it comes back as it was, except for the offsets of its stacks: they come back as the numbers that
are read for what is written for them. For an offset that is not finite there is no such number, and
then nothing of the configuration comes back.

Results:
* `StackLayout.isObject_toJson`, `Config.isWritten_toJson`: what is written is among the texts that
  are read.
* `Config.toOption_parse`: what is read for both texts of a configuration.
* `Config.toOption_loadFrom_saveTo`, `Config.load_saveTo`: the same for the file of a configuration,
  and the defaults that are used when it cannot be read back.
* `Config.saved_loads_back`: what was saved is loaded, if every offset is read as itself.
* `Config.saved_loads_iff`: it is loaded only then, and nothing is if an offset is not finite.
-/

namespace OnScreen

/-! ## Lists of optional values -/

section

variable {α β : Type} {f : α → Option β}

theorem isSome_mapM_iff {as : List α} :
    (as.mapM f).isSome = true ↔ ∀ a ∈ as, (f a).isSome = true := by
  induction as with
  | nil => simp
  | cons a as ih =>
    rw [List.mapM_cons, List.forall_mem_cons, ← ih]
    cases f a with
    | none => simp
    | some b => cases as.mapM f <;> simp

theorem mapM_eq_some_iff {as : List α} {bs : List β} :
    as.mapM f = some bs ↔ List.Forall₂ (fun a b => f a = some b) as bs := by
  induction as generalizing bs with
  | nil => simp [eq_comm]
  | cons a as ih =>
    rw [List.mapM_cons, List.forall₂_cons_left_iff]
    simp only [← ih]
    cases f a with
    | none => simp
    | some b => cases as.mapM f <;> simp [eq_comm]

end

/-! ## Layouts -/

namespace StackLayout

/-- The layout that is read for a written one, if there is one. -/
def reread? (layout : StackLayout) : Option StackLayout :=
  (Json.reread? layout.offset.x).bind fun x =>
    (Json.reread? layout.offset.y).map fun y => { layout with offset := ⟨x, y⟩ }

theorem isSome_reread?_iff (layout : StackLayout) :
    layout.reread?.isSome = true ↔
      layout.offset.x.isFinite = true ∧ layout.offset.y.isFinite = true := by
  rw [← (Json.reads_singleValue layout.offset.x).2, ← (Json.reads_singleValue layout.offset.y).2]
  unfold reread?
  cases Json.reread? layout.offset.x with
  | none => simp
  | some x => simp

theorem reread?_eq_self_iff (layout : StackLayout) :
    layout.reread? = some layout ↔
      Json.reread? layout.offset.x = some layout.offset.x ∧
        Json.reread? layout.offset.y = some layout.offset.y := by
  obtain ⟨name, ⟨x, y⟩, direction, centered, reversed⟩ := layout
  unfold reread?
  cases Json.reread? x with
  | none => simp
  | some x' => cases Json.reread? y <;> simp

section

variable (sp : Json.Spacing) (depth : Nat)

/-- What is written for a layout tells the values that are read for it. -/
theorem isObject_toJson {layout loaded : StackLayout} (h : layout.reread? = some loaded) :
    Json.IsObject loaded.fieldTexts (Json.spacedChars sp depth layout.toJson) := by
  obtain ⟨x, hx, h⟩ := Option.bind_eq_some_iff.mp h
  obtain ⟨y, hy, rfl⟩ := Option.map_eq_some_iff.mp h
  have hnodup : (fieldTexts { layout with offset := ⟨x, y⟩ } |>.map Json.FieldText.name).Nodup := by
    show ["name", "x_offset", "y_offset", "direction", "centered", "reversed"].Nodup
    decide
  have htext (text : String) :
      Json.IsSpelling text (Json.spacedChars sp (depth + 1) (.text text)) := by
    rw [Json.spacedChars_text]
    exact Json.isSpelling_quote text
  have htruth := Json.spacedChars_bool sp (depth + 1)
  refine Json.isObject_spacedChars sp depth (.of_forall₂ hnodup ?_)
  exact .cons ⟨rfl, htext _⟩ (.cons ⟨rfl, Json.singleValue_spacedChars hx sp _⟩
    (.cons ⟨rfl, Json.singleValue_spacedChars hy sp _⟩ (.cons ⟨rfl, htext _⟩
      (.cons ⟨rfl, htruth _⟩ (.cons ⟨rfl, htruth _⟩ .nil)))))

/-- Nothing is read for a layout if one of its offsets is no number. -/
theorem reads_toJson_none {layout : StackLayout} (h : layout.reread? = none) :
    Json.Reads reader (Json.spacedChars sp depth layout.toJson) none := by
  have htext := Json.reads_text sp (depth + 1)
  have htruth := Json.reads_bool sp (depth + 1)
  have hx := (Json.reads_singleValue layout.offset.x).1 sp (depth + 1)
  have hy := (Json.reads_singleValue layout.offset.y).1 sp (depth + 1)
  have hdirection : Json.Reads Direction.reader
      (Json.spacedChars sp (depth + 1) (.text layout.direction.name)) layout.direction := by
    rw [Json.spacedChars_text]
    exact Json.reads_some_iff.mpr (gives_direction (Json.isSpelling_quote _))
  unfold toJson
  rw [Json.spacedChars_object]
  refine Json.reads_record_none _ _ (Json.sequence_spacedMembers sp depth true _) ?_ ?_
  · simp only [List.map_cons, List.forall_mem_cons]
    exact ⟨⟨_, rfl, fun value => ⟨_, (htext _).fieldOf _ _ value⟩⟩,
      ⟨_, rfl, fun value => ⟨_, hx.fieldOf _ _ value⟩⟩,
      ⟨_, rfl, fun value => ⟨_, hy.fieldOf _ _ value⟩⟩,
      ⟨_, rfl, fun value => ⟨_, hdirection.fieldOf _ _ value⟩⟩,
      ⟨_, rfl, fun value => ⟨_, (htruth _).fieldOf _ _ value⟩⟩,
      ⟨_, rfl, fun value => ⟨_, (htruth _).fieldOf _ _ value⟩⟩, List.forall_mem_nil _⟩
  · cases hreread : Json.reread? layout.offset.x with
    | none =>
      rw [hreread] at hx
      exact ⟨_, List.mem_cons_of_mem _ List.mem_cons_self, _, rfl,
        fun value => hx.fieldOf _ _ value⟩
    | some x =>
      -- it is the other offset then
      have hnone : Json.reread? layout.offset.y = none := by
        unfold reread? at h
        rw [hreread, Option.bind_some, Option.map_eq_none_iff] at h
        exact h
      rw [hnone] at hy
      exact ⟨_, List.mem_cons_of_mem _ (List.mem_cons_of_mem _ List.mem_cons_self), _, rfl,
        fun value => hy.fieldOf _ _ value⟩

/-- A layout is read back up to its offsets, if they are numbers. -/
theorem reads_toJson (layout : StackLayout) :
    Json.Reads reader (Json.spacedChars sp depth layout.toJson) layout.reread? := by
  cases h : layout.reread? with
  | some loaded => exact Json.reads_some_iff.mpr (gives_reader (isObject_toJson sp depth h))
  | none => exact reads_toJson_none sp depth h

end

end StackLayout

/-! ## Configurations -/

namespace Config

/-- The configuration that is read for a written one, if there is one. -/
def reread? (config : Config) : Option Config :=
  (config.layouts.mapM StackLayout.reread?).map fun layouts =>
    { messagesEnabled := config.messagesEnabled, layouts := layouts }

theorem isSome_reread?_iff (config : Config) :
    config.reread?.isSome = true ↔ ∀ layout ∈ config.layouts,
      layout.offset.x.isFinite = true ∧ layout.offset.y.isFinite = true := by
  unfold reread?
  rw [Option.isSome_map, isSome_mapM_iff]
  exact forall₂_congr fun layout _ => layout.isSome_reread?_iff

theorem reread?_eq_self_iff (config : Config) :
    config.reread? = some { config with path := "" } ↔ ∀ layout ∈ config.layouts,
      Json.reread? layout.offset.x = some layout.offset.x ∧
        Json.reread? layout.offset.y = some layout.offset.y := by
  have hlayouts : config.reread? = some { config with path := "" } ↔
      config.layouts.mapM StackLayout.reread? = some config.layouts := by
    unfold reread?
    cases config.layouts.mapM StackLayout.reread? with
    | none => simp
    | some layouts => simp
  rw [hlayouts, mapM_eq_some_iff, List.forall₂_same]
  exact forall₂_congr fun layout _ => layout.reread?_eq_self_iff

/-- What is written for a configuration is a text for the one that is read for it. -/
theorem isWritten_toJson {config loaded : Config} (h : config.reread? = some loaded)
    (sp : Json.Spacing) : loaded.IsWritten (Json.spacedChars sp 0 config.toJson) := by
  obtain ⟨layouts, hreread, rfl⟩ := Option.map_eq_some_iff.mp h
  have hlayouts : List.Forall₂ (fun layout part => Json.IsObject layout.fieldTexts part)
      layouts ((config.layouts.map StackLayout.toJson).map (Json.spacedChars sp 2)) := by
    rw [List.map_map, List.forall₂_map_right_iff]
    exact (mapM_eq_some_iff.mp hreread).flip.imp fun _ _ => StackLayout.isObject_toJson sp 2
  have hnodup : (["messages_enabled", "stacks"] : List String).Nodup := by decide
  refine ⟨[], _, [], (List.append_nil _).symm, Json.blank_nil, Json.blank_nil,
    Json.isObject_spacedChars sp 0 (.of_forall₂ hnodup ?_)⟩
  exact .cons ⟨rfl, Json.spacedChars_bool sp 1 _⟩ (.cons ⟨rfl, _, _, Json.spacedChars_array sp 1 _,
    Json.sequence_spacedItems sp 1 true _, hlayouts⟩ .nil)

/-- Nothing is read for a configuration if one of its layouts is not read. -/
theorem reads_toJson_none {config : Config} (h : config.reread? = none) (sp : Json.Spacing)
    (depth : Nat) : Json.Reads reader (Json.spacedChars sp depth config.toJson) none := by
  have hlayouts : Json.Reads (Json.listOf StackLayout.reader)
      (Json.spacedChars sp (depth + 1) (.array (config.layouts.map StackLayout.toJson))) none := by
    rw [Json.spacedChars_array, ← Option.map_eq_none_iff.mp h]
    refine Json.reads_listOf (Json.sequence_spacedItems sp (depth + 1) true _) ?_
    rw [List.map_map, List.forall₂_map_right_iff, List.forall₂_same]
    exact fun layout _ => ⟨Json.opens_object sp _ _, layout.reads_toJson sp (depth + 2)⟩
  have henabled := Json.reads_bool sp (depth + 1) config.messagesEnabled
  unfold toJson
  rw [Json.spacedChars_object]
  refine Json.reads_record_none _ _ (Json.sequence_spacedMembers sp depth true _) ?_ ?_
  · simp only [List.map_cons, List.forall_mem_cons]
    exact ⟨⟨_, rfl, fun value => ⟨_, henabled.fieldOf _ _ value⟩⟩,
      ⟨_, rfl, fun value => ⟨_, hlayouts.fieldOf _ _ value⟩⟩, List.forall_mem_nil _⟩
  · exact ⟨_, List.mem_cons_of_mem _ List.mem_cons_self, _, rfl,
      fun value => hlayouts.fieldOf _ _ value⟩

/-- A configuration is read back up to the offsets of its stacks, if they are numbers. -/
theorem toOption_parse_spacedChars (config : Config) (sp : Json.Spacing) :
    (parse (String.ofList (Json.spacedChars sp 0 config.toJson))).toOption = config.reread? := by
  cases h : config.reread? with
  | some loaded =>
    have hpath : { loaded with path := "" } = loaded := by
      obtain ⟨layouts, -, rfl⟩ := Option.map_eq_some_iff.mp h
      rfl
    rw [(isWritten_toJson h sp).parse_eq, hpath]
    rfl
  | none =>
    have hwhole := (reads_toJson_none h sp 0).whole Json.blank_nil Json.blank_nil
    rw [List.nil_append, List.append_nil] at hwhole
    exact (toOption_parse_ofList _).trans hwhole

/-- Both texts of a configuration are read as the same configuration. -/
theorem toOption_parse (config : Config) :
    (parse config.toJson.compact).toOption = config.reread? ∧
      (parse config.toJson.pretty).toOption = config.reread? := by
  unfold Json.compact Json.pretty
  rw [Json.compactChars_eq 0, Json.prettyChars_eq]
  exact ⟨config.toOption_parse_spacedChars .tight, config.toOption_parse_spacedChars .wide⟩

/-! ## Files -/

variable {tree tree' : FileTree} {path : String}

/-- What was saved is what stands in the file. -/
theorem readText_saveTo {config : Config} (h : config.saveTo tree path = (tree', none)) :
    tree'.readText path = .ok config.toJson.pretty := by
  unfold saveTo at h
  dsimp only at h
  split at h
  · cases h
  · rename_i above _
    cases hwrite : above.write path config.toJson.pretty.toUTF8 with
    | error e =>
      rw [hwrite] at h
      cases h
    | ok written =>
      rw [hwrite] at h
      cases h
      exact FileTree.readText_write hwrite

/-- Where there are no files yet, a configuration is saved to one in the top directory. -/
theorem exists_saveTo_osd (config : Config) : ∃ tree, config.saveTo {} "osd" = (tree, none) := by
  have hsplit : "osd".splitOn "/" = ["osd"] := by
    unfold String.splitOn
    rw [if_neg (by decide +kernel)]
    iterate 3 rw [String.splitOnAux, if_neg (by decide +kernel), if_neg (by decide +kernel)]
    rw [String.splitOnAux, if_pos (by decide +kernel)]
    decide +kernel
  have hempty : "".splitOn "/" = [""] := by
    unfold String.splitOn
    rw [if_neg (by decide +kernel), String.splitOnAux, if_pos (by decide +kernel)]
    decide +kernel
  have hnul : "osd".contains '\x00' = false := by
    rw [String.contains_char_eq]
    decide +kernel
  have hparent : FileTree.parentOf? "osd" = some "" := by
    unfold FileTree.parentOf?
    rw [hsplit]
    decide +kernel
  have hcreated : FileTree.createAll {} "" = ({}, none) := by
    unfold FileTree.createAll
    rw [hempty]
    rfl
  have hnames : FileTree.namesOf "osd" = .ok ["osd"] := by
    unfold FileTree.namesOf
    rw [hnul, hsplit]
    rfl
  have hslash : ¬ "osd".endsWith "/" = true := by decide +kernel
  have hlocate : FileTree.locateForWriting {} "osd" = .ok ⟨["osd"], none⟩ := by
    unfold FileTree.locateForWriting
    rw [hnames]
    exact if_neg hslash
  unfold saveTo FileTree.write
  rw [hparent]
  dsimp only
  rw [hcreated]
  dsimp only
  rw [hlocate]
  exact ⟨_, rfl⟩

/-- A saved configuration is loaded as it is read back. -/
theorem toOption_loadFrom_saveTo {config : Config} (h : config.saveTo tree path = (tree', none)) :
    (loadFrom tree' path).toOption =
      config.reread?.map fun loaded => { loaded with path := path } := by
  rw [← config.toOption_parse.2]
  unfold loadFrom ofFile
  rw [readText_saveTo h]
  dsimp only
  cases parse config.toJson.pretty <;> rfl

/-- The configuration that a user saved is loaded as it is read back. If it is not, nothing of it is
left: the default configuration is used, and that is noted. -/
theorem load_saveTo {config : Config} {environment : Environment}
    (h : config.saveTo tree environment.configPath = (tree', none)) :
    match config.reread? with
    | some loaded => load environment tree' = ⟨{ loaded with path := environment.configPath }, []⟩
    | none => ∃ message, load environment tree' =
        ⟨{ path := environment.configPath },
          [.configDefaulted environment.configPath message]⟩ := by
  have hloaded := toOption_loadFrom_saveTo h
  unfold loadFrom at hloaded
  unfold load ofFileOrDefault
  dsimp only
  cases hreread : config.reread? with
  | some loaded =>
    rw [hreread] at hloaded
    rw [Json.toOption_eq_some_iff.mp hloaded]
  | none =>
    rw [hreread] at hloaded
    obtain ⟨e, he⟩ := Json.toOption_eq_none_iff.mp hloaded
    rw [he]
    exact ⟨_, rfl⟩

/-! ## Results -/

/-- A configuration comes back from its compact text, from its pretty text and from the file that it
was saved to, if every offset is read as the number that it was written for. -/
theorem saved_loads_back (config : Config)
    (h : ∀ layout ∈ config.layouts,
      Json.reread? layout.offset.x = some layout.offset.x ∧
        Json.reread? layout.offset.y = some layout.offset.y) :
    parse config.toJson.compact = .ok { config with path := "" } ∧
      parse config.toJson.pretty = .ok { config with path := "" } ∧
      ∀ tree path tree', config.saveTo tree path = (tree', none) →
        tree'.readText path = .ok config.toJson.pretty ∧
          loadFrom tree' path = .ok { config with path := path } := by
  have hreread := config.reread?_eq_self_iff.mpr h
  obtain ⟨hcompact, hpretty⟩ := config.toOption_parse
  rw [hreread] at hcompact hpretty
  refine ⟨Json.toOption_eq_some_iff.mp hcompact, Json.toOption_eq_some_iff.mp hpretty, ?_⟩
  intro tree path tree' hsave
  have hloaded := toOption_loadFrom_saveTo hsave
  rw [hreread] at hloaded
  exact ⟨readText_saveTo hsave, Json.toOption_eq_some_iff.mp hloaded⟩

/-- A name with characters that are escaped, and offsets with a sign and with a fraction. -/
theorem quoted_layout_loads_back :
    let tenth : Single := Binary.ofInt 1 / Binary.ofInt 10
    let layout : StackLayout :=
      { StackLayout.named "\"side\" \\ \t\x01 ü" with
        offset := ⟨tenth, Binary.ofInt (-40)⟩, direction := .leftward, centered := true }
    let config : Config := { messagesEnabled := false, layouts := [layout, .named ""] }
    parse config.toJson.compact = .ok config ∧ parse config.toJson.pretty = .ok config ∧
      ∃ tree, config.saveTo {} "osd" = (tree, none) ∧
        loadFrom tree "osd" = .ok { config with path := "osd" } := by
  intro tenth layout config
  have hlast : ∀ layout ∈ config.layouts,
      Json.reread? layout.offset.x = some layout.offset.x ∧
        Json.reread? layout.offset.y = some layout.offset.y := by
    decide +kernel
  obtain ⟨hcompact, hpretty, hsaved⟩ := saved_loads_back config hlast
  obtain ⟨tree, htree⟩ := exists_saveTo_osd config
  exact ⟨hcompact, hpretty, tree, htree, (hsaved {} "osd" tree htree).2⟩

/-- The text of a configuration is read again exactly if every offset is finite, and as the same
configuration exactly if every offset is read as the number that it was written for. -/
theorem saved_loads_iff (config : Config) :
    ((∃ loaded, parse config.toJson.pretty = .ok loaded) ↔
        ∀ layout ∈ config.layouts,
          layout.offset.x.isFinite = true ∧ layout.offset.y.isFinite = true) ∧
      ((∃ loaded, parse config.toJson.pretty = .ok loaded ∧
          loaded.messagesEnabled = config.messagesEnabled ∧ loaded.layouts = config.layouts) ↔
        ∀ layout ∈ config.layouts,
          Json.reread? layout.offset.x = some layout.offset.x ∧
            Json.reread? layout.offset.y = some layout.offset.y) := by
  have hparse (loaded : Config) :
      parse config.toJson.pretty = .ok loaded ↔ config.reread? = some loaded := by
    rw [← config.toOption_parse.2]
    exact Json.toOption_eq_some_iff.symm
  refine ⟨?_, ?_⟩
  · rw [← config.isSome_reread?_iff, Option.isSome_iff_exists]
    exact exists_congr hparse
  · rw [← config.reread?_eq_self_iff]
    constructor
    · rintro ⟨loaded, hloaded, hmessages, hlayouts⟩
      rw [hparse] at hloaded
      have hpath : loaded.path = "" := by
        obtain ⟨layouts, -, rfl⟩ := Option.map_eq_some_iff.mp hloaded
        rfl
      rw [hloaded, ← hmessages, ← hlayouts, ← hpath]
    · intro hsame
      exact ⟨_, (hparse _).mpr hsame, rfl, rfl⟩

/-- A number that is too great for an offset is taken as an infinite one. What is saved for that is
not read again. -/
theorem infinite_offset_lost :
    let text := "\x7b\"stacks\": [\x7b\"name\": \"side\", \"x_offset\": 1e39\x7d]\x7d"
    ∃ config, parse text = .ok config ∧ ¬ ∃ loaded, parse config.toJson.pretty = .ok loaded := by
  intro text
  have hlost : ((parse text).toOption.map fun config => config.reread?.isNone) = some true := by
    decide +kernel
  obtain ⟨config, hconfig, hnone⟩ := Option.map_eq_some_iff.mp hlost
  refine ⟨config, Json.toOption_eq_some_iff.mp hconfig, ?_⟩
  rintro ⟨loaded, hloaded⟩
  rw [← config.toOption_parse.2, hloaded] at hnone
  cases hnone

end Config

end OnScreen
