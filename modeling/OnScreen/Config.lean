import OnScreen.Error
import OnScreen.Json.Decode
import OnScreen.Json.Writer
import OnScreen.Overlay

/-!
# Configuration

Whether messages are shown and which stacks there are besides the default one, kept as JSON in a
file of the user.

* `StackLayout.toJson`, `Config.toJson`: how they are written.
* `StackLayout.reader`, `MessageType.reader`, `Config.reader`: how they are read.
* `Config.load`, `loadFrom`, `saveTo`: the file.
* `Config.overlay`: the overlay that a configuration describes.
-/

namespace OnScreen

/-! ## Message types and layouts as JSON -/

/-- A field that is read by a reader and put into the record. -/
def Json.fieldOf {α β : Type} (name : String) (read : Json.Reader β) (put : α → β → α) :
    Json.Field α where
  name := name
  read value s := (read s).map fun r => (put value r.1, r.2)

namespace MessageType

/-- A message type as JSON. -/
def toJson : MessageType → Json
  | typed tag => .object [("Typed", Json.ofNat tag.toNat)]
  | typeless => .text "Typeless"

/-- Reads a message type. -/
def reader : Json.Reader MessageType :=
  Json.variant
    [.holding "Typed" fun s => (Json.wordValue s).map fun r => (.typed r.1, r.2),
      .plain "Typeless" .typeless]

end MessageType

namespace Direction

/-- Reads a direction. -/
def reader : Json.Reader Direction :=
  Json.variant (all.map fun d => .plain d.name d)

end Direction

namespace StackLayout

/-- A layout as JSON. -/
def toJson (layout : StackLayout) : Json :=
  .object
    [("name", .text layout.name),
      ("x_offset", Json.ofBinary layout.offset.x),
      ("y_offset", Json.ofBinary layout.offset.y),
      ("direction", .text layout.direction.name),
      ("centered", .bool layout.centered),
      ("reversed", .bool layout.reversed)]

/-- The fields of a layout. -/
def fields : List (Json.Field StackLayout) :=
  [Json.fieldOf "name" Json.textValue fun l name => { l with name := name },
    Json.fieldOf "x_offset" Json.singleValue fun l x => { l with offset := ⟨x, l.offset.y⟩ },
    Json.fieldOf "y_offset" Json.singleValue fun l y => { l with offset := ⟨l.offset.x, y⟩ },
    Json.fieldOf "direction" Direction.reader fun l d => { l with direction := d },
    Json.fieldOf "centered" Json.truthValue fun l b => { l with centered := b },
    Json.fieldOf "reversed" Json.truthValue fun l b => { l with reversed := b }]

/-- Reads a layout. Fields that are left out have their defaults. -/
def reader : Json.Reader StackLayout :=
  Json.record "struct StackLayout" fields (named "")

end StackLayout

/-! ## The configuration -/

/-- What is kept of the overlay from one run to the next (`OverlayConfig`). -/
structure Config where
  messagesEnabled : Bool := true
  /-- The stacks to register. -/
  layouts : List StackLayout := []
  /-- The file it was loaded from; not written. -/
  path : String := ""

/-- The part of the environment that tells where a user's data is. -/
structure Environment where
  /-- The directory for data, if one is given. A relative path is ignored. -/
  dataHome : Option String := none
  home : String

namespace Environment

/-- The file of the configuration (`default_path`). -/
def configPath (environment : Environment) : String :=
  let fallback := joinPaths environment.home ".local/share"
  let data :=
    match environment.dataHome with
    | some path => if path.startsWith "/" then path else fallback
    | none => fallback
  joinPaths (joinPaths data "osd-overlay") "config.json"

end Environment

namespace Config

/-- The configuration of a user that has none. -/
def ofEnvironment (environment : Environment) : Config where
  path := environment.configPath

/-- A configuration as JSON. -/
def toJson (config : Config) : Json :=
  .object
    [("messages_enabled", .bool config.messagesEnabled),
      ("stacks", .array (config.layouts.map StackLayout.toJson))]

/-- The fields of a configuration. -/
def fields : List (Json.Field Config) :=
  [Json.fieldOf "messages_enabled" Json.truthValue fun c b => { c with messagesEnabled := b },
    Json.fieldOf "stacks" (Json.listOf StackLayout.reader) fun c ls => { c with layouts := ls }]

/-- Reads a configuration. Fields that are left out have their defaults. -/
def reader : Json.Reader Config :=
  Json.record "struct OverlayConfig" fields {}

/-- Reads a configuration from a text. -/
def parse (text : String) : Except Error Config :=
  match Json.decode reader text with
  | .ok config => .ok config
  | .error fault => .error (.json fault)

/-- The configuration in a file with these contents. -/
def ofFile (path : String) (contents : Except FileFault String) : Except Error Config :=
  match contents with
  | .error fault => .error (.file fault)
  | .ok text => (parse text).map fun config => { config with path := path }

/-- The configuration in a file with these contents, or the default one with that path. -/
def ofFileOrDefault (path : String) (contents : Except FileFault String) : Reported Config :=
  match ofFile path contents with
  | .ok config => ⟨config, []⟩
  | .error e => ⟨{ path := path }, [.configDefaulted path e.message]⟩

/-- Loads a configuration from a file (`load_from`). -/
def loadFrom (tree : FileTree) (path : String) : Except Error Config :=
  ofFile path (tree.readText path)

/-- Loads the configuration of a user, or the default one (`load`). -/
def load (environment : Environment) (tree : FileTree) : Reported Config :=
  let path := environment.configPath
  ofFileOrDefault path (tree.readText path)

/-- Writes a configuration to a file, and creates the directories above it (`save_to`). Directories
stay also when the file cannot be written. -/
def saveTo (config : Config) (tree : FileTree) (path : String) : FileTree × Option Error :=
  let created :=
    match FileTree.parentOf? path with
    | some above => tree.createAll above
    | none => (tree, none)
  match created with
  | (tree, some fault) => (tree, some (.file fault))
  | (tree, none) =>
    match tree.write path config.toJson.pretty.toUTF8 with
    | .error fault => (tree, some (.file fault))
    | .ok tree => (tree, none)

/-- Writes a configuration to the file it was loaded from (`save`). -/
def save (config : Config) (tree : FileTree) : FileTree × Option Error :=
  config.saveTo tree config.path

/-- The overlay that a configuration describes (`from_config`). -/
def overlay (config : Config) : Reported Overlay :=
  Overlay.registerAll { enabled := config.messagesEnabled } config.layouts

end Config

end OnScreen
