import OnScreen.Number.Numeral

/-!
# Options of the demo

The arguments of the command line, read from left to right. The first argument that cannot be used
ends the reading, and so does the request for help.

* `Options`: what a run of the demo depends on.
* `Setting`: the options that take a value.
* `Command.ofArguments`: what the arguments ask for.
* `helpLines`: the help.
-/

namespace OnScreen.Demo

/-- What a run of the demo depends on. -/
structure Options where
  /-- The number of frames. -/
  frames : UInt32 := 12
  /-- The milliseconds between two frames. -/
  interval : UInt64 := 250
  width : Single := Binary.ofNat 1280
  height : Single := Binary.ofNat 720
  /-- The number of producers. -/
  producers : UInt64 := 3
  /-- The file with the configuration, if it is not the user's own. -/
  config : Option String := none
  /-- The file with the icon of the first message. -/
  icon : Option String := none

/-! ## Settings -/

/-- An option that takes a value. -/
inductive Setting
  | frames
  | interval
  | width
  | height
  | producers
  | config
  | icon
  deriving DecidableEq

namespace Setting

/-- Every setting, in the order of the help. -/
def all : List Setting :=
  [frames, interval, width, height, producers, config, icon]

/-- The name behind two dashes. -/
def name : Setting → String
  | frames => "frames"
  | interval => "frame-ms"
  | width => "width"
  | height => "height"
  | producers => "producers"
  | config => "config"
  | icon => "icon"

/-- The letter behind one dash. -/
def letter? : Setting → Option Char
  | config => some 'c'
  | _ => none

/-- What stands for the value in the help. -/
def placeholder (setting : Setting) : String :=
  String.ofList (setting.name.toList.map fun c => if c = '-' then '_' else c.toUpper)

/-- The option with its value, as it is shown. -/
def usage (setting : Setting) : String :=
  "--" ++ setting.name ++ " <" ++ setting.placeholder ++ ">"

/-- What the help says about a setting. -/
def summary : Setting → String
  | frames => "Frames to draw [default: 12]"
  | interval => "Milliseconds between frames [default: 250]"
  | width => "Viewport width in pixels [default: 1280]"
  | height => "Viewport height in pixels [default: 720]"
  | producers => "Number of producer threads [default: 3]"
  | config => "Config file (defaults to the user data directory)"
  | icon => "Image to show as an icon on the first message"

/-- A natural number below a limit. -/
def below (limit : Nat) (n : Option Nat) : Option Nat :=
  n.filter fun n => decide (n < limit)

/-- A path, which is not empty. -/
def pathOf? (value : String) : Option String :=
  if value = "" then none else some value

/-- The options with a setting changed to a value; none if the value does not fit the setting. -/
def put (setting : Setting) (value : String) (options : Options) : Option Options :=
  let s := value.toList
  match setting with
  | frames =>
    match integerOf? s with
    | some (.ofNat n) =>
      (below 4294967296 (some n)).map fun n => { options with frames := .ofNat n }
    | _ => none
  | interval =>
    (below 18446744073709551616 (naturalOf? s)).map fun n => { options with interval := .ofNat n }
  | width => (Binary.ofText? s).map fun x => { options with width := x }
  | height => (Binary.ofText? s).map fun x => { options with height := x }
  | producers =>
    (below 18446744073709551616 (naturalOf? s)).map fun n => { options with producers := .ofNat n }
  | config => (pathOf? value).map fun path => { options with config := some path }
  | icon => (pathOf? value).map fun path => { options with icon := some path }

end Setting

/-! ## Arguments -/

/-- Why arguments cannot be used. -/
inductive UsageFault
  | unexpectedArgument (argument : String)
  | missingValue (setting : Setting)
  | unusableValue (setting : Setting) (value : String)
  | repeatedSetting (setting : Setting)
  | unexpectedValue (value : String)
  deriving DecidableEq

/-- The fault as a sentence. -/
def UsageFault.message : UsageFault → String
  | unexpectedArgument argument => "unexpected argument '" ++ argument ++ "' found"
  | missingValue setting =>
    "a value is required for '" ++ setting.usage ++ "' but none was supplied"
  | unusableValue setting value => "invalid value '" ++ value ++ "' for '" ++ setting.usage ++ "'"
  | repeatedSetting setting =>
    "the argument '" ++ setting.usage ++ "' cannot be used multiple times"
  | unexpectedValue value => "unexpected value '" ++ value ++ "' for '--help' found"

/-- What the arguments ask for. -/
inductive Command
  | run (options : Options)
  | help

/-- An argument by its form. -/
inductive Argument
  /-- Two dashes: no options follow. -/
  | endOfOptions
  | help
  /-- A request for help with a value, which it does not take. -/
  | helpWith (value : String)
  /-- An option with its value. -/
  | assignment (setting : Setting) (value : String)
  /-- An option the value of which is the next argument. -/
  | option (setting : Setting)
  | other
  deriving DecidableEq

namespace Argument

/-- An option by its name, with a value behind an equals sign or without one. -/
def named (name : String) (value : Option String) : Argument :=
  if name = "help" then
    match value with
    | some value => helpWith value
    | none => help
  else
    match Setting.all.find? fun setting => decide (setting.name = name) with
    | none => other
    | some setting =>
      match value with
      | some value => assignment setting value
      | none => option setting

/-- An option by its letter, with a value right behind it, behind an equals sign, or without one. -/
def lettered (letter : Char) (value : List Char) : Argument :=
  if letter = 'h' then help
  else
    match Setting.all.find? fun setting => decide (setting.letter? = some letter) with
    | none => other
    | some setting =>
      match value with
      | [] => option setting
      | c :: rest => assignment setting (String.ofList (if c = '=' then rest else c :: rest))

/-- The form of an argument. -/
def ofString (argument : String) : Argument :=
  match argument.toList with
  | '-' :: '-' :: [] => endOfOptions
  | '-' :: '-' :: body =>
    let value := body.dropWhile (· != '=')
    named (String.ofList (body.takeWhile (· != '=')))
      (if value.isEmpty then none else some (String.ofList (value.drop 1)))
  | '-' :: letter :: value => lettered letter value
  | _ => other

/-- An argument that is not taken for the value of the option before it: one that begins with a dash
and has more than that. -/
def looksLikeOption (argument : String) : Bool :=
  argument.startsWith "-" && decide (argument ≠ "-")

end Argument

/-- The options as they are after some arguments, and the settings among these. -/
structure Choices where
  options : Options := {}
  settled : List Setting := []

/-- The choices with a setting changed. A setting is changed once. -/
def Choices.assign (choices : Choices) (setting : Setting) (value : String) :
    Except UsageFault Choices :=
  if choices.settled.contains setting then .error (.repeatedSetting setting)
  else
    match setting.put value choices.options with
    | some options => .ok ⟨options, setting :: choices.settled⟩
    | none => .error (.unusableValue setting value)

/-- What arguments ask for after the choices made before them. -/
def Choices.command (choices : Choices) : List String → Except UsageFault Command
  | [] => .ok (.run choices.options)
  | argument :: rest =>
    match Argument.ofString argument with
    | .endOfOptions =>
      match rest with
      | [] => .ok (.run choices.options)
      | argument :: _ => .error (.unexpectedArgument argument)
    | .help => .ok .help
    | .helpWith value => .error (.unexpectedValue value)
    | .other => .error (.unexpectedArgument argument)
    | .assignment setting value =>
      match choices.assign setting value with
      | .ok choices => choices.command rest
      | .error fault => .error fault
    | .option setting =>
      match rest with
      | [] => .error (.missingValue setting)
      | value :: rest =>
        if Argument.looksLikeOption value then .error (.missingValue setting)
        else
          match choices.assign setting value with
          | .ok choices => choices.command rest
          | .error fault => .error fault

/-- What the arguments of the command line ask for. -/
def Command.ofArguments (arguments : List String) : Except UsageFault Command :=
  Choices.command {} arguments

/-! ## Help -/

/-- A line of the help: an option and what it does, in columns. -/
def helpLine (letter? : Option Char) (usage summary : String) : String :=
  let letter :=
    match letter? with
    | some c => "  -" ++ String.ofList [c] ++ ", "
    | none => "      "
  letter ++ usage ++ String.ofList (List.replicate (25 - usage.length) ' ') ++ summary

/-- The help. -/
def helpLines : List String :=
  ["Drive the notification overlay with a headless renderer", "", "Usage: osd-demo [OPTIONS]", "",
      "Options:"]
    ++ Setting.all.map (fun setting => helpLine setting.letter? setting.usage setting.summary)
    ++ [helpLine (some 'h') "--help" "Print help"]

end OnScreen.Demo
