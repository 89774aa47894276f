import OnScreen.Message

/-!
# Events

What the overlay and the renderers report while they work, each with a level of importance and one
wording.
-/

namespace OnScreen

/-- How important an event is. -/
inductive EventLevel
  | trace
  | debug
  | warn
  deriving DecidableEq

/-- The name of a level. -/
def EventLevel.name : EventLevel → String
  | trace => "TRACE"
  | debug => "DEBUG"
  | warn => "WARN"

/-- Something worth reporting. -/
inductive Event
  /-- A message was sent to a stack that is not registered. -/
  | unknownStack (name : String)
  | duplicateSkipped (text : String)
  | superseded (text : String) (count : Nat) (type : MessageType)
  | messagesCleared (count : Nat)
  | stackRegistered (name : String) (direction : Direction)
  | stackWithoutName
  | stackAlreadyRegistered (name : String)
  | expiredDropped (text : String)
  | supersededDropped (text : String)
  | uploadFailed (width height : UInt32) (text : String)
  | unknownTexture (id : TextureId)
  | surfaceNeverEnded (name : String)
  | surfaceNotOpen (name : String)
  /-- The configuration file could not be used. -/
  | configDefaulted (path reason : String)
  deriving DecidableEq

namespace Event

/-- The importance of an event. -/
def level : Event → EventLevel
  | unknownStack _ | duplicateSkipped _ | superseded .. | expiredDropped _ | supersededDropped _ =>
    .trace
  | messagesCleared _ | stackRegistered .. | configDefaulted .. => .debug
  | stackWithoutName | stackAlreadyRegistered _ | uploadFailed .. | unknownTexture _
  | surfaceNeverEnded _ | surfaceNotOpen _ => .warn

/-- The wording of an event. -/
def text : Event → String
  | unknownStack name => "Unknown stack '" ++ name ++ "', using default"
  | duplicateSkipped text => "Skipping duplicate message '" ++ text ++ "'"
  | superseded text count type =>
    "Message '" ++ text ++ "' supersedes " ++ toString count ++ " of " ++ type.describe
  | messagesCleared count => "Cleared " ++ toString count ++ " overlay messages"
  | stackRegistered name direction =>
    "Registered message stack '" ++ name ++ "' (" ++ direction.name ++ ")"
  | stackWithoutName => "Ignoring stack registration with empty name"
  | stackAlreadyRegistered name => "Stack '" ++ name ++ "' already registered, keeping original"
  | expiredDropped text => "Dropping expired message '" ++ text ++ "'"
  | supersededDropped text => "Dropping superseded message '" ++ text ++ "'"
  | uploadFailed width height text =>
    "Icon upload (" ++ toString width.toNat ++ "x" ++ toString height.toNat ++ ") failed for '"
      ++ text ++ "', drawing text only"
  | unknownTexture id => "Destroying unknown texture " ++ toString id.number
  | surfaceNeverEnded name => "Surface '" ++ name ++ "' was never ended"
  | surfaceNotOpen name => "Positioning surface '" ++ name ++ "' that is not open"
  | configDefaulted path reason =>
    "Using default overlay config (" ++ path ++ "): " ++ reason

/-- An event as one line of a log. -/
def line (e : Event) : String :=
  e.level.name ++ " " ++ e.text

end Event

end OnScreen
