import OnScreen.Files
import OnScreen.Icon
import OnScreen.Json.Fault

/-!
# Errors

Why loading, saving or building something failed, by cause, with one wording for each.
-/

namespace OnScreen

/-- Why an image could not be loaded. -/
inductive ImageError
  | file (fault : FileFault)
  /-- The file ends before the image does. -/
  | endOfData
  /-- The file does not follow its format. -/
  | malformed
  /-- No format is known for the file, or the format is not read. -/
  | unsupported
  deriving DecidableEq

/-- The error as a sentence. -/
def ImageError.message : ImageError → String
  | file fault => fault.message
  | endOfData => "unexpected end of file"
  | malformed => "the file does not follow its format"
  | unsupported => "the format is not supported"

/-- Why an operation failed (`Error`). -/
inductive Error
  | file (fault : FileFault)
  | json (fault : Json.LocatedFault)
  | image (error : ImageError)
  | iconSize (error : IconSizeError)

/-- The error as a sentence. -/
def Error.message : Error → String
  | file fault => "I/O error: " ++ fault.message
  | json fault => "Config parse error: " ++ fault.describe
  | image error => "Image error: " ++ error.message
  | iconSize error => error.message

end OnScreen
