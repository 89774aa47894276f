import OnScreen.Number.Binary
import OnScreen.Number.Bits
import OnScreen.Number.Decimal
import OnScreen.Number.Numeral
import OnScreen.OrderedMap
import OnScreen.Layout
import OnScreen.Clock
import OnScreen.Color
import OnScreen.MessageType
import OnScreen.Icon
import OnScreen.Message
import OnScreen.Event
import OnScreen.Stack
import OnScreen.Registry
import OnScreen.Renderer
import OnScreen.Renderer.Headless
import OnScreen.Frame
import OnScreen.Overlay
import OnScreen.Text.Printable
import OnScreen.Text.Quoted
import OnScreen.Json.Writer
import OnScreen.Json.Fault
import OnScreen.Json.Scanner
import OnScreen.Json.Decode
import OnScreen.Files
import OnScreen.Error
import OnScreen.Config
import OnScreen.Report
import OnScreen.Image.Bytes
import OnScreen.Image.Raster
import OnScreen.Image.Farbfeld
import OnScreen.Image.Netpbm
import OnScreen.Image.Inflate
import OnScreen.Image.Png
import OnScreen.Image.Webp
import OnScreen.Image.Tiff
import OnScreen.Image.Tga
import OnScreen.Image.Dds
import OnScreen.Image.Hdr
import OnScreen.Image.Bmp
import OnScreen.Image.Ico
import OnScreen.Image.Unread
import OnScreen.Image.File
import OnScreen.Demo.Options
import OnScreen.Demo
import OnScreen.Main
import OnScreen.Proofs.OrderedMap
import OnScreen.Proofs.Walk
import OnScreen.Proofs.Expiry
import OnScreen.Proofs.Pass
import OnScreen.Proofs.Registry
import OnScreen.Proofs.Frame
import OnScreen.Proofs.Custody
import OnScreen.Proofs.Duplicate
import OnScreen.Proofs.Headless
import OnScreen.Proofs.Lifetime
import OnScreen.Proofs.Replacement
import OnScreen.Proofs.Textures
import OnScreen.Proofs.Placements
import OnScreen.Proofs.Accounting
import OnScreen.Proofs.SubmissionOrder
import OnScreen.Proofs.Rounding
import OnScreen.Proofs.Fading
import OnScreen.Proofs.Uniqueness
import OnScreen.Proofs.Arrangement
import OnScreen.Proofs.Likeness
import OnScreen.Proofs.Parallel
import OnScreen.Proofs.Views
import OnScreen.Proofs.HiddenFrames
import OnScreen.Proofs.Drawings
import OnScreen.Proofs.Surfaces
import OnScreen.Proofs.Rendering
import OnScreen.Proofs.Isolation
import OnScreen.Proofs.Mirroring
import OnScreen.Proofs.Commuting
import OnScreen.Proofs.Renewal
import OnScreen.Proofs.JsonText
import OnScreen.Proofs.Decimal
import OnScreen.Proofs.JsonNumber
import OnScreen.Proofs.Files
import OnScreen.Proofs.Saving
import OnScreen.Proofs.SurfaceNames
import OnScreen.Proofs.ElapsedTime
import OnScreen.Proofs.Accumulation
import OnScreen.Proofs.Ownership
import OnScreen.Proofs.Icons
import OnScreen.Proofs.Geometry
import OnScreen.Proofs.Settling
import OnScreen.Proofs.Registration
import OnScreen.Proofs.Wraparound
import OnScreen.Proofs.IconBuffers
import OnScreen.Proofs.Recording
import OnScreen.Proofs.JsonNumeral
import OnScreen.Proofs.JsonObjects
import OnScreen.Proofs.Configuring
import OnScreen.Proofs.Visiting
import OnScreen.Proofs.TypeRanges
import OnScreen.Proofs.Measuring
import OnScreen.Proofs.Contents
import OnScreen.Proofs.DemoStacks
import OnScreen.Proofs.DemoFrames
