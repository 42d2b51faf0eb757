import TurtleCanvas.Action
import TurtleCanvas.Argument.Basic
import TurtleCanvas.Argument.Block
import TurtleCanvas.Argument.Byte
import TurtleCanvas.Argument.Pair
import TurtleCanvas.Argument.Reading
import TurtleCanvas.Canvas.Album
import TurtleCanvas.Canvas.Basic
import TurtleCanvas.Canvas.Paint
import TurtleCanvas.Canvas.Save
import TurtleCanvas.Clip
import TurtleCanvas.Colour.Basic
import TurtleCanvas.Colour.Names
import TurtleCanvas.Colour.Reading
import TurtleCanvas.Colour.Spaces
import TurtleCanvas.Colour.Specifier
import TurtleCanvas.CommandLine
import TurtleCanvas.Config
import TurtleCanvas.Drawing
import TurtleCanvas.Fault
import TurtleCanvas.Folder
import TurtleCanvas.Frame.Caption
import TurtleCanvas.Frame.Compose
import TurtleCanvas.Frame.Mask
import TurtleCanvas.Frame.Png
import TurtleCanvas.Frame.Zoom
import TurtleCanvas.Heading
import TurtleCanvas.Log.Basic
import TurtleCanvas.Log.Setup
import TurtleCanvas.Main
import TurtleCanvas.Mascot.Sections
import TurtleCanvas.Mascot.Stroke
import TurtleCanvas.Memory
import TurtleCanvas.Number.Arithmetic
import TurtleCanvas.Number.Basic
import TurtleCanvas.Number.Binary64
import TurtleCanvas.Number.Shortest
import TurtleCanvas.Pace
import TurtleCanvas.Picture
import TurtleCanvas.Picture.Image
import TurtleCanvas.Picture.Index
import TurtleCanvas.Picture.Pick
import TurtleCanvas.Picture.View
import TurtleCanvas.Platform
import TurtleCanvas.Program
import TurtleCanvas.Proofs.Action
import TurtleCanvas.Proofs.Argument
import TurtleCanvas.Proofs.Canvas.Atomic
import TurtleCanvas.Proofs.Canvas.Basic
import TurtleCanvas.Proofs.Canvas.Footprint
import TurtleCanvas.Proofs.Canvas.Overlay
import TurtleCanvas.Proofs.Canvas.Painter
import TurtleCanvas.Proofs.Exact
import TurtleCanvas.Proofs.Exact.Real
import TurtleCanvas.Proofs.Exact.Circle
import TurtleCanvas.Proofs.Mascot.Mirror
import TurtleCanvas.Proofs.Picture
import TurtleCanvas.Proofs.Picture.Image
import TurtleCanvas.Proofs.Rounded
import TurtleCanvas.Proofs.Rounding
import TurtleCanvas.Proofs.Session.Polling
import TurtleCanvas.Proofs.Turtle.Arc
import TurtleCanvas.Proofs.Turtle.Composition
import TurtleCanvas.Proofs.Turtle.Evolution
import TurtleCanvas.Proofs.Turtle.Motion
import TurtleCanvas.Proofs.Turtle.NonFinite
import TurtleCanvas.Proofs.Turtle.Sound
import TurtleCanvas.Proofs.Turtle.Trace
import TurtleCanvas.Proofs.Turtle.Walk
import TurtleCanvas.Raster.Disk
import TurtleCanvas.Raster.Line
import TurtleCanvas.Raster.Polygon
import TurtleCanvas.Raster.Rounded
import TurtleCanvas.Raster.Span
import TurtleCanvas.Raster.Stroke
import TurtleCanvas.Scalar
import TurtleCanvas.Session
import TurtleCanvas.Text.Blank
import TurtleCanvas.Text.ByteCount
import TurtleCanvas.Text.Decimal
import TurtleCanvas.Text.Digit
import TurtleCanvas.Text.LetterCase
import TurtleCanvas.Text.Printable
import TurtleCanvas.Text.Quoted
import TurtleCanvas.Turtle.Basic
import TurtleCanvas.Turtle.Recorder
import TurtleCanvas.Turtle.Step
import TurtleCanvas.Window
import TurtleCanvas.Proofs.Folder
import TurtleCanvas.Proofs.Canvas.Path
import TurtleCanvas.Proofs.Canvas.Reach
import TurtleCanvas.Proofs.Canvas.ThinLine
import TurtleCanvas.Proofs.Exact.Inside
import TurtleCanvas.Proofs.Canvas.Margin
import TurtleCanvas.Proofs.Drawing.Outcome
import TurtleCanvas.Proofs.Frame.Compose
import TurtleCanvas.Proofs.Frame.Mask
import TurtleCanvas.Proofs.Frame.Zoom
import TurtleCanvas.Proofs.Turtle.Atomic
import TurtleCanvas.Proofs.Exact.Reflected
import TurtleCanvas.Proofs.Exact.Undo
import TurtleCanvas.Proofs.Turtle.Curve
import TurtleCanvas.Proofs.Window.Fresh
import TurtleCanvas.Proofs.Window.Schedule
import TurtleCanvas.Proofs.Binary64.Bits
import TurtleCanvas.Proofs.Binary64.Beside
import TurtleCanvas.Proofs.Binary64.Nearest
import TurtleCanvas.Proofs.Binary64.Shift
import TurtleCanvas.Proofs.Binary64.Arithmetic
import TurtleCanvas.Proofs.Argument.NonFinite
import TurtleCanvas.Proofs.Argument.Value
import TurtleCanvas.Proofs.Canvas.NonFinite
import TurtleCanvas.Proofs.Canvas.OneColour
import TurtleCanvas.Proofs.Mascot.Plain
import TurtleCanvas.Proofs.Mascot.Forgetful
import TurtleCanvas.Proofs.Canvas.Saved
import TurtleCanvas.Proofs.Binary64.Order
import TurtleCanvas.Proofs.CommandLine
import TurtleCanvas.Proofs.Config
import TurtleCanvas.Proofs.Binary64.Bounded
import TurtleCanvas.Proofs.Canvas.Bounded
import TurtleCanvas.Proofs.Mascot.Pauses
import TurtleCanvas.Proofs.Mascot.Complete
import TurtleCanvas.Proofs.Program.Headless
import TurtleCanvas.Proofs.Raster.Disk
import TurtleCanvas.Proofs.Canvas.Capped
import TurtleCanvas.Proofs.Canvas.Covered
import TurtleCanvas.Proofs.Argument.Near
import TurtleCanvas.Proofs.Argument.Clip
import TurtleCanvas.Proofs.Canvas.Distant
import TurtleCanvas.Proofs.Raster.Line
import TurtleCanvas.Proofs.Raster.Digital
import TurtleCanvas.Proofs.Canvas.DigitalSegment
import TurtleCanvas.Proofs.Argument.Denotes
import TurtleCanvas.Proofs.Argument.Difference
import TurtleCanvas.Proofs.Canvas.SinglePixel
import TurtleCanvas.Proofs.Canvas.Cleared
import TurtleCanvas.Proofs.Raster.Rounded
import TurtleCanvas.Proofs.Raster.Clipped
import TurtleCanvas.Proofs.Raster.Polygon
import TurtleCanvas.Proofs.Raster.Stroke
import TurtleCanvas.Proofs.Canvas.Local
import TurtleCanvas.Proofs.Canvas.Dots
import TurtleCanvas.Proofs.Window.Missed
import TurtleCanvas.Proofs.Mascot.Listed
