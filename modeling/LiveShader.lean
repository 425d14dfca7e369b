import LiveShader.Application.Run
import LiveShader.Application.Reach
import LiveShader.Main
import LiveShader.Device.Scripted
import LiveShader.Session.Schedule
import LiveShader.Source.Annotated
import LiveShader.Proofs.Playback.Change
import LiveShader.Proofs.Playback.PlayedTime
import LiveShader.Proofs.Session.Run
import LiveShader.Proofs.Session.PlayedTime
import LiveShader.Proofs.Device.Matching
import LiveShader.Proofs.Session.Matching
import LiveShader.Proofs.Device.Journal
import LiveShader.Proofs.Device.Ownership
import LiveShader.Proofs.Session.Ownership
import LiveShader.Proofs.Text.Blank
import LiveShader.Proofs.Text.Lines
import LiveShader.Proofs.Number.Decimal
import LiveShader.Proofs.Source.Origin
import LiveShader.Proofs.Files.Path
import LiveShader.Proofs.Fragment.Expansion
import LiveShader.Proofs.Fragment.Closing
import LiveShader.Proofs.Fragment.Attribution
import LiveShader.Proofs.Fragment.Weaving
import LiveShader.Proofs.Files.Directory
import LiveShader.Proofs.Fragment.Edit
import LiveShader.Proofs.Fragment.Names
import LiveShader.Proofs.Fragment.References
import LiveShader.Proofs.Fragment.Loading
import LiveShader.Proofs.Console.Turn
import LiveShader.Proofs.Console.Edits
import LiveShader.Proofs.Session.Numbering
import LiveShader.Proofs.Session.Tickets
import LiveShader.Proofs.Device.Calls
import LiveShader.Proofs.Session.Calls
import LiveShader.Proofs.Window.Run
import LiveShader.Proofs.Window.Calls
import LiveShader.Proofs.Session.Loop
import LiveShader.Proofs.Window.Loop
import LiveShader.Proofs.Device.Renumbering
import LiveShader.Proofs.Playback.Forgetting
import LiveShader.Proofs.Session.Forgetting
import LiveShader.Proofs.Fragment.Watching
import LiveShader.Proofs.Source.Scan
import LiveShader.Proofs.Source.LineMap
import LiveShader.Proofs.Source.Name
import LiveShader.Proofs.Uniform.Macro
import LiveShader.Proofs.Uniform.Alias
import LiveShader.Proofs.Gpu.Drawing
import LiveShader.Proofs.Session.Builtins
import LiveShader.Proofs.Source.Gathering
import LiveShader.Proofs.Uniform.Block
import LiveShader.Proofs.Session.Uploads
import LiveShader.Proofs.Session.Failure
import LiveShader.Proofs.Fragment.Opening
import LiveShader.Proofs.Console.Tracking
import LiveShader.Proofs.Window.Reports
import LiveShader.Proofs.Console.Exchange
import LiveShader.Proofs.Uniform.Std140
import LiveShader.Proofs.Source.Dropping
import LiveShader.Proofs.Source.Placing
import LiveShader.Proofs.Fragment.Listing
import LiveShader.Proofs.Control.Bounds
import LiveShader.Proofs.Manifest.Controls
import LiveShader.Proofs.Fragment.Numbering
import LiveShader.Proofs.Session.Captures
import LiveShader.Proofs.Playback.Readout
import LiveShader.Proofs.Session.Readouts
import LiveShader.Proofs.Window.Title
import LiveShader.Proofs.Source.Counting
import LiveShader.Proofs.Source.Labels
import LiveShader.Proofs.Image.Readback
import LiveShader.Proofs.Gpu.Capture
import LiveShader.Proofs.Number.Padded
import LiveShader.Proofs.Calendar.Order
import LiveShader.Proofs.Window.CaptureName
import LiveShader.Proofs.Source.Lexer
import LiveShader.Proofs.Session.Latching
