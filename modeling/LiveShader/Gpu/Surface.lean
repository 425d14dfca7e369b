import LiveShader.Device.Basic
import LiveShader.Image.Readback

/-!
# Surfaces

A surface shows the frames of a window.  It offers some formats and some ways to
present a frame and to treat its opacity; one of each is chosen when the surface is
configured.  Sources write colours as they are shown, so a format that encodes
colours a second time is taken only if there is no other.
-/

namespace LiveShader.Gpu

/-- How the colours of a surface are stored. -/
inductive Format where
  | rgba8
  | rgba8Encoded
  | bgra8
  | bgra8Encoded
  | rgba16Float
  | rgb10a2
  deriving Repr, DecidableEq

namespace Format

/-- The name of a format. -/
def name : Format → String
  | .rgba8 => "Rgba8Unorm"
  | .rgba8Encoded => "Rgba8UnormSrgb"
  | .bgra8 => "Bgra8Unorm"
  | .bgra8Encoded => "Bgra8UnormSrgb"
  | .rgba16Float => "Rgba16Float"
  | .rgb10a2 => "Rgb10a2Unorm"

/-- Every format. -/
def all : List Format := [.rgba8, .rgba8Encoded, .bgra8, .bgra8Encoded, .rgba16Float, .rgb10a2]

/-- The format of a name. -/
def ofName? (name : String) : Option Format := all.find? fun format => format.name == name

/-- Whether a format encodes the colours that are written to it. -/
def isEncoded : Format → Bool
  | .rgba8Encoded | .bgra8Encoded => true
  | _ => false

/-- The order of the colours, for formats with one byte for each. -/
def channelOrder? : Format → Option Image.ChannelOrder
  | .rgba8 | .rgba8Encoded => some .redFirst
  | .bgra8 | .bgra8Encoded => some .blueFirst
  | .rgba16Float | .rgb10a2 => none

end Format

/-- How frames are handed to the screen. -/
inductive PresentMode where
  | fifo
  | immediate
  | mailbox
  deriving Repr, DecidableEq

/-- The name of a way to present. -/
def PresentMode.name : PresentMode → String
  | .fifo => "Fifo"
  | .immediate => "Immediate"
  | .mailbox => "Mailbox"

/-- The way to present that has a name. -/
def PresentMode.ofName? (name : String) : Option PresentMode :=
  [.fifo, .immediate, .mailbox].find? fun mode => PresentMode.name mode == name

/-- What becomes of the opacity of a frame. -/
inductive AlphaMode where
  | automatic
  | ignored
  | multiplied
  deriving Repr, DecidableEq

/-- The name of a treatment of opacity. -/
def AlphaMode.name : AlphaMode → String
  | .automatic => "Auto"
  | .ignored => "Opaque"
  | .multiplied => "PreMultiplied"

/-- The treatment of opacity that has a name. -/
def AlphaMode.ofName? (name : String) : Option AlphaMode :=
  [.automatic, .ignored, .multiplied].find? fun mode => AlphaMode.name mode == name

/-- What a surface offers, in the order of its preference. -/
structure Capabilities where
  formats : List Format
  presentModes : List PresentMode
  alphaModes : List AlphaMode
  deriving Repr, DecidableEq

/-- What was chosen for a surface. -/
structure Configuration where
  size : Size
  format : Format
  presentMode : PresentMode
  alphaMode : AlphaMode
  deriving Repr, DecidableEq

namespace Capabilities

/-- The first format that does not encode colours, or else the first one. -/
def format? (offer : Capabilities) : Option Format :=
  (offer.formats.find? fun format => !format.isEncoded).or offer.formats.head?

/-- The present mode that waits for the screen, if it is offered, or else the first one. -/
def presentMode (offer : Capabilities) : PresentMode :=
  if offer.presentModes.contains .fifo then .fifo else offer.presentModes.headD .fifo

/-- The first treatment of opacity. -/
def alphaMode (offer : Capabilities) : AlphaMode := offer.alphaModes.headD .automatic

/-- The size with at least one point in each direction. -/
def atLeastOne (size : Size) : Size := ⟨max size.width 1, max size.height 1⟩

/-- The configuration of a surface, unless it offers no format. -/
def configuration? (offer : Capabilities) (size : Size) : Option Configuration :=
  offer.format?.map fun format =>
    { size := atLeastOne size
      format := format
      presentMode := offer.presentMode
      alphaMode := offer.alphaMode }

end Capabilities

end LiveShader.Gpu
