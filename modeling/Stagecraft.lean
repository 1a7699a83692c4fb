import Stagecraft.Act
import Stagecraft.Cast.Costume
import Stagecraft.Cast.Gallery
import Stagecraft.Cast.Sprite
import Stagecraft.Codec.Bmp
import Stagecraft.Codec.Bytes
import Stagecraft.Codec.Checksum
import Stagecraft.Codec.Deflate
import Stagecraft.Codec.Gif
import Stagecraft.Codec.Gzip
import Stagecraft.Codec.Lzw
import Stagecraft.Codec.Png
import Stagecraft.Codec.Samples
import Stagecraft.Codec.Svg.Color
import Stagecraft.Codec.Svg.Drawing
import Stagecraft.Codec.Svg.Length
import Stagecraft.Codec.Svg.Painting
import Stagecraft.Codec.Svg.Placement
import Stagecraft.Codec.Svg.Style
import Stagecraft.Codec.Xml.Character
import Stagecraft.Codec.Xml.Document
import Stagecraft.Codec.Xml.Element
import Stagecraft.Codec.Xml.Entity
import Stagecraft.Codec.Xml.Reader
import Stagecraft.Codec.Zlib
import Stagecraft.Error
import Stagecraft.Fault
import Stagecraft.Files.Disk
import Stagecraft.Files.Path
import Stagecraft.Files.Picture
import Stagecraft.Game.Actor
import Stagecraft.Game.Basic
import Stagecraft.Game.Config
import Stagecraft.Game.Run
import Stagecraft.Geometry.Point
import Stagecraft.Geometry.Rect
import Stagecraft.Geometry.Stage
import Stagecraft.Log.Filter
import Stagecraft.Log.Line
import Stagecraft.Log.Setup
import Stagecraft.Main
import Stagecraft.Number.Binary
import Stagecraft.Number.BinaryFormat
import Stagecraft.Number.Decimal
import Stagecraft.Number.Integral
import Stagecraft.Number.Nearest
import Stagecraft.Number.Power
import Stagecraft.Pattern.Basic
import Stagecraft.Pattern.Bracket
import Stagecraft.Pattern.CharSet
import Stagecraft.Pattern.Cursor
import Stagecraft.Pattern.Encoding
import Stagecraft.Pattern.Escape
import Stagecraft.Pattern.Normal
import Stagecraft.Pattern.Read
import Stagecraft.Pattern.Room
import Stagecraft.Proofs.Act
import Stagecraft.Proofs.Cast.Sharing
import Stagecraft.Proofs.Cast.Wearing
import Stagecraft.Proofs.Codec.Bmp
import Stagecraft.Proofs.Codec.Bytes
import Stagecraft.Proofs.Codec.Deflate
import Stagecraft.Proofs.Codec.Png
import Stagecraft.Proofs.Error
import Stagecraft.Proofs.Files.Reopening
import Stagecraft.Proofs.Files.Shrinking
import Stagecraft.Proofs.Game.Arming
import Stagecraft.Proofs.Game.CatchUp
import Stagecraft.Proofs.Game.Clearing
import Stagecraft.Proofs.Game.Command
import Stagecraft.Proofs.Game.Compositing
import Stagecraft.Proofs.Game.Construction
import Stagecraft.Proofs.Game.Control
import Stagecraft.Proofs.Game.Enactment
import Stagecraft.Proofs.Game.FirstCycle
import Stagecraft.Proofs.Game.Journal
import Stagecraft.Proofs.Game.Lifecycle
import Stagecraft.Proofs.Game.Pace
import Stagecraft.Proofs.Game.Pass
import Stagecraft.Proofs.Game.Rounds
import Stagecraft.Proofs.Game.Schedule
import Stagecraft.Proofs.Game.Slices
import Stagecraft.Proofs.Game.Soundtrack
import Stagecraft.Proofs.Geometry.Meeting
import Stagecraft.Proofs.Number.Alike
import Stagecraft.Proofs.Number.Grid
import Stagecraft.Proofs.Number.Order
import Stagecraft.Proofs.Number.Rounding
import Stagecraft.Proofs.Number.Whole
import Stagecraft.Proofs.Raster.Canvas
import Stagecraft.Proofs.Raster.Drawing
import Stagecraft.Proofs.Raster.Erasing
import Stagecraft.Proofs.Raster.Image
import Stagecraft.Proofs.Text.Quoted
import Stagecraft.Proofs.Time.Metronome
import Stagecraft.Proofs.Time.Waiting
import Stagecraft.Proofs.Troupe.Bouncing
import Stagecraft.Proofs.Troupe.Hits
import Stagecraft.Proofs.Troupe.Walls
import Stagecraft.Raster.Canvas
import Stagecraft.Raster.Image
import Stagecraft.Raster.Indexed
import Stagecraft.Raster.Pixel
import Stagecraft.Raster.Quantize
import Stagecraft.Raster.Scale
import Stagecraft.Store.Blackboard
import Stagecraft.Store.Playlist
import Stagecraft.Store.Registry
import Stagecraft.Store.Request
import Stagecraft.Surface
import Stagecraft.Text.Blank
import Stagecraft.Text.Extending
import Stagecraft.Text.Letter
import Stagecraft.Text.Numeral
import Stagecraft.Text.Quoted
import Stagecraft.Text.Ranges
import Stagecraft.Text.Unprintable
import Stagecraft.Time.Clock
import Stagecraft.Time.Duration
import Stagecraft.Time.Metronome
import Stagecraft.Time.Stopwatch
import Stagecraft.Troupe.Basic
import Stagecraft.Troupe.Bouncer
import Stagecraft.Troupe.Demo
import Stagecraft.Troupe.Event
import Stagecraft.Troupe.Script
