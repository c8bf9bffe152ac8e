import SchemaDiagram.Schema.Parse
import SchemaDiagram.Schema.Table
import SchemaDiagram.Schema.RelationGraph
import SchemaDiagram.Diagram.Scene
import SchemaDiagram.Canvas.Gesture
import SchemaDiagram.Value.JsonText
import SchemaDiagram.Settings.Source
import SchemaDiagram.Session.Step
import SchemaDiagram.Network.Options
import SchemaDiagram.Journal.Basic
import SchemaDiagram.Page.Browser
import SchemaDiagram.Proofs.Schema.Comment
import SchemaDiagram.Proofs.Text.Lines
import SchemaDiagram.Proofs.Schema.Code
import SchemaDiagram.Proofs.Text.Run
import SchemaDiagram.Proofs.Schema.Opener
import SchemaDiagram.Proofs.Schema.Span
import SchemaDiagram.Proofs.Schema.Codes
import SchemaDiagram.Proofs.Schema.Uncommented
import SchemaDiagram.Proofs.Schema.Field
import SchemaDiagram.Proofs.Schema.Written
import SchemaDiagram.Proofs.Schema.Content
import SchemaDiagram.Proofs.Schema.RoundTrip
import SchemaDiagram.Proofs.Keyed
import SchemaDiagram.Proofs.Schema.Names
import SchemaDiagram.Proofs.Diagram.Links
import SchemaDiagram.Proofs.Diagram.Routing
import SchemaDiagram.Proofs.Exact
import SchemaDiagram.Proofs.Settings.Range
import SchemaDiagram.Proofs.Canvas.Camera
import SchemaDiagram.Proofs.Diagram.Sound
import SchemaDiagram.Proofs.Canvas.Sound
import SchemaDiagram.Proofs.Session.Sound
import SchemaDiagram.Proofs.Diagram.Disclosure
import SchemaDiagram.Proofs.Session.Loads
import SchemaDiagram.Proofs.Schema.Balanced
import SchemaDiagram.Proofs.Schema.Compact
import SchemaDiagram.Proofs.Schema.Layout
import SchemaDiagram.Proofs.Diagram.Labels
import SchemaDiagram.Proofs.Diagram.Keys
import SchemaDiagram.Proofs.Session.Scene
import SchemaDiagram.Proofs.Canvas.Grip
import SchemaDiagram.Proofs.Session.Pointer
import SchemaDiagram.Proofs.Canvas.Frame
import SchemaDiagram.Proofs.Diagram.Estimate
import SchemaDiagram.Proofs.Session.Fit
import SchemaDiagram.Proofs.Schema.Joined
import SchemaDiagram.Proofs.Diagram.Filters
import SchemaDiagram.Proofs.Session.Wheel
import SchemaDiagram.Proofs.Session.LiveRoute
import SchemaDiagram.Proofs.Session.Looking
import SchemaDiagram.Proofs.Schema.RelationEdges
import SchemaDiagram.Proofs.Schema.Site
import SchemaDiagram.Proofs.Schema.Strings
import SchemaDiagram.Proofs.Network.Drawn
import SchemaDiagram.Proofs.Network.Mirror
import SchemaDiagram.Proofs.Session.Network
import SchemaDiagram.Proofs.Schema.Margins
import SchemaDiagram.Proofs.Schema.Resolved
import SchemaDiagram.Proofs.Schema.Quote
import SchemaDiagram.Proofs.Schema.CommentStart
import SchemaDiagram.Proofs.Schema.Attribute
import SchemaDiagram.Proofs.Canvas.Framed
import SchemaDiagram.Proofs.Canvas.Zoom
import SchemaDiagram.Proofs.Diagram.Widening
import SchemaDiagram.Proofs.Diagram.Order
import SchemaDiagram.Proofs.Schema.LastDeclared
import SchemaDiagram.Proofs.Diagram.Reveal
import SchemaDiagram.Proofs.Session.Activate
import SchemaDiagram.Proofs.Canvas.Steer
import SchemaDiagram.Proofs.Session.Drift
import SchemaDiagram.Proofs.Diagram.Neighbors
import SchemaDiagram.Proofs.Session.Neighbors
import SchemaDiagram.Proofs.Schema.Search
import SchemaDiagram.Proofs.Schema.Figures
import SchemaDiagram.Proofs.Double
import SchemaDiagram.Proofs.Settings.Fields
import SchemaDiagram.Proofs.Settings.Accepted
import SchemaDiagram.Proofs.Settings.Precedence
import SchemaDiagram.Proofs.Settings.Unknown
import SchemaDiagram.Proofs.Schema.Splitting
import SchemaDiagram.Proofs.Page.Passed
