/-
# Settings

The proportions of the diagram, the limits of the camera, the size of the
window, and where schemas and records are kept. The stock values apply where
nothing else is said.

Key definitions: `Settings`, `Settings.stock`, `Settings.spiral`,
`Settings.cameraRule`.
-/
import SchemaDiagram.Canvas.Camera
import SchemaDiagram.Files.Path

namespace SchemaDiagram

/-- Everything that can be set from outside. -/
structure Settings (α : Type) where
  worldCenter : Point α
  nodeWidth : α
  spiralSpacing : α
  baseHeight : α
  fieldHeight : α
  fieldCap : Int
  optionHeight : α
  initialScale : α
  zoomInFactor : α
  zoomOutFactor : α
  zoomMin : α
  zoomMax : α
  fitMargin : α
  fitMin : α
  fitMax : α
  viewportWidth : α
  viewportHeight : α
  schemaPath : Path
  logLevel : LooseText
  logFile : Option Path
  deriving DecidableEq, Repr

namespace Settings

variable {α : Type} [Scalar α]

/-- The stock values. -/
def stock : Settings α where
  worldCenter := ⟨2600.0, 2600.0⟩
  nodeWidth := 300.0
  spiralSpacing := 240.0
  baseHeight := 92.0
  fieldHeight := 25.0
  fieldCap := 18
  optionHeight := 22.0
  initialScale := 0.85
  zoomInFactor := 1.08
  zoomOutFactor := 0.92
  zoomMin := 0.18
  zoomMax := 2.8
  fitMargin := 140.0
  fitMin := 0.2
  fitMax := 1.2
  viewportWidth := 1200.0
  viewportHeight := 720.0
  schemaPath := ⟨"", ["schema.prisma"]⟩
  logLevel := "INFO"
  logFile := none

/-- Where and how large boxes are placed. -/
def spiral (s : Settings α) : Spiral α :=
  ⟨s.worldCenter, s.spiralSpacing, s.nodeWidth,
    ⟨s.baseHeight, s.fieldHeight, s.fieldCap, s.optionHeight⟩⟩

/-- How the camera zooms and fits. -/
def cameraRule (s : Settings α) : CameraRule α :=
  ⟨s.zoomInFactor, s.zoomOutFactor, s.zoomMin, s.zoomMax, s.fitMargin, s.fitMin, s.fitMax⟩

/-- The size of the window before it is measured. -/
def viewport (s : Settings α) : Extent α :=
  ⟨s.viewportWidth, s.viewportHeight⟩

end Settings
end SchemaDiagram
