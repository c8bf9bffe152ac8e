/-
# Colours

A theme names the colours of the page and of the drawn network.

Key definitions: `Theme`, `Theme.dark`, `Theme.light`, `Theme.of`.
-/

namespace SchemaDiagram

/-- The colours of the page. -/
structure Palette where
  bg : String
  surface : String
  card : String
  border : String
  border2 : String
  accent : String
  yellow : String
  red : String
  text : String
  text2 : String
  text3 : String
  deriving DecidableEq, Repr

/-- The colours of the page, of edges, and of the drawn network. -/
structure Theme where
  palette : Palette
  edge : String
  background : String
  foreground : String
  nodeFill : String
  nodeBorder : String
  nodeHighlight : String
  muted : String
  deriving DecidableEq, Repr

namespace Theme

def dark : Theme where
  palette :=
    { bg := "#141e30", surface := "#1a2640", card := "#1e2d4a", border := "#2a3f60",
      border2 := "#344f78", accent := "#5badff", yellow := "#fbbf24", red := "#f87171",
      text := "#e8eef6", text2 := "#9ab0cc", text3 := "#5a7898" }
  edge := "#7f9cc2"
  background := "#141e30"
  foreground := "#e8eef6"
  nodeFill := "#1e2d4a"
  nodeBorder := "#2a3f60"
  nodeHighlight := "#5badff"
  muted := "#9ab0cc"

def light : Theme where
  palette :=
    { bg := "#f0f4fa", surface := "#ffffff", card := "#f7f9fc", border := "#d0daea",
      border2 := "#a8bdd4", accent := "#1a62c7", yellow := "#854d0e", red := "#991b1b",
      text := "#0d1829", text2 := "#334155", text3 := "#64748b" }
  edge := "#5c7394"
  background := "#f1f5fb"
  foreground := "#0d1829"
  nodeFill := "#ffffff"
  nodeBorder := "#aabdd4"
  nodeHighlight := "#1a62c7"
  muted := "#475569"

/-- The dark theme or the light one. -/
def of (isDark : Bool) : Theme :=
  if isDark then dark else light

end Theme
end SchemaDiagram
