/-
# Plain scalars in a YAML text

A scalar without quotes is a run of words. It goes on over line breaks as long
as its lines are indented, and ends before a colon at the end of a word, before
a comment and, in brackets, before an indicator. A line break between its words
becomes a space, and one followed by empty lines becomes those lines.

Key definitions: `Yaml.startsPlain`, `Yaml.plainWord`, `Yaml.plainGap`,
`Yaml.PlainRun`, `Yaml.plainRun`.
-/
import SchemaDiagram.Yaml.Cursor

namespace SchemaDiagram
namespace Yaml

/-- A plain scalar may start here; `flow` says that it stands in brackets. -/
def startsPlain (flow : Bool) (c : Cursor) : Bool :=
  match c.rest with
  | [] => false
  | d :: s =>
    !(endsWord (d :: s) || "-?:,[]\x7b\x7d#&*!|>'\"%@`".toList.contains d) ||
      (!endsWord s && (d == '-' || (!flow && (d == '?' || d == ':'))))

/-- A word of a plain scalar ends here. -/
def endsPlain (flow : Bool) : List Char → Bool
  | [] => true
  | ':' :: s => endsWord s || (flow && s.head?.any fun d => ",[]\x7b\x7d".toList.contains d)
  | d :: s => endsWord (d :: s) || (flow && ",?[]\x7b\x7d".toList.contains d)

/-- A word of a plain scalar, and the text after it. -/
def plainWord (flow : Bool) : List Char → List Char × List Char
  | [] => ([], [])
  | d :: s =>
    if endsPlain flow (d :: s) then ([], d :: s)
    else match plainWord flow s with
      | (w, r) => (d :: w, r)

/-- The line breaks ahead among spaces, up to a document marker. -/
def plainBreaks : Nat → Cursor → List Char × Cursor × Bool
  | 0, c => ([], c, false)
  | fuel + 1, c =>
    match c.rest with
    | [] => ([], c, false)
    | d :: _ =>
      if d = ' ' then plainBreaks fuel c.next
      else if isBreak d then
        if c.next.atMarker then ([], c.next, true)
        else match plainBreaks fuel c.next with
          | (ds, c, stop) => (breakText d :: ds, c, stop)
      else ([], c, false)

/-- What separates two words of a plain scalar; nothing if it ends here. -/
def plainGap (fuel : Nat) (c : Cursor) : List Char × Cursor :=
  let (run, c) := c.span (· == ' ')
  match c.rest with
  | d :: _ =>
    if isBreak d then
      if c.next.atMarker then ([], c.next)
      else match plainBreaks fuel c.next with
        | (_, c, true) => ([], c)
        | (ds, c, false) => (folded (breakText d) ds, c)
    else (run, c)
  | [] => (run, c)

/-- A plain scalar with the cursor after it and the gap that follows; `newLine`
says that a line ends in that gap. -/
structure PlainRun where
  text : List Char
  after : Cursor
  newLine : Bool
  deriving DecidableEq, Repr

/-- The plain scalar here. Its further lines are indented by at least `indent`. -/
def plainRun (flow : Bool) (indent : Int) : Nat → Cursor → PlainRun
  | 0, c => ⟨[], c, false⟩
  | fuel + 1, c =>
    if c.is '#' then ⟨[], c, false⟩
    else
      let (word, _) := plainWord flow c.rest
      if word.isEmpty then ⟨[], c, false⟩
      else
        let last := c.skip word.length
        let (between, after) := plainGap fuel last
        let ended : PlainRun := ⟨word, after, after.line != last.line⟩
        if between.isEmpty || after.is '#' || (!flow && (after.column : Int) < indent) then ended
        else
          let more := plainRun flow indent fuel after
          if more.text.isEmpty then ended
          else { more with text := word ++ between ++ more.text }

end Yaml
end SchemaDiagram
