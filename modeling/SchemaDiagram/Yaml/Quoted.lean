/-
# Quoted scalars in a YAML text

A scalar in quotes goes up to its closing quote, over line breaks too, but not
over a document marker. In single quotes a quote is written twice; in double
quotes a backslash begins an escape, which can stand for a line break too.

Key definitions: `Yaml.quotedGap`, `Yaml.singleQuoted`, `Yaml.numbered`,
`Yaml.doubleQuoted`.
-/
import SchemaDiagram.Value.Number
import SchemaDiagram.Yaml.Cursor

namespace SchemaDiagram
namespace Yaml

/-- The line breaks ahead among blanks in a quoted scalar. -/
def quotedBreaks : Nat → Cursor → Reading (List Char × Cursor)
  | 0, _ => .error .malformed
  | fuel + 1, c =>
    if c.atMarker then .error .malformed
    else
      let c := c.skipWhile isInlineBlank
      match c.rest with
      | d :: _ =>
        if isBreak d then (quotedBreaks fuel c.next).map fun p => (breakText d :: p.1, p.2)
        else .ok ([], c)
      | [] => .ok ([], c)

/-- What blanks and line breaks in a quoted scalar become. -/
def quotedGap (fuel : Nat) (c : Cursor) : Reading (List Char × Cursor) :=
  let (run, c) := c.span isInlineBlank
  match c.rest with
  | [] => .error .unfinished
  | d :: _ =>
    if isBreak d then (quotedBreaks fuel c.next).map fun p => (folded (breakText d) p.1, p.2)
    else .ok (run, c)

/-- A blank or a line break ahead. -/
def blankAhead (c : Cursor) : Bool :=
  !c.rest.isEmpty && endsWord c.rest

/-- A scalar in single quotes after the opening one; a quote inside is written
twice. -/
def singleQuoted : Nat → Cursor → Reading (List Char × Cursor)
  | 0, _ => .error .malformed
  | fuel + 1, c =>
    if blankAhead c then do
      let (between, c) ← quotedGap fuel c
      let (more, c) ← singleQuoted fuel c
      return (between ++ more, c)
    else match c.rest with
      | [] => .error .unfinished
      | '\'' :: '\'' :: _ => (singleQuoted fuel (c.skip 2)).map fun p => ('\'' :: p.1, p.2)
      | '\'' :: _ => .ok ([], c.next)
      | d :: _ => (singleQuoted fuel c.next).map fun p => (d :: p.1, p.2)

/-- The characters that single letters stand for after a backslash. -/
def escapes : List (Char × Char) :=
  [('0', '\x00'), ('a', '\x07'), ('b', '\x08'), ('t', '\t'), ('\t', '\t'), ('n', '\n'),
   ('v', '\x0b'), ('f', '\x0c'), ('r', '\r'), ('e', '\x1b'), (' ', ' '), ('"', '"'),
   ('\\', '\\'), ('/', '/'), ('N', '\u0085'), ('_', '\u00a0'), ('L', '\u2028'), ('P', '\u2029')]

/-- The number of hexadecimal digits that a letter asks for after a backslash. -/
def escapeWidth : Char → Nat
  | 'x' => 2
  | 'u' => 4
  | 'U' => 8
  | _ => 0

/-- The code point with a number. -/
def numbered (n : Nat) : Reading CodePoint :=
  if Nat.pow 2 31 ≤ n then .error (.scalar .characterTooLarge)
  else if 0x110000 ≤ n then .error (.scalar .noCharacter)
  else if 0xD800 ≤ n && n ≤ 0xDFFF then .ok (.half n)
  else .ok (.char (Char.ofNat n))

/-- The code point that hexadecimal digits at the beginning of a text name. -/
def escaped (width : Nat) (s : List Char) : Reading CodePoint :=
  let run := s.take width
  match Number.digits? 16 run with
  | some n => if run.length = width then numbered n else .error .unfinished
  | none => .error (if run.isEmpty then .unfinished else .malformed)

/-- A scalar in double quotes after the opening one. -/
def doubleQuoted : Nat → Cursor → Reading (List CodePoint × Cursor)
  | 0, _ => .error .malformed
  | fuel + 1, c =>
    if blankAhead c then do
      let (between, c) ← quotedGap fuel c
      let (more, c) ← doubleQuoted fuel c
      return (between.map .char ++ more, c)
    else match c.rest with
      | [] => .error .unfinished
      | '"' :: _ => .ok ([], c.next)
      | '\\' :: d :: s =>
        match escapes.find? (·.1 = d) with
        | some e => (doubleQuoted fuel (c.skip 2)).map fun p => (.char e.2 :: p.1, p.2)
        | none =>
          let width := escapeWidth d
          if isBreak d then do
            let (between, c) ← quotedBreaks fuel (c.skip 2)
            let (more, c) ← doubleQuoted fuel c
            return (between.map .char ++ more, c)
          else if width = 0 then .error .malformed
          else do
            let e ← escaped width s
            let (more, c) ← doubleQuoted fuel (c.skip (2 + width))
            return (e :: more, c)
      | '\\' :: [] => .error .unfinished
      | d :: _ => (doubleQuoted fuel c.next).map fun p => (.char d :: p.1, p.2)

end Yaml
end SchemaDiagram
