import Northbound.Text.Number
import Northbound.Yaml.Cursor

/-!
# Scalars

A scalar is written plain, in single or double quotes, or as an indented block of lines. Inside a
plain or quoted scalar a single line break counts as a space, and of several breaks all but the
first count.
-/

namespace Northbound.Yaml

/-- How a scalar is written. -/
inductive ScalarStyle where
  | plain
  | singleQuoted
  | doubleQuoted
  /-- A block whose line breaks count. -/
  | literal
  /-- A block whose lines are joined. -/
  | folded
deriving DecidableEq, Repr

/-- A piece of text and how it is written. -/
structure Scalar where
  text : String
  style : ScalarStyle := .plain
deriving DecidableEq, Repr

/-- What stands between two words of a scalar: blanks, or line breaks with blanks around them. -/
structure Gap where
  blanks : List Char := []
  broken : Bool := false
  firstBreak : List Char := []
  moreBreaks : List Char := []

namespace Gap

/-- What a gap counts for. -/
def text (g : Gap) : List Char :=
  if !g.broken then g.blanks
  else if g.firstBreak.head? == some '\n' then
    if g.moreBreaks.isEmpty then [' '] else g.moreBreaks
  else g.firstBreak ++ g.moreBreaks

/-- Reads the rest of a gap. After a break, a tab must not stand before column `indent`. -/
def scan (indent : Nat) : Nat → Gap → Scan Gap
  | 0, g => return g
  | fuel + 1, g => do
    let c ← get
    match c.peek 0 with
    | none => return g
    | some x =>
      if isGap x then
        if g.broken && c.column < indent && x == '\t' then Scan.refuse
        else
          Scan.advance
          scan indent fuel (if g.broken then g else { g with blanks := g.blanks ++ [x] })
      else if isBreak x then
        let b ← Scan.lineBreak
        scan indent fuel
          (if g.broken then { g with moreBreaks := g.moreBreaks ++ b }
           else { blanks := [], broken := true, firstBreak := b })
      else return g

end Gap

namespace Scalar

/-- Characters that end a plain scalar inside brackets. -/
def isFlowEnd (c : Char) : Bool := c == ',' || c == '[' || c == ']' || c == '{' || c == '}'

/-- Reads a word of a plain scalar. A colon ends it in front of a blank; inside brackets, where it
may not stand in front of an indicator, so do the indicators. -/
def plainWord (flow : Bool) : Nat → Scan (List Char)
  | 0 => return []
  | fuel + 1 => do
    let c ← get
    match c.peek 0 with
    | none => return []
    | some x =>
      if isGap x || isBreak x then return []
      else if flow && x == ':' && (c.peek 1).any (fun y => isFlowEnd y || y == '?') then
        Scan.refuse
      else if (x == ':' && c.endsWord 1) || (flow && isFlowEnd x) then return []
      else
        Scan.advance
        return x :: (← plainWord flow fuel)

/-- Reads words of a plain scalar that are indented to column `indent` at least, and the gap behind
the last one. -/
def plainWords (flow : Bool) (indent : Nat) : Nat → List Char → Gap → Scan (List Char × Gap)
  | 0, text, gap => return (text, gap)
  | fuel + 1, text, gap => do
    let c ← get
    if c.atAnyMarker || c.sees (· == '#') then return (text, gap)
    else
      let word ← plainWord flow (← Scan.bound)
      let (text, gap) := if word.isEmpty then (text, gap) else (text ++ gap.text ++ word, {})
      if !(← get).sees (fun x => isGap x || isBreak x) then return (text, gap)
      else
        let gap ← Gap.scan indent (← Scan.bound) gap
        if !flow && (← get).column < indent then return (text, gap)
        else plainWords flow indent fuel text gap

/-- Reads a plain scalar. Tells too whether a line break follows it. -/
def plain (flow : Bool) (indent : Nat) : Scan (Scalar × Bool) := do
  let (text, gap) ← plainWords flow indent (← Scan.bound) [] {}
  return ({ text := String.ofList text, style := .plain }, gap.broken)

/-- The character that an escape of a single letter stands for. -/
def escaped? : Char → Option Char
  | '0' => some '\x00'
  | 'a' => some '\x07'
  | 'b' => some '\x08'
  | 't' => some '\t'
  | '\t' => some '\t'
  | 'n' => some '\n'
  | 'v' => some '\x0B'
  | 'f' => some '\x0C'
  | 'r' => some '\r'
  | 'e' => some '\x1B'
  | ' ' => some ' '
  | '"' => some '"'
  | '/' => some '/'
  | '\\' => some '\\'
  | 'N' => some '\u0085'
  | '_' => some '\u00A0'
  | 'L' => some '\u2028'
  | 'P' => some '\u2029'
  | _ => none

/-- The number of hexadecimal digits behind an escape. -/
def escapeWidth? : Char → Option Nat
  | 'x' => some 2
  | 'u' => some 4
  | 'U' => some 8
  | _ => none

/-- Reads a character given by its number, in `width` hexadecimal digits. -/
def numbered (width : Nat) : Scan Char := do
  let digits := (← get).rest.take width
  Scan.require (digits.length == width)
  match Text.readHexDigits 0 digits with
  | none => Scan.refuse
  | some n =>
    Scan.require (n < 0xD800 || (0xDFFF < n && n ≤ 0x10FFFF))
    Scan.advance width
    return Char.ofNat n

/-- Reads an escape. -/
def escape : Scan Char := do
  match (← get).peek 1 with
  | none => Scan.refuse
  | some x =>
    match escaped? x, escapeWidth? x with
    | some y, _ =>
      Scan.advance 2
      return y
    | none, some width =>
      Scan.advance 2
      numbered width
    | none, none => Scan.refuse

/-- Reads a word of a quoted scalar. Tells too whether an escaped line break ends it. -/
def quotedWord (single : Bool) : Nat → Scan (List Char × Bool)
  | 0 => return ([], false)
  | fuel + 1 => do
    let c ← get
    match c.peek 0 with
    | none => return ([], false)
    | some x =>
      if isGap x || isBreak x then return ([], false)
      else if single && x == '\'' && c.peek 1 == some '\'' then
        Scan.advance 2
        let (word, broken) ← quotedWord single fuel
        return ('\'' :: word, broken)
      else if x == (if single then '\'' else '"') then return ([], false)
      else if !single && x == '\\' then
        if (c.peek 1).any isBreak then
          Scan.advance
          let _ ← Scan.lineBreak
          return ([], true)
        else
          let y ← escape
          let (word, broken) ← quotedWord single fuel
          return (y :: word, broken)
      else
        Scan.advance
        let (word, broken) ← quotedWord single fuel
        return (x :: word, broken)

/-- Reads a quoted scalar from behind its opening quote to behind its closing quote. -/
def quotedWords (single : Bool) : Nat → List Char → Scan (List Char)
  | 0, _ => Scan.refuse
  | fuel + 1, text => do
    let c ← get
    Scan.require (!c.atAnyMarker && !c.atEnd)
    let (word, broken) ← quotedWord single (← Scan.bound)
    let text := text ++ word
    if (← get).sees (· == (if single then '\'' else '"')) then
      Scan.advance
      return text
    else
      let gap ← Gap.scan 0 (← Scan.bound) { broken }
      quotedWords single fuel (text ++ gap.text)

/-- Reads a quoted scalar. -/
def quoted (single : Bool) : Scan Scalar := do
  Scan.advance
  let text ← quotedWords single (← Scan.bound) []
  return { text := String.ofList text, style := if single then .singleQuoted else .doubleQuoted }

/-- What becomes of the line breaks at the end of a block. -/
inductive Chomping where
  | strip
  | clip
  | keep
deriving DecidableEq, Repr

/-- Reads a sign that says what becomes of the last line breaks. -/
def chomping? : Scan (Option Chomping) := do
  let c ← get
  if c.sees (· == '+') then
    Scan.advance
    return some .keep
  else if c.sees (· == '-') then
    Scan.advance
    return some .strip
  else return none

/-- Reads a digit that says how much deeper a block is indented. -/
def increment? : Scan (Option Nat) := do
  match (← get).peek 0 with
  | none => return none
  | some x =>
    if x.isDigit then
      Scan.require (x != '0')
      Scan.advance
      return some (x.toNat - '0'.toNat)
    else return none

/-- Reads the signs behind the indicator of a block, in either order. -/
def blockSigns : Scan (Chomping × Option Nat) := do
  match ← chomping? with
  | some chomping => return (chomping, ← increment?)
  | none =>
    let increment ← increment?
    if increment.isNone then return (.clip, none)
    else return ((← chomping?).getD .clip, increment)

/-- Reads empty lines of a block whose indentation may not be known yet. Yields their breaks and the
deepest column that was reached. -/
def emptyLines (indent? : Option Nat) : Nat → Nat → Scan (List Char × Nat)
  | 0, deepest => return ([], deepest)
  | fuel + 1, deepest => do
    let start ← get
    let spaces := (start.rest.takeWhile (· == ' ')).length
    let wanted := (indent?.map (· - start.column)).getD spaces
    Scan.advance (min spaces wanted)
    let c ← get
    let deepest := max deepest c.column
    if (indent?.all (c.column < ·)) && c.sees (· == '\t') then Scan.refuse
    else if c.sees isBreak then
      let b ← Scan.lineBreak
      let (more, deepest) ← emptyLines indent? fuel deepest
      return (b ++ more, deepest)
    else return ([], deepest)

/-- Reads the lines of a block that start at column `indent`. What goes before a line depends on how
the line before it ended: `broken` is its break and `blank` tells whether it started with a blank.
-/
def blockLines (fold : Bool) (indent : Nat) :
    Nat → List Char → List Char → List Char → Bool → Scan (List Char × List Char × List Char)
  | 0, text, broken, empty, _ => return (text, broken, empty)
  | fuel + 1, text, broken, empty, blank => do
    let c ← get
    if c.column != indent || c.atEnd then return (text, broken, empty)
    else
      let blankHere := c.sees isGap
      let joint :=
        if fold && broken.head? == some '\n' && !blank && !blankHere then
          if empty.isEmpty then [' '] else []
        else broken
      let line ← Scan.takeWhile fun x => !isBreak x
      let broken ← Scan.lineBreak
      let (more, _) ← emptyLines (some indent) (← Scan.bound) 0
      blockLines fold indent fuel (text ++ joint ++ empty ++ line) broken more blankHere

/-- Reads a block below a parent that is indented to column `parent`, or to none. -/
def block (fold : Bool) (parent? : Option Nat) : Scan Scalar := do
  Scan.advance
  let (chomping, increment?) ← blockSigns
  Scan.restOfLine
  let known? := increment?.map ((parent?.getD 0) + ·)
  let (empty, deepest) ← emptyLines known? (← Scan.bound) 0
  let least := (parent?.map (· + 1)).getD 0
  let indent := known?.getD (max 1 (max least deepest))
  let (text, broken, empty) ← blockLines fold indent (← Scan.bound) [] [] empty false
  let tail := match chomping with
    | .strip => []
    | .clip => broken
    | .keep => broken ++ empty
  return { text := String.ofList (text ++ tail), style := if fold then .folded else .literal }

end Scalar

end Northbound.Yaml
