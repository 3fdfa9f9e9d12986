import InstanceScripts.Text.Decimal
import InstanceScripts.Yaml.Token.Cursor

/-!
# Scalars in YAML texts

The four ways of writing a scalar.  Each reader takes the cursor at the first
character and gives the text, the place where it stops and the cursor after it.
-/

namespace InstanceScripts
namespace Yaml

/-- A scalar that has been read.  `newLine` says that the blanks read after it
included a line break. -/
structure ScalarRead where
  text : List Char
  stop : Mark
  cursor : Cursor
  newLine : Bool

/-! ## Plain scalars -/

/-- Characters that structure flow collections. -/
def isFlowIndicator (char : Char) : Bool :=
  [',', '[', ']', '\x7b', '\x7d'].contains char

/-- One word of a plain scalar.  A colon ends it before a blank; inside a flow
collection indicators end it too, and a colon right before one is refused. -/
def plainWord? (flow : Bool) : List Char → Option (List Char)
  | [] => some []
  | char :: chars =>
      if isSpaceOrTab char || isBreak char then some []
      else if flow && char == ':' &&
          chars.head?.any (fun next => isFlowIndicator next || next == '?') then none
      else if (char == ':' && endsWord chars.head?) || (flow && isFlowIndicator char) then some []
      else (plainWord? flow chars).map (char :: ·)

/-- Read words and gaps as long as the scalar goes on: not past a document marker or
a comment and, outside flow collections, not left of `indent`. -/
def plainFrom? (flow : Bool) (indent : Nat) :
    Nat → List Char → List Char → Bool → Mark → Cursor → Option ScalarRead
  | 0, _, _, _, _, _ => none
  | fuel + 1, text, gap, newLine, stop, cursor =>
      if cursor.atAnyDocumentMarker ∨ cursor.at? '#' then some ⟨text, stop, cursor, newLine⟩
      else
        match plainWord? flow cursor.rest with
        | none => none
        | some [] => some ⟨text, stop, cursor, newLine⟩
        | some word =>
            let text := text ++ gap ++ word
            let cursor := cursor.advance word.length
            let stop := cursor.mark
            match readGap indent (cursor.rest.length + 1) ⟨[], none, []⟩ cursor with
            | none => none
            | some (gap, next) =>
                if next.index = cursor.index then some ⟨text, stop, cursor, false⟩
                else if !flow ∧ next.mark.column < indent then
                  some ⟨text, stop, next, gap.firstBreak.isSome⟩
                else plainFrom? flow indent fuel text gap.fold gap.firstBreak.isSome stop next

/-- Read a plain scalar. -/
def plain? (flow : Bool) (indent : Nat) (cursor : Cursor) : Option ScalarRead :=
  plainFrom? flow indent (cursor.rest.length + 1) [] [] false cursor.mark cursor

/-! ## Quoted scalars -/

/-- Escapes of one letter. -/
def shortEscape? : Char → Option Char
  | '0' => some '\x00'
  | 'a' => some '\x07'
  | 'b' => some '\x08'
  | 't' => some '\t'
  | '\t' => some '\t'
  | 'n' => some '\n'
  | 'v' => some '\x0b'
  | 'f' => some '\x0c'
  | 'r' => some '\r'
  | 'e' => some '\x1b'
  | ' ' => some ' '
  | '"' => some '"'
  | '/' => some '/'
  | '\\' => some '\\'
  | 'N' => some '\x85'
  | '_' => some '\xa0'
  | 'L' => some '\u2028'
  | 'P' => some '\u2029'
  | _ => none

/-- Number of hexadecimal digits after an escape letter. -/
def escapeLength? : Char → Option Nat
  | 'x' => some 2
  | 'u' => some 4
  | 'U' => some 8
  | _ => none

/-- The character of an escape, and how many characters its letter and digits are. -/
def escape? (letter : Char) (chars : List Char) : Option (Char × Nat) :=
  match escapeLength? letter with
  | some length =>
      let digits := chars.take length
      if digits.length < length then none
      else
        match Text.number? 16 digits with
        | some code =>
            if (0xD800 ≤ code ∧ code ≤ 0xDFFF) ∨ 0x10FFFF < code then none
            else some (Char.ofNat code, length + 1)
        | none => none
  | none => (shortEscape? letter).map (·, 1)

/-- Characters of a quoted scalar up to a blank, a line break, the closing quote or
an escaped line break, and how many characters they take; each step takes one. -/
def quotedRun? (single : Bool) : Nat → List Char → Option (List Char × Nat)
  | 0, _ => none
  | _ + 1, [] => some ([], 0)
  | fuel + 1, char :: chars =>
      if isSpaceOrTab char || isBreak char then some ([], 0)
      else if single ∧ char = '\'' then
        match chars with
        | '\'' :: rest =>
            (quotedRun? single fuel rest).map fun (text, count) => ('\'' :: text, count + 2)
        | _ => some ([], 0)
      else if !single ∧ char = '"' then some ([], 0)
      else if !single ∧ char = '\\' then
        match chars with
        | [] => none
        | letter :: rest =>
            if isBreak letter then some ([], 0)
            else
              match escape? letter rest with
              | none => none
              | some (escaped, length) =>
                  (quotedRun? single fuel (chars.drop length)).map
                    fun (text, count) => (escaped :: text, count + length + 1)
      else (quotedRun? single fuel chars).map fun (text, count) => (char :: text, count + 1)

/-- Read a quoted scalar after its opening quote. -/
def quotedFrom? (single : Bool) : Nat → List Char → Cursor → Option ScalarRead
  | 0, _, _ => none
  | fuel + 1, text, cursor =>
      if cursor.atAnyDocumentMarker ∨ cursor.rest.isEmpty then none
      else
        match quotedRun? single (cursor.rest.length + 1) cursor.rest with
        | none => none
        | some (run, count) =>
            let text := text ++ run
            let cursor := cursor.advance count
            let folded := !single && cursor.at? '\\'
            let cursor :=
              if folded then
                match (cursor.advance 1).lineBreak? with
                | some (_, next) => next
                | none => cursor
              else cursor
            if cursor.at? (if single then '\'' else '"') then
              let cursor := cursor.advance 1
              some ⟨text, cursor.mark, cursor, false⟩
            else
              let gap : Gap := ⟨[], if folded then some [] else none, []⟩
              match readGap 0 (cursor.rest.length + 1) gap cursor with
              | none => none
              | some (gap, cursor) => quotedFrom? single fuel (text ++ gap.fold) cursor

/-- Read a quoted scalar. -/
def quoted? (single : Bool) (cursor : Cursor) : Option ScalarRead :=
  quotedFrom? single (cursor.rest.length + 1) [] (cursor.advance 1)

/-! ## Block scalars -/

/-- What happens to the line breaks at the end of a block scalar. -/
inductive Chomping where
  | strip
  | clip
  | keep
  deriving DecidableEq, Repr

/-- The header of a block scalar: chomping and indentation, in either order. -/
def blockHeader? (cursor : Cursor) : Option (Chomping × Nat × Cursor) :=
  let chomping? : Cursor → Option (Chomping × Cursor) := fun cursor =>
    if cursor.at? '+' then some (.keep, cursor.advance 1)
    else if cursor.at? '-' then some (.strip, cursor.advance 1)
    else none
  let indent? : Cursor → Option (Option Nat × Cursor) := fun cursor =>
    match cursor.rest.head? with
    | some digit =>
        if digit = '0' then none
        else if Text.isDigit digit then
          some (some (digit.toNat - '0'.toNat), cursor.advance 1)
        else some (none, cursor)
    | none => some (none, cursor)
  match chomping? cursor with
  | some (chomping, cursor) =>
      (indent? cursor).map fun (indent, cursor) => (chomping, indent.getD 0, cursor)
  | none =>
      match indent? cursor with
      | none => none
      | some (none, cursor) => some (.clip, 0, cursor)
      | some (some indent, cursor) =>
          match chomping? cursor with
          | some (chomping, cursor) => some (chomping, indent, cursor)
          | none => some (.clip, indent, cursor)

/-- Pass the indentation and the empty lines before the next line of content.  With
`indent` zero the indentation is still to be found, and `deepest` keeps the largest
one seen. -/
def blockBreaks? (indent : Nat) :
    Nat → Nat → List Char → Mark → Cursor → Option (Nat × List Char × Mark × Cursor)
  | 0, _, _, _, _ => none
  | fuel + 1, deepest, breaks, stop, cursor =>
      let missing := indent - cursor.mark.column
      let spaces := (cursor.rest.takeWhile (· == ' ')).length
      let cursor := cursor.advance (if indent = 0 then spaces else min spaces missing)
      let deepest := max deepest cursor.mark.column
      if (indent = 0 ∨ cursor.mark.column < indent) ∧ cursor.at? '\t' then none
      else
        match cursor.lineBreak? with
        | none => some (deepest, breaks, stop, cursor)
        | some (lineBreak, next) =>
            blockBreaks? indent fuel deepest (breaks ++ lineBreak) next.mark next

/-- Read the lines of a block scalar.  `pending` is the line break after the last
line, `breaks` are those of the empty lines after it. -/
def blockLines? (literal : Bool) (indent : Nat) :
    Nat → List Char → List Char → List Char → Bool → Mark → Cursor →
      Option (List Char × List Char × List Char × Mark × Cursor)
  | 0, _, _, _, _, _, _ => none
  | fuel + 1, text, pending, breaks, afterBlank, stop, cursor =>
      if cursor.mark.column ≠ indent ∨ cursor.rest.isEmpty then
        some (text, pending, breaks, stop, cursor)
      else
        let blank := cursor.rest.head?.any isSpaceOrTab
        let joint :=
          if !literal ∧ pending = ['\n'] ∧ !afterBlank ∧ !blank then
            if breaks.isEmpty then [' '] else []
          else pending
        let (line, cursor) := cursor.takeWhile (!isBreak ·)
        let text := text ++ joint ++ breaks ++ line
        let (pending, cursor) := cursor.lineBreak?.getD ([], cursor)
        match blockBreaks? indent (cursor.rest.length + 1) 0 [] cursor.mark cursor with
        | none => none
        | some (_, breaks, stop, cursor) =>
            blockLines? literal indent fuel text pending breaks blank stop cursor

/-- Read a block scalar in a block with the given indentation. -/
def block? (literal : Bool) (outer : Int) (cursor : Cursor) : Option ScalarRead :=
  match blockHeader? (cursor.advance 1) with
  | none => none
  | some (chomping, increment, cursor) =>
      let cursor := cursor.skipWhile isSpaceOrTab
      let cursor := if cursor.at? '#' then cursor.skipToBreak else cursor
      if !endsWord cursor.rest.head? then none
      else
        let cursor := (cursor.lineBreak?.map (·.2)).getD cursor
        let given := if increment = 0 then 0 else outer.toNat + increment
        match blockBreaks? given (cursor.rest.length + 1) 0 [] cursor.mark cursor with
        | none => none
        | some (deepest, breaks, stop, cursor) =>
            let indent := if given = 0 then max deepest (max (outer + 1).toNat 1) else given
            match blockLines? literal indent (cursor.rest.length + 1) [] [] breaks false stop
                cursor with
            | none => none
            | some (text, pending, breaks, stop, cursor) =>
                let ending :=
                  match chomping with
                  | .strip => []
                  | .clip => pending
                  | .keep => pending ++ breaks
                some ⟨text ++ ending, stop, cursor, false⟩

end Yaml
end InstanceScripts
