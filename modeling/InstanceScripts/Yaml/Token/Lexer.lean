import InstanceScripts.Text.Utf8
import InstanceScripts.Yaml.Token.Scalar

/-!
# Cutting a YAML text into tokens

Blocks are opened and closed by indentation, so the lexer keeps the columns of the
open blocks.  Whether a token is a key shows only at the colon behind it: the lexer
remembers one candidate per collection and puts the key's tokens in front of it when
the colon comes.
-/

namespace InstanceScripts
namespace Yaml

/-- A token that is a key if a colon follows on the same line.  `number` counts the
tokens before it; a required candidate has to turn out to be a key. -/
structure KeyCandidate where
  required : Bool
  number : Nat
  mark : Mark
  index : Nat
  deriving Repr

/-- Keys fit on one line and in 1024 characters. -/
def KeyCandidate.isStale (candidate : KeyCandidate) (cursor : Cursor) : Bool :=
  candidate.mark.line < cursor.mark.line || candidate.index + 1024 < cursor.index

/-- A text on its way to tokens: `indent` is the column of the innermost block and
`indents` are those around it; `key` is the candidate of the innermost collection and
`outerKeys` are those of the flow collections around it; tokens stand in reverse. -/
structure Lexer where
  cursor : Cursor
  indent : Int
  indents : List Int
  keyAllowed : Bool
  key : Option KeyCandidate
  outerKeys : List (Option KeyCandidate)
  tokens : List Token

namespace Lexer

def start (text : List Char) : Lexer :=
  ⟨⟨text, 0, ⟨0, 0⟩⟩, -1, [], true, none, [], []⟩

/-- Whether a flow collection is open. -/
def inFlow (lexer : Lexer) : Bool :=
  !lexer.outerKeys.isEmpty

def column (lexer : Lexer) : Int :=
  lexer.cursor.mark.column

/-! ## Key candidates -/

/-- Give up the candidate of the innermost collection. -/
def dropKey? (lexer : Lexer) : Option Lexer :=
  if lexer.key.any (·.required) then none else some { lexer with key := none }

/-- Make the next token a candidate, if a key may stand here. -/
def offerKey? (lexer : Lexer) : Option Lexer :=
  if lexer.keyAllowed then
    let required := !lexer.inFlow && lexer.indent == lexer.column
    let candidate : KeyCandidate :=
      ⟨required, lexer.tokens.length, lexer.cursor.mark, lexer.cursor.index⟩
    lexer.dropKey?.map ({ · with key := some candidate })
  else some lexer

/-- Give up all candidates that no colon can reach any more. -/
def dropStaleKeys? (lexer : Lexer) : Option Lexer :=
  let stale (key : Option KeyCandidate) := key.any (·.isStale lexer.cursor)
  let failing (key : Option KeyCandidate) := stale key && key.any (·.required)
  let fresh (key : Option KeyCandidate) := if stale key then none else key
  if failing lexer.key ∨ lexer.outerKeys.any failing then none
  else some { lexer with key := fresh lexer.key, outerKeys := lexer.outerKeys.map fresh }

/-! ## Blocks -/

/-- Add a token with the given end. -/
def push (lexer : Lexer) (kind : Token.Kind) (stop : Cursor) : Lexer :=
  { lexer with
    cursor := stop
    tokens := ⟨kind, lexer.cursor.mark, stop.mark⟩ :: lexer.tokens }

/-- Add a token of so many characters. -/
def pushChars (lexer : Lexer) (kind : Token.Kind) (count : Nat) : Lexer :=
  lexer.push kind (lexer.cursor.advance count)

/-- Put a token without extent behind the first `number` tokens. -/
def insert (lexer : Lexer) (number : Nat) (kind : Token.Kind) (mark : Mark) : Lexer :=
  { lexer with
    tokens := lexer.tokens.insertIdx (lexer.tokens.length - number) ⟨kind, mark, mark⟩ }

/-- Open a block at a column that lies further to the right than the innermost one. -/
def openBlock (lexer : Lexer) (number : Nat) (kind : Token.Kind) (mark : Mark) : Lexer :=
  if !lexer.inFlow ∧ lexer.indent < mark.column then
    { lexer.insert number kind mark with
      indent := mark.column
      indents := lexer.indent :: lexer.indents }
  else lexer

/-- Close the blocks that lie right of a column. -/
def closeBlocks (lexer : Lexer) (column : Int) : Lexer :=
  if lexer.inFlow then lexer
  else
    let closed := (lexer.indent :: lexer.indents).takeWhile (column < ·)
    let remaining := (lexer.indent :: lexer.indents).dropWhile (column < ·)
    let ending : Token := ⟨.blockEnd, lexer.cursor.mark, lexer.cursor.mark⟩
    { lexer with
      indent := remaining.head?.getD (-1)
      indents := remaining.tail
      tokens := closed.map (fun _ => ending) ++ lexer.tokens }

/-! ## Blanks and comments -/

/-- Pass blanks, comments and line breaks; a new line in a block may begin with a
key, and before such a line tabs are no blanks.  A byte order mark may stand at the
front of a line and takes up its first column. -/
def skipGap : Nat → Lexer → Lexer
  | 0, lexer => lexer
  | fuel + 1, lexer =>
      let tabs := lexer.inFlow || !lexer.keyAllowed
      let cursor :=
        if lexer.cursor.mark.column = 0 ∧ lexer.cursor.at? '\uFEFF' then
          lexer.cursor.advance 1
        else lexer.cursor
      let cursor := cursor.skipWhile fun char => char == ' ' || (tabs && char == '\t')
      let cursor := if cursor.at? '#' then cursor.skipToBreak else cursor
      match cursor.lineBreak? with
      | some (_, next) =>
          skipGap fuel
            { lexer with cursor := next, keyAllowed := lexer.keyAllowed || !lexer.inFlow }
      | none => { lexer with cursor := cursor }

/-! ## Directives -/

/-- Characters of tags; those of `URI`s that structure flow collections only where
they cannot be mistaken. -/
def isTagChar (verbatim : Bool) (char : Char) : Bool :=
  isWordChar char || ";/?:@&=+$.%!~*'()".toList.contains char ||
    (verbatim && [',', '[', ']'].contains char)

/-- Octets that a first octet of a character announces in all. -/
def octetCount? (octet : Nat) : Option Nat :=
  if octet < 0x80 then some 1
  else if 0xC0 ≤ octet ∧ octet < 0xE0 then some 2
  else if 0xE0 ≤ octet ∧ octet < 0xF0 then some 3
  else if 0xF0 ≤ octet ∧ octet < 0xF8 then some 4
  else none

/-- Octets written as `%XX`, exactly so many, and the text behind them. -/
def tagOctets? : Nat → List Char → Option (Octets × List Char)
  | 0, chars => some ([], chars)
  | count + 1, '%' :: high :: low :: chars =>
      match Text.number? 16 [high, low], tagOctets? count chars with
      | some octet, some (octets, rest) => some (UInt8.ofNat octet :: octets, rest)
      | _, _ => none
  | _ + 1, _ => none

/-- The octets of a tag in which the escapes are replaced by the octets that they
spell: as many at once as the first of them announces. -/
def decodeTag? : Nat → List Char → Option Octets
  | 0, _ => none
  | _ + 1, [] => some []
  | fuel + 1, '%' :: chars =>
      match tagOctets? 1 ('%' :: chars) with
      | none => none
      | some (octets, _) =>
          match octets.head?.bind (octetCount? ·.toNat) with
          | none => none
          | some count =>
              match tagOctets? count ('%' :: chars) with
              | none => none
              | some (octets, rest) =>
                  if octets.tail.all (fun octet => octet.toNat / 64 == 2) then
                    (decodeTag? fuel rest).map (octets ++ ·)
                  else none
  | fuel + 1, char :: chars => (decodeTag? fuel chars).map (UInt8.ofNat char.toNat :: ·)

/-- Read characters of a tag, one at least where they are `required`.  What comes after
an octet zero does not count. -/
def tagText? (verbatim required : Bool) (cursor : Cursor) : Option (Octets × Cursor) :=
  let (text, cursor) := cursor.takeWhile (isTagChar verbatim)
  if required && text.isEmpty then none
  else (decodeTag? (text.length + 1) text).map fun octets => (octets.takeWhile (· ≠ 0), cursor)

/-- Read the handle of a tag: `!`, `!!` or `!word!`.  A single `!` with a word behind
it is a handle only to begin with. -/
def tagHandle? (cursor : Cursor) : Option (List Char × Cursor) :=
  if cursor.at? '!' then
    let (word, next) := (cursor.advance 1).takeWhile isWordChar
    if next.at? '!' then some ('!' :: word ++ ['!'], next.advance 1)
    else some ('!' :: word, next)
  else none

/-- Read the number in a version; nine digits at most. -/
def versionNumber? (cursor : Cursor) : Option (Nat × Cursor) :=
  let (digits, cursor) := cursor.takeWhile Text.isDigit
  if 9 < digits.length then none else (Text.number? 10 digits).map (·, cursor)

/-- Read what a directive says, after its name. -/
def directiveContent? (name : String) (cursor : Cursor) : Option (Token.Kind × Cursor) :=
  let cursor := cursor.skipWhile isSpaceOrTab
  if name = "YAML" then
    match versionNumber? cursor with
    | none => none
    | some (major, cursor) =>
        if cursor.at? '.' then
          (versionNumber? (cursor.advance 1)).map
            fun (minor, cursor) => (.versionDirective major minor, cursor)
        else none
  else if name = "TAG" then
    match tagHandle? cursor with
    | none => none
    | some (handle, cursor) =>
        let closed := handle == ['!'] || handle.getLast? == some '!'
        if !closed ∨ !cursor.rest.head?.any isSpaceOrTab then none
        else
          match tagText? true true (cursor.skipWhile isSpaceOrTab) with
          | none => none
          | some (expansion, cursor) =>
              if endsWord cursor.rest.head? then some (.tagDirective handle expansion, cursor)
              else none
  else none

/-- Read a directive up to the end of its line. -/
def directive? (lexer : Lexer) : Option Lexer :=
  match (lexer.closeBlocks (-1)).dropKey? with
  | none => none
  | some lexer =>
      let (name, cursor) := (lexer.cursor.advance 1).takeWhile isWordChar
      if name.isEmpty ∨ !endsWord cursor.rest.head? then none
      else
        match directiveContent? (String.ofList name) cursor with
        | none => none
        | some (kind, stop) =>
            let cursor := stop.skipWhile isSpaceOrTab
            let cursor := if cursor.at? '#' then cursor.skipToBreak else cursor
            if cursor.rest.head?.all isBreak then
              some
                { lexer.push kind stop with
                  cursor := (cursor.lineBreak?.map (·.2)).getD cursor
                  keyAllowed := false }
            else none

/-! ## Nodes' properties -/

/-- Read the name of an anchor or an alias. -/
def name? (kind : List Char → Token.Kind) (lexer : Lexer) : Option Lexer :=
  match lexer.offerKey? with
  | none => none
  | some lexer =>
      let (name, cursor) := (lexer.cursor.advance 1).takeWhile isWordChar
      let next := cursor.rest.head?
      let followers := ['?', ':', ',', ']', '\x7d', '%', '@', '\x60']
      let ended := endsWord next || next.any followers.contains
      if name.isEmpty ∨ !ended then none
      else some { lexer.push (kind name) cursor with keyAllowed := false }

/-- Read the handle and the rest of a tag. -/
def tagParts? (cursor : Cursor) : Option (List Char × Octets × Cursor) :=
  if (cursor.advance 1).at? '<' then
    match tagText? true true (cursor.advance 2) with
    | none => none
    | some (text, cursor) =>
        if cursor.at? '>' then some ([], text, cursor.advance 1) else none
  else
    match tagHandle? cursor with
    | none => none
    | some (handle, next) =>
        if 1 < handle.length ∧ handle.getLast? = some '!' then
          (tagText? false true next).map fun (suffix, cursor) => (handle, suffix, cursor)
        else
          match tagText? false false next with
          | none => none
          | some (more, cursor) =>
              let suffix := Utf8.encodeChars (handle.drop 1) ++ more
              if suffix.isEmpty then some ([], Utf8.encode "!", cursor)
              else some (['!'], suffix, cursor)

/-- Read a tag. -/
def tag? (lexer : Lexer) : Option Lexer :=
  match lexer.offerKey? with
  | none => none
  | some lexer =>
      match tagParts? lexer.cursor with
      | none => none
      | some (handle, suffix, cursor) =>
          if endsWord cursor.rest.head? ∨ (lexer.inFlow ∧ cursor.at? ',') then
            some { lexer.push (.tag handle suffix) cursor with keyAllowed := false }
          else none

/-! ## Structure -/

/-- Read a document marker. -/
def documentMarker? (kind : Token.Kind) (lexer : Lexer) : Option Lexer :=
  (lexer.closeBlocks (-1)).dropKey?.map
    fun lexer => { lexer.pushChars kind 3 with keyAllowed := false }

/-- Open a flow collection. -/
def openFlow? (kind : Token.Kind) (lexer : Lexer) : Option Lexer :=
  lexer.offerKey?.map fun lexer =>
    { lexer.pushChars kind 1 with
      key := none
      outerKeys := lexer.key :: lexer.outerKeys
      keyAllowed := true }

/-- Close a flow collection. -/
def closeFlow? (kind : Token.Kind) (lexer : Lexer) : Option Lexer :=
  lexer.dropKey?.map fun lexer =>
    { lexer.pushChars kind 1 with
      key := lexer.outerKeys.head?.getD lexer.key
      outerKeys := lexer.outerKeys.tail
      keyAllowed := false }

/-- Read the comma of a flow collection. -/
def flowEntry? (lexer : Lexer) : Option Lexer :=
  lexer.dropKey?.map fun lexer => { lexer.pushChars .flowEntry 1 with keyAllowed := true }

/-- Read an indicator that opens a block where none is open at its column. -/
def blockIndicator? (kind block : Token.Kind) (lexer : Lexer) : Option Lexer :=
  if !lexer.inFlow ∧ !lexer.keyAllowed then none
  else
    (lexer.openBlock lexer.tokens.length block lexer.cursor.mark).dropKey?.map
      fun lexer => lexer.pushChars kind 1

/-- Read the dash of a block sequence. -/
def blockEntry? (lexer : Lexer) : Option Lexer :=
  (lexer.blockIndicator? .blockEntry .blockSequenceStart).map ({ · with keyAllowed := true })

/-- Read the question mark of an explicit key. -/
def explicitKey? (lexer : Lexer) : Option Lexer :=
  (lexer.blockIndicator? .key .blockMappingStart).map
    ({ · with keyAllowed := !lexer.inFlow })

/-- Read a colon, and turn the candidate before it into a key. -/
def value? (lexer : Lexer) : Option Lexer :=
  match lexer.key with
  | some candidate =>
      let keyed := lexer.insert candidate.number .key candidate.mark
      let opened := keyed.openBlock candidate.number .blockMappingStart candidate.mark
      some { opened.pushChars .value 1 with key := none, keyAllowed := false }
  | none =>
      if !lexer.inFlow ∧ !lexer.keyAllowed then none
      else
        let opened := lexer.openBlock lexer.tokens.length .blockMappingStart lexer.cursor.mark
        some { opened.pushChars .value 1 with keyAllowed := !lexer.inFlow }

/-! ## Scalars -/

/-- Add a scalar that has been read. -/
def pushScalar (style : Style) (lexer : Lexer) (scalar : ScalarRead) : Lexer :=
  { lexer with
    cursor := scalar.cursor
    tokens := ⟨.scalar style scalar.text, lexer.cursor.mark, scalar.stop⟩ :: lexer.tokens }

/-- Read a block scalar. -/
def blockScalar? (literal : Bool) (lexer : Lexer) : Option Lexer :=
  match lexer.dropKey? with
  | none => none
  | some lexer =>
      (block? literal lexer.indent lexer.cursor).map fun scalar =>
        { lexer.pushScalar (if literal then .literal else .folded) scalar with
          keyAllowed := true }

/-- Read a quoted scalar. -/
def quotedScalar? (single : Bool) (lexer : Lexer) : Option Lexer :=
  match lexer.offerKey? with
  | none => none
  | some lexer =>
      (quoted? single lexer.cursor).map fun scalar =>
        { lexer.pushScalar (if single then .singleQuoted else .doubleQuoted) scalar with
          keyAllowed := false }

/-- Read a plain scalar. -/
def plainScalar? (lexer : Lexer) : Option Lexer :=
  match lexer.offerKey? with
  | none => none
  | some lexer =>
      (plain? lexer.inFlow (lexer.indent + 1).toNat lexer.cursor).map fun scalar =>
        { lexer.pushScalar .plain scalar with keyAllowed := scalar.newLine }

/-- Whether a plain scalar may begin with a character, given the one after it. -/
def startsPlain (flow : Bool) (char : Char) (next : Option Char) : Bool :=
  !(isSpaceOrTab char || isBreak char ||
      "-?:,[]\x7b\x7d#&*!|>'\"%@\x60".toList.contains char) ||
    (char == '-' && !next.any isSpaceOrTab) ||
    (!flow && (char == '?' || char == ':') && !endsWord next)

/-! ## The whole text -/

/-- Read the token that begins with a character. -/
def token? (lexer : Lexer) (char : Char) : Option Lexer :=
  let next := lexer.cursor.peek? 1
  let indicates := lexer.inFlow || endsWord next
  if lexer.cursor.mark.column = 0 ∧ char = '%' then lexer.directive?
  else if lexer.cursor.atDocumentMarker '-' then lexer.documentMarker? .documentStart
  else if lexer.cursor.atDocumentMarker '.' then lexer.documentMarker? .documentEnd
  else if char = '[' then lexer.openFlow? .flowSequenceStart
  else if char = '\x7b' then lexer.openFlow? .flowMappingStart
  else if char = ']' then lexer.closeFlow? .flowSequenceEnd
  else if char = '\x7d' then lexer.closeFlow? .flowMappingEnd
  else if char = ',' then lexer.flowEntry?
  else if char = '-' ∧ endsWord next then lexer.blockEntry?
  else if char = '?' ∧ indicates then lexer.explicitKey?
  else if char = ':' ∧ indicates then lexer.value?
  else if char = '*' then lexer.name? .aliasOf
  else if char = '&' then lexer.name? .anchor
  else if char = '!' then lexer.tag?
  else if char = '|' ∧ !lexer.inFlow then lexer.blockScalar? true
  else if char = '>' ∧ !lexer.inFlow then lexer.blockScalar? false
  else if char = '\'' then lexer.quotedScalar? true
  else if char = '"' then lexer.quotedScalar? false
  else if startsPlain lexer.inFlow char next then lexer.plainScalar?
  else none

/-- Close everything at the end of the text. -/
def finish? (lexer : Lexer) : Option Lexer :=
  let mark := lexer.cursor.mark
  let mark := if mark.column = 0 then mark else ⟨mark.line + 1, 0⟩
  let lexer := { lexer with cursor := { lexer.cursor with mark := mark } }
  (lexer.closeBlocks (-1)).dropKey?.map fun lexer => lexer.pushChars .streamEnd 0

/-- Read the next token, which is the end of the stream if nothing is left. -/
def step? (lexer : Lexer) : Option Lexer :=
  match (skipGap (lexer.cursor.rest.length + 1) lexer).dropStaleKeys? with
  | none => none
  | some lexer =>
      let lexer := lexer.closeBlocks lexer.column
      match lexer.cursor.rest.head? with
      | none => lexer.finish?
      | some char => lexer.token? char

/-- The tokens that nothing to come can change: those before the first candidate. -/
def settled (lexer : Lexer) : List Token :=
  let open? (key : Option KeyCandidate) : Option Nat :=
    (key.filter fun candidate => candidate.required || !candidate.isStale lexer.cursor).map
      (·.number)
  let numbers := (lexer.key :: lexer.outerKeys).filterMap open?
  lexer.tokens.reverse.take (numbers.foldl min lexer.tokens.length)

end Lexer

/-- The tokens of a text.  They lack the end of the stream if the text breaks a
rule. -/
def Lexer.run : Nat → Lexer → List Token
  | 0, lexer => lexer.settled
  | fuel + 1, lexer =>
      match lexer.step? with
      | none => lexer.settled
      | some next =>
          match next.tokens with
          | ⟨.streamEnd, _, _⟩ :: _ => next.tokens.reverse
          | _ => run fuel next

/-- The tokens of a text up to the first place where it breaks a rule.  Each token
but the last takes a character. -/
def tokens (text : String) : List Token :=
  let chars := text.toList
  let allowed := chars.takeWhile fun char => isAllowed char
  if allowed.length = chars.length then Lexer.run (chars.length + 1) (Lexer.start chars)
  else []

end Yaml
end InstanceScripts
