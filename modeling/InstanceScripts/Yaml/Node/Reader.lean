import InstanceScripts.Yaml.Node
import InstanceScripts.Yaml.Token.Lexer

/-!
# Putting tokens together to nodes

One reader for each kind of collection, with the empty scalars that the grammar lets
one leave out.  Where a rule is broken the reader leaves a broken node and no tokens,
so that everything before that place can still be read.
-/

namespace InstanceScripts
namespace Yaml

/-- Tokens still to be put together, and the anchors' names so far, each with the
number of the node that bears it now. -/
structure Reading where
  tokens : List Token
  anchors : List (List Char × Nat)

namespace Reading

/-- The kind of the next token. -/
def next? (reading : Reading) : Option Token.Kind :=
  reading.tokens.head?.map (·.kind)

/-- Whether the next token is of one of some kinds. -/
def at? (reading : Reading) (kinds : List Token.Kind) : Bool :=
  reading.next?.any (kinds.contains ·)

/-- Stop here for good. -/
def stopped (reading : Reading) : Reading :=
  { reading with tokens := [] }

/-- Let a name stand for the next node; nodes are numbered by the names known before. -/
def bindAnchor (reading : Reading) (name : List Char) : Nat × Reading :=
  let number := reading.anchors.length
  let known := reading.anchors.any (·.1 == name)
  let anchors :=
    if known then reading.anchors.map fun pair => if pair.1 = name then (name, number) else pair
    else reading.anchors ++ [(name, number)]
  (number, { reading with anchors := anchors })

end Reading

/-! ## Tags -/

/-- What the handles of tags stand for. -/
abbrev TagHandles := List (List Char × Octets)

/-- The handles that need no directive. -/
def TagHandles.standard : TagHandles :=
  [(['!'], Utf8.encode "!"), (['!', '!'], Utf8.encode "tag:yaml.org,2002:")]

/-- The full tag. -/
def TagHandles.resolve? (handles : TagHandles) (handle : List Char) (suffix : Octets) :
    Option Octets :=
  if handle.isEmpty then some suffix else (handles.lookup handle).map (· ++ suffix)

/-! ## Nodes -/

namespace Node

/-- Where a node stands: in a flow collection, in a block, or as a key or value of a
block mapping, which may be a sequence without indentation. -/
inductive Place where
  | flow
  | block
  | entry
  deriving DecidableEq, Repr

/-- A scalar that was left out. -/
def empty (mark : Mark) : Node :=
  scalar mark ⟨none, none⟩ .plain []

/-- Read anchor and tag in either order. -/
def readProperties? (handles : TagHandles) (tokens : List Token) :
    Option (Option (List Char) × Option Octets × List Token) :=
  match tokens with
  | ⟨.anchor name, _, _⟩ :: ⟨.tag handle suffix, _, _⟩ :: rest
  | ⟨.tag handle suffix, _, _⟩ :: ⟨.anchor name, _, _⟩ :: rest =>
      (handles.resolve? handle suffix).map fun tag => (some name, some tag, rest)
  | ⟨.anchor name, _, _⟩ :: rest => some (some name, none, rest)
  | ⟨.tag handle suffix, _, _⟩ :: rest =>
      (handles.resolve? handle suffix).map fun tag => (none, some tag, rest)
  | rest => some (none, none, rest)

/-- Number the anchor of a node that begins here. -/
def bindProperties (reading : Reading) (name : Option (List Char)) (tag : Option Octets) :
    Properties × Reading :=
  match name with
  | some name =>
      let (number, reading) := reading.bindAnchor name
      (⟨some number, tag⟩, reading)
  | none => (⟨none, tag⟩, reading)

/-- Pass the comma before a member of a flow collection other than the first. -/
def passComma? (first : Bool) (reading : Reading) : Option Reading :=
  if first then some reading
  else
    match reading.tokens with
    | ⟨.flowEntry, _, _⟩ :: rest => some { reading with tokens := rest }
    | _ => none

mutual

/-- Read a node; fuel bounds the readers within each other, of which every second
takes a token. -/
def read (handles : TagHandles) (place : Place) : Nat → Reading → Node × Reading
  | 0, reading => (broken, reading.stopped)
  | fuel + 1, reading =>
      match reading.tokens with
      | ⟨.aliasOf name, mark, _⟩ :: rest =>
          match reading.anchors.lookup name with
          | some number => (.aliasOf mark number, { reading with tokens := rest })
          | none => (broken, reading.stopped)
      | [] => (broken, reading)
      | first :: _ =>
          let mark := first.start
          match readProperties? handles reading.tokens with
          | none => (broken, reading.stopped)
          | some (name, tag, tokens) =>
              let (properties, reading) := bindProperties { reading with tokens := tokens } name tag
              match tokens with
              | ⟨.scalar style text, _, _⟩ :: rest =>
                  let tag := properties.tag.filter (· != Utf8.encode "!")
                  (scalar mark { properties with tag := tag } style text,
                    { reading with tokens := rest })
              | ⟨.flowSequenceStart, _, _⟩ :: rest =>
                  let (items, reading) :=
                    readFlowItems handles true fuel { reading with tokens := rest }
                  (sequence mark properties items, reading)
              | ⟨.flowMappingStart, _, _⟩ :: rest =>
                  let (entries, reading) :=
                    readFlowEntries handles true fuel { reading with tokens := rest }
                  (mapping mark properties entries, reading)
              | token :: rest =>
                  if place = .entry ∧ token.kind = .blockEntry then
                    let (items, reading) := readBlockItems handles true fuel reading
                    (sequence mark properties items, reading)
                  else if place ≠ .flow ∧ token.kind = .blockSequenceStart then
                    let (items, reading) :=
                      readBlockItems handles false fuel { reading with tokens := rest }
                    (sequence mark properties items, reading)
                  else if place ≠ .flow ∧ token.kind = .blockMappingStart then
                    let (entries, reading) :=
                      readBlockEntries handles fuel { reading with tokens := rest }
                    (mapping mark properties entries, reading)
                  else if name.isSome ∨ tag.isSome then
                    (scalar mark properties .plain [], reading)
                  else (broken, reading.stopped)
              | [] => (broken, reading.stopped)

/-- Read the items of a block sequence. -/
def readBlockItems (handles : TagHandles) (indentless : Bool) :
    Nat → Reading → List Node × Reading
  | 0, reading => ([broken], reading.stopped)
  | fuel + 1, reading =>
      match reading.tokens with
      | ⟨.blockEntry, _, stop⟩ :: rest =>
          let reading := { reading with tokens := rest }
          let ended :=
            reading.at? [.blockEntry, .blockEnd] || (indentless && reading.at? [.key, .value])
          let (item, reading) :=
            if ended then (empty stop, reading) else read handles .block fuel reading
          let (items, reading) := readBlockItems handles indentless fuel reading
          (item :: items, reading)
      | ⟨kind, _, _⟩ :: rest =>
          if indentless then ([], reading)
          else if kind = .blockEnd then ([], { reading with tokens := rest })
          else ([broken], reading.stopped)
      | [] => ([broken], reading)

/-- Read the entries of a block mapping. -/
def readBlockEntries (handles : TagHandles) :
    Nat → Reading → List (Node × Node) × Reading
  | 0, reading => ([(broken, broken)], reading.stopped)
  | fuel + 1, reading =>
      match reading.tokens with
      | ⟨.key, _, stop⟩ :: rest =>
          let reading := { reading with tokens := rest }
          let (key, reading) :=
            if reading.at? [.key, .value, .blockEnd] then (empty stop, reading)
            else read handles .entry fuel reading
          let (value, reading) :=
            match reading.tokens with
            | ⟨.value, _, stop⟩ :: rest =>
                let reading := { reading with tokens := rest }
                if reading.at? [.key, .value, .blockEnd] then (empty stop, reading)
                else read handles .entry fuel reading
            | token :: _ => (empty token.start, reading)
            | [] => (broken, reading)
          let (entries, reading) := readBlockEntries handles fuel reading
          ((key, value) :: entries, reading)
      | ⟨.blockEnd, _, _⟩ :: rest => ([], { reading with tokens := rest })
      | _ => ([(broken, broken)], reading.stopped)

/-- Read the items of a flow sequence.  A key among them begins a mapping with one
entry; there, the token after an empty key is passed over. -/
def readFlowItems (handles : TagHandles) (first : Bool) :
    Nat → Reading → List Node × Reading
  | 0, reading => ([broken], reading.stopped)
  | fuel + 1, reading =>
      match reading.tokens with
      | ⟨.flowSequenceEnd, _, _⟩ :: rest => ([], { reading with tokens := rest })
      | _ =>
          match passComma? first reading with
          | none => ([broken], reading.stopped)
          | some reading =>
              match reading.tokens with
              | ⟨.flowSequenceEnd, _, _⟩ :: rest => ([], { reading with tokens := rest })
              | ⟨.key, mark, _⟩ :: rest =>
                  let reading := { reading with tokens := rest }
                  let (key, reading) :=
                    match reading.tokens with
                    | token :: after =>
                        if reading.at? [.value, .flowEntry, .flowSequenceEnd] then
                          (empty token.stop, { reading with tokens := after })
                        else read handles .flow fuel reading
                    | [] => (broken, reading)
                  let (value, reading) :=
                    readFlowValue handles .flowSequenceEnd fuel reading
                  let (items, reading) := readFlowItems handles false fuel reading
                  (mapping mark ⟨none, none⟩ [(key, value)] :: items, reading)
              | _ =>
                  let (item, reading) := read handles .flow fuel reading
                  let (items, reading) := readFlowItems handles false fuel reading
                  (item :: items, reading)

/-- Read the entries of a flow mapping. -/
def readFlowEntries (handles : TagHandles) (first : Bool) :
    Nat → Reading → List (Node × Node) × Reading
  | 0, reading => ([(broken, broken)], reading.stopped)
  | fuel + 1, reading =>
      match reading.tokens with
      | ⟨.flowMappingEnd, _, _⟩ :: rest => ([], { reading with tokens := rest })
      | _ =>
          match passComma? first reading with
          | none => ([(broken, broken)], reading.stopped)
          | some reading =>
              match reading.tokens with
              | ⟨.flowMappingEnd, _, _⟩ :: rest => ([], { reading with tokens := rest })
              | ⟨.key, _, _⟩ :: rest =>
                  let reading := { reading with tokens := rest }
                  let (key, reading) :=
                    match reading.tokens with
                    | token :: _ =>
                        if reading.at? [.value, .flowEntry, .flowMappingEnd] then
                          (empty token.start, reading)
                        else read handles .flow fuel reading
                    | [] => (broken, reading)
                  let (value, reading) := readFlowValue handles .flowMappingEnd fuel reading
                  let (entries, reading) := readFlowEntries handles false fuel reading
                  ((key, value) :: entries, reading)
              | _ =>
                  let (key, reading) := read handles .flow fuel reading
                  let value :=
                    match reading.tokens with
                    | token :: _ => empty token.start
                    | [] => broken
                  let (entries, reading) := readFlowEntries handles false fuel reading
                  ((key, value) :: entries, reading)

/-- Read the value after a key in a flow collection with the given closing token. -/
def readFlowValue (handles : TagHandles) (closing : Token.Kind) :
    Nat → Reading → Node × Reading
  | 0, reading => (broken, reading.stopped)
  | fuel + 1, reading =>
      match reading.tokens with
      | ⟨.value, _, _⟩ :: token :: rest =>
          let reading := { reading with tokens := token :: rest }
          if reading.at? [.flowEntry, closing] then (empty token.start, reading)
          else read handles .flow fuel reading
      | [⟨.value, _, _⟩] => (broken, reading.stopped)
      | token :: _ => (empty token.start, reading)
      | [] => (broken, reading)

end

end Node

/-! ## Documents -/

namespace Document

/-- A directive. -/
def isDirective : Token.Kind → Bool
  | .versionDirective _ _ => true
  | .tagDirective _ _ => true
  | _ => false

/-- Read the directives before a document, with the versions 1.1 and 1.2 allowed and
nothing said twice. -/
def readDirectives? (versioned : Bool) (handles : TagHandles) :
    List Token → Option (TagHandles × List Token)
  | ⟨.versionDirective major minor, _, _⟩ :: rest =>
      if versioned ∨ major ≠ 1 ∨ (minor ≠ 1 ∧ minor ≠ 2) then none
      else readDirectives? true handles rest
  | ⟨.tagDirective handle expansion, _, _⟩ :: rest =>
      if (handles.lookup handle).isSome then none
      else readDirectives? versioned (handles ++ [(handle, expansion)]) rest
  | tokens => some (handles ++ TagHandles.standard, tokens)

/-- Read a document's root and see what follows it. -/
def readRoot (handles : TagHandles) (tokens : List Token) : Document :=
  let (root, reading) := Node.read handles .block (4 * tokens.length + 8) ⟨tokens, []⟩
  let rest :=
    match reading.tokens with
    | ⟨.documentEnd, _, _⟩ :: rest => rest
    | rest => rest
  let following := rest.dropWhile (·.kind == .documentEnd)
  ⟨some root, !reading.tokens.isEmpty, following.head?.any (·.kind == .streamEnd)⟩

/-- The first document of a text. -/
def ofTokens (tokens : List Token) : Document :=
  let unreadable : Document := ⟨some .broken, false, true⟩
  match tokens with
  | [] => unreadable
  | ⟨.streamEnd, _, _⟩ :: _ => ⟨none, true, true⟩
  | first :: _ =>
      if isDirective first.kind ∨ first.kind = .documentStart then
        match readDirectives? false [] tokens with
        | some (handles, ⟨.documentStart, _, _⟩ :: rest) =>
            match rest with
            | [] => unreadable
            | next :: _ =>
                if isDirective next.kind ∨
                    [Token.Kind.documentStart, .documentEnd, .streamEnd].contains next.kind then
                  let following := rest.dropWhile (·.kind == .documentEnd)
                  ⟨some (Node.empty next.start), true,
                    following.head?.any (·.kind == .streamEnd)⟩
                else readRoot handles rest
        | _ => unreadable
      else readRoot TagHandles.standard tokens

/-- The first document of a text. -/
def ofText (text : String) : Document :=
  ofTokens (tokens text)

end Document

end Yaml
end InstanceScripts
