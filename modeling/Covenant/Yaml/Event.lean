import Covenant.Yaml.Lexer
/-!
# Events of a stream

`documents?` reads the tokens of a stream as documents, each the row of events that walks its
tree: a collection is a start, what it holds, and an end.

The reader is a stack machine: a `Goal` says what is expected next, and the goals below it say
how the collections that are open go on. Where a node may be left out, an empty scalar stands for
it.
-/

namespace Covenant.Yaml

/-! ## 1. Events and goals -/

/-- What a node carries besides its content. -/
structure Properties where
  anchor : Option String
  tag : Option String
deriving Repr, DecidableEq, Inhabited

/-- No anchor and no tag. -/
def Properties.none : Properties := ⟨.none, .none⟩

/-- One step of a walk through a document. -/
inductive Event where
  | alias (name : String)
  | scalar (properties : Properties) (style : Style) (text : String)
  | sequenceStart (properties : Properties)
  | sequenceEnd
  | mappingStart (properties : Properties)
  | mappingEnd
deriving Repr, DecidableEq, Inhabited

/-- What is expected next. -/
inductive Goal where
  /-- A document, which needs no `---` if it is the `first` one. -/
  | document (first : Bool)
  /-- The content after `---`, which may be left out. -/
  | documentContent
  | documentEnd
  /-- A node; `block` collections may begin, and dashes that are not indented if `dashes`. -/
  | node (block dashes : Bool)
  | blockEntry
  | dashEntry
  | blockKey
  | blockValue
  | flowItem (first : Bool)
  | flowPairKey
  | flowPairValue
  | flowPairEnd
  | flowKey (first : Bool)
  | flowValue
  | flowNoValue
deriving Repr, DecidableEq, Inhabited

/-- The reader between two events. The events of the current document are reversed, and so are the
documents before it. -/
structure EventReader where
  tokens : List Token
  goals : List Goal
  handles : List (String × String)
  events : List Event
  documents : List (List Event)
deriving Inhabited

namespace EventReader

/-- The handles that need no directive. -/
def defaultHandles : List (String × String) := [("!", "!"), ("!!", "tag:yaml.org,2002:")]

/-- One more event; `goals` are expected next. -/
def emit (reader : EventReader) (event : Event) (goals : List Goal) : EventReader :=
  { reader with events := event :: reader.events, goals }

/-- An empty scalar where a node is left out. -/
def emitEmpty (reader : EventReader) (goals : List Goal) : EventReader :=
  reader.emit (.scalar .none .plain "") goals

/-- Past the next token. -/
def skip (reader : EventReader) : EventReader := { reader with tokens := reader.tokens.drop 1 }

/-- A node is expected, unless one of `ends` comes next, which leave it out. -/
def nodeUnless (reader : EventReader) (ends : List Token) (goal : Goal) (goals : List Goal) :
    EventReader :=
  match reader.tokens with
  | token :: _ =>
    if ends.contains token then reader.emitEmpty goals
    else { reader with goals := goal :: goals }
  | [] => { reader with goals := goal :: goals }

/-! ## 2. Nodes -/

/-- The full tag of a handle and a suffix; an empty handle stands for a tag given in full. -/
def fullTag? (handles : List (String × String)) (handle suffix : String) : Option String :=
  if handle.isEmpty then some suffix else (handles.lookup handle).map (· ++ suffix)

/-- The anchor and the tag before a node, in either order, and the tokens after them. -/
def properties? (reader : EventReader) : Option (Properties × EventReader) :=
  let tagOf (handle suffix : String) := fullTag? reader.handles handle suffix
  match reader.tokens with
  | .anchor name :: .tag handle suffix :: rest =>
    (tagOf handle suffix).map fun tag => (⟨some name, some tag⟩, { reader with tokens := rest })
  | .tag handle suffix :: .anchor name :: rest =>
    (tagOf handle suffix).map fun tag => (⟨some name, some tag⟩, { reader with tokens := rest })
  | .anchor name :: rest => some (⟨some name, none⟩, { reader with tokens := rest })
  | .tag handle suffix :: rest =>
    (tagOf handle suffix).map fun tag => (⟨none, some tag⟩, { reader with tokens := rest })
  | _ => some (.none, reader)

/-- The properties of a scalar that is there: a lone mark as its tag says nothing. -/
def ofScalar (properties : Properties) : Properties :=
  if properties.tag == some "!" then { properties with tag := none } else properties

/-- A node. -/
def node? (reader : EventReader) (block dashes : Bool) (goals : List Goal) :
    Option EventReader :=
  match reader.tokens with
  | .alias name :: _ => some (reader.skip.emit (.alias name) goals)
  | _ => do
    let (properties, here) ← reader.properties?
    match here.tokens with
    | .scalar style text :: _ =>
      some (here.skip.emit (.scalar (ofScalar properties) style text) goals)
    | .flowSequenceStart :: _ =>
      some (here.skip.emit (.sequenceStart properties) (.flowItem true :: goals))
    | .flowMappingStart :: _ =>
      some (here.skip.emit (.mappingStart properties) (.flowKey true :: goals))
    | token :: _ =>
      if dashes && token == .blockEntry then
        some (here.emit (.sequenceStart properties) (.dashEntry :: goals))
      else if block && token == .blockSequenceStart then
        some (here.skip.emit (.sequenceStart properties) (.blockEntry :: goals))
      else if block && token == .blockMappingStart then
        some (here.skip.emit (.mappingStart properties) (.blockKey :: goals))
      else if properties.anchor.isSome || properties.tag.isSome then
        some (here.emit (.scalar properties .plain "") goals)
      else none
    | [] =>
      if properties.anchor.isSome || properties.tag.isSome then
        some (here.emit (.scalar properties .plain "") goals)
      else none

/-! ## 3. Documents -/

/-- Reads the directives before a document: at most one version, which must be 1.1 or 1.2, and no
handle twice. -/
def directives? (versioned : Bool) (handles : List (String × String)) :
    List Token → Option (List (String × String) × List Token)
  | .versionDirective major minor :: rest =>
    if versioned || major != 1 || !(minor == 1 || minor == 2) then none
    else directives? true handles rest
  | .tagDirective handle text :: rest =>
    if (handles.lookup handle).isSome then none
    else directives? versioned (handles ++ [(handle, text)]) rest
  | tokens => some (handles ++ defaultHandles, tokens)

/-- A document, or the end of the stream. -/
def document? (reader : EventReader) (first : Bool) : Option EventReader :=
  let here := if first then reader
    else { reader with tokens := reader.tokens.dropWhile (· == .documentEnd) }
  match here.tokens with
  | [] => some { here with goals := [] }
  | token :: _ =>
    let explicit := match token with
      | .versionDirective .. | .tagDirective .. | .documentStart => true
      | _ => false
    if first && !explicit then
      some { here with
        handles := defaultHandles
        goals := [.node true false, .documentEnd] }
    else do
      let (handles, rest) ← directives? false [] here.tokens
      match rest with
      | .documentStart :: content =>
        return { here with
          handles
          tokens := content
          goals := [.documentContent, .documentEnd] }
      | _ => none

/-- The document is complete; a mark may say so. -/
def closeDocument (reader : EventReader) : EventReader :=
  { reader with
    tokens := match reader.tokens with
      | .documentEnd :: rest => rest
      | tokens => tokens
    goals := [.document false]
    events := []
    documents := reader.events.reverse :: reader.documents }

/-! ## 4. Steps -/

/-- An entry of a block sequence, or its end. -/
def blockEntry? (reader : EventReader) (goals : List Goal) : Option EventReader :=
  match reader.tokens with
  | .blockEntry :: _ =>
    some (reader.skip.nodeUnless [.blockEntry, .blockEnd] (.node true false)
      (.blockEntry :: goals))
  | .blockEnd :: _ => some (reader.skip.emit .sequenceEnd goals)
  | _ => none

/-- An entry of a sequence whose dashes are not indented, or its end. -/
def dashEntry (reader : EventReader) (goals : List Goal) : EventReader :=
  match reader.tokens with
  | .blockEntry :: _ =>
    reader.skip.nodeUnless [.blockEntry, .key, .value, .blockEnd] (.node true false)
      (.dashEntry :: goals)
  | _ => reader.emit .sequenceEnd goals

/-- A key of a block mapping, or its end. -/
def blockKey? (reader : EventReader) (goals : List Goal) : Option EventReader :=
  match reader.tokens with
  | .key :: _ =>
    some (reader.skip.nodeUnless [.key, .value, .blockEnd] (.node true true)
      (.blockValue :: goals))
  | .blockEnd :: _ => some (reader.skip.emit .mappingEnd goals)
  | _ => none

/-- The value of a key of a block mapping. -/
def blockValue (reader : EventReader) (goals : List Goal) : EventReader :=
  match reader.tokens with
  | .value :: _ =>
    reader.skip.nodeUnless [.key, .value, .blockEnd] (.node true true) (.blockKey :: goals)
  | _ => reader.emitEmpty (.blockKey :: goals)

/-- Past the comma that every item of a flow collection but the first needs. -/
def afterComma? (reader : EventReader) (first : Bool) : Option EventReader :=
  if first then some reader
  else match reader.tokens with
    | .flowEntry :: _ => some reader.skip
    | _ => none

/-- An item of a flow sequence, which may be a single pair, or the end of the sequence. -/
def flowItem? (reader : EventReader) (first : Bool) (goals : List Goal) : Option EventReader :=
  match reader.tokens with
  | .flowSequenceEnd :: _ => some (reader.skip.emit .sequenceEnd goals)
  | _ => do
    let here ← reader.afterComma? first
    match here.tokens with
    | .key :: _ =>
      return here.skip.emit (.mappingStart .none) (.flowPairKey :: .flowItem false :: goals)
    | .flowSequenceEnd :: _ => return here.skip.emit .sequenceEnd goals
    | _ => return { here with goals := .node false false :: .flowItem false :: goals }

/-- The key of a single pair. Where the key is left out, what stands there is passed over. -/
def flowPairKey (reader : EventReader) (goals : List Goal) : EventReader :=
  match reader.tokens with
  | .value :: _ | .flowEntry :: _ | .flowSequenceEnd :: _ =>
    reader.skip.emitEmpty (.flowPairValue :: goals)
  | _ => { reader with goals := .node false false :: .flowPairValue :: goals }

/-- The value of a single pair. -/
def flowPairValue (reader : EventReader) (goals : List Goal) : EventReader :=
  match reader.tokens with
  | .value :: _ =>
    reader.skip.nodeUnless [.flowEntry, .flowSequenceEnd] (.node false false)
      (.flowPairEnd :: goals)
  | _ => reader.emitEmpty (.flowPairEnd :: goals)

/-- A key of a flow mapping, or the end of the mapping. -/
def flowKey? (reader : EventReader) (first : Bool) (goals : List Goal) : Option EventReader :=
  match reader.tokens with
  | .flowMappingEnd :: _ => some (reader.skip.emit .mappingEnd goals)
  | _ => do
    let here ← reader.afterComma? first
    match here.tokens with
    | .key :: _ =>
      return here.skip.nodeUnless [.value, .flowEntry, .flowMappingEnd] (.node false false)
        (.flowValue :: goals)
    | .flowMappingEnd :: _ => return here.skip.emit .mappingEnd goals
    | _ => return { here with goals := .node false false :: .flowNoValue :: goals }

/-- The value of a key of a flow mapping. -/
def flowValue (reader : EventReader) (goals : List Goal) : EventReader :=
  match reader.tokens with
  | .value :: _ =>
    reader.skip.nodeUnless [.flowEntry, .flowMappingEnd] (.node false false)
      (.flowKey false :: goals)
  | _ => reader.emitEmpty (.flowKey false :: goals)

/-- One step towards the first goal. -/
def step? (reader : EventReader) (goal : Goal) (goals : List Goal) : Option EventReader :=
  match goal with
  | .document first => reader.document? first
  | .documentContent =>
    match reader.tokens with
    | [] | .versionDirective .. :: _ | .tagDirective .. :: _ | .documentStart :: _
    | .documentEnd :: _ => some (reader.emitEmpty goals)
    | _ => reader.node? true false goals
  | .documentEnd => some reader.closeDocument
  | .node block dashes => reader.node? block dashes goals
  | .blockEntry => reader.blockEntry? goals
  | .dashEntry => some (reader.dashEntry goals)
  | .blockKey => reader.blockKey? goals
  | .blockValue => some (reader.blockValue goals)
  | .flowItem first => reader.flowItem? first goals
  | .flowPairKey => some (reader.flowPairKey goals)
  | .flowPairValue => some (reader.flowPairValue goals)
  | .flowPairEnd => some (reader.emit .mappingEnd goals)
  | .flowKey first => reader.flowKey? first goals
  | .flowValue => some (reader.flowValue goals)
  | .flowNoValue => some (reader.emitEmpty (.flowKey false :: goals))

/-- Reads until nothing is expected, in at most `fuel` steps. -/
def readFrom : Nat → EventReader → Option (List (List Event))
  | 0, _ => none
  | fuel + 1, reader =>
    match reader.goals with
    | [] => some reader.documents.reverse
    | goal :: goals =>
      match reader.step? goal goals with
      | some next => readFrom fuel next
      | none => none

end EventReader

/-- The documents of a stream. Between two tokens there are at most eight steps. -/
def documents? (tokens : List Token) : Option (List (List Event)) :=
  EventReader.readFrom (8 * tokens.length + 16) ⟨tokens, [.document true], [], [], []⟩

end Covenant.Yaml
