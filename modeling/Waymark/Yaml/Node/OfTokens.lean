import Waymark.Yaml.Node
import Waymark.Yaml.Token.Lexer

/-!
# The tree of some tokens

The tokens are taken one after the other. Each open collection keeps what it has so far and what it
waits for; a token goes to the innermost one, which may take it, open another collection with it, or
close. A text holds at most one document.
-/

namespace Waymark.Yaml

/-- A collection that is being read, with what it has so far and what it waits for. -/
inductive Partial
  /-- The whole document, before its node. The node may be absent after an explicit start. -/
  | document (explicit : Bool)
  /-- The whole document, after its node, and whether its end was marked. -/
  | ended (root : Node) (marked : Bool)
  /-- A block sequence, before the dash of an item. It is `inset` if it is as far to the left as the
  mapping around it: then the end of the mapping, or its next key, ends it. -/
  | dash (inset : Bool) (props : Properties) (items : List Node)
  /-- A block sequence, after the dash of an item. -/
  | item (inset : Bool) (props : Properties) (items : List Node)
  /-- A block mapping, before the sign of a key. -/
  | keySign (props : Properties) (entries : List (Node × Node))
  /-- A block mapping, after the sign of a key. -/
  | key (props : Properties) (entries : List (Node × Node))
  /-- A block mapping, before the sign of a value. -/
  | valueSign (props : Properties) (entries : List (Node × Node)) (k : Node)
  /-- A block mapping, after the sign of a value. -/
  | value (props : Properties) (entries : List (Node × Node)) (k : Node)
  /-- A flow sequence, where an item may come. -/
  | flowItem (props : Properties) (items : List Node)
  /-- A flow sequence, after an item. -/
  | flowComma (props : Properties) (items : List Node)
  /-- A flow sequence, after the sign of a key: the item is a mapping with one entry. -/
  | pairKey (props : Properties) (items : List Node)
  /-- A flow sequence, after a key. -/
  | pairValueSign (props : Properties) (items : List Node) (k : Node)
  /-- A flow sequence, after a key and the sign of a value. -/
  | pairValue (props : Properties) (items : List Node) (k : Node)
  /-- A flow mapping, where an entry may come. -/
  | flowEntry (props : Properties) (entries : List (Node × Node))
  /-- A flow mapping, after an entry. -/
  | flowEntryComma (props : Properties) (entries : List (Node × Node))
  /-- A flow mapping, after the sign of a key. -/
  | flowKey (props : Properties) (entries : List (Node × Node))
  /-- A flow mapping, after a key. -/
  | flowValueSign (props : Properties) (entries : List (Node × Node)) (k : Node)
  /-- A flow mapping, after the sign of a value. -/
  | flowValue (props : Properties) (entries : List (Node × Node)) (k : Node)

namespace Partial

/-- The mapping with one entry that a pair in a flow sequence is. -/
def pair (k v : Node) : Node := .mapping {} [(k, v)]

/-- The collection with the node that it waited for. -/
def put (n : Node) : Partial → Partial
  | document _ => ended n false
  | item inset props items => dash inset props (items ++ [n])
  | key props entries => valueSign props entries n
  | value props entries k => keySign props (entries ++ [(k, n)])
  | flowItem props items => flowComma props (items ++ [n])
  | pairKey props items => pairValueSign props items n
  | pairValue props items k => flowComma props (items ++ [pair k n])
  | flowEntry props entries => flowEntryComma props (entries ++ [(n, .absent)])
  | flowKey props entries => flowValueSign props entries n
  | flowValue props entries k => flowEntryComma props (entries ++ [(k, n)])
  | p => p

/-- What a token does to the innermost open collection. -/
inductive Effect
  /-- The collection takes the token. -/
  | goOn (p : Partial)
  /-- The collection is closed by the token. -/
  | close (n : Node)
  /-- The collection was at its end before the token. -/
  | leave (n : Node)
  /-- The token is an error. -/
  | refuse

/-- What a token does before an item, a key or the end of a collection, where no node is waited for. -/
def betweenNodes (t : Token) : Partial → Effect
  | ended root _ => if t = .documentEnd then .goOn (.ended root true) else .refuse
  | dash inset props items =>
    if t = .blockEntry then .goOn (.item inset props items)
    else if inset then .leave (.sequence props items)
    else if t = .blockEnd then .close (.sequence props items)
    else .refuse
  | keySign props entries =>
    if t = .key then .goOn (.key props entries)
    else if t = .blockEnd then .close (.mapping props entries)
    else .refuse
  | flowComma props items =>
    if t = .flowEntry then .goOn (.flowItem props items)
    else if t = .flowSequenceEnd then .close (.sequence props items)
    else .refuse
  | flowEntryComma props entries =>
    if t = .flowEntry then .goOn (.flowEntry props entries)
    else if t = .flowMappingEnd then .close (.mapping props entries)
    else .refuse
  | _ => .refuse

/-- What a token does where a value may begin. If the value is absent, the token comes after it. -/
def beforeValue (t : Token) : Partial → Effect
  | valueSign props entries k =>
    if t = .value then .goOn (.value props entries k)
    else (put .absent (.value props entries k)).betweenNodes t
  | pairValueSign props items k =>
    if t = .value then .goOn (.pairValue props items k)
    else (put .absent (.pairValue props items k)).betweenNodes t
  | flowValueSign props entries k =>
    if t = .value then .goOn (.flowValue props entries k)
    else (put .absent (.flowValue props entries k)).betweenNodes t
  | p => p.betweenNodes t

/-- Whether the node that is waited for is absent if the token comes next. -/
def isAbsentAt (t : Token) : Partial → Bool
  | document explicit =>
    explicit && match t with
      | .directive _ | .documentStart | .documentEnd => true
      | _ => false
  | item inset _ _ => t = .blockEntry || t = .blockEnd || inset && (t = .key || t = .value)
  | key _ _ | value _ _ _ => t = .key || t = .value || t = .blockEnd
  | pairKey _ _ => t = .value || t = .flowEntry || t = .flowSequenceEnd
  | pairValue _ _ _ => t = .flowEntry || t = .flowSequenceEnd
  | flowKey _ _ => t = .value || t = .flowEntry || t = .flowMappingEnd
  | flowValue _ _ _ => t = .flowEntry || t = .flowMappingEnd
  | _ => false

/-- What a token does that is no part of a node. An absent key of a pair takes the token with it. -/
def step (t : Token) (p : Partial) : Effect :=
  match p with
  | flowItem props items =>
    if t = .flowSequenceEnd then .close (.sequence props items)
    else if t = .key then .goOn (.pairKey props items)
    else .refuse
  | flowEntry props entries =>
    if t = .flowMappingEnd then .close (.mapping props entries)
    else if t = .key then .goOn (.flowKey props entries)
    else .refuse
  | pairKey props items =>
    if p.isAbsentAt t then .goOn (.pairValueSign props items .absent) else .refuse
  | p => if p.isAbsentAt t then (p.put .absent).beforeValue t else p.beforeValue t

/-- Whether a node is waited for. -/
def awaitsNode : Partial → Bool
  | document _ | item _ _ _ | key _ _ | value _ _ _ | flowItem _ _ | pairKey _ _ | pairValue _ _ _
  | flowEntry _ _ | flowKey _ _ | flowValue _ _ _ => true
  | _ => false

/-- Whether a block collection may begin where a node is waited for. -/
def allowsBlock : Partial → Bool
  | document _ | item _ _ _ | key _ _ | value _ _ _ => true
  | _ => false

/-- Whether a sequence may begin where a node is waited for that is not further right than the
mapping. -/
def allowsInset : Partial → Bool
  | key _ _ | value _ _ _ => true
  | _ => false

/-- The collection that a token opens where a node is waited for, if it opens one. -/
def opened? (props : Properties) (p : Partial) : Token → Option Partial
  | .flowSequenceStart => some (.flowItem props [])
  | .flowMappingStart => some (.flowEntry props [])
  | .blockSequenceStart => if p.allowsBlock then some (.dash false props []) else none
  | .blockMappingStart => if p.allowsBlock then some (.keySign props []) else none
  | .blockEntry => if p.allowsInset then some (.item true props []) else none
  | _ => none

end Partial

/-- How far the tree of some tokens is known. -/
structure Growth where
  /-- What was read of a node before the node itself. -/
  props : Properties := {}
  /-- The innermost open collection. -/
  inner : Partial
  /-- The open collections around it, innermost first. -/
  outer : List Partial := []
  /-- The names of anchors and their slots. -/
  anchors : List (List Char × Nat) := []
  /-- What handles stand for, as directives say. -/
  handles : List (List Char × Tag) := []

namespace Growth

/-- The tag of a scalar: one that was left open is none. -/
def scalarProps (props : Properties) : Properties :=
  if props.tag = some .nonSpecific then { props with tag := none } else props

/-- A token that is no part of a node goes to the innermost open collection, and to the next one if that
was at its end. -/
def pass? (t : Token) (inner : Partial) : List Partial → Option (Partial × List Partial)
  | [] =>
    match inner.step t with
    | .goOn p => some (p, [])
    | _ => none
  | next :: outer =>
    match inner.step t with
    | .goOn p => some (p, next :: outer)
    | .close n => some (next.put n, outer)
    | .leave n => pass? t (next.put n) outer
    | .refuse => none

/-- A token that is no part of a node. Properties that were read belong to an absent node before it. -/
def passOn? (g : Growth) (t : Token) : Option Growth := do
  let inner := if g.props = {} then g.inner
    else g.inner.put (.scalar (scalarProps g.props) .plain [])
  let (inner, outer) ← pass? t inner g.outer
  return { g with props := {}, inner := inner, outer := outer }

/-- The slot of the next anchor. -/
def nextSlot (g : Growth) : Nat :=
  g.anchors.length

/-- Take a token. -/
def feed? (g : Growth) (t : Token) : Option Growth :=
  if !g.inner.awaitsNode || g.props = {} && g.inner.isAbsentAt t then g.passOn? t
  else
    match t with
    | .alias name =>
      if g.props = {} then
        (g.anchors.lookup name).map fun slot => { g with inner := g.inner.put (.alias slot) }
      else g.passOn? t
    | .anchor name =>
      if g.props.slot.isNone then
        some { g with
          props := { g.props with slot := some g.nextSlot }
          anchors := (name, g.nextSlot) :: g.anchors.filter (·.1 ≠ name) }
      else g.passOn? t
    | .tag written =>
      if g.props.tag.isNone then do
        return { g with props := { g.props with tag := some (← Tag.resolve? g.handles written) } }
      else g.passOn? t
    | .scalar style text =>
      some { g with props := {}, inner := g.inner.put (.scalar (scalarProps g.props) style text) }
    | t =>
      match g.inner.opened? g.props t with
      | some p => some { g with props := {}, inner := p, outer := g.inner :: g.outer }
      | none => g.passOn? t

/-- The node of the document, once all tokens have been taken. -/
def root? (g : Growth) : Option Node :=
  match g.inner, g.outer with
  | .ended root _, [] => some root
  | .document explicit, [] =>
    if g.props ≠ {} then some (.scalar (scalarProps g.props) .plain [])
    else if explicit then some .absent
    else none
  | _, _ => none

end Growth

/-- Read the directives before a document: the handles that they explain, and the tokens after them. -/
def readDirectives? : (version : Bool) → (handles : List (List Char × Tag)) → List Token →
    Option (List (List Char × Tag) × List Token)
  | version, handles, .directive (.version major minor) :: ts =>
    if version || major ≠ 1 || minor ≠ 1 && minor ≠ 2 then none else readDirectives? true handles ts
  | version, handles, .directive (.handle name tag) :: ts =>
    if handles.any (·.1 = name) then none else readDirectives? version ((name, tag) :: handles) ts
  | _, handles, ts => some (handles, ts)

/-- The node of the document that some tokens describe. Without any document it is absent. A document
with directives begins with a mark. -/
def Node.ofTokens? (tokens : List Token) : Option Node := do
  let (handles, rest) ← readDirectives? false [] tokens
  match rest with
  | [] => if tokens.isEmpty then some .absent else none
  | .documentStart :: rest =>
    (← rest.foldlM Growth.feed? { inner := .document true, handles := handles }).root?
  | rest =>
    if rest.length < tokens.length then none
    else (← rest.foldlM Growth.feed? { inner := .document false }).root?

/-- The node of the document that a text describes. -/
def Node.ofText? (text : List Char) : Option Node := do
  ofTokens? (← Token.ofText? text)

end Waymark.Yaml
