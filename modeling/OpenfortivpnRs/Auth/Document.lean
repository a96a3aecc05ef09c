import OpenfortivpnRs.Auth.Attributes

/-!
# Configuration documents

The documents a gateway sends, as elements with attributes, and what `parse_vpn_config_xml` reads from
their text: the value of each attribute it looks for, wherever the whitespace stands (`parse_document`).
-/

namespace OpenfortivpnRs.Auth

open Text

/-! ### Tags -/

/-- The name of an element and what stands behind it in its start tag. -/
structure Tag where
  name : List Char
  attributes : List Attribute
  trailing : Space
  isName : IsName name
  distinct : (attributes.map Attribute.name).Nodup

namespace Tag

/-- What stands behind the name; a slash closes the element. -/
def behind (tag : Tag) (closed : Bool) : List Char :=
  tag.attributes.flatMap Attribute.chars ++ (tag.trailing.val ++ if closed then ['/'] else [])

def inside (tag : Tag) (closed : Bool) : List Char := tag.name ++ tag.behind closed

def value (tag : Tag) (attr : String) : Option (List Char) := valueOf attr.toList tag.attributes

end Tag

/-- The parts of a document in the order of the text. -/
inductive Mark where
  | space (s : Space)
  | start (tag : Tag) (closed : Bool)
  | stop (tag : Tag) (space : Space)
  | declaration (s : List Char) (plain : '<' ∉ s ∧ '>' ∉ s)

def Mark.token : Mark → Token
  | space s => .text s.val
  | start tag closed => .tag (tag.inside closed)
  | stop tag s => .tag ('/' :: (tag.name ++ s.val))
  | declaration s _ => .tag ('?' :: s)

/-- The text of a list of marks. -/
def markText (ms : List Mark) : List Char := render (ms.map Mark.token)

/-! ### Elements -/

/-- What stands between a start tag and its end tag: children with whitespace in front of each, and
whitespace behind the last; and the whitespace in the end tag. -/
structure Content (α : Type) where
  children : List (Space × α)
  last : Space
  endSpace : Space

/-- An element; one without content is self-closing. -/
structure Element (α : Type) where
  tag : Tag
  content : Option (Content α)

namespace Element

variable {α : Type}

def children (e : Element α) : List α := e.content.elim [] fun c => c.children.map Prod.snd

/-- The marks between the start tag and the end tag. -/
def inner (marks : α → List Mark) (c : Content α) : List Mark :=
  c.children.flatMap (fun p => .space p.1 :: marks p.2) ++ [.space c.last]

def marks (childMarks : α → List Mark) (e : Element α) : List Mark :=
  match e.content with
  | none => [.start e.tag true]
  | some c => .start e.tag false :: (inner childMarks c ++ [.stop e.tag c.endSpace])

end Element

abbrev Addr : Type :=
  { e : Element Empty // e.tag.name = "addr".toList ∧ (e.tag.value "ip").isSome ∧ (e.tag.value "mask").isSome }

abbrev Dns : Type :=
  { e : Element Empty // e.tag.name = "dns".toList ∧ ((e.tag.value "ip").isSome ∨ (e.tag.value "domain").isSome) }

abbrev AssignedAddr : Type :=
  { e : Element Empty // e.tag.name = "assigned-addr".toList ∧ (e.tag.value "ipv4").isSome }

abbrev SplitTunnelInfo : Type := { e : Element Addr // e.tag.name = "split-tunnel-info".toList }

/-- The elements in the root. -/
inductive Item where
  | assignedAddr (e : AssignedAddr)
  | dns (e : Dns)
  | splitTunnelInfo (e : SplitTunnelInfo)

def leafMarks (e : Element Empty) : List Mark := e.marks Empty.elim

namespace Item

def tag : Item → Tag
  | assignedAddr e => e.val.tag
  | dns e => e.val.tag
  | splitTunnelInfo e => e.val.tag

def marks : Item → List Mark
  | assignedAddr e => leafMarks e.val
  | dns e => leafMarks e.val
  | splitTunnelInfo e => e.val.marks fun addr => leafMarks addr.val

def gateway : Item → Option (List Char)
  | assignedAddr e => e.val.tag.value "ipv4"
  | _ => none

def server : Item → Option (List Char)
  | dns e => e.val.tag.value "ip"
  | _ => none

def suffix : Item → Option (List Char)
  | dns e => e.val.tag.value "domain"
  | _ => none

/-- The destinations and masks. -/
def routes : Item → List (List Char × List Char)
  | splitTunnelInfo e => e.val.children.map fun addr =>
    ((addr.val.tag.value "ip").get addr.property.2.1, (addr.val.tag.value "mask").get addr.property.2.2)
  | _ => []

end Item

/-- A document, perhaps with a declaration in front; its root has another name than the elements in it. -/
structure Document where
  declaration : Option { s : List Char // '<' ∉ s ∧ '>' ∉ s }
  before : Space
  root : Element Item
  after : Space
  other : root.tag.name ∉ ["assigned-addr", "dns", "split-tunnel-info", "addr"].map String.toList

namespace Document

variable (doc : Document)

def marks : List Mark :=
  (doc.declaration.map fun s => Mark.declaration s.val s.property).toList ++
    .space doc.before :: (doc.root.marks Item.marks ++ [.space doc.after])

def text : List Char := markText doc.marks

def gateway : Option (List Char) := (doc.root.children.filterMap Item.gateway).head?

def servers : List (List Char) := doc.root.children.filterMap Item.server

def suffix : Option (List Char) := (doc.root.children.filterMap Item.suffix).head?

def routes : List (List Char × List Char) := doc.root.children.flatMap Item.routes

/-- What a configuration reader should find. -/
def config : VpnConfigXml where
  rawXml := .ofList doc.text
  gateway := doc.gateway.map .ofList
  assignedIp := doc.gateway.map .ofList
  dnsServers := doc.servers.map .ofList
  dnsSuffix := doc.suffix.map .ofList
  splitRoutes := doc.routes.map fun p => ⟨.ofList p.1, .ofList p.2, doc.gateway.map .ofList⟩

end Document

end OpenfortivpnRs.Auth
