/-
The nodes of a YAML text, and its document.

A node is a scalar, a sequence or a mapping, each with the tag that it is given, or an alias for a node that carries an
anchor. Where a text cannot be read any further, its nodes break off with `broken`, so that what stands in front of a
mistake is still there; `Document.mistake` says what the mistake was.
-/
import LineTerminal.Yaml.Token

namespace LineTerminal.Yaml

/-- what keeps a text from being exactly one document -/
inductive Mistake where
  /-- the text is not well formed -/
  | malformed
  /-- an alias has no anchor in front of it -/
  | unknownAnchor
  /-- another document follows, or something that is none -/
  | moreDocuments
  deriving DecidableEq, Repr

/-- the text of a mistake; why a text is not well formed is not told -/
def Mistake.message : Mistake → String
  | malformed => "the text is not well formed"
  | unknownAnchor => "unknown anchor"
  | moreDocuments => "deserializing from YAML containing more than one document is not supported"

inductive Node where
  | scalar (tag : Option String) (style : Style) (text : String)
  | sequence (tag : Option String) (items : List Node)
  | mapping (tag : Option String) (entries : List (Node × Node))
  /-- the node with an anchor -/
  | reference (anchor : Nat)
  | anchored (anchor : Nat) (node : Node)
  /-- the place where the text could not be read any further -/
  | broken
  deriving Repr

namespace Node

/-- the node that nothing stands for -/
def empty : Node := .scalar none .plain ""

/-- a node without its anchor -/
def bare : Node → Node
  | anchored _ node => node.bare
  | node => node

mutual

/-- a node and all nodes inside it, in the order of the text -/
def parts : Node → List Node
  | sequence tag items => .sequence tag items :: itemParts items
  | mapping tag entries => .mapping tag entries :: entryParts entries
  | anchored a node => .anchored a node :: node.parts
  | node => [node]

def itemParts : List Node → List Node
  | [] => []
  | node :: rest => node.parts ++ itemParts rest

def entryParts : List (Node × Node) → List Node
  | [] => []
  | (key, value) :: rest => key.parts ++ value.parts ++ entryParts rest

end

/-- the anchor of a node and the node that carries it -/
def anchor? : Node → Option (Nat × Node)
  | anchored a node => some (a, node.bare)
  | _ => none

end Node

structure Document where
  /-- its node; none in an empty text -/
  root : Option Node
  /-- what is wrong with the text, if anything is -/
  mistake : Option Mistake
  deriving Repr

namespace Document

/-- all nodes, in the order of the text -/
def parts (d : Document) : List Node := (d.root.map Node.parts).getD []

/-- the node that an alias stands for: the last one that carries its anchor -/
def target (d : Document) (anchor : Nat) : Node :=
  ((d.parts.filterMap Node.anchor?).reverse.lookup anchor).getD .broken

end Document

end LineTerminal.Yaml
