import Mustache.Token
/-!
# Token streams with lasting handles

A `TokenStream` is a chain of tokens in which a run can be replaced by other tokens. Its nodes are
numbered in the order in which they came, and a node keeps its number: the first node of a replaced
run takes the first new token, so a handle that points at it now points at the start of what came in.
The rest of the run is no longer part of the chain.

The view of a stream is `TokenStream.toList`: the nodes of the chain in order, with their numbers.
-/

namespace Mustache

/-- A token of a stream. -/
structure StreamNode where
  /-- The token. -/
  token : Token
  /-- How many partials around it brought the token in. -/
  depth : Nat
  /-- The number of the node that follows. -/
  next? : Option Nat
deriving DecidableEq, Repr

/-- A chain of tokens with lasting handles. -/
structure TokenStream where
  /-- All nodes that ever came, each under its number. -/
  nodes : Array StreamNode
  /-- The number of the first node of the chain. -/
  head? : Option Nat
deriving DecidableEq, Repr

namespace TokenStream

/-- Adds nodes for the tokens, each followed by the next one and the last one by `after?`. They take
the numbers from `nodes.size` on. -/
def chain (nodes : Array StreamNode) (depth : Nat) (after? : Option Nat) :
    List Token → Array StreamNode
  | [] => nodes
  | [token] => nodes.push ⟨token, depth, after?⟩
  | token :: tokens => chain (nodes.push ⟨token, depth, some (nodes.size + 1)⟩) depth after? tokens

/-- The stream of the tokens. -/
def ofTokens (tokens : List Token) : TokenStream where
  nodes := chain #[] 0 none tokens
  head? := if tokens.isEmpty then none else some 0

/-- The number of the node after node `id`. -/
def next? (s : TokenStream) (id : Nat) : Option Nat :=
  s.nodes[id]?.bind StreamNode.next?

/-- Replaces the run from node `first` to node `last` by the tokens, or by an empty text if there are
none. The new nodes get the given depth. -/
def splice (s : TokenStream) (first last : Nat) (tokens : List Token) (depth : Nat) : TokenStream :=
  let after? := s.next? last
  let more := tokens.tail
  let start : StreamNode :=
    ⟨tokens.headD (.text ""), depth, if more.isEmpty then after? else some s.nodes.size⟩
  { s with nodes := chain (s.nodes.setIfInBounds first start) depth after? more }

/-- Follows the chain from a node, for at most `bound` nodes. -/
def follow (s : TokenStream) : (bound : Nat) → Option Nat → List (Nat × StreamNode)
  | 0, _ => []
  | _, none => []
  | bound + 1, some id =>
    match s.nodes[id]? with
    | none => []
    | some node => (id, node) :: s.follow bound node.next?

/-- The nodes of the chain in order, with their numbers. A chain is no longer than the number of nodes
that ever came. -/
def toList (s : TokenStream) : List (Nat × StreamNode) :=
  s.follow s.nodes.size s.head?

/-- The tokens of the chain in order. -/
def tokens (s : TokenStream) : List Token :=
  s.toList.map fun entry => entry.2.token

/-- The number of tokens of the chain. -/
def length (s : TokenStream) : Nat := s.toList.length

/-- Whether the chain has no tokens. -/
def isEmpty (s : TokenStream) : Bool := s.head?.isNone

end TokenStream

end Mustache
