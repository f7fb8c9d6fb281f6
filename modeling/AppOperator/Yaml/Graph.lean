import AppOperator.Yaml.Scalar

/-!
# Graphs of nodes

A text lays out nodes: scalars, lists of nodes, and lists of entries, which are
pairs of nodes.  A node can be referred to by name, also from inside itself, so
nodes are known by number and a document is a graph.
-/

set_option autoImplicit false

namespace AppOperator.Yaml

/-- What a node consists of; other nodes stand there by their numbers. -/
inductive Content where
  | scalar (text : String)
  | list (items : List Nat)
  | entries (entries : List (Nat × Nat))
deriving Repr

structure Node where
  tag : Tag
  content : Content
deriving Repr

/-- Nodes by number, and the one that stands for the document, if the text has one. -/
structure Graph where
  nodes : Array Node
  root : Option Nat

end AppOperator.Yaml
