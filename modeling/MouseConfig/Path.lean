/-! # Paths

A path is a text of names between slashes.  Two paths are the same when their components are: extra
slashes, a slash at the end and dots other than one in front make no difference.
-/

namespace MouseConfig

structure Path where
  text : String
deriving DecidableEq, Repr

namespace Path

inductive Component where
  | root
  | here
  | parent
  | name (text : String)
deriving DecidableEq, Repr, Ord

def Component.ofPiece (piece : String) : Component :=
  if piece = ".." then .parent else .name piece

/-- The texts between the slashes. -/
def pieces (p : Path) : List String := (p.text.toList.splitOn '/').map String.ofList

/-- Whether the path starts at the root. -/
def isAbsolute (p : Path) : Bool := p.text.toList.head? == some '/'

/-- The component in front of all names. -/
def front (p : Path) : List Component :=
  if p.isAbsolute then [.root]
  else if p.pieces.head? = some "." then [.here]
  else []

def components (p : Path) : List Component :=
  p.front ++ (p.pieces.filter fun s => s != "" && s != ".").map Component.ofPiece

def same (p q : Path) : Bool := p.components == q.components

/-- The order of paths, component by component. -/
def le (p q : Path) : Bool := (compare p.components q.components).isLE

/-- The path of an entry of a directory. -/
def join (directory : Path) (entry : String) : Path :=
  if directory.text = "" then ⟨entry⟩
  else if directory.text.toList.getLast? = some '/' then ⟨directory.text ++ entry⟩
  else ⟨directory.text ++ "/" ++ entry⟩

end Path

end MouseConfig
