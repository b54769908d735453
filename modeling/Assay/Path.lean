import Assay.Text.Blank

/-!
# Paths

A path is a text in which slashes separate names. Two texts are the same path when they have the
same components: repeated slashes, slashes at the end and dots between slashes make no component,
apart from a dot in front of a relative path. Nothing here looks at a file system, so `..` is a
component like any other.

Paths are ordered component by component, which is not the order of their texts: `a/b` comes before
`a.b`.
-/

namespace Assay

/-- A path as it was written. -/
structure Path where
  text : String
deriving DecidableEq

namespace Path

/-- What stands between the slashes of a path, or the slash in front of it. The constructors are in
ascending order. -/
inductive Component where
  | root
  | here
  | up
  | name (n : String)
deriving DecidableEq

/-- A component as it is written. -/
def Component.text : Component → String
  | .root => "/"
  | .here => "."
  | .up => ".."
  | .name n => n

/-- Where a component stands among its kinds. -/
def Component.rank : Component → Nat
  | .root => 0
  | .here => 1
  | .up => 2
  | .name _ => 3

/-- The order of components; names go by their characters. -/
def Component.compare (a b : Component) : Ordering :=
  match a, b with
  | .name m, .name n => Ord.compare m n
  | a, b => Ord.compare a.rank b.rank

/-- Whether a path begins with a slash. -/
def isAbsolute (p : Path) : Bool :=
  p.text.toList.head? == some '/'

/-- The component that a piece between slashes makes; `first` says whether it is the first piece of
a relative path. -/
def component? (first : Bool) (piece : List Char) : Option Component :=
  if piece = [] then none
  else if piece = ['.'] then if first then some .here else none
  else if piece = ['.', '.'] then some .up
  else some (.name (String.ofList piece))

/-- The components that pieces behind the first make, each with the text of the path up to its end;
`before` is the text in front of the pieces, in reverse. -/
def locate (before : List Char) : List (List Char) → List (Component × String)
  | [] => []
  | piece :: rest =>
    let upto := piece.reverse ++ '/' :: before
    match component? false piece with
    | none => locate upto rest
    | some c => (c, String.ofList upto.reverse) :: locate upto rest

/-- The components of a path, each with the text of the path up to its end. -/
def located (p : Path) : List (Component × String) :=
  match Text.splitAt '/' p.text.toList with
  | [] => []
  | first :: rest =>
    if p.isAbsolute then (.root, "/") :: locate [] rest
    else match component? true first with
      | none => locate first.reverse rest
      | some c => (c, String.ofList first) :: locate first.reverse rest

/-- The components of a path. -/
def components (p : Path) : List Component :=
  p.located.map Prod.fst

/-- The last component, if it is a name. -/
def fileName? (p : Path) : Option String :=
  match p.components.getLast? with
  | some (.name n) => some n
  | _ => none

/-- The path without its last component; the root and the empty path have no parent. -/
def parent? (p : Path) : Option Path :=
  match p.located.reverse with
  | [] => none
  | [(.root, _)] => none
  | [_] => some ⟨""⟩
  | _ :: (_, upto) :: _ => some ⟨upto⟩

/-- The name's text behind its last dot, if something stands in front of that dot. -/
def extension? (p : Path) : Option String := do
  let name ← p.fileName?
  match (Text.splitAt '.' name.toList).reverse with
  | [] | [_] => none
  | last :: before => if before = [[]] then none else some (String.ofList last)

/-- The path at `q` as seen from `p`: an absolute `q` is that path itself, and a relative one is
appended behind a slash. -/
def join (p q : Path) : Path :=
  if q.isAbsolute then q
  else if p.text.isEmpty || p.text.toList.getLast? == some '/' then ⟨p.text ++ q.text⟩
  else ⟨p.text ++ "/" ++ q.text⟩

/-- `join` with the path's text given. -/
def child (p : Path) (name : String) : Path :=
  p.join ⟨name⟩

/-- The path and its parents, one after the other, up to a path without a parent. Each has one
component less, so their number is bounded by that of the components. -/
def ancestorsUpTo : Nat → Path → List Path
  | 0, p => [p]
  | n + 1, p => p :: match p.parent? with
    | none => []
    | some q => ancestorsUpTo n q

/-- The path, its parent, its parent's parent, and so on. -/
def ancestors (p : Path) : List Path :=
  ancestorsUpTo (p.components.length + 1) p

/-- Whether the components of `root` are the first components of `p`. -/
def isUnder (root p : Path) : Bool :=
  root.components.isPrefixOf p.components

/-- The order of lists of components. -/
def compareComponents : List Component → List Component → Ordering
  | [], [] => .eq
  | [], _ :: _ => .lt
  | _ :: _, [] => .gt
  | a :: as, b :: bs => (a.compare b).then (compareComponents as bs)

/-- The order of paths. -/
def compare (p q : Path) : Ordering :=
  compareComponents p.components q.components

/-- The path with its redundant slashes and dots removed, in front of `start`. -/
def extend (start : Path) (cs : List Component) : Path :=
  cs.foldl (fun p c => p.child c.text) start

/-- The path from the root that a path means in the working directory `cwd`; none for the empty
path. Exactly two slashes in front and a slash at the end are kept. -/
def absolute? (p cwd : Path) : Option Path :=
  if p.text.isEmpty then none
  else
    let components := match p.components with
      | .here :: rest => rest
      | cs => cs
    let chars := p.text.toList
    let twoSlashes := Text.startsWith ['/', '/'] chars && !Text.startsWith ['/', '/', '/'] chars
    let body :=
      if twoSlashes then extend ⟨"//"⟩ components.tail
      else if p.isAbsolute then extend ⟨""⟩ components
      else extend cwd components
    some (if chars.getLast? = some '/' then body.child "" else body)

end Path

end Assay
