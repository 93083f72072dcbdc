/-
  JSON text as a tree of what it spells.

  1. **Trees** (`Tree`) keep all members of an object in order, with undecoded keys, strings and
     numbers, to any depth.

  2. **Building** (`Tree.ofTokens?`) takes the tokens one by one, with a stack of open arrays and
     objects (`Tree.Frame`) and a note of what has to follow (`Tree.Expect`).

  3. **Values** (`Tree.value?`).  For the value of a tree strings must decode, numbers must be in
     range, and nesting is limited; of several members with one key the last counts.

  So the parts of a document that nobody looks at are held to the grammar alone, and the others to
  what is asked of them.
-/
import DaemonWatch.Json.Basic
import DaemonWatch.Json.Token

namespace DaemonWatch.Json

open Text

/-- What JSON text spells. -/
inductive Tree
  | null
  | bool (b : Bool)
  | number (l : Literal)
  | text (s : List Piece)
  | array (items : List Tree)
  | object (members : List (List Piece × Tree))
  deriving Repr, Inhabited

namespace Tree

/-! ## Building -/

/-- An array or object that is still open, its contents latest first.  A `member` is an object that
waits for the value of a key. -/
inductive Frame
  | array (items : List Tree)
  | object (members : List (List Piece × Tree))
  | member (members : List (List Piece × Tree)) (key : List Piece)
  deriving Repr

/-- What the next token has to be. -/
inductive Expect
  | value
  | firstItem
  | firstKey
  | nextKey
  | colon
  | more
  | nothing
  deriving Repr, DecidableEq

/-- The work in progress: what has to follow, the open frames, innermost first, and the tree once
it is complete. -/
structure Builder where
  expect : Expect
  frames : List Frame
  tree : Option Tree
  deriving Repr

namespace Builder

/-- Before the first token. -/
def start : Builder := ⟨.value, [], none⟩

/-- Hands a complete tree to the innermost frame. -/
def give? (t : Tree) : List Frame → Option Builder
  | [] => some ⟨.nothing, [], some t⟩
  | .array items :: rest => some ⟨.more, .array (t :: items) :: rest, none⟩
  | .member members key :: rest => some ⟨.more, .object ((key, t) :: members) :: rest, none⟩
  | .object _ :: _ => none

/-- Takes a token that begins a value. -/
def value? (frames : List Frame) : Token → Option Builder
  | .null => give? .null frames
  | .bool b => give? (.bool b) frames
  | .number l => give? (.number l) frames
  | .text s => give? (.text s) frames
  | .openArray => some ⟨.firstItem, .array [] :: frames, none⟩
  | .openObject => some ⟨.firstKey, .object [] :: frames, none⟩
  | _ => none

/-- Takes the token that closes the innermost frame. -/
def close? : List Frame → Token → Option Builder
  | .array items :: rest, .closeArray => give? (.array items.reverse) rest
  | .object members :: rest, .closeObject => give? (.object members.reverse) rest
  | _, _ => none

/-- Takes a key. -/
def key? : List Frame → Token → Option Builder
  | .object members :: rest, .text key => some ⟨.colon, .member members key :: rest, none⟩
  | _, _ => none

/-- Takes the comma behind an item or a member. -/
def comma? (frames : List Frame) : Option Builder :=
  match frames with
  | .array _ :: _ => some ⟨.value, frames, none⟩
  | .object _ :: _ => some ⟨.nextKey, frames, none⟩
  | _ => none

/-- Takes the next token. -/
def step? (b : Builder) (t : Token) : Option Builder :=
  match b.expect with
  | .value => value? b.frames t
  | .firstItem => if t = .closeArray then close? b.frames t else value? b.frames t
  | .firstKey => if t = .closeObject then close? b.frames t else key? b.frames t
  | .nextKey => key? b.frames t
  | .colon => if t = .colon then some ⟨.value, b.frames, none⟩ else none
  | .more => if t = .comma then comma? b.frames else close? b.frames t
  | .nothing => none

/-- Takes tokens in turn. -/
def run? (b : Builder) : List Token → Option Builder
  | [] => some b
  | t :: rest => (b.step? t).bind (run? · rest)

end Builder

/-- The tree that tokens spell. -/
def ofTokens? (tokens : List Token) : Option Tree := do (← Builder.start.run? tokens).tree

/-- The tree that a text spells. -/
def ofText? (s : Gapped) : Option Tree := do ofTokens? (← tokens? s)

/-! ## Values -/

mutual

/-- The value of a tree.  Every array and object takes one level of the `depth` left, and the last
level stays unused. -/
def value? (depth : Nat) : Tree → Option Json
  | .null => some .null
  | .bool b => some (.bool b)
  | .number l => l.value?.map .number
  | .text s => (Piece.string? s).map .text
  | .array items => if depth ≤ 1 then none else (values? (depth - 1) items).map .array
  | .object members => if depth ≤ 1 then none else (members? (depth - 1) members).map ofMembers

/-- The values of items. -/
def values? (depth : Nat) : List Tree → Option (List Json)
  | [] => some []
  | t :: rest => do return (← value? depth t) :: (← values? depth rest)

/-- The keys and values of members. -/
def members? (depth : Nat) : List (List Piece × Tree) → Option (List (String × Json))
  | [] => some []
  | (key, t) :: rest => do
    return (← Piece.string? key, ← value? depth t) :: (← members? depth rest)

end

/-- The depth that documents are read with. -/
def depthLimit : Nat := 128

end Tree

/-- The value that a text spells. -/
def ofText? (depth : Nat) (s : Gapped) : Option Json := do (← Tree.ofText? s).value? depth

end DaemonWatch.Json
