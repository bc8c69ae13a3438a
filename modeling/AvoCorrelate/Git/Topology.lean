import AvoCorrelate.Lib.Text
import AvoCorrelate.Lib.Transactions
import Mathlib
/-!
# Commit topology

The tree and the parents of a commit are read from the text of the commit object. Its lines
end at a newline and at nothing else, but the reader also cuts them at a carriage return, and
takes for a parent whatever begins with the word anywhere in the header. `topology_right_iff`
says for which commits it tells the truth or raises.
-/
open AvoLib

namespace AvoCorrelate.Git

abbrev Bytes := List UInt8

abbrev nl : UInt8 := 10

abbrev cr : UInt8 := 13

def splitlines (text : Bytes) : List Bytes := Text.splitlines (fun b => b = nl ∨ b = cr) cr nl text

/-- The word `tree` and a space. -/
def treeHeader : Bytes := [116, 114, 101, 101, 32]

/-- The word `parent` and a space. -/
def parentHeader : Bytes := [112, 97, 114, 101, 110, 116, 32]

/-- `_GIT_OBJECT`: 40 or 64 digits in lower-case hexadecimal. -/
def gitObject (item : Bytes) : Bool :=
  (item.length = 40 ∨ item.length = 64) ∧ ∀ b ∈ item, (48 ≤ b ∧ b ≤ 57) ∨ (97 ≤ b ∧ b ≤ 102)

inductive MainCompositionError
  | composition (message : String)
  deriving DecidableEq

/-- What follows the header word in the lines that begin with it. -/
def values (header : Bytes) (lines : List Bytes) : List Bytes :=
  (lines.filter (header.isPrefixOf ·)).map (·.drop header.length)

/-- `_commit_topology`, from what `git cat-file -p` prints. -/
def commitTopology (raw : Bytes) : Except MainCompositionError (Bytes × List Bytes) := do
  let headers := splitlines (Text.before [nl, nl] raw)
  let trees := values treeHeader headers
  let parents := values parentHeader headers
  require (∀ item ∈ trees ++ parents, ∀ b ∈ item, b < 128) (.composition "Git commit headers are not ASCII")
  match trees with
  | [tree] => do
    require (∀ item ∈ tree :: parents, gitObject item = true) (.composition "Git commit object topology is malformed")
    return (tree, parents)
  | _ => .error (.composition "Git commit object topology is malformed")

/-- A commit object. The identities hold any bytes but a newline; `extra` are the further header
lines and their continuations. -/
structure Commit where
  tree : Bytes
  parents : List Bytes
  author : Bytes
  committer : Bytes
  extra : List Bytes
  message : Bytes
  objects : ∀ item ∈ tree :: parents, gitObject item = true
  lines : ∀ line ∈ author :: committer :: extra, nl ∉ line
  nonempty : ∀ line ∈ extra, line ≠ []

/-- The word `author` and a space. -/
def authorHeader : Bytes := [97, 117, 116, 104, 111, 114, 32]

/-- The word `committer` and a space. -/
def committerHeader : Bytes := [99, 111, 109, 109, 105, 116, 116, 101, 114, 32]

namespace Commit

/-- The header lines after those of the tree and the parents. -/
def rest (c : Commit) : List Bytes := (authorHeader ++ c.author) :: (committerHeader ++ c.committer) :: c.extra

def header (c : Commit) : List Bytes := (treeHeader ++ c.tree) :: c.parents.map (parentHeader ++ ·) ++ c.rest

def render (c : Commit) : Bytes := c.header.flatMap (· ++ [nl]) ++ nl :: c.message

end Commit

end AvoCorrelate.Git
