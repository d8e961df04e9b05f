import Colloquy.Text.ClusterClass

/-! Text as its readers count it: a cluster is a letter with its marks, a syllable, a flag, or a picture
put together from several. The clusters of a text follow one another without gaps, and whether a
character goes on with the cluster in front of it depends on that cluster alone. -/

namespace Colloquy.Text

/-- What of a cluster decides whether the next character goes on with it. -/
structure ClusterState where
  last : ClusterClass
  /-- It ends with a consonant and marks; whether a linker is among them. -/
  conjunct : Option Bool := none
  /-- It ends with a picture and marks; whether a joiner has come. -/
  picture : Option Bool := none
  /-- It ends with one half of a flag. -/
  halfFlag : Bool := false
deriving DecidableEq, Repr

namespace ClusterState

/-- A cluster of one character. -/
def first (c : ClusterClass) : ClusterState where
  last := c
  conjunct := if c = .consonant then some false else none
  picture := if c = .pictograph then some false else none
  halfFlag := c = .indicator

/-- Characters of two classes stay together wherever they meet. -/
def stick : ClusterClass → ClusterClass → Bool
  | .carriageReturn, .lineFeed => true
  | .carriageReturn, _ | .lineFeed, _ | .control, _ => false
  | _, .carriageReturn | _, .lineFeed | _, .control => false
  | _, .extend | _, .linker | _, .nonJoiner | _, .joiner | _, .spacingMark => true
  | .prepend, _ => true
  | .leadingJamo, .leadingJamo | .leadingJamo, .vowelJamo => true
  | .leadingJamo, .openSyllable | .leadingJamo, .closedSyllable => true
  | .openSyllable, .vowelJamo | .openSyllable, .trailingJamo => true
  | .vowelJamo, .vowelJamo | .vowelJamo, .trailingJamo => true
  | .closedSyllable, .trailingJamo | .trailingJamo, .trailingJamo => true
  | _, _ => false

/-- A character of a class goes on with the cluster. -/
def joins (s : ClusterState) (c : ClusterClass) : Bool :=
  stick s.last c || (c = .consonant && s.conjunct == some true) || (c = .pictograph && s.picture == some true) ||
    (c = .indicator && s.halfFlag)

/-- The cluster with a further character. -/
def next (s : ClusterState) (c : ClusterClass) : ClusterState where
  last := c
  conjunct := match c with
    | .consonant => some false
    | .linker => s.conjunct.map (fun _ => true)
    | .extend | .joiner => s.conjunct
    | _ => none
  picture := match c with
    | .pictograph => some false
    | .joiner => if s.picture = some false then some true else none
    | .extend | .linker | .nonJoiner => if s.picture = some false then some false else none
    | _ => none
  halfFlag := c = .indicator && !s.halfFlag

end ClusterState

/-- Cuts the rest of a text; `current` holds the cluster under way and `done` those before it, both
latest first. -/
def cutClusters (s : ClusterState) (current : List Char) (done : List (List Char)) : List Char → List (List Char)
  | [] => (current.reverse :: done).reverse
  | c :: cs =>
    let k := classOf c.toNat
    if s.joins k then cutClusters (s.next k) (c :: current) done cs
    else cutClusters (.first k) [c] (current.reverse :: done) cs

/-- The clusters of a text. -/
def clusters : List Char → List (List Char)
  | [] => []
  | c :: cs => cutClusters (.first (classOf c.toNat)) [c] [] cs

end Colloquy.Text
