import LinkPress.Text.ClusterClass

set_option autoImplicit false

/- Grapheme clusters: the runs of characters that a reader takes for one sign. -/
namespace LinkPress.Text

inductive PictureRun where
  | none
  | open
  | joined
deriving DecidableEq, Repr

inductive ConjunctRun where
  | none
  | consonant
  | linked
deriving DecidableEq, Repr

structure ClusterState where
  last : ClusterClass
  oddRegional : Bool
  picture : PictureRun
  conjunct : ConjunctRun

namespace ClusterState

def picture' (run : PictureRun) (c : Char) : PictureRun :=
  if isPicture c then .open
  else
    match run, clusterClass c with
    | .open, .extend => .open
    | .open, .joiner => .joined
    | _, _ => .none

def conjunct' (run : ConjunctRun) (c : Char) : ConjunctRun :=
  if isConsonant c then .consonant
  else if run = .none || c.toNat = 0x200C then .none
  else if isLinker c then .linked
  else
    match clusterClass c with
    | .extend | .joiner => run
    | _ => .none

def ofChar (c : Char) : ClusterState :=
  ⟨clusterClass c, clusterClass c == .regional, picture' .none c, conjunct' .none c⟩

def next (state : ClusterState) (c : Char) : ClusterState :=
  ⟨clusterClass c, clusterClass c == .regional && !state.oddRegional,
    picture' state.picture c, conjunct' state.conjunct c⟩

def isBreakAlways : ClusterClass → Bool
  | .return | .newline | .control => true
  | _ => false

def continues (state : ClusterState) (c : Char) : Bool :=
  let following := clusterClass c
  if state.last == .return && following == .newline then true
  else if isBreakAlways state.last || isBreakAlways following then false
  else
    match state.last, following with
    | _, .extend | _, .joiner | _, .spacing => true
    | .prepend, _ => true
    | .leading, .leading | .leading, .vowel | .leading, .leadingVowel
    | .leading, .leadingVowelTrailing => true
    | .leadingVowel, .vowel | .leadingVowel, .trailing => true
    | .vowel, .vowel | .vowel, .trailing => true
    | .leadingVowelTrailing, .trailing | .trailing, .trailing => true
    | .regional, .regional => state.oddRegional
    | _, _ =>
        (state.conjunct == .linked && isConsonant c) ||
          (state.picture == .joined && isPicture c)

end ClusterState

/-- `cluster` is the cluster being read, last character first. -/
def clustersFrom (state : ClusterState) (cluster : List Char) : List Char → List (List Char)
  | [] => [cluster.reverse]
  | c :: rest =>
      if state.continues c then clustersFrom (state.next c) (c :: cluster) rest
      else cluster.reverse :: clustersFrom (ClusterState.ofChar c) [c] rest

def clusters : List Char → List (List Char)
  | [] => []
  | c :: rest => clustersFrom (ClusterState.ofChar c) [c] rest

end LinkPress.Text
