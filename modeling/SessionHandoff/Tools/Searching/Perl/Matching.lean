import SessionHandoff.Tools.Searching.Perl.Node

/-!
# Matching one way after the other

An expression of the richer dialect is matched one way after the other: each node is given what is
to happen after it, and when that fails the node goes on with its next way. The work is bounded, as
some expressions have more ways than anybody could wait for.
-/

set_option autoImplicit false

namespace SessionHandoff.Tools.Searching.Perl

/-- A place that matching has reached. -/
structure Spot where
  at_ : Nat
  /-- The parts that groups stood for. -/
  groups : List (Nat × Nat × Nat) := []
  /-- Where what is found begins. -/
  start : Nat
  /-- The group that is being called. -/
  call? : Option Nat := none
deriving Repr

/-- How matching ends. -/
inductive Outcome where
  | found (s : Spot)
  /-- It was accepted without what should have followed. -/
  | accepted (s : Spot)
  | failed
  /-- The work that was allowed is done. -/
  | exhausted
  /-- The search was given up at a place. -/
  | gaveUp (c : Cut) (at_ : Nat)

/-- Matching with a bound for the work: how it ends, and the work that is left. -/
abbrev Search := Nat → Outcome × Nat

/-- Another search where one fails. -/
def orElse (first second : Search) : Search := fun work =>
  match first work with
  | (.failed, work) => second work
  | other => other

/-- A search that fails. -/
def noWay : Search := fun work => (.failed, work)

/-- The end of what is found. -/
def done (s : Spot) : Search := fun work => (.found s, work)

/-- What is matched, and in what. -/
structure Setting where
  grammar : Grammar
  line : Line
  /-- Where the search began. -/
  begin : Nat := 0

namespace Setting

/-- The code at a place. -/
def code? (x : Setting) (i : Nat) : Option Nat :=
  x.line.codes[i]?

/-- Whether the code at a place belongs to words. -/
def isWord (x : Setting) (wide : Bool) (i : Nat) : Bool :=
  (x.code? i).any fun n => Class.word.holds wide n

/-- Whether a place is where a word begins or ends. -/
def isWordEdge (x : Setting) (wide : Bool) (i : Nat) : Bool :=
  (i ≠ 0 && x.isWord wide (i - 1)) != x.isWord wide i

/-- Whether a condition holds at a place. -/
def holds (x : Setting) (i : Nat) : Edge → Bool
  | .start => i = 0
  | .lineStart => i = 0 || x.code? (i - 1) = some 10 && i ≠ x.line.codes.size
  | .stop => i = x.line.codes.size
  | .lineStop => i = x.line.codes.size || x.code? i = some 10
  | .nearStop => i = x.line.codes.size || i + 1 = x.line.codes.size && x.code? i = some 10
  | .begin => i = x.begin
  | .wordEdge wide => x.isWordEdge wide i
  | .noWordEdge wide => !x.isWordEdge wide i

/-- Whether one code of a set, or none of it, stands at a place. -/
def hasOne (x : Setting) (negated folds : Bool) (members : List Member) (i : Nat) : Bool :=
  match x.code? i with
  | none => false
  | some n =>
    let codes := if folds then forms x.line.charset n else [n]
    let isIn (m : Member) : Bool :=
      match m with
      | .range _ _ => codes.any fun n => m.holds n
      | .class_ _ _ _ => m.holds n
    n < Characters.strayBase && (members.any isIn != negated)

/-- How many codes of a set stand from a place on, up to a bound. -/
def countOnes (x : Setting) (negated folds : Bool) (members : List Member) : Nat → Nat → Nat
  | _, 0 => 0
  | i, most + 1 =>
    if x.hasOne negated folds members i then x.countOnes negated folds members (i + 1) most + 1
    else 0

/-- Whether the part between two places stands again at a third one. -/
def repeats (x : Setting) (folds : Bool) (start stop i : Nat) : Bool :=
  let cs := x.line.charset
  (List.range (stop - start)).all fun k =>
    match x.code? (start + k), x.code? (i + k) with
    | some a, some b => a == b || folds && folded cs a == folded cs b
    | _, _ => false

/-- The places after a line end of any kind that stands at a place. -/
def afterLineEnd (x : Setting) (i : Nat) : List Nat :=
  match x.code? i with
  | some 13 => if x.code? (i + 1) = some 10 then [i + 2] else [i + 1]
  | some n => if Text.inRanges n downRanges then [i + 1] else []
  | none => []

/-- Whether a code belongs to the character before it. -/
def extends_ (n : Nat) : Bool :=
  (Characters.category n).startsWith "M" || n = 0x200D

/-- The place after a character and the marks that belong to it. -/
def afterCluster (x : Setting) (i : Nat) : Option Nat :=
  match x.code? i with
  | none => none
  | some 13 => some (if x.code? (i + 1) = some 10 then i + 2 else i + 1)
  | some n =>
    if n < 32 then some (i + 1)
    else
      let marks := ((x.line.codes.toList.drop (i + 1)).takeWhile extends_).length
      some (i + 1 + marks)

/-- The part that a group stands for. -/
def part? (x : Setting) (s : Spot) (r : Reference) : Option (Nat × Nat) :=
  (x.grammar.numbers r).findSome? fun n => s.groups.lookup n

/-- What a test decides. -/
def decides (x : Setting) (s : Spot) : Test → Bool
  | .isSet r => (x.part? s r).isSome
  | .isCalled none => s.call?.isSome
  | .isCalled (some r) => s.call?.any fun n => (x.grammar.numbers r).contains n
  | .never => false
  | .always => true

/-- Go on after numbers of codes, from the greatest number down to the least. -/
def goDown (s : Spot) (next : Spot → Search) (least : Nat) : Nat → Search
  | 0 => if least = 0 then next s else noWay
  | n + 1 =>
    if n + 1 < least then noWay
    else orElse (next { s with at_ := s.at_ + n + 1 }) (goDown s next least n)

/-- Go on after numbers of codes, from one up, as long as there are more of them. -/
def goUp (s : Spot) (next : Spot → Search) : Nat → Nat → Search
  | n, 0 => next { s with at_ := s.at_ + n }
  | n, more + 1 =>
    orElse (next { s with at_ := s.at_ + n }) (goUp s next (n + 1) more)

/-- The branches of a look behind, each with how far it looks. -/
def farBranches (x : Setting) (e : Node) : List (Nat × Node) :=
  e.branches.filterMap fun b => (x.grammar.width b).toOption.map fun n => (n, b)

/-- Match a node at a place and go on. The depth of nodes within nodes is bounded. -/
def run (x : Setting) : Nat → Node → Spot → (Spot → Search) → Search
  | 0, _, _, _ => fun work => (.exhausted, work)
  | depth + 1, node, s, next => fun work =>
    if work = 0 then (.exhausted, 0)
    else
      let work := work - 1
      match node with
      | .empty => next s work
      | .one negated folds members =>
        if x.hasOne negated folds members s.at_ then next { s with at_ := s.at_ + 1 } work
        else (.failed, work)
      | .edge e => if x.holds s.at_ e then next s work else (.failed, work)
      | .anyLineEnd =>
        match x.afterLineEnd s.at_ with
        | i :: _ => next { s with at_ := i } work
        | [] => (.failed, work)
      | .cluster =>
        match x.afterCluster s.at_ with
        | some i => next { s with at_ := i } work
        | none => (.failed, work)
      | .seq a b => x.run depth a s (fun t => x.run depth b t next) work
      | .either a b =>
        match x.run depth a s next work with
        | (.failed, work) | (.gaveUp .branch _, work) => x.run depth b s next work
        | other => other
      | .times (.one negated folds members) least most? hurry =>
        let most := (most?.getD (x.line.codes.size + 1))
        let count := x.countOnes negated folds members s.at_ most
        if count < least then (.failed, work)
        else
          match hurry with
          | .greedy => goDown s next least count work
          | .lazy => goUp s next least (count - least) work
          | .possessive => next { s with at_ := s.at_ + count } work
      | .times e least most? .possessive =>
        match x.run depth (.times e least most? .greedy) s done work with
        | (.found t, work) => next t work
        | other => other
      | .times e (least + 1) most? hurry =>
        x.run depth e s (fun t =>
          x.run depth (.times e least (most?.map (· - 1)) hurry) t next) work
      | .times _ 0 (some 0) _ => next s work
      | .times e 0 most? hurry =>
        let again : Search := x.run depth e s fun t =>
          if t.at_ = s.at_ then next t
          else x.run depth (.times e 0 (most?.map (· - 1)) hurry) t next
        if hurry = .lazy then orElse (next s) again work else orElse again (next s) work
      | .group n e =>
        x.run depth e s (fun t =>
          next { t with groups := (n, s.at_, t.at_) :: t.groups.filter (·.1 ≠ n) }) work
      | .atomic e =>
        match x.run depth e s done work with
        | (.found t, work) => next t work
        | other => other
      | .ahead wanted e =>
        match x.run depth e s done work, wanted with
        | (.exhausted, work), _ => (.exhausted, work)
        | (.found t, work), true | (.accepted t, work), true =>
          next { s with groups := t.groups } work
        | (.found _, work), false | (.accepted _, work), false => (.failed, work)
        | (_, work), true => (.failed, work)
        | (_, work), false => next s work
      | .behind wanted e =>
        let branch (b : Nat × Node) : Search :=
          if s.at_ < b.1 then noWay
          else x.run depth b.2 { s with at_ := s.at_ - b.1 } done
        let first := (x.farBranches e).foldr (fun b rest => orElse (branch b) rest) noWay
        match first work, wanted with
        | (.exhausted, work), _ => (.exhausted, work)
        | (.found t, work), true | (.accepted t, work), true =>
          next { s with groups := t.groups } work
        | (.found _, work), false | (.accepted _, work), false => (.failed, work)
        | (_, work), true => (.failed, work)
        | (_, work), false => next s work
      | .again r folds =>
        match x.part? s r with
        | some (start, stop) =>
          if x.repeats folds start stop s.at_ then
            next { s with at_ := s.at_ + (stop - start) } work
          else (.failed, work)
        | none => (.failed, work)
      | .call r =>
        match x.grammar.numbers r with
        | n :: _ =>
          let e := if n = 0 then x.grammar.root else (x.grammar.root.groupOf? n).getD .empty
          x.run depth e { s with call? := some n } (fun t =>
            next { t with groups := s.groups, call? := s.call? }) work
        | [] => (.failed, work)
      | .choice t yes no => x.run depth (if x.decides s t then yes else no) s next work
      | .choose condition yes no =>
        match x.run depth condition s done work with
        | (.found t, work) | (.accepted t, work) =>
          x.run depth yes { s with groups := t.groups } next work
        | (.exhausted, work) => (.exhausted, work)
        | (_, work) => x.run depth no s next work
      | .keep => next { s with start := s.at_ } work
      | .fail => (.failed, work)
      | .accept => (.accepted s, work)
      | .cut c =>
        match next s work with
        | (.failed, work) => (.gaveUp c s.at_, work)
        | other => other

end Setting

/-- How deep nodes may be matched within nodes. -/
def maxDepth : Nat := 100000

/-- How much work a search may take. -/
def maxWork : Nat := 16000000

/-- Whether an expression can match at a place, by the code that stands there. -/
def Setting.canStart (x : Setting) (starts? : Option (List (Bool × Bool × List Member))) (i : Nat) :
    Bool :=
  match starts? with
  | none => true
  | some sets => sets.any fun (negated, folds, members) => x.hasOne negated folds members i

/-- Search from a place on, at so many places. Places where the expression cannot start are passed
over. -/
def search (x : Setting) (starts? : Option (List (Bool × Bool × List Member))) :
    Nat → Nat → Search
  | 0, _ => noWay
  | places + 1, i => fun work =>
    if x.line.codes.size < i then (.failed, work)
    else if !x.canStart starts? i then search x starts? places (i + 1) work
    else
      match x.run maxDepth x.grammar.root { at_ := i, start := i } done work with
      | (.failed, work) | (.gaveUp .prune _, work) | (.gaveUp .branch _, work) =>
        search x starts? places (i + 1) work
      | (.gaveUp .skip j, work) => search x starts? places (max j (i + 1)) work
      | (.gaveUp .commit _, work) => (.failed, work)
      | other => other

/-- Whether there are as many codes from a place on as an expression needs, and among them those
that it needs. -/
def Setting.hasNeeded (x : Setting) (i : Nat) : Bool :=
  x.grammar.root.canAccept ||
    x.grammar.root.least ≤ x.line.codes.size - i &&
      x.grammar.root.needs.all fun (code, folds) =>
        (List.range (x.line.codes.size - i)).any fun k =>
          x.hasOne false folds [.range code code] (i + k)

/-- The first part of a line from a place on that an expression finds: where it starts and stops.
Nothing is known if it takes too much work. -/
def find? (g : Grammar) (l : Line) (i : Nat) : Option (Option (Nat × Nat)) :=
  let x : Setting := { grammar := g, line := l, begin := i }
  let first : Search :=
    if x.hasNeeded i then search x g.root.starts? (l.codes.size + 2) i else noWay
  match first maxWork with
  | (.found s, _) | (.accepted s, _) => some (some (s.start, max s.start s.at_))
  | (.exhausted, _) => none
  | _ => some none

end SessionHandoff.Tools.Searching.Perl
