import Std.Data.HashSet
import SessionHandoff.Characters.Charset

/-!
# Regular expressions

A regular expression stands for parts of a line. Matching goes through the expression with all the
places that can be reached at once, so a line is matched without trying one way after the other. A
place remembers what the groups of the expression stood for, if something later asks for it.
-/

set_option autoImplicit false

namespace SessionHandoff.Tools.Searching

open Characters (Charset Kind)

/-- A condition on a place in a line. -/
inductive Edge where
  | lineStart | lineEnd | wordStart | wordEnd | wordEdge | noWordEdge
deriving DecidableEq, Repr

/-- What a set of codes has among its members: one, all from one to another, or all of a kind. -/
inductive Member where
  | code (n : Nat)
  | range (least greatest : Nat)
  | kind (k : Kind)
deriving DecidableEq, Repr

/-- A regular expression. -/
inductive Expression where
  | empty
  /-- One code that is a member of a set, or one that is none. -/
  | one (negated : Bool) (members : List Member)
  | edge (e : Edge)
  | seq (first second : Expression)
  | either (left right : Expression)
  /-- So often at least and, if there is such a bound, at most. -/
  | times (e : Expression) (least : Nat) (most? : Option Nat)
  | group (number : Nat) (e : Expression)
  /-- What a group stood for. -/
  | again (number : Nat)
deriving Repr, Inhabited

/-- A place in a line, with the parts that groups stood for. -/
structure Spot where
  at_ : Nat
  groups : List (Nat × Nat × Nat) := []
deriving BEq, Hashable

/-- A line to match in. -/
structure Line where
  codes : Array Nat
  charset : Charset := .octets
  /-- Whether small and capital letters are the same. -/
  folds : Bool := false

namespace Line

/-- Whether a code belongs to words. -/
def belongs (l : Line) (code : Nat) : Bool :=
  l.charset.isKind .alnum code || code = '_'.toNat

/-- Whether the code at a place belongs to words. -/
def isWord (l : Line) (i : Nat) : Bool :=
  (l.codes[i]?.map l.belongs).getD false

/-- Whether the code before a place belongs to words. -/
def isWordBefore (l : Line) (i : Nat) : Bool :=
  i ≠ 0 && l.isWord (i - 1)

/-- Whether a condition holds at a place. -/
def holds (l : Line) (i : Nat) : Edge → Bool
  | .lineStart => i = 0
  | .lineEnd => i = l.codes.size
  | .wordStart => !l.isWordBefore i && l.isWord i
  | .wordEnd => l.isWordBefore i && !l.isWord i
  | .wordEdge => l.isWordBefore i != l.isWord i
  | .noWordEdge => l.isWordBefore i == l.isWord i

/-- Whether a code is in a range. Where small and capital letters are the same, any form of an octet
may be in it, and the capital forms of characters are compared. -/
def isWithin (l : Line) (least greatest code : Nat) : Bool :=
  let within (n : Nat) : Bool := least ≤ n && n ≤ greatest
  if !l.folds then within code
  else
    match l.charset with
    | .octets => within code || within (l.charset.toSmall code) || within (l.charset.toCapital code)
    | .utf8 =>
      let capital := l.charset.toCapital
      capital least ≤ capital code && capital code ≤ capital greatest

/-- Whether a code is what a member stands for. -/
def isIn (l : Line) (code : Nat) : Member → Bool
  | .code n => l.isWithin n n code
  | .range least greatest => l.isWithin least greatest code
  | .kind k => l.charset.isKind (if l.folds && (k = .upper || k = .lower) then .alpha else k) code

/-- Whether one code of a set, or none of it, stands at a place. -/
def hasOne (l : Line) (negated : Bool) (members : List Member) (i : Nat) : Bool :=
  match l.codes[i]? with
  | none => false
  | some code =>
    if negated then code < Characters.strayBase && !members.any (l.isIn code)
    else members.any (l.isIn code)

/-- Whether two codes are the same. -/
def same (l : Line) (a b : Nat) : Bool :=
  a == b || l.folds && l.charset.toCapital a == l.charset.toCapital b

/-- Whether the part between two places stands again at a third one. -/
def repeats (l : Line) (start stop i : Nat) : Bool :=
  (List.range (stop - start)).all fun k =>
    match l.codes[start + k]?, l.codes[i + k]? with
    | some a, some b => l.same a b
    | _, _ => false

/-- The octets between two places. -/
def octets (l : Line) (start stop : Nat) : List Char :=
  (l.codes.extract start stop).toList.flatMap l.charset.octetsOf

/-- The number of octets before a place. -/
def offset (l : Line) (i : Nat) : Nat :=
  match l.charset with
  | .octets => i
  | .utf8 => (l.octets 0 i).length

/-- Whether all octets between two places belong to characters. -/
def isSound (l : Line) (start stop : Nat) : Bool :=
  (l.codes.extract start stop).all fun code => code < Characters.strayBase

end Line

/-- Each place once. -/
def distinct (spots : List Spot) : List Spot :=
  (spots.foldl (fun (acc : List Spot × Std.HashSet Spot) s =>
    if acc.2.contains s then acc else (s :: acc.1, acc.2.insert s)) ([], {})).1.reverse

/-- All places that a step leads to from some places when it is done any number of times. -/
def closure (step : List Spot → List Spot) : Nat → Std.HashSet Spot → List Spot → List Spot →
    List Spot
  | 0, _, found, _ => found
  | fuel + 1, seen, found, latest =>
    let new := (distinct (step latest)).filter fun s => !seen.contains s
    if new.isEmpty then found
    else closure step fuel (seen.insertMany new) (new ++ found) new

/-- The places that a step leads to when it is done so often. -/
def iterate (step : List Spot → List Spot) : Nat → List Spot → List Spot
  | 0, spots => spots
  | n + 1, spots => if spots.isEmpty then [] else iterate step n (distinct (step spots))

/-- The places that a step leads to when it is done at most so often. -/
def iterateUpTo (step : List Spot → List Spot) : Nat → List Spot → List Spot → List Spot
  | 0, found, _ => found
  | n + 1, found, latest =>
    let new := distinct (step latest)
    if new.isEmpty then found else iterateUpTo step n (distinct (found ++ new)) new

namespace Expression

/-- The places at which the expression can end when it starts at some places. -/
def ends (l : Line) : Expression → List Spot → List Spot
  | .empty, spots => spots
  | .one negated members, spots =>
    (spots.filter fun s => l.hasOne negated members s.at_).map fun s =>
      { s with at_ := s.at_ + 1 }
  | .edge e, spots => spots.filter fun s => l.holds s.at_ e
  | .seq first second, spots => second.ends l (first.ends l spots)
  | .either left right, spots => distinct (left.ends l spots ++ right.ends l spots)
  | .times e least most?, spots =>
    let step := e.ends l
    let start := iterate step least spots
    match most? with
    | some most => iterateUpTo step (most - least) start start
    | none =>
      closure step (2 * l.codes.size + 3) (Std.HashSet.ofList start) start start
  | .group number e, spots =>
    spots.flatMap fun s =>
      (e.ends l [s]).map fun t =>
        { t with groups := (number, s.at_, t.at_) :: t.groups.filter (·.1 ≠ number) }
  | .again number, spots =>
    spots.filterMap fun s =>
      match s.groups.lookup number with
      | some (start, stop) =>
        if l.repeats start stop s.at_ then some { s with at_ := s.at_ + (stop - start) } else none
      | none => none

/-- Whether a group is asked for again somewhere. -/
def asksAgain : Expression → Bool
  | .again _ => true
  | .seq a b | .either a b => a.asksAgain || b.asksAgain
  | .times e _ _ | .group _ e => e.asksAgain
  | _ => false

/-- Whether an expression can be matched octet by octet: it asks for no kinds of characters, no
ranges and no places at words. A character by itself is a row of octets; a set has one only if it is
a single octet. -/
def isOctetwise : Expression → Bool
  | .one true members => members.all (· == .code 10)
  | .one false members => members.all fun
    | .code _ => true
    | _ => false
  | .edge e => e = .lineStart || e = .lineEnd
  | .seq a b | .either a b => a.isOctetwise && b.isOctetwise
  | .times e _ _ | .group _ e => e.isOctetwise
  | .empty | .again _ => true

/-- What matches anything. -/
def anything : Expression := .times (.one true []) 0 none

/-- An expression that needs no looking back and can be matched code by code. It matches wherever
the given one does, and only there if that is such an expression itself. -/
def relaxed (cs : Charset) : Expression → Expression
  | .again _ => anything
  | .edge e => if cs = .octets || (edge e).isOctetwise then .edge e else .empty
  | .one negated members =>
    if cs = .octets || (one negated members).isOctetwise then .one negated members else anything
  | .seq a b => .seq (a.relaxed cs) (b.relaxed cs)
  | .either a b => .either (a.relaxed cs) (b.relaxed cs)
  | .times e least most? => .times (e.relaxed cs) least most?
  | .group _ e => e.relaxed cs
  | .empty => .empty

/-- Whether nothing is a match inside of a line. -/
def matchesNothing (e : Expression) : Bool :=
  (e.ends { codes := #[0, 0] } [{ at_ := 1 }]).any fun s => s.at_ = 1

/-- The expression without its groups. -/
def withoutGroups : Expression → Expression
  | .seq a b => .seq a.withoutGroups b.withoutGroups
  | .either a b => .either a.withoutGroups b.withoutGroups
  | .times e least most? => .times e.withoutGroups least most?
  | .group _ e => e.withoutGroups
  | e => e

/-- The expression with its groups only if something asks for them. -/
def simplified (e : Expression) : Expression :=
  if e.asksAgain then e else e.withoutGroups

/-- The expression for codes as they are. -/
def ofCodes : List Nat → Expression
  | [] => .empty
  | [c] => .one false [.code c]
  | c :: rest => .seq (.one false [.code c]) (ofCodes rest)

end Expression

end SessionHandoff.Tools.Searching
