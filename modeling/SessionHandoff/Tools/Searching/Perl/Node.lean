import SessionHandoff.Characters.Category
import SessionHandoff.Characters.Script
import SessionHandoff.Tools.Searching.Expression
import SessionHandoff.Tools.Searching.Perl.Fault

/-!
# Expressions in the manner of Perl

The expressions of the richer dialect. They tell not only what stands in a line but also in which
order the ways to match are tried, so the first way that works decides what is found.
-/

set_option autoImplicit false

namespace SessionHandoff.Tools.Searching.Perl

open Characters (Charset Kind)

/-! ## Sets of characters -/

/-- A property of characters in general. -/
inductive Property where
  | any
  /-- A general category, or the first letter of some. -/
  | category (name : String)
  /-- A letter that is small, capital or the capital of a pair. -/
  | cased
  | script (name : String)
  | alnum | space | word
deriving DecidableEq, Repr

/-- Whether a code has a property. -/
def Property.holds (p : Property) (n : Nat) : Bool :=
  let category := Characters.category n
  match p with
  | .any => true
  | .category name => category.startsWith name
  | .cased => ["Lu", "Ll", "Lt"].contains category
  | .script name => Text.inRanges n ((Characters.scripts.lookup name).getD [])
  | .alnum => category.startsWith "L" || category.startsWith "N"
  | .word => category.startsWith "L" || category.startsWith "N" || n = 95
  | .space => category.startsWith "Z" || 9 ≤ n && n ≤ 13 || n = 0x85

/-- A class of characters with a sign or a name of its own. -/
inductive Class where
  | digit | word | blank
  /-- Blanks that go across. -/
  | across
  /-- Blanks that go down. -/
  | down
  | ascii
  | kind (k : Kind)
  | property (p : Property)
deriving DecidableEq, Repr

/-- The ranges of blanks that go across. -/
def acrossRanges : List (Nat × Nat) :=
  [(9, 9), (32, 32), (0xA0, 0xA0), (0x1680, 0x1680), (0x180E, 0x180E), (0x2000, 0x200A),
    (0x202F, 0x202F), (0x205F, 0x205F), (0x3000, 0x3000)]

/-- The ranges of blanks that go down. -/
def downRanges : List (Nat × Nat) :=
  [(10, 13), (0x85, 0x85), (0x2028, 0x2029)]

/-- What a kind becomes where it is meant for all characters. -/
def wideKind (k : Kind) (n : Nat) : Bool :=
  let category := Characters.category n
  match k with
  | .alpha => Property.holds (.category "L") n
  | .lower => Property.holds (.category "Ll") n
  | .upper => Property.holds (.category "Lu") n
  | .alnum => Property.holds .alnum n
  | .space => Property.holds .space n
  | .blank => Text.inRanges n acrossRanges
  | .digit => Property.holds (.category "Nd") n
  | .cntrl => category = "Cc"
  | .punct => category.startsWith "P" || n < 128 && category.startsWith "S"
  | .print => !(category.startsWith "C" || category = "Zl" || category = "Zp") || category = "Cf"
  | .graph => !(category.startsWith "C" || category.startsWith "Z") || category = "Cf"
  | .xdigit => Kind.holds .xdigit n

/-- Whether a code is in a class. Classes are meant for ASCII or, if they are wide, for all
characters. -/
def Class.holds (wide : Bool) (n : Nat) : Class → Bool
  | .digit => if wide then Property.holds (.category "Nd") n else Kind.holds .digit n
  | .word =>
    if wide then Property.holds .word n
    else n < 128 && (Kind.holds .alnum n || n = 95)
  | .blank => if wide then Property.holds .space n else n < 128 && Kind.holds .space n
  | .across => Text.inRanges n acrossRanges
  | .down => Text.inRanges n downRanges
  | .ascii => n < 128
  | .kind k => if wide then wideKind k n else n < 128 && k.holds n
  | .property p => p.holds n

/-- A member of a set. -/
inductive Member where
  | range (least greatest : Nat)
  | class_ (negated wide : Bool) (c : Class)
deriving DecidableEq, Repr

/-- Whether a code is what a member stands for. -/
def Member.holds (n : Nat) : Member → Bool
  | .range least greatest => least ≤ n && n ≤ greatest
  | .class_ negated wide c => c.holds wide n != negated

/-! ## Small and capital letters -/

/-- The letters that have no other form although they are mapped to one. -/
def unfolded : List Nat := [0x130, 0x131]

/-- The form of a letter that stands for all its forms. -/
def folded (cs : Charset) (n : Nat) : Nat :=
  if unfolded.contains n then n else cs.toSmall (cs.toCapital n)

/-- The letters besides the small and the capital one that are forms of some letter. -/
def otherForms : List Nat :=
  [0xB5, 0x17F, 0x1C5, 0x1C8, 0x1CB, 0x1F2, 0x345, 0x3C2, 0x3D0, 0x3D1, 0x3D5, 0x3D6, 0x3F0, 0x3F1,
    0x3F4, 0x3F5, 0x1C80, 0x1C81, 0x1C82, 0x1C83, 0x1C84, 0x1C85, 0x1C86, 0x1C87, 0x1C88, 0x1E9B,
    0x1E9E, 0x1FBE, 0x2126, 0x212A, 0x212B]

/-- All forms of a letter. -/
def forms (cs : Charset) (n : Nat) : List Nat :=
  let f := folded cs n
  if unfolded.contains n then [n]
  else
    [n, f, cs.toCapital f] ++
      if cs = .utf8 then otherForms.filter fun m => folded cs m = f else []

/-! ## Nodes -/

/-- A condition on a place. -/
inductive Edge where
  | start | lineStart | stop | lineStop
  /-- The end, or before a line end that is the end. -/
  | nearStop
  /-- Where the search began. -/
  | begin
  | wordEdge (wide : Bool)
  | noWordEdge (wide : Bool)
deriving DecidableEq, Repr

/-- In which order numbers of repetitions are tried. -/
inductive Hurry where
  | greedy | lazy
  /-- As many as possible, and no other number. -/
  | possessive
deriving DecidableEq, Repr

/-- What gives a search up. -/
inductive Cut where
  /-- The search as a whole. -/
  | commit
  /-- All ways from where it began. -/
  | prune
  /-- All ways from where it began up to this place. -/
  | skip
  /-- This branch. -/
  | branch
deriving DecidableEq, Repr

/-- A group that is referred to. -/
inductive Reference where
  | number (n : Nat)
  | name (s : String)
deriving DecidableEq, Repr

/-- What chooses between two expressions. -/
inductive Test where
  /-- Whether a group has matched. -/
  | isSet (r : Reference)
  /-- Whether a group is being called, or any. -/
  | isCalled (r? : Option Reference)
  | never
  | always
deriving DecidableEq, Repr

/-- An expression. -/
inductive Node where
  | empty
  /-- One code. -/
  | one (negated folds : Bool) (members : List Member)
  | edge (e : Edge)
  /-- A line end of any kind. -/
  | anyLineEnd
  /-- A character with the marks that belong to it. -/
  | cluster
  | seq (first second : Node)
  | either (left right : Node)
  | times (e : Node) (least : Nat) (most? : Option Nat) (hurry : Hurry)
  | group (number : Nat) (e : Node)
  /-- The first way to match, without any other. -/
  | atomic (e : Node)
  /-- Whether something matches from here on. -/
  | ahead (wanted : Bool) (e : Node)
  /-- Whether something matches up to here. -/
  | behind (wanted : Bool) (e : Node)
  /-- What a group stood for. -/
  | again (r : Reference) (folds : Bool)
  /-- The expression of a group; zero is the whole expression. -/
  | call (r : Reference)
  | choice (t : Test) (yes no : Node)
  /-- A choice by a condition that is an expression. -/
  | choose (condition yes no : Node)
  /-- What is found begins here. -/
  | keep
  | fail
  /-- What is found ends here. -/
  | accept
  | cut (c : Cut)
deriving Repr, Inhabited

/-- An expression with its groups. -/
structure Grammar where
  root : Node
  /-- The names of groups, with their numbers. -/
  names : List (String × Nat) := []
  /-- How many groups there are. -/
  count : Nat := 0
deriving Inhabited

namespace Node

/-- The expressions between the bars of an expression. -/
def branches : Node → List Node
  | .either a b => a :: b.branches
  | e => [e]

/-- The expression of a group. -/
def groupOf? (number : Nat) : Node → Option Node
  | .group n e => if n = number then some (.group n e) else e.groupOf? number
  | .seq a b | .either a b | .choice _ a b =>
    (a.groupOf? number).orElse fun _ => b.groupOf? number
  | .choose c a b => (c.groupOf? number).orElse fun _ =>
    (a.groupOf? number).orElse fun _ => b.groupOf? number
  | .times e _ _ _ | .atomic e | .ahead _ e | .behind _ e => e.groupOf? number
  | _ => none

/-- The references in an expression. -/
def references : Node → List Reference
  | .again r _ | .call r => [r]
  | .seq a b | .either a b => a.references ++ b.references
  | .choice t a b =>
    (match t with
      | .isSet r => [r]
      | .isCalled (some r) => [r]
      | _ => []) ++ a.references ++ b.references
  | .choose c a b => c.references ++ a.references ++ b.references
  | .times e _ _ _ | .group _ e | .atomic e | .ahead _ e | .behind _ e => e.references
  | _ => []

/-- What the looks behind in an expression look for. -/
def behinds : Node → List Node
  | .behind _ e => e :: e.behinds
  | .seq a b | .either a b | .choice _ a b => a.behinds ++ b.behinds
  | .choose c a b => c.behinds ++ a.behinds ++ b.behinds
  | .times e _ _ _ | .group _ e | .atomic e | .ahead _ e => e.behinds
  | _ => []

/-- Whether sets of codes come to one code. -/
def isOneCode : List (Bool × Bool × List Member) → Bool
  | [(false, _, [.range a b])] => a = b
  | _ => false

/-- The codes of which one stands at the start of whatever an expression matches, as sets, if that
is known. Behind what gives a search up only a single code is made use of. -/
def starts? : Node → Option (List (Bool × Bool × List Member))
  | .one negated folds members => some [(negated, folds, members)]
  | .seq (.edge _) e | .seq .empty e => e.starts?
  | .seq (.cut _) e => e.starts?.filter isOneCode
  | .seq e _ => e.starts?
  | .either a b => do return (← a.starts?) ++ (← b.starts?)
  | .times e least _ _ => if least = 0 then none else e.starts?
  | .group _ e | .atomic e => e.starts?
  | _ => none

/-- The codes that stand in whatever an expression matches, each with whether its other forms will
do. -/
def needs : Node → List (Nat × Bool)
  | .one false folds [.range a b] => if a = b then [(a, folds)] else []
  | .seq .accept _ => []
  | .seq a b => a.needs ++ b.needs
  | .either a b => a.needs.filter b.needs.contains
  | .times e least _ _ => if least = 0 then [] else e.needs
  | .group _ e | .atomic e => e.needs
  | _ => []

/-- How many codes at least an expression matches. -/
def least : Node → Nat
  | .one _ _ _ | .anyLineEnd | .cluster => 1
  | .seq a b => a.least + b.least
  | .either a b | .choice _ a b | .choose _ a b => min a.least b.least
  | .times e n _ _ => n * e.least
  | .group _ e | .atomic e => e.least
  | _ => 0

/-- Whether an expression can be accepted before its end. -/
def canAccept : Node → Bool
  | .accept => true
  | .seq a b | .either a b | .choice _ a b => a.canAccept || b.canAccept
  | .choose c a b => c.canAccept || a.canAccept || b.canAccept
  | .times e _ _ _ | .group _ e | .atomic e | .ahead _ e | .behind _ e => e.canAccept
  | _ => false

/-- An expression for all of some in turn. -/
def sequence : List Node → Node
  | [] => .empty
  | [e] => e
  | e :: rest => .seq e (sequence rest)

end Node

/-- The grammar for lines that match as a whole. -/
def Grammar.wholeLine (g : Grammar) : Grammar :=
  { g with root := .seq (.edge .start) (.seq g.root (.edge .stop)) }

/-- The numbers of the groups that a reference means. -/
def Grammar.numbers (g : Grammar) : Reference → List Nat
  | .number n => if n ≤ g.count then [n] else []
  | .name s => (g.names.filter (·.1 = s)).map (·.2)

/-- Whether a reference means no group. -/
def Grammar.misses (g : Grammar) (r : Reference) : Bool :=
  (g.numbers r).isEmpty

/-- How deep expressions are looked into for their width. -/
def maxWidthDepth : Nat := 1000

/-- The number of characters that an expression matches, if there is only one, looking so deep. What
follows a node that ends the match does not count. -/
def Grammar.widthWithin (g : Grammar) : Nat → Node → Except Fault Nat
  | 0, _ => .error .lookBehind
  | depth + 1, node =>
    match node with
    | .one _ _ _ => .ok 1
    | .seq .fail _ | .seq .accept _ => .ok 0
    | .seq a b => do
      let n ← g.widthWithin depth a
      return n + (← g.widthWithin depth b)
    | .either a b | .choice _ a b | .choose _ a b => do
      let n ← g.widthWithin depth a
      let m ← g.widthWithin depth b
      if n = m then return n else throw .lookBehind
    | .times (.ahead _ _) _ _ _ => .ok 0
    | .times e least most? _ => do
      let n ← g.widthWithin depth e
      if most? = some least then return n * least else throw .lookBehind
    | .group _ e | .atomic e => g.widthWithin depth e
    | .again r _ | .call r =>
      match g.numbers r with
      | [] => .error .reference
      | [n] =>
        match if n = 0 then none else g.root.groupOf? n with
        | some e => g.widthWithin depth e
        | none => .error .lookBehind
      | _ => .error .lookBehind
    | .anyLineEnd | .cluster => .error .lookBehind
    | .empty | .edge _ | .ahead _ _ | .behind _ _ | .keep | .fail | .accept | .cut _ => .ok 0

/-- The number of characters that an expression matches, if there is only one. -/
def Grammar.width (g : Grammar) (e : Node) : Except Fault Nat :=
  g.widthWithin maxWidthDepth e

end SessionHandoff.Tools.Searching.Perl
