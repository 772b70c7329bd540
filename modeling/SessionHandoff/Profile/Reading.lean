import SessionHandoff.Json.Value
import SessionHandoff.Profile.WireField

/-!
# Reading fields

A reading is a value together with the faults met on the way, in order. A field that is missing or
wrong leaves a fault and a default, so one bad field hides no other. Readings are put together in
sequence and their faults are joined.

An integer may be written as an integer or as a double that is equal to one. What is read as a
signed integer is brought into the range of 64 bits.
-/

set_option autoImplicit false

namespace SessionHandoff

/-- A value and the faults met while reading it. -/
structure Reading (α : Type) where
  value : α
  faults : List FieldFault := []

namespace Reading

instance : Monad Reading where
  pure a := ⟨a, []⟩
  bind r f := ⟨(f r.value).value, r.faults ++ (f r.value).faults⟩

/-- A default in place of a field that cannot be read. -/
def fault {α : Type} (field : WireField) (problem : FieldProblem) (default : α) : Reading α :=
  ⟨default, [⟨field, problem⟩]⟩

@[simp] theorem value_pure {α : Type} (a : α) : (pure a : Reading α).value = a := rfl

@[simp] theorem faults_pure {α : Type} (a : α) : (pure a : Reading α).faults = [] := rfl

@[simp] theorem value_bind {α β : Type} (r : Reading α) (f : α → Reading β) :
    (r >>= f).value = (f r.value).value := rfl

@[simp] theorem faults_bind {α β : Type} (r : Reading α) (f : α → Reading β) :
    (r >>= f).faults = r.faults ++ (f r.value).faults := rfl

end Reading

/-! ## Numbers -/

namespace Json.Number

/-- The least signed integer of 64 bits. -/
def minSigned : Int := -9223372036854775808

/-- The greatest signed integer of 64 bits. -/
def maxSigned : Int := 9223372036854775807

/-- The nearest double, which exists for every integer of 64 bits. -/
def toDouble : Number → Option Binary64
  | .integer n _ =>
    (Binary64.nearest n.natAbs 1).map fun x => if n < 0 then x.negate else x
  | .double x => some x

/-- The integer that the nearest double is equal to, if it lies between -2^63 and 2^63; the upper
end is brought down to the greatest signed integer. -/
def integral? (n : Number) : Option Int :=
  (n.toDouble.bind Binary64.integer?).bind fun k =>
    if minSigned ≤ k ∧ k ≤ maxSigned + 1 then some (min k maxSigned) else none

/-- The number read as a signed integer of 64 bits. -/
def signed? (n : Number) : Option Int :=
  match n with
  | .integer k _ => if k ≤ maxSigned then some k else n.integral?
  | .double _ => n.integral?

/-- The number read as an unsigned integer of 64 bits. -/
def unsigned? (n : Number) : Option UInt64 :=
  let ofInteger (k : Int) : Option UInt64 := if 0 ≤ k then some k.toNat.toUInt64 else none
  match n with
  | .integer k _ => ofInteger k
  | .double _ => n.integral?.bind ofInteger

end Json.Number

/-! ## Fields of an object -/

namespace Json

/-- The members of a value that is an object. -/
def members? : Json → Option (List (String × Json))
  | .object members => some members
  | _ => none

/-- The text of a value that is a text. -/
def text? : Json → Option String
  | .text s => some s
  | _ => none

/-- The truth value of a value that is one. -/
def flag? : Json → Option Bool
  | .flag b => some b
  | _ => none

/-- The number of a value that is one. -/
def number? : Json → Option Number
  | .number n => some n
  | _ => none

/-- The items of a value that is an array. -/
def items? : Json → Option (List Json)
  | .array items => some items
  | _ => none

end Json

/-- The members in which fields are looked up; without an object every field is missing. -/
abbrev FieldSource := Option (List (String × Json))

namespace FieldSource

/-- The content of a field. -/
def get? (source : FieldSource) (field : WireField) : Option Json :=
  source.bind (Json.member? field.key)

/-- Read a field as what `convert` accepts. -/
def read {α : Type} (source : FieldSource) (field : WireField) (expected : Expectation)
    (convert : Json → Option α) (default : α) : Reading α :=
  match source.get? field with
  | none => .fault field .missing default
  | some v =>
    match convert v with
    | some a => pure a
    | none => .fault field (.mistyped expected) default

/-- Read a text. -/
def text (source : FieldSource) (field : WireField) : Reading String :=
  source.read field .text Json.text? ""

/-- Read a signed integer. -/
def integer (source : FieldSource) (field : WireField) : Reading Int :=
  source.read field .integer (fun v => v.number?.bind Json.Number.signed?) 0

/-- Read an unsigned integer. -/
def natural (source : FieldSource) (field : WireField) : Reading UInt64 :=
  source.read field .natural (fun v => v.number?.bind Json.Number.unsigned?) 0

/-- Read an object, in which further fields are looked up. -/
def object (source : FieldSource) (field : WireField) : Reading FieldSource :=
  source.read field .object (fun v => v.members?.map some) none

/-- Read an array. -/
def array (source : FieldSource) (field : WireField) : Reading (List Json) :=
  source.read field .array Json.items? []

/-- Read an array of texts; one item that is no text makes the whole field wrong. -/
def textArray (source : FieldSource) (field : WireField) : Reading (List String) := do
  let items ← source.array field
  match items.mapM Json.text? with
  | some texts => pure texts
  | none => .fault field (.mistyped .textArray) []

/-- Read an object of texts; one member that is no text makes the whole field wrong. -/
def textObject (source : FieldSource) (field : WireField) : Reading (List (String × String)) := do
  let members ← source.object field
  match (members.getD []).mapM fun e => e.2.text?.map (e.1, ·) with
  | some entries => pure entries
  | none => .fault field (.mistyped .textObject) []

end FieldSource

end SessionHandoff
