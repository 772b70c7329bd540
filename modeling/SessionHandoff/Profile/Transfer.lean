import SessionHandoff.Profile.Wire

/-!
# Moving profiles over a channel

A channel that takes bytes is a `ByteSink`: it takes so many bytes in all, in portions of any size,
then fails or takes nothing more, and may fail when it is flushed. A channel that gives bytes is a
`ByteSource`: it gives pieces and then ends or fails.

`LaunchProfile.write` puts the whole written form of a profile without password onto a sink and
reports success only after all of it was taken and flushed. `readProfile` takes a source to its end
and reads one profile from all its bytes.
-/

set_option autoImplicit false

namespace SessionHandoff

/-! ## Sinks -/

/-- What a sink does when it takes no more bytes. -/
inductive FullSink where
  | fails (e : IoError)
  | takesNothing
deriving DecidableEq, Repr

/-- A channel that takes bytes. -/
structure ByteSink where
  /-- How many bytes it takes in all, if there is a bound. -/
  capacity : Option Nat := none
  /-- The most it takes at once when it has taken so many bytes before, if there is a bound. It
  takes at least one. -/
  portion : Nat → Option Nat := fun _ => none
  whenFull : FullSink := .takesNothing
  /-- How flushing fails, if it does. -/
  flushFault : Option IoError := none

namespace ByteSink

/-- How many of the offered bytes the sink takes when it has taken `taken` before. -/
def offer (sink : ByteSink) (taken offered : Nat) : Except IoError Nat :=
  let most := match sink.portion taken with
    | none => offered
    | some n => min offered (max 1 n)
  match sink.capacity with
  | none => .ok most
  | some n =>
    if offered ≠ 0 ∧ n ≤ taken then
      match sink.whenFull with
      | .fails e => .error e
      | .takesNothing => .ok 0
    else .ok (min most (n - taken))

/-- Offer bytes until all are taken. Returns the bytes that were taken and the outcome. -/
def writeFrom (sink : ByteSink) (taken : Nat) (bytes : Bytes) : Bytes × Except IoError Unit :=
  if bytes = [] then ([], .ok ())
  else
    match sink.offer taken bytes.length with
    | .error e => ([], .error e)
    | .ok 0 => ([], .error .nothingTaken)
    | .ok (n + 1) =>
      let rest := sink.writeFrom (taken + (n + 1)) (bytes.drop (n + 1))
      (bytes.take (n + 1) ++ rest.1, rest.2)
termination_by bytes.length
decreasing_by
  have : bytes.length ≠ 0 := by simpa using ‹¬bytes = []›
  simp only [List.length_drop]
  omega

/-- Write bytes and flush. Returns the bytes that arrived and the outcome. -/
def deliver (sink : ByteSink) (bytes : Bytes) : Bytes × Except IoError Unit :=
  match sink.writeFrom 0 bytes with
  | (arrived, .error e) => (arrived, .error e)
  | (arrived, .ok ()) =>
    match sink.flushFault with
    | some e => (arrived, .error e)
    | none => (arrived, .ok ())

end ByteSink

/-- What arrived at a sink, and the outcome for its writer. -/
structure Delivery where
  arrived : Bytes
  result : Except LaunchError Unit

/-- The bytes of a written profile. -/
def LaunchProfile.toBytes (p : LaunchProfile) : Bytes :=
  p.toJson.toBytes

/-- Refuse a profile that still carries a password. -/
def LaunchProfile.ensureTransmittable (p : LaunchProfile) : Except LaunchError Unit :=
  if p.isTransmittable then .ok () else .error .plaintextPassword

/-- Write a profile without password onto a sink. -/
def LaunchProfile.write (p : LaunchProfile) (sink : ByteSink) : Delivery :=
  match p.ensureTransmittable with
  | .error e => ⟨[], .error e⟩
  | .ok () =>
    let d := sink.deliver p.toBytes
    ⟨d.1, d.2.mapError .io⟩

/-! ## Sources -/

/-- A channel that gives bytes. -/
structure ByteSource where
  pieces : List Bytes
  /-- How the channel fails after its last piece, if it does not end there. -/
  fault : Option IoError := none
deriving Repr

namespace ByteSource

/-- A source that gives a content in one piece. -/
def ofBytes (content : Bytes) : ByteSource := ⟨[content], none⟩

/-- The content cut into pieces of a positive size. -/
def cut (size : Nat) (content : Bytes) : List Bytes :=
  if content = [] ∨ size = 0 then []
  else content.take size :: cut size (content.drop size)
termination_by content.length
decreasing_by
  rename_i h
  have : content.length ≠ 0 := by
    intro h'
    exact h (Or.inl (List.eq_nil_of_length_eq_zero h'))
  have : size ≠ 0 := fun h' => h (Or.inr h')
  simp only [List.length_drop]
  omega

/-- All bytes up to the end of the channel. -/
def readToEnd (source : ByteSource) : Except IoError Bytes :=
  match source.fault with
  | some e => .error e
  | none => .ok source.pieces.flatten

end ByteSource

/-- The profile that bytes hold. -/
def LaunchProfile.ofBytes (policy : DecodePolicy) (bytes : Bytes) : Logged LaunchProfile :=
  match Json.ofBytes? bytes with
  | none => ⟨.error (.process .malformedProfile), []⟩
  | some v => LaunchProfile.ofJson policy v

/-- Read a profile from a source that holds nothing else. -/
def readProfile (policy : DecodePolicy) (source : ByteSource) : Logged LaunchProfile :=
  match source.readToEnd with
  | .error e => ⟨.error (.io e), []⟩
  | .ok bytes => LaunchProfile.ofBytes policy bytes

end SessionHandoff
