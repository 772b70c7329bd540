import SessionHandoff.Proofs.Json.Complete
import SessionHandoff.Proofs.Profile.Transfer

/-!
# Transfers that break off

A sink that takes `n` bytes in all is given the first `n` bytes of what is written, in whatever
portions, and its writer hears of success only when that was everything
(`ByteSink.writeFrom_of_capacity`). What arrived of a profile that was not written whole is no JSON
text, so no reader takes it for a profile, and fills no field with a default
(`LaunchProfile.broken_transfer_refused`).
-/

set_option autoImplicit false

namespace SessionHandoff

/-! ## Sinks with a bound -/

namespace ByteSink

/-- What a sink does that takes `n` bytes in all: when it has them it takes nothing, and before it
takes some of what is offered and stays within its bound. -/
theorem offer_of_capacity {sink : ByteSink} {n : Nat} (hcapacity : sink.capacity = some n)
    (taken : Nat) {offered : Nat} (hoffered : 0 < offered) :
    (n ≤ taken ∧ ∀ k, sink.offer taken offered ≠ .ok (k + 1)) ∨
      (taken < n ∧ ∃ k, sink.offer taken offered = .ok (k + 1) ∧ k + 1 ≤ offered ∧
        taken + (k + 1) ≤ n) := by
  obtain ⟨most, hle, hpos, hoffer⟩ := exists_portion sink taken offered
  have hmost := hpos hoffered
  rw [hcapacity] at hoffer
  dsimp only at hoffer
  by_cases hfull : n ≤ taken
  · refine Or.inl ⟨hfull, fun k hk => ?_⟩
    rw [hoffer, if_pos ⟨by omega, hfull⟩] at hk
    split at hk <;> cases hk
  · refine Or.inr ⟨by omega, min most (n - taken) - 1, ?_, by omega, by omega⟩
    rw [hoffer, if_neg (by omega)]
    exact congrArg Except.ok (by omega)

/-- A sink that takes `n` bytes in all is given the first of them, and writing succeeds exactly when
these are all. -/
theorem writeFrom_of_capacity {sink : ByteSink} {n : Nat} (hcapacity : sink.capacity = some n)
    (taken : Nat) (bytes : Bytes) :
    (sink.writeFrom taken bytes).1 = bytes.take (n - taken) ∧
      ((sink.writeFrom taken bytes).2 = .ok () ↔ bytes.length ≤ n - taken) := by
  -- The rounds of the loop; what was taken and the room that is left always sum up to `n`.
  fun_induction writeFrom sink taken bytes with
  | case1 taken => simp
  | case2 taken bytes hne e hoffer =>
    rcases offer_of_capacity hcapacity taken (List.length_pos_iff.2 hne) with
      ⟨hfull, -⟩ | ⟨-, k, hk, -, -⟩
    · have hroom : n - taken = 0 := by omega
      simp [hroom, hne]
    · rw [hoffer] at hk
      cases hk
  | case3 taken bytes hne hoffer =>
    rcases offer_of_capacity hcapacity taken (List.length_pos_iff.2 hne) with
      ⟨hfull, -⟩ | ⟨-, k, hk, -, -⟩
    · have hroom : n - taken = 0 := by omega
      simp [hroom, hne]
    · rw [hoffer] at hk
      cases hk
  | case4 taken bytes hne k hoffer rest ih =>
    rcases offer_of_capacity hcapacity taken (List.length_pos_iff.2 hne) with
      ⟨-, hnone⟩ | ⟨-, k', hk, hle, hroom⟩
    · exact absurd hoffer (hnone k)
    · rw [hoffer] at hk
      cases hk
      obtain ⟨harrived, hresult⟩ := ih
      constructor
      · have hsplit : n - taken = (k + 1) + (n - (taken + (k + 1))) := by omega
        rw [hsplit, List.take_add (i := k + 1)]
        exact congrArg (bytes.take (k + 1) ++ ·) harrived
      · rw [hresult, List.length_drop]
        omega

/-- Bytes are delivered as far as the sink takes them, and delivery succeeds exactly when it took
all of them and was flushed. -/
theorem deliver_of_capacity {sink : ByteSink} {n : Nat} (hcapacity : sink.capacity = some n)
    (bytes : Bytes) :
    (sink.deliver bytes).1 = bytes.take n ∧
      ((sink.deliver bytes).2 = .ok () ↔ bytes.length ≤ n ∧ sink.flushFault = none) := by
  obtain ⟨harrived, hresult⟩ := writeFrom_of_capacity hcapacity 0 bytes
  rw [Nat.sub_zero] at harrived hresult
  unfold deliver
  split
  · next arrived e heq =>
    rw [heq] at harrived hresult
    refine ⟨harrived, ?_⟩
    constructor
    · intro h
      cases h
    · rintro ⟨hle, -⟩
      cases hresult.2 hle
  · next arrived heq =>
    rw [heq] at harrived hresult
    have hle := hresult.1 rfl
    cases hflush : sink.flushFault with
    | some e =>
      refine ⟨harrived, ?_⟩
      constructor
      · intro h
        cases h
      · rintro ⟨-, h⟩
        cases h
    | none => exact ⟨harrived, fun _ => ⟨hle, rfl⟩, fun _ => rfl⟩

end ByteSink

/-! ## Sinks of any kind -/

namespace ByteSink

/-- What arrives is a beginning of what is written, whatever the sink does. -/
theorem writeFrom_prefix (sink : ByteSink) (taken : Nat) (bytes : Bytes) :
    (sink.writeFrom taken bytes).1 <+: bytes := by
  fun_induction writeFrom sink taken bytes with
  | case1 taken => exact List.nil_prefix
  | case2 taken bytes hne e hoffer => exact List.nil_prefix
  | case3 taken bytes hne hoffer => exact List.nil_prefix
  | case4 taken bytes hne k hoffer rest ih =>
    obtain ⟨unsent, hunsent⟩ := ih
    refine ⟨unsent, ?_⟩
    rw [List.append_assoc, hunsent, List.take_append_drop]

theorem deliver_prefix (sink : ByteSink) (bytes : Bytes) : (sink.deliver bytes).1 <+: bytes := by
  have hwrite := writeFrom_prefix sink 0 bytes
  unfold deliver
  split
  · next heq => rwa [heq] at hwrite
  · next heq =>
    rw [heq] at hwrite
    split
    · exact hwrite
    · exact hwrite

end ByteSink

/-! ## Profiles -/

namespace LaunchProfile

/-- A profile that carries a password is not begun to be written. -/
theorem write_of_password_ne_empty {p : LaunchProfile} (h : p.password ≠ "") (sink : ByteSink) :
    p.write sink = ⟨[], .error .plaintextPassword⟩ := by
  have htransmittable : ¬ p.isTransmittable = true := by simpa [isTransmittable] using h
  rw [write, ensureTransmittable, if_neg htransmittable]

/-- What was delivered of a profile to a sink that takes `n` bytes in all. -/
theorem write_of_capacity {p : LaunchProfile} (h : p.password = "") {sink : ByteSink} {n : Nat}
    (hcapacity : sink.capacity = some n) :
    (p.write sink).arrived = p.toBytes.take n ∧
      ((p.write sink).result = .ok () ↔ p.toBytes.length ≤ n ∧ sink.flushFault = none) := by
  rw [write_of_password_eq_empty h]
  obtain ⟨harrived, hresult⟩ := ByteSink.deliver_of_capacity hcapacity p.toBytes
  exact ⟨harrived, mapError_eq_ok.trans hresult⟩

/-- The beginning of a written profile is no JSON text. -/
theorem ofBytes_of_beginning (policy : DecodePolicy) {p : LaunchProfile} {part : Bytes}
    (hpart : part <+: p.toBytes) (hne : part ≠ p.toBytes) :
    ofBytes policy part = ⟨.error (.process .malformedProfile), []⟩ := by
  rw [ofBytes, Json.ofBytes?_eq_none_of_beginning p.readable_toJson hpart hne]

/-- Whatever became of writing a profile, a reader of what arrived sees no password. -/
theorem password_of_arrived {p : LaunchProfile} (hp : p.password = "") {sink : ByteSink}
    {policy : DecodePolicy} {q : LaunchProfile} {log : List LogRecord}
    (hread : ofBytes policy (p.write sink).arrived = ⟨.ok q, log⟩) : q.password = "" := by
  have harrived : (p.write sink).arrived <+: p.toBytes := by
    rw [write_of_password_eq_empty hp]
    exact sink.deliver_prefix p.toBytes
  by_cases hall : (p.write sink).arrived = p.toBytes
  · rw [hall, ofBytes_toBytes] at hread
    cases hread
    exact hp
  · rw [ofBytes_of_beginning policy harrived hall] at hread
    cases hread

/-- Behind a written profile space is skipped, and nothing else may stand there. -/
theorem ofBytes_toBytes_append (policy : DecodePolicy) (p : LaunchProfile) (rest : Bytes) :
    ofBytes policy (p.toBytes ++ rest) =
      if rest.all Json.isSpaceByte then ⟨.ok p.wireNormalized, []⟩
      else ⟨.error (.process .malformedProfile), []⟩ := by
  have hread : Json.ofBytes? (p.toBytes ++ rest) =
      if rest.all Json.isSpaceByte then some p.toJson else none :=
    Json.ofBytes?_toBytes_append p.readable_toJson rest
  rw [ofBytes, hread]
  by_cases hspace : rest.all Json.isSpaceByte = true
  · rw [if_pos hspace, if_pos hspace]
    exact ofJson_toJson policy p
  · rw [if_neg hspace, if_neg hspace]

/-- **A broken transfer is never taken for a profile.** A profile that carries a password is refused
before the first byte. Any other is delivered as far as its sink takes it, with success exactly when
all of it arrived and was flushed. Where its bytes break off they are refused under both policies,
with no field filled by a default, and behind all of its bytes only space may stand. -/
theorem broken_transfer_refused (p : LaunchProfile) :
    (p.password ≠ "" → ∀ sink : ByteSink, p.write sink = ⟨[], .error .plaintextPassword⟩) ∧
    (p.password = "" →
      (∀ (sink : ByteSink) (n : Nat), sink.capacity = some n →
        (p.write sink).arrived = p.toBytes.take (min n p.toBytes.length) ∧
        ((p.write sink).result = .ok () ↔
          (p.write sink).arrived = p.toBytes ∧ sink.flushFault = none)) ∧
      ∀ policy : DecodePolicy,
        (∀ (source : ByteSource) (part : Bytes), source.readToEnd = .ok part →
          part <+: p.toBytes → part ≠ p.toBytes →
          readProfile policy source = ⟨.error (.process .malformedProfile), []⟩) ∧
        ∀ (source : ByteSource) (rest : Bytes), source.readToEnd = .ok (p.toBytes ++ rest) →
          readProfile policy source =
            if rest.all Json.isSpaceByte then ⟨.ok p.wireNormalized, []⟩
            else ⟨.error (.process .malformedProfile), []⟩) := by
  refine ⟨write_of_password_ne_empty, fun hp => ⟨?_, fun policy => ⟨?_, ?_⟩⟩⟩
  · intro sink n hcapacity
    obtain ⟨harrived, hresult⟩ := write_of_capacity hp hcapacity
    have hall : p.toBytes.take n = p.toBytes ↔ p.toBytes.length ≤ n := by
      constructor
      · intro h
        have hlength := congrArg List.length h
        rw [List.length_take] at hlength
        omega
      · exact List.take_of_length_le
    exact ⟨by rw [harrived, List.take_eq_take_min], by rw [hresult, harrived, hall]⟩
  · intro source part hsource hpart hne
    rw [readProfile, hsource]
    exact ofBytes_of_beginning policy hpart hne
  · intro source rest hsource
    rw [readProfile, hsource]
    exact ofBytes_toBytes_append policy p rest

/-- A sink that is full after the first of the two bytes of a character, a reader of what arrived
there, and a reader of the whole with two characters of space behind it. -/
theorem broken_transfer_refused_inside_character :
    let p : LaunchProfile := { executable := "é" }
    let sink : ByteSink := { capacity := some 296, portion := fun _ => some 100 }
    p.password = "" ∧ (p.write sink).arrived = p.toBytes.take 296 ∧
      (p.write sink).result ≠ .ok () ∧
      readProfile .bestEffort (.ofBytes (p.write sink).arrived) =
        ⟨.error (.process .malformedProfile), []⟩ ∧
      readProfile .bestEffort (.ofBytes (p.toBytes ++ [0x20, 0x0A])) =
        ⟨.ok p.wireNormalized, []⟩ := by
  intro p sink
  obtain ⟨-, hempty⟩ := broken_transfer_refused p
  obtain ⟨hsink, hread⟩ := hempty rfl
  obtain ⟨hbroken, hspace⟩ := hread .bestEffort
  have hlength : p.toBytes.length = 313 := by decide +kernel
  have hsource : ∀ bytes, (ByteSource.ofBytes bytes).readToEnd = .ok bytes := by
    intro bytes
    simp [ByteSource.ofBytes, ByteSource.readToEnd]
  obtain ⟨harrived, hresult⟩ := hsink sink 296 rfl
  rw [hlength] at harrived
  have hne : p.toBytes.take 296 ≠ p.toBytes := by
    intro h
    have := congrArg List.length h
    rw [List.length_take, hlength] at this
    omega
  refine ⟨rfl, harrived, ?_, ?_, ?_⟩
  · intro h
    exact hne (harrived ▸ (hresult.1 h).1)
  · rw [harrived]
    exact hbroken _ _ (hsource _) (List.take_prefix _ _) hne
  · rw [hspace _ _ (hsource _)]
    rfl

end LaunchProfile

end SessionHandoff
