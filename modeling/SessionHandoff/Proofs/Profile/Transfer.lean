import SessionHandoff.Profile.Transfer
import SessionHandoff.Proofs.Outcome
import SessionHandoff.Proofs.Profile.Wire

/-!
# A profile that was written is read

A sink takes bytes in portions, so a writing that succeeds went through a loop whose rounds are up
to the sink. Whatever the portions are, the bytes that arrived are the bytes of the profile
(`ByteSink.writeFrom_of_ok`), and a sink with room for them takes them all
(`ByteSink.writeFrom_of_room`). A source gives bytes in pieces, which its reader joins. Between the
two the profile survives up to its limits, under both policies and without a record
(`LaunchProfile.readProfile_of_write`).
-/

set_option autoImplicit false

namespace SessionHandoff

/-! ## Sinks -/

namespace ByteSink

/-- Whether the sink can take so many bytes and be flushed. -/
structure HasRoom (sink : ByteSink) (n : Nat) : Prop where
  capacity : ∀ c, sink.capacity = some c → n ≤ c
  flush : sink.flushFault = none

theorem hasRoom_of_unbounded {sink : ByteSink} (hcapacity : sink.capacity = none)
    (hflush : sink.flushFault = none) (n : Nat) : sink.HasRoom n := by
  refine ⟨fun c hc => ?_, hflush⟩
  rw [hcapacity] at hc
  cases hc

/-- A sink with room left takes its portion of what is offered: some of it and no more than it. -/
theorem exists_portion (sink : ByteSink) (taken offered : Nat) :
    ∃ most, most ≤ offered ∧ (0 < offered → 0 < most) ∧
      sink.offer taken offered =
        match sink.capacity with
        | none => .ok most
        | some n =>
          if offered ≠ 0 ∧ n ≤ taken then
            match sink.whenFull with
            | .fails e => .error e
            | .takesNothing => .ok 0
          else .ok (min most (n - taken)) := by
  unfold offer
  cases sink.portion taken with
  | none => exact ⟨offered, by omega, by omega, rfl⟩
  | some n => exact ⟨min offered (max 1 n), by omega, by omega, rfl⟩

/-- A sink takes no more than it is offered. -/
theorem offer_le {sink : ByteSink} {taken offered n : Nat} (h : sink.offer taken offered = .ok n) :
    n ≤ offered := by
  obtain ⟨most, hle, -, hoffer⟩ := exists_portion sink taken offered
  rw [hoffer] at h
  split at h
  · cases h
    exact hle
  · split at h
    · split at h <;> cases h
      exact Nat.zero_le _
    · cases h
      exact Nat.le_trans (Nat.min_le_left _ _) hle

/-- A sink with room for what is offered takes some of it. -/
theorem offer_of_room {sink : ByteSink} {taken offered : Nat} (hoffered : 0 < offered)
    (hroom : ∀ c, sink.capacity = some c → taken + offered ≤ c) :
    ∃ n, sink.offer taken offered = .ok (n + 1) := by
  obtain ⟨most, -, hmost, hoffer⟩ := exists_portion sink taken offered
  have hpos := hmost hoffered
  rw [hoffer]
  cases hcapacity : sink.capacity with
  | none => exact ⟨most - 1, congrArg Except.ok (by omega)⟩
  | some c =>
    have hc := hroom c hcapacity
    have hfull : ¬(offered ≠ 0 ∧ c ≤ taken) := by omega
    exact ⟨min most (c - taken) - 1, (if_neg hfull).trans (congrArg Except.ok (by omega))⟩

/-- When writing succeeds, the bytes that arrived are the bytes that were written. -/
theorem writeFrom_of_ok {sink : ByteSink} {taken : Nat} {bytes : Bytes}
    (h : (sink.writeFrom taken bytes).2 = .ok ()) : (sink.writeFrom taken bytes).1 = bytes := by
  fun_induction writeFrom sink taken bytes with
  | case1 taken => rfl
  | case2 taken bytes hne e hoffer => cases h
  | case3 taken bytes hne hoffer => cases h
  | case4 taken bytes hne n hoffer rest ih =>
    -- A round takes a beginning of the bytes, and the later rounds take the rest.
    simp only [rest] at h ⊢
    rw [ih h, List.take_append_drop]

/-- A sink with room takes all bytes, in whatever portions. -/
theorem writeFrom_of_room {sink : ByteSink} {taken : Nat} {bytes : Bytes}
    (h : ∀ c, sink.capacity = some c → taken + bytes.length ≤ c) :
    (sink.writeFrom taken bytes).2 = .ok () := by
  fun_induction writeFrom sink taken bytes with
  | case1 taken => rfl
  | case2 taken bytes hne e hoffer =>
    obtain ⟨n, hn⟩ := offer_of_room (List.length_pos_iff.2 hne) h
    rw [hoffer] at hn
    cases hn
  | case3 taken bytes hne hoffer =>
    obtain ⟨n, hn⟩ := offer_of_room (List.length_pos_iff.2 hne) h
    rw [hoffer] at hn
    cases hn
  | case4 taken bytes hne n hoffer rest ih =>
    -- What was taken came out of the room that was there for all of it.
    refine ih fun c hc => ?_
    have hle := offer_le hoffer
    have hroom := h c hc
    rw [List.length_drop]
    omega

/-- When bytes are written and flushed, they arrived. -/
theorem deliver_of_ok {sink : ByteSink} {bytes : Bytes} (h : (sink.deliver bytes).2 = .ok ()) :
    (sink.deliver bytes).1 = bytes := by
  have hwrite := @writeFrom_of_ok sink 0 bytes
  unfold deliver at h ⊢
  split at h
  · cases h
  · rename_i arrived heq
    rw [heq] at hwrite
    split at h
    · cases h
    · exact hwrite rfl

/-- A sink with room is written and flushed. -/
theorem deliver_of_room {sink : ByteSink} {bytes : Bytes} (h : sink.HasRoom bytes.length) :
    (sink.deliver bytes).2 = .ok () := by
  have hwrite : (sink.writeFrom 0 bytes).2 = .ok () :=
    writeFrom_of_room fun c hc => by rw [Nat.zero_add]; exact h.capacity c hc
  unfold deliver
  split
  · rename_i heq
    rw [heq] at hwrite
    cases hwrite
  · rw [h.flush]

end ByteSink

/-! ## Profiles -/

namespace LaunchProfile

variable {p : LaunchProfile}

theorem write_of_password_eq_empty (h : p.password = "") (sink : ByteSink) :
    p.write sink = ⟨(sink.deliver p.toBytes).1, (sink.deliver p.toBytes).2.mapError .io⟩ := by
  have htransmittable : p.isTransmittable = true := by rw [isTransmittable, h]; rfl
  rw [write, ensureTransmittable, if_pos htransmittable]

/-- The written form of a profile is read without fault, as the profile with its limits as the
reader sees them. -/
theorem ofJson_toJson (policy : DecodePolicy) (p : LaunchProfile) :
    ofJson policy p.toJson = ⟨.ok p.wireNormalized, []⟩ := by
  -- Without a fault the two policies do the same.
  rw [ofJson, reading_toJson]
  cases policy <;> rfl

theorem ofBytes_toBytes (policy : DecodePolicy) (p : LaunchProfile) :
    ofBytes policy p.toBytes = ⟨.ok p.wireNormalized, []⟩ := by
  rw [ofBytes, toBytes, Json.ofBytes?_toBytes p.readable_toJson]
  exact ofJson_toJson policy p

/-- A sink with room is given the whole profile. -/
theorem write_of_room (h : p.password = "") {sink : ByteSink}
    (hroom : sink.HasRoom p.toBytes.length) : (p.write sink).result = .ok () := by
  rw [write_of_password_eq_empty h]
  simp only [ByteSink.deliver_of_room hroom]
  rfl

/-- What arrived when writing succeeded are the bytes of the profile. -/
theorem arrived_of_write (h : p.password = "") {sink : ByteSink}
    (hwrite : (p.write sink).result = .ok ()) : (p.write sink).arrived = p.toBytes := by
  rw [write_of_password_eq_empty h] at hwrite ⊢
  exact ByteSink.deliver_of_ok (mapError_eq_ok.1 hwrite)

/-- What a source gives that holds a written profile is that profile, its limits as the reader sees
them. -/
theorem readProfile_of_arrived (h : p.password = "") {sink : ByteSink} {source : ByteSource}
    (hwrite : (p.write sink).result = .ok ())
    (hsource : source.readToEnd = .ok (p.write sink).arrived) (policy : DecodePolicy) :
    readProfile policy source = ⟨.ok p.wireNormalized, []⟩ := by
  rw [readProfile, hsource, arrived_of_write h hwrite]
  exact ofBytes_toBytes policy p

/-- **A profile without password is written whole and read back.** A sink with room takes it, in
portions of any size. Whenever a sink took it, every source that gives what arrived, in any pieces,
is read under both policies without a record, and yields the profile with nothing changed but the
six limits that are written as numbers. -/
theorem readProfile_of_write (hp : p.password = "") (policy : DecodePolicy) :
    (∀ sink : ByteSink, sink.HasRoom p.toBytes.length → (p.write sink).result = .ok ()) ∧
    ∀ (sink : ByteSink) (source : ByteSource), (p.write sink).result = .ok () →
      source.readToEnd = .ok (p.write sink).arrived →
      readProfile policy source =
        ⟨.ok { p with config := { p.config with limits := p.config.limits.wireNormalized } }, []⟩ ∧
      p.config.limits.wireNormalized.priority = p.config.limits.priority ∧
      p.config.limits.wireNormalized.cpuAffinity = p.config.limits.cpuAffinity := by
  refine ⟨fun sink hroom => write_of_room hp hroom, fun sink source hwrite hsource => ?_⟩
  exact ⟨readProfile_of_arrived hp hwrite hsource policy, rfl, rfl⟩

/-- One profile with characters that are escaped and with limits on both sides of the greatest one,
written one byte at a time and read in one piece. -/
theorem readProfile_of_write_bytewise :
    let p : LaunchProfile :=
      { executable := "/bin/\"x\\"
        config :=
          { args := ["b\n", "a😀"], stdInput := String.ofList [Char.ofNat 0]
            limits :=
              { priority := -20, memoryBytes := some 9007199254740992
                stackBytes := some 9007199254740991, nice := some 0
                cpuAffinity := [true, false] } } }
    let sink : ByteSink := { portion := fun _ => some 1 }
    p.password = "" ∧
      readProfile .strict (.ofBytes (p.write sink).arrived) =
        ⟨.ok { p with config := { p.config with limits :=
          { priority := -20, stackBytes := some 9007199254740991
            cpuAffinity := [true, false] } } }, []⟩ := by
  intro p sink
  have hp : p.password = "" := rfl
  obtain ⟨hwrite, hread⟩ := readProfile_of_write hp .strict
  have hwritten := hwrite sink (ByteSink.hasRoom_of_unbounded rfl rfl _)
  obtain ⟨hprofile, -, -⟩ := hread sink (.ofBytes (p.write sink).arrived) hwritten
    (by simp [ByteSource.ofBytes, ByteSource.readToEnd])
  have hlimits : p.config.limits.wireNormalized =
      { priority := -20, stackBytes := some 9007199254740991, cpuAffinity := [true, false] } := by
    decide
  exact ⟨hp, by rw [hprofile, hlimits]⟩

end LaunchProfile

end SessionHandoff
