import SessionHandoff.Proofs.Children.Run

/-!
# Waiting for all children

Waiting for all children takes them out of the registry before the first wait, and the first wait
that fails ends it. A wait fails for a child whose status somebody else has collected, so such a
child shields those registered after it: they are neither waited for nor held any more.

`ChildRegistry.collected_waitAll_iff` says which children are collected in the end,
`ChildRegistry.waitAll_leaves_none_behind_iff` when nobody is left behind, and
`ChildRegistry.waitAll_leaves_running_child` is the smallest run that leaves a running child behind.
-/

set_option autoImplicit false

namespace SessionHandoff.ChildRegistry

open ChildTable

variable {table : ChildTable} {child : ChildId}

/-- Waiting takes back no collected status. -/
theorem collected_waitEach (held : List ChildId) (collected : table.Collected child) :
    (waitEach table held).2.Collected child := by
  induction held generalizing table with
  | nil => exact collected
  | cons first rest ih =>
    unfold waitEach
    cases known : table[first]? with
    | none =>
      rw [show table.wait first = (.error .noChild, table) by rw [ChildTable.wait, known]]
      exact collected
    | some phase =>
      rcases wait_cases (List.getElem?_eq_some_iff.1 known).1 with
        ⟨-, refused⟩ | ⟨status, -, answered⟩
      · rw [refused]
        exact collected
      · rw [answered]
        exact ih (collected.modify (fun _ _ => rfl) first)

/-- A child is collected in the end if it was before, or if nothing before it in the registry
was. -/
theorem collected_waitEach_iff {before after : List ChildId}
    (nodup : (before ++ child :: after).Nodup)
    (known : ∀ held ∈ before ++ child :: after, held < table.length) :
    (waitEach table (before ++ child :: after)).2.Collected child ↔
      table.Collected child ∨ ∀ earlier ∈ before, ¬ table.Collected earlier := by
  induction before generalizing table with
  | nil =>
    have reached : (waitEach table (child :: after)).2.Collected child := by
      have started : child < table.length := known child (by simp)
      unfold waitEach
      rcases wait_cases started with ⟨collected, refused⟩ | ⟨status, -, answered⟩
      · rw [refused]
        exact collected
      · rw [answered]
        exact collected_waitEach after (collected_collect .registry started)
    exact ⟨fun _ => .inr (fun _ none => absurd none List.not_mem_nil), fun _ => reached⟩
  | cons first rest ih =>
    rw [List.cons_append, List.nodup_cons] at nodup
    have apart (other : ChildId) (held : other ∈ rest ++ child :: after) : first ≠ other :=
      fun same => nodup.1 (same ▸ held)
    rw [List.cons_append]
    unfold waitEach
    rcases wait_cases (known first (by simp)) with ⟨collected, refused⟩ | ⟨status, owed, answered⟩
    · -- the first wait fails, and the children behind it stay what they are
      rw [refused]
      constructor
      · exact .inl
      · rintro (already | none)
        · exact already
        · exact absurd collected (none first List.mem_cons_self)
    · -- the first wait succeeds, and changes nothing for the others
      rw [answered]
      have same (other : ChildId) (held : other ∈ rest ++ child :: after) :
          Collected (table.modify first (ChildPhase.collectedBy .registry)) other ↔
            table.Collected other :=
        collected_modify_of_ne _ (apart other held)
      refine (ih nodup.2 ?_).trans (or_congr (same child (by simp)) ?_)
      · intro other held
        rw [List.length_modify]
        exact known other (List.mem_cons_of_mem _ held)
      rw [List.forall_mem_cons]
      constructor
      · intro none
        refine ⟨owed, fun earlier inside collected => none earlier inside ?_⟩
        exact (same earlier (List.mem_append_left _ inside)).2 collected
      · rintro ⟨-, none⟩ earlier inside collected
        exact none earlier inside ((same earlier (List.mem_append_left _ inside)).1 collected)

/-- A held child ends up collected unless it is owed and stands behind one that somebody else has
collected. -/
theorem collected_waitAll_iff {r : ChildRegistry} (sound : r.Sound) {before after : List ChildId}
    (held : r.held = before ++ child :: after) :
    r.waitAll.2.table.Collected child ↔
      r.table.Collected child ∨ ∀ earlier ∈ before, ¬ r.table.Collected earlier := by
  have nodup := sound.nodup
  have known := sound.known
  rw [held] at nodup known
  show (waitEach r.table r.held).2.Collected child ↔ _
  rw [held]
  exact collected_waitEach_iff nodup known

/-- Waiting for all leaves no child behind (each has been collected or is still held) exactly if
every child registered after one that somebody else has collected has been collected as well. -/
theorem waitAll_leaves_none_behind_iff {r : ChildRegistry} (sound : r.Sound) :
    (∀ child ∈ r.held, r.waitAll.2.table.Collected child ∨ child ∈ r.waitAll.2.held) ↔
      r.held.Pairwise fun earlier later => r.table.Collected earlier → r.table.Collected later := by
  constructor
  · intro none
    rw [List.pairwise_iff_getElem]
    intro i j hi hj order earlier
    -- the later child stands behind all that is before its place
    have held : r.held = r.held.take j ++ r.held[j] :: r.held.drop (j + 1) := by
      rw [List.getElem_cons_drop, List.take_append_drop]
    rcases none r.held[j] (List.getElem_mem hj) with reached | kept
    · rcases (collected_waitAll_iff sound held).1 reached with already | first
      · exact already
      · have inside : r.held[i] ∈ r.held.take j :=
          List.mem_take_iff_getElem.2 ⟨i, by omega, rfl⟩
        exact absurd earlier (first _ inside)
    · exact absurd kept List.not_mem_nil
  · intro ordered child inside
    obtain ⟨before, after, held⟩ := List.append_of_mem inside
    refine .inl ((collected_waitAll_iff sound held).2 ?_)
    rw [held] at ordered
    by_cases already : r.table.Collected child
    · exact .inl already
    · refine .inr (fun earlier behind collected => already ?_)
      exact (List.pairwise_append.1 ordered).2.2 earlier behind child List.mem_cons_self collected

/-- Where somebody else has collected the last of the children held, waiting for all fails, but
leaves nobody behind. -/
theorem waitAll_leaves_none_behind_last_reaped :
    let r := run [.registered (.code 3), .registered (.signal 9), .reaped 1]
    r.Sound ∧ r.held = [0, 1] ∧ r.waitAll.1 = .error (.io (.system .noChild)) ∧
      ∀ child ∈ r.held, r.waitAll.2.table.Collected child ∨ child ∈ r.waitAll.2.held := by
  intro r
  have sound : r.Sound := Sound.run _
  refine ⟨sound, rfl, rfl, (waitAll_leaves_none_behind_iff sound).2 ?_⟩
  show [0, 1].Pairwise _
  refine .cons ?_ (.cons (fun _ none => absurd none List.not_mem_nil) .nil)
  intro later behind _
  rw [List.mem_singleton.1 behind]
  exact ⟨.other, .signal 9, rfl⟩

/-- With two children of which somebody else has collected the first, waiting for all fails, holds
no child any more, and has left the second one running. -/
theorem waitAll_leaves_running_child :
    let r := run [.registered (.code 1), .registered (.code 0), .reaped 0]
    r.held = [0, 1] ∧ r.waitAll.1 = .error (.io (.system .noChild)) ∧ r.waitAll.2.held = [] ∧
      r.waitAll.2.table[1]? = some (.running (.code 0)) ∧
      ¬ ∀ child ∈ r.held, r.waitAll.2.table.Collected child ∨ child ∈ r.waitAll.2.held := by
  refine ⟨rfl, rfl, rfl, rfl, fun none => ?_⟩
  rcases none 1 (List.mem_cons_of_mem _ List.mem_cons_self) with ⟨_, _, found⟩ | kept
  · cases found
  · exact absurd kept List.not_mem_nil

end SessionHandoff.ChildRegistry
