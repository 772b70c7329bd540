import Mathlib.Data.List.Induction
import SessionHandoff.Proofs.Children.Collection

/-!
# No child is lost, and none counted twice

Every child that a registry ever held is accounted for: it is held, or its status has been
collected, once, by the registry or by somebody else.

Somebody else may collect a child that the registry still holds. The registry learns of it when it
next looks at its children, and until then the child is `ChildRegistry.Unseen`. Only waiting for all
suffers from such a child, so the results here are about runs that wait for all only when there is
none (`ChildRegistry.SeenBeforeWaiting`). `ChildRegistry.children_conserved` says what holds in all
of them.
-/

set_option autoImplicit false

namespace SessionHandoff

namespace ChildRegistry

open ChildTable

variable {table : ChildTable} {child : ChildId}

/-! ## Runs -/

/-- The registry looks at its children. -/
def Looks (e : RegistryEvent) : Prop := e = .counted ∨ e = .asked

/-- Somebody else has collected the child, and the registry has not looked at its children since. -/
def Unseen (events : List RegistryEvent) (child : ChildId) : Prop :=
  ∃ before after, events = before ++ .reaped child :: after ∧
    (run before).table.Owed child ∧ ∀ e ∈ after, ¬ Looks e

/-- Whenever the registry waits for all, it has looked at its children since somebody else has
collected one. -/
def SeenBeforeWaiting (events : List RegistryEvent) : Prop :=
  ∀ before after, events = before ++ .waited :: after → ∀ child, ¬ Unseen before child

section Runs

variable {events : List RegistryEvent} {e : RegistryEvent}

theorem run_concat (events : List RegistryEvent) (e : RegistryEvent) :
    run (events ++ [e]) = (run events).step e := by
  unfold run
  rw [List.foldl_append]
  rfl

/-- A place in a list with one more entry is the new one, or a place in the list before. -/
theorem concat_eq_append_cons_iff {x : RegistryEvent} {before after : List RegistryEvent} :
    events ++ [e] = before ++ x :: after ↔
      (events = before ∧ e = x ∧ after = []) ∨
        ∃ rest, after = rest ++ [e] ∧ events = before ++ x :: rest := by
  constructor
  · intro whole
    rcases List.eq_nil_or_concat' after with rfl | ⟨rest, last, rfl⟩
    · obtain ⟨same, new⟩ := List.append_inj' whole rfl
      exact .inl ⟨same, List.singleton_injective new, rfl⟩
    · rw [← List.cons_append, ← List.append_assoc] at whole
      obtain ⟨same, new⟩ := List.append_inj' whole rfl
      rw [List.singleton_injective new]
      exact .inr ⟨rest, rfl, same⟩
  · rintro (⟨rfl, rfl, rfl⟩ | ⟨rest, rfl, rfl⟩)
    · rfl
    · simp

theorem unseen_concat_iff :
    Unseen (events ++ [e]) child ↔
      ¬ Looks e ∧ (Unseen events child ∨ e = .reaped child ∧ (run events).table.Owed child) := by
  constructor
  · rintro ⟨before, after, whole, owed, quiet⟩
    rcases concat_eq_append_cons_iff.1 whole with ⟨rfl, rfl, rfl⟩ | ⟨rest, rfl, same⟩
    · exact ⟨by simp [Looks], .inr ⟨rfl, owed⟩⟩
    · refine ⟨quiet e List.mem_concat_self, .inl ⟨before, rest, same, owed, ?_⟩⟩
      intro e' inside
      exact quiet e' (List.mem_append_left _ inside)
  · rintro ⟨quiet, ⟨before, after, rfl, owed, earlier⟩ | ⟨rfl, owed⟩⟩
    · refine ⟨before, after ++ [e], by simp, owed, ?_⟩
      intro e' inside
      rcases List.mem_append.1 inside with old | new
      · exact earlier e' old
      · rw [List.mem_singleton.1 new]
        exact quiet
    · exact ⟨events, [], rfl, owed, fun e' none => absurd none List.not_mem_nil⟩

theorem seenBeforeWaiting_concat_iff :
    SeenBeforeWaiting (events ++ [e]) ↔
      SeenBeforeWaiting events ∧ (e = .waited → ∀ child, ¬ Unseen events child) := by
  constructor
  · intro seen
    constructor
    · rintro before after rfl
      exact seen before (after ++ [e]) (by simp)
    · rintro rfl
      exact seen events [] rfl
  · rintro ⟨seen, last⟩ before after whole
    rcases concat_eq_append_cons_iff.1 whole with ⟨rfl, same, -⟩ | ⟨rest, -, same⟩
    · exact last same
    · exact seen before rest same

/-- Right after a look at the children none is unseen. -/
theorem not_unseen_of_looks (looks : Looks e) (child : ChildId) :
    ¬ Unseen (events ++ [e]) child := by
  intro unseen
  exact (unseen_concat_iff.1 unseen).1 looks

/-- Events that do not wait for all may follow. -/
theorem SeenBeforeWaiting.append (seen : SeenBeforeWaiting events) {more : List RegistryEvent}
    (none : .waited ∉ more) : SeenBeforeWaiting (events ++ more) := by
  induction more using List.reverseRecOn with
  | nil => rwa [List.append_nil]
  | append_singleton more e ih =>
    rw [List.mem_append, not_or] at none
    rw [← List.append_assoc, seenBeforeWaiting_concat_iff]
    refine ⟨ih none.1, ?_⟩
    rintro rfl
    exact absurd (List.mem_singleton_self _) none.2

/-- A wait for all may follow right after a look at the children. -/
theorem SeenBeforeWaiting.waited (seen : SeenBeforeWaiting (events ++ [e])) (looks : Looks e) :
    SeenBeforeWaiting (events ++ [e] ++ [.waited]) :=
  seenBeforeWaiting_concat_iff.2 ⟨seen, fun _ => not_unseen_of_looks looks⟩

theorem seenBeforeWaiting_nil : SeenBeforeWaiting [] := by
  intro before after whole
  simp at whole

/-- An event other than a registration starts no child and adds none to those held. -/
theorem step_of_not_registered (r : ChildRegistry) (old : ∀ fate, e ≠ .registered fate) :
    (r.step e).table.length = r.table.length ∧ (r.step e).held.Sublist r.held := by
  cases e with
  | registered fate => exact absurd rfl (old fate)
  | counted => exact ⟨length_pollAll .., pollAll_sublist ..⟩
  | asked => exact ⟨length_pollAll .., pollAll_sublist ..⟩
  | waited => exact ⟨length_waitEach .., List.nil_sublist _⟩
  | finished child => exact ⟨List.length_modify .., List.Sublist.refl _⟩
  | killed child signal => exact ⟨List.length_modify .., List.Sublist.refl _⟩
  | reaped child => exact ⟨List.length_modify .., List.Sublist.refl _⟩

/-- The registry holds children in the order in which they were registered, each once. -/
theorem held_sublist (events : List RegistryEvent) :
    (run events).held.Sublist (List.range (run events).table.length) := by
  induction events using List.reverseRecOn with
  | nil => exact .slnil
  | append_singleton events e ih =>
    rw [run_concat]
    by_cases new : ∃ fate, e = .registered fate
    · obtain ⟨fate, rfl⟩ := new
      have grown : ((run events).step (.registered fate)).table.length =
          (run events).table.length + 1 := List.length_append
      rw [grown, List.range_succ]
      exact ih.append_right _
    · obtain ⟨same, fewer⟩ :=
        step_of_not_registered (run events) fun fate same => new ⟨fate, same⟩
      rw [same]
      exact fewer.trans ih

/-- A registered child is held unless it has been collected, or while it is unseen. -/
def Holds (r : ChildRegistry) (unseen : ChildId → Prop) : Prop :=
  ∀ child, child ∈ r.held ↔
    child < r.table.length ∧ (r.table.Collected child → unseen child)

section Steps

variable {r : ChildRegistry} {unseen : ChildId → Prop}

theorem Holds.congr {other : ChildId → Prop} (holds : r.Holds unseen)
    (same : ∀ child, other child ↔ unseen child) : r.Holds other := by
  intro child
  rw [same]
  exact holds child

/-- An event that collects nothing and leaves the registry alone. -/
theorem Holds.of_collects_nil (holds : r.Holds unseen) {table : ChildTable}
    (same : table.length = r.table.length) (nothing : Collects r.table table []) :
    Holds { r with table := table } unseen := by
  intro child
  show child ∈ r.held ↔ _
  rw [holds child, same, nothing.collected_iff_of_nil]

theorem Holds.register (holds : r.Holds unseen) (fate : ExitStatus) :
    (r.register fate).2.Holds unseen := by
  intro child
  have grown : (r.register fate).2.table.length = r.table.length + 1 := List.length_append
  have same : (r.register fate).2.table.Collected child ↔ r.table.Collected child :=
    (collects_start fate).collected_iff_of_nil
  rw [grown, same]
  show child ∈ r.held ++ [r.table.length] ↔ _
  rw [List.mem_append, List.mem_singleton, holds child]
  constructor
  · rintro (⟨known, saved⟩ | rfl)
    · exact ⟨Nat.lt_succ_of_lt known, saved⟩
    · refine ⟨Nat.lt_succ_self _, ?_⟩
      rintro ⟨who, status, found⟩
      exact absurd (List.getElem?_eq_some_iff.1 found).1 (Nat.lt_irrefl _)
  · rintro ⟨known, saved⟩
    rcases Nat.lt_succ_iff_lt_or_eq.1 known with old | new
    · exact .inl ⟨old, saved⟩
    · exact .inr new

/-- A look at the children leaves none unseen. -/
theorem Holds.activeCount (holds : r.Holds unseen) :
    r.activeCount.2.Holds fun _ => False := by
  intro child
  show child ∈ (pollAll r.table r.held).1 ↔ child < (pollAll r.table r.held).2.1.length ∧
    ((pollAll r.table r.held).2.1.Collected child → False)
  rw [pollAll_held, List.mem_filter, length_pollAll]
  constructor
  · rintro ⟨held, running⟩
    rw [← runs_pollAll r.table r.held] at running
    exact ⟨((holds child).1 held).1, (owed_of_runs running).2⟩
  · rintro ⟨known, owed⟩
    have held : child ∈ r.held := by
      refine (holds child).2 ⟨known, fun done => absurd ?_ owed⟩
      exact (collects_pollAll r.table r.held).collected done
    refine ⟨held, ?_⟩
    by_contra ended
    exact owed (collected_pollAll held known (Bool.eq_false_iff.2 ended))

/-- Children that are held and of whom none is unseen are owed. -/
theorem Holds.owed (holds : r.Holds unseen) (seen : ∀ child, ¬ unseen child) {child : ChildId}
    (held : child ∈ r.held) : r.table.Owed child := by
  obtain ⟨known, saved⟩ := (holds child).1 held
  exact ⟨known, fun done => seen child (saved done)⟩

theorem Holds.waitAll (holds : r.Holds unseen) (sound : r.Sound)
    (seen : ∀ child, ¬ unseen child) : r.waitAll.2.Holds unseen := by
  intro child
  show child ∈ [] ↔ child < (waitEach r.table r.held).2.length ∧
    ((waitEach r.table r.held).2.Collected child → unseen child)
  rw [length_waitEach]
  constructor
  · intro none
    cases none
  · rintro ⟨known, saved⟩
    refine absurd (saved ?_) (seen child)
    by_cases held : child ∈ r.held
    · obtain ⟨-, -, -, -, all⟩ := waitEach_of_owed sound.nodup fun _ => holds.owed seen
      exact all child held
    · have done : r.table.Collected child := by
        by_contra owed
        exact held ((holds child).2 ⟨known, fun done => absurd done owed⟩)
      exact (collects_waitEach r.table r.held).collected done

/-- A child that somebody else collects is unseen if it was owed. -/
theorem Holds.reap (holds : r.Holds unseen) (reaped : ChildId) :
    (r.outside fun table => table.reap reaped).Holds
      fun child => unseen child ∨ reaped = child ∧ r.table.Owed child := by
  intro child
  show child ∈ r.held ↔ child < (r.table.modify reaped _).length ∧
    (Collected (r.table.modify reaped (ChildPhase.collectedBy .other)) child → _)
  rw [holds child, List.length_modify]
  apply and_congr_right
  intro known
  by_cases same : reaped = child
  · subst same
    constructor
    · intro saved _
      by_cases done : r.table.Collected reaped
      · exact .inl (saved done)
      · exact .inr ⟨rfl, known, done⟩
    · intro saved done
      rcases saved (collected_collect .other known) with already | ⟨-, -, owed⟩
      · exact already
      · exact absurd done owed
  · rw [collected_modify_of_ne _ same]
    constructor
    · intro saved done
      exact .inl (saved done)
    · intro saved done
      rcases saved done with already | ⟨equal, -⟩
      · exact already
      · exact absurd equal same

end Steps

/-- In a run that waits only when no child is unseen, the registry holds the registered children
that have not been collected, and besides them the unseen ones. -/
theorem holds_run (seen : SeenBeforeWaiting events) : (run events).Holds (Unseen events) := by
  induction events using List.reverseRecOn with
  | nil =>
    intro child
    constructor
    · intro none
      cases none
    · rintro ⟨none, -⟩
      cases none
  | append_singleton events e ih =>
    obtain ⟨before, quiet⟩ := seenBeforeWaiting_concat_iff.1 seen
    have holds := ih before
    rw [run_concat]
    cases e with
    | registered fate =>
      apply (holds.register fate).congr
      simp [unseen_concat_iff, Looks]
    | counted =>
      apply holds.activeCount.congr
      simp [unseen_concat_iff, Looks]
    | asked =>
      apply holds.activeCount.congr
      simp [unseen_concat_iff, Looks]
    | waited =>
      apply (holds.waitAll (Sound.run events) (quiet rfl)).congr
      simp [unseen_concat_iff, Looks]
    | finished child =>
      have nothing := collects_step (run events) (.finished child)
      apply (holds.of_collects_nil (List.length_modify ..) nothing).congr
      simp [unseen_concat_iff, Looks]
    | killed child signal =>
      have nothing := collects_step (run events) (.killed child signal)
      apply (holds.of_collects_nil (List.length_modify ..) nothing).congr
      simp [unseen_concat_iff, Looks]
    | reaped child =>
      apply (holds.reap child).congr
      simp [unseen_concat_iff, Looks]

/-- Of those held, the ones that run are all that run. -/
theorem filter_held {r : ChildRegistry} {unseen : ChildId → Prop} (holds : r.Holds unseen)
    (ordered : r.held.Sublist (List.range r.table.length)) :
    r.held.filter r.table.runs = (List.range r.table.length).filter r.table.runs := by
  have same : (r.held.filter r.table.runs).Perm
      ((List.range r.table.length).filter r.table.runs) := by
    apply (List.perm_ext_iff_of_nodup ((List.nodup_range.sublist ordered).filter _)
      (List.nodup_range.filter _)).2
    intro child
    rw [List.mem_filter, List.mem_filter, List.mem_range]
    constructor
    · rintro ⟨held, running⟩
      exact ⟨((holds child).1 held).1, running⟩
    · rintro ⟨known, running⟩
      refine ⟨(holds child).2 ⟨known, fun done => ?_⟩, running⟩
      exact absurd done (owed_of_runs running).2
  exact (ordered.filter _).eq_of_length same.length_eq

theorem length_filter_runs (table : ChildTable) :
    ((List.range table.length).filter table.runs).length =
      table.countP ChildPhase.isRunning := by
  have entries : table.map some = (List.range table.length).map (table[·]?) := by
    apply List.ext_getElem
    · simp
    · intro i _ _
      simp
  calc ((List.range table.length).filter table.runs).length
      = (List.range table.length).countP table.runs := List.countP_eq_length_filter.symm
    _ = ((List.range table.length).map (table[·]?)).countP
          (Option.any ChildPhase.isRunning) := List.countP_map.symm
    _ = (table.map some).countP (Option.any ChildPhase.isRunning) := by rw [entries]
    _ = table.countP ChildPhase.isRunning := List.countP_map

/-- What holds of a registry and of all children that it ever held, after events. -/
structure Conserved (events : List RegistryEvent) : Prop where
  /-- The children are held in the order in which they were registered. -/
  ordered : (run events).held.Sublist (List.range (run events).table.length)
  nodup : (run events).held.Nodup
  /-- Held are the registered children that have not been collected; one that somebody else has
  collected stays until the registry looks at its children. -/
  held_iff : ∀ child, child ∈ (run events).held ↔
    child < (run events).table.length ∧
      ((run events).table.Collected child → Unseen events child)
  /-- Counting returns how many registered children run, and drops exactly the others. -/
  counted : (run events).activeCount.1 = (run events).table.countP ChildPhase.isRunning
  kept : (run events).activeCount.2.held = (run events).held.filter (run events).table.runs
  asked : (run events).hasActiveChildren.1 = true ↔
    ∃ (child : ChildId) (fate : ExitStatus), (run events).table[child]? = some (.running fate)
  /-- Waiting for all returns the statuses of those held, in their order, and empties the
  registry. -/
  waited : SeenBeforeWaiting (events ++ [.waited]) → ∃ statuses,
    (run events).waitAll.1 = .ok statuses ∧
      statuses.map some =
        (run events).held.map (fun child => (run events).table[child]?.map ChildPhase.status) ∧
      (run events).collected .waited = (run events).held.zip statuses ∧
      (run events).waitAll.2.held = []
  /-- No status is collected twice. -/
  once : ((collections {} events).map Prod.fst).Nodup
  collections_iff : ∀ child status,
    (child, status) ∈ collections {} events ↔ (run events).table.CollectedAs child status
  /-- None is lost. -/
  saved : ∀ child, child < (run events).table.length →
    child ∈ (run events).held ∨ ∃ status, (child, status) ∈ collections {} events

/-- In every run in which no child is reaped by somebody else between the last look of the registry
at its children and a wait for all, registered children are conserved. -/
theorem children_conserved (seen : SeenBeforeWaiting events) : Conserved events := by
  have holds := holds_run seen
  have ordered := held_sublist events
  have collects : Collects [] (run events).table (collections {} events) :=
    collects_steps {} events
  have taken : ∀ child status, (child, status) ∈ collections {} events ↔
      (run events).table.CollectedAs child status := by
    intro child status
    rw [collects.mem_iff]
    apply and_iff_right
    rintro ⟨who, s, found⟩
    cases found
  have kept : (run events).activeCount.2.held =
      (run events).held.filter (run events).table.runs := pollAll_held ..
  have counted : (run events).activeCount.1 =
      (run events).table.countP ChildPhase.isRunning := by
    rw [← length_filter_runs, ← filter_held holds ordered, ← kept]
    rfl
  constructor
  · exact ordered
  · exact List.nodup_range.sublist ordered
  · exact holds
  · exact counted
  · exact kept
  · show decide (0 < (run events).activeCount.1) = true ↔ _
    rw [decide_eq_true_iff, counted, List.countP_pos_iff]
    constructor
    · rintro ⟨phase, inside, running⟩
      obtain ⟨child, found⟩ := List.mem_iff_getElem?.1 inside
      cases phase with
      | running fate => exact ⟨child, fate, found⟩
      | exited s => cases running
      | collected who s => cases running
    · rintro ⟨child, fate, found⟩
      exact ⟨_, List.mem_of_getElem? found, rfl⟩
  · intro seen'
    have quiet := (seenBeforeWaiting_concat_iff.1 seen').2 rfl
    obtain ⟨statuses, result, same, zipped, -⟩ :=
      waitEach_of_owed (Sound.run events).nodup fun _ => holds.owed quiet
    exact ⟨statuses, result, same, zipped, rfl⟩
  · exact collects.nodup
  · exact taken
  · intro child known
    by_cases held : child ∈ (run events).held
    · exact .inl held
    · have done : (run events).table.Collected child := by
        by_contra owed
        exact held ((holds child).2 ⟨known, fun done => absurd done owed⟩)
      obtain ⟨status, found⟩ := collected_iff.1 done
      exact .inr ⟨status, (taken child status).2 found⟩

/-- A run that waits for all, and in which somebody else then reaps a child for which the registry
looks. -/
def reapedThenSeen : List RegistryEvent :=
  [.registered (.code 1), .registered (.code 2), .finished 0, .counted, .waited,
    .registered (.code 3), .registered (.code 4), .reaped 2, .killed 3 9, .asked]

theorem children_conserved_reaped_then_seen :
    SeenBeforeWaiting reapedThenSeen ∧ SeenBeforeWaiting (reapedThenSeen ++ [.waited]) ∧
      (run reapedThenSeen).held = [] ∧
      collections {} reapedThenSeen =
        [(0, .code 1), (1, .code 2), (2, .code 3), (3, .signal 9)] ∧
      Conserved reapedThenSeen := by
  have first : SeenBeforeWaiting ([.registered (.code 1), .registered (.code 2), .finished 0] ++
      [.counted]) := seenBeforeWaiting_nil.append (by decide)
  have second : SeenBeforeWaiting ([.registered (.code 1), .registered (.code 2), .finished 0] ++
      [.counted] ++ [.waited] ++ [.registered (.code 3), .registered (.code 4), .reaped 2,
        .killed 3 9] ++ [.asked]) :=
    ((first.waited (.inl rfl)).append (by decide)).append (by decide)
  exact ⟨second, second.waited (.inr rfl), rfl, rfl, children_conserved second⟩

end Runs

end ChildRegistry

end SessionHandoff
