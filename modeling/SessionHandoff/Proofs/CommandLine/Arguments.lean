import SessionHandoff.CommandLine.Arguments
import SessionHandoff.Proofs.Outcome

/-!
# Command lines of options with values

A command line is written from a settings file, a command and options with their values, each in an
argument of its own (`commandLine`). It is read as it was written if every value is an argument that
can be one (`IsValue`), and otherwise it is wrong: no other value is taken for a request for help
(`isValue_of_accepted`, `ofArguments_commandLine`).
-/

set_option autoImplicit false

namespace SessionHandoff.CommandLine

/-- An argument that is taken as the value of the option before it. -/
structure IsValue (argument : String) : Prop where
  plain : shapeOf argument = .plain
  filled : argument ≠ ""

instance (argument : String) : Decidable (IsValue argument) :=
  decidable_of_iff (shapeOf argument = .plain ∧ argument ≠ "")
    ⟨fun h => ⟨h.1, h.2⟩, fun h => ⟨h.plain, h.filled⟩⟩

/-- The arguments of options with their values. -/
def optionLine (options : List (FileOption × String)) : List String :=
  options.flatMap fun o => ["--" ++ o.1.label, o.2]

/-- The arguments of a settings file, a command and its options. -/
def commandLine (settings : Option String) (name : CommandName)
    (options : List (FileOption × String)) : List String :=
  optionLine (settings.toList.map fun path => (.settings, path)) ++ name.label :: optionLine options

/-- The command line is wrong. -/
def IsWrong {α : Type} (outcome : Except Stop α) : Prop := ∃ e, outcome = .error (.usage e)

theorem IsWrong.bind {α β : Type} {outcome : Except Stop α} (wrong : IsWrong outcome)
    (f : α → Except Stop β) : IsWrong (outcome.bind f) := by
  obtain ⟨e, rfl⟩ := wrong
  exact ⟨e, rfl⟩

theorem shapeOf_option (o : FileOption) : shapeOf ("--" ++ o.label) = .long o.label none := by
  cases o <;> decide

/-! ## One argument -/

namespace Given

variable {g g' : Given} {command : Option CommandName} {known : OptionSet} {o : FileOption}
  {value : String}

theorem accept_cases (g : Given) (o : FileOption) (value : String) :
    IsWrong (g.accept o value) ∨
      value ≠ "" ∧ g.accept o value = .ok { g with files := g.files ++ [(o, value)] } := by
  unfold accept
  split
  · exact .inl ⟨_, rfl⟩
  · split
    · exact .inl ⟨_, rfl⟩
    · rename_i filled
      refine .inr ⟨?_, rfl⟩
      rintro rfl
      exact filled rfl

/-- An option whose value is there is judged, and then none is pending. -/
theorem settle_cases (g : Given) :
    IsWrong g.settle ∨ ∃ g', g.settle = .ok g' ∧ g'.pending = none ∧ g'.escaped = g.escaped := by
  unfold settle
  split
  · rename_i none
    exact .inr ⟨g, rfl, none, rfl⟩
  · exact .inl ⟨_, rfl⟩
  · rename_i o value pending
    rcases accept_cases { g with pending := none } o value with wrong | ⟨-, accepted⟩
    · exact .inl wrong
    · exact .inr ⟨_, accepted, rfl, rfl⟩

/-- An option whose value comes next or has not been judged yet. -/
def await (g : Given) (o : FileOption) (value : Option String) : Given :=
  { g with pending := some (o, value) }

/-- The name of an option judges the option before it and waits for a value. -/
theorem take_option (free : g.escaped = false) (found : known.file? o.label = some o) :
    g.take command known ("--" ++ o.label) = g.settle.bind fun g' => .ok (g'.await o none) := by
  simp only [take, free, Bool.false_eq_true, if_false, shapeOf_option, takeLong, found]
  rfl

theorem take_value (free : g.escaped = false) (plain : shapeOf value = .plain) :
    (g.await o none).take command known value = .ok (g.await o (some value)) := by
  simp only [take, await, free, Bool.false_eq_true, if_false, plain]

theorem take_escaped (escaped : g.escaped = true) : IsWrong (g.take command known value) := by
  rw [take, if_pos escaped]
  exact ⟨_, rfl⟩

/-- What is no value of the option that waits for one is wrong, or ends the options. -/
theorem take_no_value (free : g.escaped = false) (odd : shapeOf value ≠ .plain) :
    IsWrong ((g.await o none).take command known value) ∨
      (g.await o none).take command known value = .ok { g.await o none with escaped := true } := by
  have missing : (g.await o none).settle = .error (.usage (.missingValue o)) := rfl
  have free : (g.await o none).escaped = false := free
  simp only [take, free, Bool.false_eq_true, if_false]
  cases shape : shapeOf value with
  | plain => exact absurd shape odd
  | escape => exact .inr rfl
  | short letter =>
    refine .inl ?_
    simp only [takeShort, missing]
    split
    · exact ⟨_, rfl⟩
    · split
      · exact ⟨_, rfl⟩
      · exact ⟨_, rfl⟩
  | long name given =>
    refine .inl ?_
    simp only [takeLong, missing]
    split
    · exact ⟨_, rfl⟩
    · split
      · split
        · exact ⟨_, rfl⟩
        · exact ⟨_, rfl⟩
      · split
        · split
          · exact ⟨_, rfl⟩
          · exact ⟨_, rfl⟩
        · exact ⟨_, rfl⟩

/-! ## Options with their values -/

/-- Take arguments and judge the option that is pending at the end. -/
def takeAll (g : Given) (command : Option CommandName) (known : OptionSet)
    (arguments : List String) : Except Stop Given :=
  (arguments.foldlM (fun (g : Given) a => g.take command known a) g).bind settle

theorem takeAll_cons (g : Given) (argument : String) (rest : List String) :
    g.takeAll command known (argument :: rest) =
      (g.take command known argument).bind fun g' => g'.takeAll command known rest := by
  rw [takeAll, List.foldlM_cons]
  cases g.take command known argument with
  | error stop => rfl
  | ok g' => rfl

variable {options : List (FileOption × String)}

/-- An option with its value is taken after the option before it was judged. -/
theorem takeAll_option (free : g.escaped = false) (found : known.file? o.label = some o) :
    g.takeAll command known (optionLine ((o, value) :: options)) =
      g.settle.bind fun g' =>
        ((g'.await o none).take command known value).bind fun g'' =>
          g''.takeAll command known (optionLine options) := by
  show g.takeAll command known (("--" ++ o.label) :: value :: optionLine options) = _
  rw [takeAll_cons, take_option free found]
  cases g.settle with
  | error stop => rfl
  | ok g' => exact takeAll_cons _ value _

/-- The option before is judged whatever follows it. -/
theorem takeAll_of_settle (free : g.escaped = false)
    (found : ∀ o ∈ options, known.file? o.1.label = some o.1) (wrong : IsWrong g.settle) :
    IsWrong (g.takeAll command known (optionLine options)) := by
  cases options with
  | nil => exact wrong
  | cons first rest =>
    rw [takeAll_option free (found first List.mem_cons_self)]
    exact wrong.bind _

/-- Where options have ended, no option follows, and the one that waits for a value has none. -/
theorem takeAll_escaped (g : Given) (o : FileOption) (arguments : List String) :
    IsWrong (takeAll { g.await o none with escaped := true } command known arguments) := by
  cases arguments with
  | nil => exact ⟨_, rfl⟩
  | cons argument rest =>
    rw [takeAll_cons]
    exact (take_escaped rfl).bind _

/-- By induction on the options: where the arguments are not wrong, every value is one. -/
theorem isValue_of_takeAll (free : g.escaped = false)
    (found : ∀ o ∈ options, known.file? o.1.label = some o.1) :
    IsWrong (g.takeAll command known (optionLine options)) ∨ ∀ o ∈ options, IsValue o.2 := by
  induction options generalizing g with
  | nil => exact .inr fun o none => absurd none List.not_mem_nil
  | cons first rest ih =>
    obtain ⟨o, value⟩ := first
    have later (o) (inside : o ∈ rest) := found o (List.mem_cons_of_mem _ inside)
    rw [takeAll_option free (found (o, value) List.mem_cons_self)]
    rcases settle_cases g with wrong | ⟨g', settled, -, same⟩
    · exact .inl (wrong.bind _)
    rw [settled, Except.bind]
    have free : g'.escaped = false := same.trans free
    by_cases plain : shapeOf value = .plain
    · rw [take_value free plain, Except.bind]
      have values := @ih (g'.await o (some value)) free later
      rcases accept_cases { g' with pending := none } o value with wrong | ⟨filled, -⟩
      · exact .inl (takeAll_of_settle free later wrong)
      · refine values.imp_right fun values o inside => ?_
        rcases List.mem_cons.1 inside with rfl | inside
        · exact ⟨plain, filled⟩
        · exact values o inside
    · rcases @take_no_value g' command known o value free plain with wrong | escaped
      · exact .inl (wrong.bind _)
      · rw [escaped]
        exact .inl (takeAll_escaped g' o _)

/-- An option that was not given before gets its value. -/
theorem accept_of_fresh (fresh : o ∉ g.files.map Prod.fst) (filled : value ≠ "") :
    g.accept o value = .ok { g with files := g.files ++ [(o, value)] } := by
  have absent : g.file? o = none := by
    refine List.lookup_eq_none_iff.2 fun given inside => ?_
    have other : o ≠ given.1 := fun same => fresh (same ▸ List.mem_map_of_mem inside)
    simpa using other
  rw [accept, absent, Option.isSome_none, if_neg Bool.false_ne_true, if_neg]
  simpa using filled

/-- By induction on the options: different options with values are given as they are written. -/
theorem takeAll_of_isValue (free : g.escaped = false) (settled : g.settle = .ok g')
    (found : ∀ o ∈ options, known.file? o.1.label = some o.1)
    (distinct : ((g'.files ++ options).map Prod.fst).Nodup)
    (values : ∀ o ∈ options, IsValue o.2) :
    g.takeAll command known (optionLine options) =
      .ok { g' with files := g'.files ++ options } := by
  induction options generalizing g g' with
  | nil =>
    rw [List.append_nil]
    exact settled
  | cons first rest ih =>
    obtain ⟨o, value⟩ := first
    have later (o) (inside : o ∈ rest) := found o (List.mem_cons_of_mem _ inside)
    obtain ⟨plain, filled⟩ := values (o, value) List.mem_cons_self
    have fresh : o ∉ g'.files.map Prod.fst := by
      rw [List.map_append, List.nodup_append] at distinct
      exact fun inside => distinct.2.2 o inside o List.mem_cons_self rfl
    have same : g'.pending = none ∧ g'.escaped = g.escaped := by
      rcases settle_cases g with ⟨e, wrong⟩ | ⟨g'', again, same⟩
      · rw [settled] at wrong
        cases wrong
      · rw [settled] at again
        cases again
        exact same
    have free' : g'.escaped = false := same.2.trans free
    -- nothing is pending behind the value, so it is judged next
    have accepted : (g'.await o (some value)).settle =
        .ok { g' with files := g'.files ++ [(o, value)] } := by
      rw [same.1]
      exact @accept_of_fresh { g' with pending := none } o value fresh filled
    have distinct : ((g'.files ++ [(o, value)] ++ rest).map Prod.fst).Nodup := by
      rwa [List.append_assoc, List.singleton_append]
    rw [takeAll_option free (found (o, value) List.mem_cons_self), settled, Except.bind,
      take_value free' plain, Except.bind]
    have taken := @ih (g'.await o (some value)) _ free' accepted later distinct fun o inside =>
      values o (List.mem_cons_of_mem _ inside)
    rw [taken, List.append_assoc, List.singleton_append]

end Given

/-! ## The whole command line -/

/-- Whether options may stand behind a command. They are different ones that it knows, and none of
them names the settings file. -/
structure Fits (name : CommandName) (options : List (FileOption × String)) : Prop where
  found : ∀ o ∈ options, name.options.file? o.1.label = some o.1
  distinct : (options.map Prod.fst).Nodup
  trailing : FileOption.settings ∉ options.map Prod.fst

section CommandLines

variable {settings : Option String} {name : CommandName} {options : List (FileOption × String)}

theorem readTrailing_eq (name : CommandName) (arguments : List String) :
    readTrailing name arguments =
      (Given.takeAll {} (some name) name.options arguments).bind fun g =>
        (commandOf name g).map fun command => (g, command) := by
  unfold readTrailing Given.takeAll
  cases arguments.foldlM (fun (g : Given) a => g.take (some name) name.options a) {} with
  | error stop => rfl
  | ok g => rfl

/-- The name of a command is met where no option waits for a value. -/
theorem readLeading_label {g : Given} (free : g.escaped = false) (waiting : g.isWaiting = false)
    (name : CommandName) (rest : List String) :
    readLeading g (name.label :: rest) =
      (readTrailing name rest).bind fun r => g.settle.bind fun before =>
        .ok ⟨(r.1.file? .settings).orElse fun _ => before.file? .settings, r.2⟩ := by
  have word : g.leadingWord name.label = .command name := by
    have other : name.label ≠ helpCommand := by cases name <;> decide
    rw [Given.leadingWord, free, waiting, Bool.or_self, if_neg Bool.false_ne_true, if_neg other,
      CommandName.ofLabel?_label]
  rw [readLeading, word]
  rfl

/-- Where options have ended nothing is a command. -/
theorem readLeading_escaped {g : Given} (escaped : g.escaped = true) (argument : String)
    (rest : List String) : IsWrong (readLeading g (argument :: rest)) := by
  have word : g.leadingWord argument = .option := by
    rw [Given.leadingWord, escaped, Bool.true_or, if_pos rfl]
  obtain ⟨e, wrong⟩ := @Given.take_escaped g none .leading argument escaped
  rw [readLeading, word]
  dsimp only
  rw [wrong]
  exact ⟨e, rfl⟩

/-- A settings file is named before the command. -/
theorem readLeading_settings (path : String) (rest : List String) :
    readLeading {} (("--" ++ FileOption.label .settings) :: path :: rest) =
      ((Given.await {} .settings none).take none .leading path).bind fun g =>
        readLeading g rest := by
  have option : ({} : Given).leadingWord ("--" ++ FileOption.label .settings) = .option := by decide
  have value : (Given.await {} .settings none).leadingWord path = .option := rfl
  have taken : ({} : Given).take none .leading ("--" ++ FileOption.label .settings) =
      .ok (Given.await {} .settings none) := Given.take_option rfl (by decide)
  rw [readLeading, option]
  dsimp only
  rw [taken]
  dsimp only
  rw [readLeading, value]
  cases (Given.await {} .settings none).take none .leading path with
  | error stop => rfl
  | ok g => rfl

theorem ofArguments_unnamed :
    Request.ofArguments (commandLine none name options) =
      (readTrailing name (optionLine options)).bind fun r =>
        .ok ⟨(r.1.file? .settings).orElse fun _ => none, r.2⟩ :=
  readLeading_label rfl rfl name (optionLine options)

theorem ofArguments_named (path : String) :
    Request.ofArguments (commandLine (some path) name options) =
      ((Given.await {} .settings none).take none .leading path).bind fun g =>
        readLeading g (name.label :: optionLine options) :=
  readLeading_settings path (name.label :: optionLine options)

theorem readTrailing_of_isValue (fits : Fits name options) (values : ∀ o ∈ options, IsValue o.2) :
    readTrailing name (optionLine options) =
      (commandOf name { files := options }).map fun command => ({ files := options }, command) := by
  have taken := @Given.takeAll_of_isValue {} {} (some name) name.options options rfl rfl fits.found
    fits.distinct values
  rw [readTrailing_eq, taken]
  rfl

/-- What is missing for a command is missing, and nothing else is asked for. -/
theorem commandOf_cases (name : CommandName) (g : Given) :
    IsWrong (commandOf name g) ∨ ∃ command, commandOf name g = .ok command := by
  unfold commandOf
  split
  · split
    · exact .inr ⟨_, rfl⟩
    · exact .inl ⟨_, rfl⟩
  · split
    · exact .inr ⟨_, rfl⟩
    · exact .inl ⟨_, rfl⟩
  · exact .inr ⟨_, rfl⟩
  · exact .inr ⟨_, rfl⟩
  · exact .inl ⟨_, rfl⟩

/-- What stands behind the command is wrong, or it is read and every value is one. -/
theorem readTrailing_cases (fits : Fits name options) :
    IsWrong (readTrailing name (optionLine options)) ∨
      (∀ o ∈ options, IsValue o.2) ∧ ∃ r, readTrailing name (optionLine options) = .ok r := by
  rcases @Given.isValue_of_takeAll {} (some name) name.options options rfl fits.found with
    wrong | values
  · rw [readTrailing_eq]
    exact .inl (wrong.bind _)
  · rw [readTrailing_of_isValue fits values]
    rcases commandOf_cases name { files := options } with ⟨e, missing⟩ | ⟨command, complete⟩
    · rw [missing]
      exact .inl ⟨e, rfl⟩
    · rw [complete]
      exact .inr ⟨values, _, rfl⟩

/-- **A command line that is not wrong has a value behind every option.** -/
theorem isValue_of_accepted (fits : Fits name options)
    (accepted : ¬ IsWrong (Request.ofArguments (commandLine settings name options))) :
    (∀ path ∈ settings, IsValue path) ∧ ∀ o ∈ options, IsValue o.2 := by
  cases settings with
  | none =>
    rw [ofArguments_unnamed] at accepted
    have trailing := (readTrailing_cases fits).resolve_left fun wrong => accepted (wrong.bind _)
    exact ⟨fun path none => absurd none (Option.not_mem_none path), trailing.1⟩
  | some path =>
    rw [ofArguments_named] at accepted
    by_cases plain : shapeOf path = .plain
    · rw [Given.take_value rfl plain, Except.bind, readLeading_label rfl rfl] at accepted
      obtain ⟨values, r, trailing⟩ :=
        (readTrailing_cases fits).resolve_left fun wrong => accepted (wrong.bind _)
      rw [trailing, Except.bind] at accepted
      have judged := (Given.accept_cases {} .settings path).resolve_left fun wrong =>
        accepted (wrong.bind _)
      refine ⟨fun path' same => ?_, values⟩
      cases same
      exact ⟨plain, judged.1⟩
    · refine absurd ?_ accepted
      rcases @Given.take_no_value {} none .leading .settings path rfl plain with wrong | escaped
      · exact wrong.bind _
      · rw [escaped]
        have ended : ({ Given.await {} .settings none with escaped := true } : Given).escaped := rfl
        exact readLeading_escaped ended name.label (optionLine options)

/-- **A command line whose values can be values is read as it was written.** -/
theorem ofArguments_commandLine (fits : Fits name options)
    (named : ∀ path ∈ settings, IsValue path) (values : ∀ o ∈ options, IsValue o.2) :
    Request.ofArguments (commandLine settings name options) =
      (commandOf name { files := options }).map fun command => ⟨settings, command⟩ := by
  have trailing : Given.file? { files := options } .settings = none := by
    refine List.lookup_eq_none_iff.2 fun o inside => ?_
    have other : FileOption.settings ≠ o.1 := fun same =>
      fits.trailing (same ▸ List.mem_map_of_mem inside)
    simpa using other
  cases settings with
  | none =>
    rw [ofArguments_unnamed, readTrailing_of_isValue fits values]
    cases commandOf name { files := options } with
    | error stop => rfl
    | ok command =>
      refine congrArg (fun found => Except.ok (Request.mk found command)) ?_
      dsimp only
      rw [trailing]
      rfl
  | some path =>
    obtain ⟨plain, filled⟩ := named path rfl
    have judged : (Given.await {} .settings (some path)).settle =
        .ok { files := [(.settings, path)] } :=
      @Given.accept_of_fresh {} .settings path List.not_mem_nil filled
    rw [ofArguments_named, Given.take_value rfl plain, Except.bind, readLeading_label rfl rfl,
      readTrailing_of_isValue fits values, judged]
    cases commandOf name { files := options } with
    | error stop => rfl
    | ok command =>
      refine congrArg (fun found => Except.ok (Request.mk found command)) ?_
      dsimp only
      rw [trailing]
      rfl

end CommandLines

end SessionHandoff.CommandLine
