import LineShell.Proofs.Command.External

/-!
# What a name denotes

Dispatching a name has one of three conducts, whatever its arguments: the shell handles it, an
executable is started for it, or it is missing. `type` says which, without dispatching anything. A
name that is registered without a builtin behind it would be taken for a builtin by `type` alone.
-/

namespace LineShell

/-- What dispatching a name comes to. -/
inductive Conduct where
  | own
  | starts (executable : String)
  | missing
  deriving DecidableEq

def Conduct.describe (name : String) : Conduct → String
  | own => name ++ " is a shell builtin"
  | starts executable => name ++ " is " ++ executable
  | missing => name ++ ": not found"

namespace Registry

variable {registry : Registry} {name : String}

/-- A builtin stands behind every name. -/
def IsComplete (registry : Registry) : Prop := ∀ entry ∈ registry.entries, entry.2.isSome

/-- The name is registered, but no builtin is. -/
def reserves (registry : Registry) (name : String) : Bool :=
  registry.contains name && (registry.get? name).isNone

theorem contains_of_get? {builtin : Builtin} (hget : registry.get? name = some builtin) :
    registry.contains name := by
  obtain ⟨before, after, hentries, _⟩ :=
    List.lookup_eq_some_iff.mp (Option.join_eq_some_iff.mp hget)
  simp [contains, names, hentries]

theorem IsComplete.reserves_eq_false (hcomplete : registry.IsComplete) (name : String) :
    registry.reserves name = false := by
  cases hlookup : registry.entries.lookup name with
  | none =>
      have habsent : ∀ entry, (name, entry) ∉ registry.entries := fun entry hentry =>
        absurd rfl (bne_iff_ne.mp (List.lookup_eq_none_iff.mp hlookup (name, entry) hentry))
      simp [reserves, contains, names, habsent]
  | some entry =>
      obtain ⟨before, after, hentries, _⟩ := List.lookup_eq_some_iff.mp hlookup
      have hentry : entry.isSome := hcomplete (name, entry) (by simp [hentries])
      simp [reserves, get?, hlookup, hentry]

end Registry

namespace World

variable {world after : World} {registry : Registry} {name : String} {args : List String}
  {conduct other : Conduct} {command : Command}

/-- The records that a command is passed on, and of what is then done with it. -/
def passedIn (command : Command) (events : List Event) : List Record :=
  (recordsIn events).filter fun record =>
    record = command.passedRecord || record.component = .output

def conductRecords (world : World) (name : String) (args : List String) : Conduct → List Record
  | .own => []
  | .starts executable =>
    [Command.passedRecord ⟨name, args, none⟩, startRecord name executable args,
      endRecord name executable (world.startResult (name :: args) executable none)]
  | .missing => [Command.passedRecord ⟨name, args, none⟩]

/-- A start with a NUL character in an argument is refused before it is made. -/
def conductSpawns (name : String) (args : List String) : Conduct → List Spawn
  | .own | .missing => []
  | .starts executable =>
    if (name :: args).any hasNul then [] else [⟨name :: args, executable, none, none⟩]

def conductOutcomes (world : World) (name : String) (args : List String) : Conduct → List Outcome
  | .own => [.exit 0, .status 0, .status 1]
  | .starts executable =>
    [.status ((world.startResult (name :: args) executable none).toOption.getD 126)]
  | .missing => [.status 127]

/-- Dispatching a name with arguments and without a redirect has a conduct. -/
def Conducts (world : World) (registry : Registry) (name : String) (args : List String)
    (conduct : Conduct) : Prop :=
  ∃ outcome after events, world.dispatch registry ⟨name, args, none⟩ = (.ok outcome, after) ∧
    Shows events world after ∧
    passedIn ⟨name, args, none⟩ events = world.conductRecords name args conduct ∧
    spawnsIn events = conductSpawns name args conduct ∧
    outcome ∈ world.conductOutcomes name args conduct

/-! ### At most one conduct -/

theorem startRecord_injective (name : String) (args : List String) :
    Function.Injective (startRecord name · args) := by
  intro first second hrecord
  simpa [startRecord, String.append_assoc] using hrecord

theorem conductRecords_injective (world : World) (name : String) (args : List String) :
    Function.Injective (world.conductRecords name args) := by
  intro first second hrecords
  cases first <;> cases second <;>
    simp only [conductRecords, List.cons.injEq, reduceCtorEq] at hrecords
  case own.own => rfl
  case missing.missing => rfl
  case starts.starts => rw [startRecord_injective name args hrecords.2.1]
  all_goals simp at hrecords

theorem Conducts.unique (hconduct : world.Conducts registry name args conduct)
    (hother : world.Conducts registry name args other) : other = conduct := by
  obtain ⟨_, after, events, hdispatch, hshows, hrecords, _⟩ := hconduct
  obtain ⟨_, _, events', hdispatch', hshows', hrecords', _⟩ := hother
  obtain ⟨_, rfl⟩ := Prod.mk.inj (hdispatch'.symm.trans hdispatch)
  have hevents : events' = events := List.append_cancel_left (hshows'.symm.trans hshows)
  exact world.conductRecords_injective name args (by rw [← hrecords', ← hrecords, hevents])

/-! ### The shell's own names -/

/-- The step passes nothing on to a program. -/
inductive Keeps (command : Command) : Step → Prop
  | said (stream : Descriptor) (text : String) : Keeps command (.say stream text)
  | moved (place : Place) : Keeps command (.move place)
  | noted {record : Record} (hpassed : record ≠ command.passedRecord)
      (hcomponent : record.component ≠ .output) : Keeps command (.log record)

theorem Keeps.passedIn_eq_nil {step : Step} (hkeeps : Keeps command step) :
    passedIn command step.shown = [] ∧ spawnsIn step.shown = [] := by
  cases hkeeps with
  | said | moved => exact ⟨rfl, rfl⟩
  | noted hpassed hcomponent =>
      exact ⟨by simp [Step.shown, passedIn, recordsIn, hpassed, hcomponent], rfl⟩

theorem passedIn_append (command : Command) (first second : List Event) :
    passedIn command (first ++ second) = passedIn command first ++ passedIn command second := by
  rw [passedIn, recordsIn, List.filterMap_append, List.filter_append]
  rfl

theorem passedIn_eq_nil_of_keeps {steps : List Step}
    (hkeeps : ∀ step ∈ steps, Keeps command step) :
    passedIn command (steps.flatMap Step.shown) = [] ∧
      spawnsIn (steps.flatMap Step.shown) = [] := by
  induction steps with
  | nil => exact ⟨rfl, rfl⟩
  | cons step steps ih =>
      obtain ⟨hstep, hsteps⟩ := List.forall_mem_cons.mp hkeeps
      obtain ⟨hpassed, hspawns⟩ := ih hsteps
      obtain ⟨hstepPassed, hstepSpawns⟩ := hstep.passedIn_eq_nil
      have hspawnsAppend : spawnsIn (step.shown ++ steps.flatMap Step.shown) =
          spawnsIn step.shown ++ spawnsIn (steps.flatMap Step.shown) := List.filterMap_append
      rw [List.flatMap_cons, passedIn_append, hpassed, hstepPassed, hspawnsAppend, hspawns,
        hstepSpawns]
      exact ⟨rfl, rfl⟩

theorem note_injective (command : Command) : Function.Injective command.note := by
  intro first second hnote
  simpa [Command.note] using hnote

theorem attemptPlan_keeps (world : World) (args : List String)
    (hroute : registry.route name ≠ .external) :
    ∀ step ∈ (world.attemptPlan registry ⟨name, args, none⟩).steps,
      Keeps ⟨name, args, none⟩ step := by
  cases hname : registry.route name with
  | external => exact absurd hname hroute
  | cd =>
      have hnoted : ∀ text, Keeps ⟨name, args, none⟩ (.log ⟨.debug, .builtins, text⟩) :=
        fun text => .noted (by simp [Command.passedRecord]) (by simp)
      rw [attemptPlan, hname]
      dsimp only
      rcases world.cdPlan_cases args with ⟨_, _, _, hlogs⟩ | ⟨place, text, hplan⟩
      · intro step hstep
        obtain ⟨text, rfl⟩ := hlogs step hstep
        exact hnoted text
      · rw [hplan]
        exact List.forall_mem_cons.mpr
          ⟨.moved place, List.forall_mem_singleton.mpr (hnoted text)⟩
  | builtin builtin =>
      have hnoted : Keeps ⟨name, args, none⟩
          (.log ⟨.debug, .execution, Command.note ⟨name, args, none⟩ "builtin "⟩) := by
        refine .noted (fun hrecord => ?_) (by simp)
        exact absurd (note_injective _ (Record.mk.inj hrecord).2.2) (by decide)
      rw [attemptPlan, hname]
      refine List.forall_mem_cons.mpr ⟨hnoted, ?_⟩
      cases registry.ask builtin
          (world.debug .execution (Command.note ⟨name, args, none⟩ "builtin ")) args with
      | error error => exact List.forall_mem_nil _
      | ok text => exact List.forall_mem_singleton.mpr (.said .stdout text)

/-- The errors of programs come up only where a command is passed on. -/
theorem conducts_own (world : World) (args : List String) (hexit : name ≠ "exit")
    (hroute : registry.route name ≠ .external) : world.Conducts registry name args .own := by
  have hkeeps := world.attemptPlan_keeps args hroute
  cases hattempt : (world.attempt registry ⟨name, args, none⟩).1 with
  | ok code =>
      have hcode : code = 0 := by
        have hyields := attempt_ok hattempt
        dsimp only at hyields
        cases hname : registry.route name with
        | external => exact absurd hname hroute
        | cd => rwa [hname] at hyields
        | builtin builtin => rwa [hname] at hyields
      obtain ⟨hpassed, hspawns⟩ := passedIn_eq_nil_of_keeps hkeeps
      refine ⟨.status code, _, _, dispatch_of_ok hexit hattempt, ?_, hpassed, hspawns,
        by simp [hcode, conductOutcomes]⟩
      rw [attempt_eq]
      exact shows_takeAll world _
  | error error =>
      obtain ⟨code, hstatus, hdispatch⟩ := dispatch_of_error hexit hattempt
      have hraises := attempt_error hattempt
      have hcode : code = 1 := by
        cases hstatus with
        | builtin => rfl
        | write => rfl
        | commandNotFound =>
            refine absurd (Route.external_of_raises hraises rfl ?_) hroute
            simp [ShellError.kind]
        | spawn =>
            refine absurd (Route.external_of_raises hraises rfl ?_) hroute
            simp [ShellError.kind]
      obtain ⟨hpassed, hspawns⟩ := passedIn_eq_nil_of_keeps
        (List.forall_mem_append.mpr
          ⟨hkeeps, List.forall_mem_singleton.mpr (.said .stderr error.message)⟩)
      refine ⟨.status code, _, _, hdispatch, ?_, hpassed, hspawns,
        by simp [hcode, conductOutcomes]⟩
      have hshows := world.shows_takeAll
        ((world.attemptPlan registry ⟨name, args, none⟩).steps ++ [.say .stderr error.message])
      rw [takeAll_append] at hshows
      rw [attempt_eq]
      exact hshows

/-! ### Every name has a conduct -/

def conductOf (world : World) (registry : Registry) (name : String) : Conduct :=
  if name ∈ specialNames ∨ (registry.get? name).isSome then .own
  else match world.findExecutable name with
    | some executable => .starts executable
    | none => .missing

theorem component_of_mem_externalRecords {record : Record} {target : Option Path}
    (hrecord : record ∈ world.externalRecords name args target) : record.component = .output := by
  unfold externalRecords at hrecord
  cases hfind : world.findExecutable name with
  | none => simp [hfind] at hrecord
  | some executable =>
      simp only [hfind, List.mem_cons, List.not_mem_nil, or_false] at hrecord
      rcases hrecord with rfl | rfl
      · rfl
      · cases world.startResult (name :: args) executable target <;> rfl

theorem passedIn_passedEvents (world : World) (command : Command) (file : Option Handle) :
    passedIn command (world.passedEvents command file) =
      command.passedRecord ::
        world.externalRecords command.name command.args (file.map Handle.path) := by
  rw [passedIn, recordsIn_passedEvents, List.filter_eq_self]
  intro record hrecord
  rcases List.mem_cons.mp hrecord with rfl | hexternal
  · simp
  · simp [component_of_mem_externalRecords hexternal]

theorem conducts_passed (world : World) (args : List String) (hname : name ∉ specialNames)
    (hregistry : registry.get? name = none) :
    world.Conducts registry name args (world.conductOf registry name) := by
  obtain ⟨after, hdispatch, hshows, _⟩ := dispatch_external_plain world args hname hregistry
  cases hfind : world.findExecutable name with
  | none =>
      have hconduct : world.conductOf registry name = .missing := by
        simp [conductOf, hname, hregistry, hfind]
      rw [hconduct]
      refine ⟨_, after, _, hdispatch, hshows, ?_, ?_, ?_⟩
      · simp [passedIn_passedEvents, externalRecords, hfind, conductRecords]
      · simp [spawnsIn_passedEvents, started?, hfind, conductSpawns]
      · simp [externalResult_of_none hfind, externalStatus, conductOutcomes]
  | some executable =>
      have hconduct : world.conductOf registry name = .starts executable := by
        simp [conductOf, hname, hregistry, hfind]
      rw [hconduct]
      refine ⟨_, after, _, hdispatch, hshows, ?_, ?_, ?_⟩
      · simp [passedIn_passedEvents, externalRecords, hfind, conductRecords]
      · rw [spawnsIn_passedEvents, started?, hfind, conductSpawns]
        by_cases hnul : (name :: args).any hasNul <;> simp [hnul, fileOn]
      · rw [externalResult_of_some hfind, conductOutcomes]
        cases world.startResult (name :: args) executable none <;>
          simp [externalStatus, Except.mapError, Except.toOption]

theorem conducts_conductOf (world : World) (registry : Registry) (name : String)
    (args : List String) : world.Conducts registry name args (world.conductOf registry name) := by
  by_cases hexit : name = "exit"
  · have hconduct : world.conductOf registry name = .own := by simp [conductOf, specialNames, hexit]
    rw [hconduct]
    exact ⟨.exit 0, world, [], by simp [dispatch, hexit], Shows.refl world, rfl, rfl,
      by simp [conductOutcomes]⟩
  · by_cases hroute : registry.route name = .external
    · obtain ⟨hcd, hregistry⟩ := route_eq_external_iff.mp hroute
      exact conducts_passed world args (not_mem_specialNames_iff.mpr ⟨hexit, hcd⟩) hregistry
    · have hconduct : world.conductOf registry name = .own := by
        rw [route_eq_external_iff, not_and] at hroute
        unfold conductOf
        refine if_pos ?_
        by_cases hcd : name = "cd"
        · exact .inl (by simp [specialNames, hcd])
        · exact .inr (Option.isSome_iff_ne_none.mpr (hroute hcd))
      rw [hconduct]
      exact conducts_own world args hexit hroute

theorem conducts_iff :
    world.Conducts registry name args conduct ↔ conduct = world.conductOf registry name := by
  constructor
  · exact (conducts_conductOf world registry name args).unique
  · rintro rfl
    exact conducts_conductOf world registry name args

theorem SearchesAlike.conducts_iff (halike : SearchesAlike world after) :
    after.Conducts registry name args conduct ↔ world.Conducts registry name args conduct := by
  have hconduct : after.conductOf registry name = world.conductOf registry name := by
    simp only [conductOf, halike.findExecutable]
  rw [World.conducts_iff, World.conducts_iff, hconduct]

/-! ### What `type` says -/

theorem typeLine_eq (world : World) (registry : Registry) (name : String) :
    Builtin.typeLine registry.isBuiltin world name =
      if registry.reserves name then name ++ " is a shell builtin"
      else (world.conductOf registry name).describe name := by
  by_cases hspecial : name ∈ specialNames
  · simp [Builtin.typeLine, Registry.isBuiltin, conductOf, hspecial, Conduct.describe]
  · cases hget : registry.get? name with
    | some builtin =>
        have hcontains := Registry.contains_of_get? hget
        simp [Builtin.typeLine, Registry.isBuiltin, conductOf, Registry.reserves, hcontains, hget,
          Conduct.describe]
    | none =>
        cases hcontains : registry.contains name with
        | true => simp [Builtin.typeLine, Registry.isBuiltin, Registry.reserves, hcontains, hget]
        | false =>
            simp only [Builtin.typeLine, Registry.isBuiltin, Registry.reserves, conductOf,
              hcontains, hget]
            cases world.findExecutable name <;> simp [hspecial, Conduct.describe]

/-- **`type` agrees with execution.** Every name has exactly one conduct, whatever its arguments,
and `type` says which of each name. -/
theorem type_eq_describe (world : World) (registry : Registry) (hcomplete : registry.IsComplete)
    (names : List String) :
    ∃ conduct : String → Conduct,
      (∀ name args other, world.Conducts registry name args other ↔ other = conduct name) ∧
      registry.ask .type world names =
        .ok ("\n".intercalate (names.map fun name => (conduct name).describe name)) := by
  refine ⟨world.conductOf registry, fun name args other => conducts_iff, ?_⟩
  have hlines : Builtin.typeLine registry.isBuiltin world =
      fun name => (world.conductOf registry name).describe name := by
    funext name
    rw [typeLine_eq, hcomplete.reserves_eq_false]
    rfl
  rw [Registry.ask, Builtin.type, hlines]
  rfl

/-- A builtin may have the name of a program, and a special name may be registered. -/
theorem type_programs_and_builtins :
    let program : Program := .exits "" "" 7
    let registry : Registry := ⟨[("p", some .echo), ("cd", some .pwd)]⟩
    let world : World :=
      { bare with
        files := ⟨[(["b"], .directory), (["b", "p"], .file ⟨"", some program⟩),
          (["b", "q"], .file ⟨"", some program⟩)]⟩
        env := [("PATH", "/a:/b")] }
    registry.ask .type world ["p", "/b/p", "cd", "q", "exit", "echo", ""] =
        .ok ("p is a shell builtin\n/b/p is /b/p\ncd is a shell builtin\nq is /b/q\n" ++
          "exit is a shell builtin\necho: not found\n: not found") ∧
      (∀ args, world.Conducts registry "q" args (.starts "/b/q")) ∧
      ∀ args, world.Conducts registry "echo" args .missing := by
  intro program registry world
  obtain ⟨conduct, hconducts, hanswer⟩ :=
    type_eq_describe world registry (by simp [Registry.IsComplete, registry])
    ["p", "/b/p", "cd", "q", "exit", "echo", ""]
  have hconduct : conduct = world.conductOf registry := by
    funext name
    exact ((hconducts name [] _).mp (conducts_conductOf world registry name [])).symm
  subst hconduct
  refine ⟨hanswer.trans (congrArg Except.ok (by decide +kernel)), fun args => ?_, fun args => ?_⟩
  · exact (hconducts "q" args _).mpr (by decide +kernel)
  · exact (hconducts "echo" args _).mpr (by decide +kernel)

end World

end LineShell
