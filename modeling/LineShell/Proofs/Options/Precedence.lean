import LineShell.Proofs.Options.Reading
import LineShell.Proofs.Startup.Preparation

/-!
# Which setting counts

A command line may set the same field several times, in either spelling. The last setting of a field
counts, over the environment, and the environment counts over the default. Every level on the way is
checked, also one that a later setting replaces. A value `--` behind `=` is the exception: it leaves
the field blank and passes every check.
-/

namespace LineShell

/-- The level that a setting asks for, in any case. A blank one is blank as a level too. -/
def Setting.level? : Setting String → Option (Setting Level)
  | .given text => (Level.ofName? (Text.upper text)).map .given
  | .blank => some .blank

/-- A setting as the command line spells it. -/
structure Assignment where
  field : Field
  text : String
  /-- one argument holds both the option and the value, with `=` between them -/
  joined : Bool
  deriving DecidableEq, Repr

namespace Assignment

variable {assignment : Assignment} {assignments : List Assignment} {settings : Settings}

def spell (assignment : Assignment) : List String :=
  if assignment.joined then [(Flag.set assignment.field).title ++ "=" ++ assignment.text]
  else [(Flag.set assignment.field).title, assignment.text]

/-- A value that is an argument of its own does not start like an option. -/
def Spellable (assignment : Assignment) : Prop :=
  assignment.joined = false → assignment.text.toList.head? ≠ some '-'

instance : DecidablePred Spellable := fun assignment =>
  inferInstanceAs (Decidable (assignment.joined = false → assignment.text.toList.head? ≠ some '-'))

def value (assignment : Assignment) : Setting String :=
  if assignment.joined ∧ assignment.text = "--" then .blank else .given assignment.text

/-- The assignment asks for a level that is none. -/
def Refused (assignment : Assignment) : Prop :=
  assignment.field = .logLevel ∧ assignment.value.level? = none

/-- The value of the last assignment to a field, if there is one. -/
def lastValue (field : Field) (assignments : List Assignment) : Option (Setting String) :=
  (assignments.reverse.find? (·.field = field)).map value

theorem lastValue_cons (field : Field) (assignment : Assignment) (assignments : List Assignment) :
    lastValue field (assignment :: assignments) =
      (lastValue field assignments).or
        (if assignment.field = field then some assignment.value else none) := by
  rw [lastValue, List.reverse_cons, List.find?_append, Option.map_or, lastValue]
  by_cases hfield : assignment.field = field <;> simp [hfield]

theorem lastValue_eq_none_iff {field : Field} :
    lastValue field assignments = none ↔ ∀ assignment ∈ assignments, assignment.field ≠ field := by
  simp [lastValue]

/-! ### Reading the spellings -/

def arguments (assignment : Assignment) : List Argument :=
  if assignment.joined then [.option (.set assignment.field) false (some assignment.text)]
  else [.option (.set assignment.field) false none, .plain assignment.text]

theorem ofTexts_spell (hspellable : assignment.Spellable) (texts : List String) :
    Argument.ofTexts (assignment.spell ++ texts) =
      (Argument.ofTexts texts).map (assignment.arguments ++ ·) := by
  unfold spell arguments
  by_cases hjoined : assignment.joined
  · have htext : (Flag.set assignment.field).title ++ "=" ++ assignment.text ≠ "--" := by
      intro htext
      have hmem :
          '=' ∈ ((Flag.set assignment.field).title ++ "=" ++ assignment.text).toList := by simp
      rw [htext] at hmem
      revert hmem
      decide
    rw [if_pos hjoined, if_pos hjoined, List.cons_append, List.nil_append,
      Argument.ofTexts_cons htext (Argument.ofText_title_equals _ _)]
    rfl
  · have hhead := hspellable (by simpa using hjoined)
    have htitle : (Flag.set assignment.field).title ≠ "--" := by cases assignment.field <;> decide
    have htext : assignment.text ≠ "--" := by
      intro htext
      simp [htext] at hhead
    rw [if_neg hjoined, if_neg hjoined, List.cons_append, List.cons_append, List.nil_append,
      Argument.ofTexts_cons htitle (Argument.ofText_title _),
      Argument.ofTexts_cons htext (Argument.ofText_plain hhead)]
    cases Argument.ofTexts texts <;> rfl

theorem ofTexts_flatMap_spell (hspellable : ∀ assignment ∈ assignments, assignment.Spellable) :
    Argument.ofTexts (assignments.flatMap spell) = .ok (assignments.flatMap arguments) := by
  induction assignments with
  | nil => rfl
  | cons assignment assignments ih =>
      obtain ⟨hfirst, hrest⟩ := List.forall_mem_cons.mp hspellable
      rw [List.flatMap_cons, List.flatMap_cons, ofTexts_spell hfirst, ih hrest]
      rfl

def apply (assignment : Assignment) (settings : Settings) : Except Stop Settings :=
  settings.give assignment.field assignment.value

theorem read_arguments (assignment : Assignment) (settings : Settings) (more : List Argument) :
    settings.read (assignment.arguments ++ more) =
      (assignment.apply settings).bind (·.read more) := by
  unfold arguments apply
  by_cases hjoined : assignment.joined
  · have hvalue : Settings.explicitValue assignment.text = assignment.value := by
      simp [Settings.explicitValue, value, hjoined]
    rw [if_pos hjoined, List.cons_append, List.nil_append, Settings.read, hvalue]
    cases settings.give assignment.field assignment.value <;> rfl
  · have hvalue : Setting.given assignment.text = assignment.value := by simp [value, hjoined]
    rw [if_neg hjoined, List.cons_append, List.cons_append, List.nil_append, Settings.read, hvalue]
    cases settings.give assignment.field assignment.value <;> rfl

/-! ### The last assignment wins -/

/-- Whether a level is refused has nothing to do with the settings before it. -/
theorem apply_of_refused (hrefused : assignment.Refused) :
    ∃ name, ∀ settings, assignment.apply settings = .error (.usage (.invalidLevel name)) := by
  obtain ⟨hfield, hlevel⟩ := hrefused
  unfold apply
  rw [hfield]
  cases hvalue : assignment.value with
  | blank => simp [hvalue, Setting.level?] at hlevel
  | given text =>
      have hunknown : Level.ofName? (Text.upper text) = none := by
        simpa [hvalue, Setting.level?] using hlevel
      exact ⟨Text.upper text, fun settings => by simp [Settings.give, hunknown]⟩

theorem apply_of_not_refused (haccepted : ¬ assignment.Refused) (settings : Settings) :
    assignment.apply settings = .ok
      { prompt :=
          (if assignment.field = .prompt then some assignment.value else none).or settings.prompt
        logLevel :=
          (if assignment.field = .logLevel then assignment.value.level? else none).or
            settings.logLevel
        logFile :=
          (if assignment.field = .logFile then some assignment.value else none).or
            settings.logFile } := by
  unfold apply
  cases hfield : assignment.field with
  | prompt => simp [Settings.give]
  | logFile => simp [Settings.give]
  | logLevel =>
      cases hvalue : assignment.value with
      | blank => simp [Settings.give, Setting.level?]
      | given text =>
          cases hlevel : Level.ofName? (Text.upper text) with
          | none => exact absurd ⟨hfield, by simp [hvalue, Setting.level?, hlevel]⟩ haccepted
          | some level => simp [Settings.give, Setting.level?, hlevel]

theorem read_of_refused (hmem : assignment ∈ assignments) (hrefused : assignment.Refused)
    (settings : Settings) :
    ∃ name, settings.read (assignments.flatMap arguments) =
      .error (.usage (.invalidLevel name)) := by
  induction assignments generalizing settings with
  | nil => simp at hmem
  | cons first assignments ih =>
      rw [List.flatMap_cons, read_arguments]
      by_cases hfirst : first.Refused
      · obtain ⟨name, hname⟩ := apply_of_refused hfirst
        exact ⟨name, by rw [hname]; rfl⟩
      · have hrest : assignment ∈ assignments := by
          apply List.mem_of_ne_of_mem _ hmem
          rintro rfl
          exact hfirst hrefused
        rw [apply_of_not_refused hfirst]
        exact ih hrest _

theorem exists_level_of_lastValue (haccepted : ∀ assignment ∈ assignments, ¬ assignment.Refused)
    {value : Setting String} (hlast : lastValue .logLevel assignments = some value) :
    ∃ level, value.level? = some level := by
  obtain ⟨assignment, hfind, rfl⟩ := Option.map_eq_some_iff.mp hlast
  have hmem := List.mem_reverse.mp (List.mem_of_find?_eq_some hfind)
  have hfield : assignment.field = .logLevel := by simpa using List.find?_some hfind
  exact Option.ne_none_iff_exists'.mp fun hnone => haccepted assignment hmem ⟨hfield, hnone⟩

theorem read_of_not_refused (haccepted : ∀ assignment ∈ assignments, ¬ assignment.Refused)
    (settings : Settings) :
    settings.read (assignments.flatMap arguments) = .ok
      ({ prompt := (lastValue .prompt assignments).or settings.prompt
         logLevel := ((lastValue .logLevel assignments).bind Setting.level?).or settings.logLevel
         logFile := (lastValue .logFile assignments).or settings.logFile }, []) := by
  induction assignments generalizing settings with
  | nil => rfl
  | cons assignment assignments ih =>
      obtain ⟨hfirst, hrest⟩ := List.forall_mem_cons.mp haccepted
      -- A level that a later assignment replaces is no level of the rest, so the two levels may be
      -- chosen apart.
      have hlevel : (lastValue .logLevel (assignment :: assignments)).bind Setting.level? =
          ((lastValue .logLevel assignments).bind Setting.level?).or
            (if assignment.field = .logLevel then assignment.value.level? else none) := by
        rw [lastValue_cons]
        cases hlast : lastValue .logLevel assignments with
        | none => by_cases hfield : assignment.field = .logLevel <;> simp [hfield]
        | some value =>
            obtain ⟨level, hvalue⟩ := exists_level_of_lastValue hrest hlast
            simp [hvalue]
      rw [List.flatMap_cons, read_arguments, apply_of_not_refused hfirst, Except.bind, ih hrest,
        hlevel]
      simp only [lastValue_cons, Option.or_assoc]

/-! ### Assignments to different fields -/

theorem apply_comm {first second : Assignment} (hfields : first.field ≠ second.field)
    (settings : Settings) :
    (first.apply settings).bind second.apply = (second.apply settings).bind first.apply := by
  have hrefuses : ∀ {one other : Assignment}, one.Refused → ¬ other.Refused →
      (one.apply settings).bind other.apply = (other.apply settings).bind one.apply := by
    intro one other hone hother
    obtain ⟨name, hname⟩ := apply_of_refused hone
    rw [hname, apply_of_not_refused hother, Except.bind, Except.bind, hname]
  by_cases hfirst : first.Refused
  · have hsecond : ¬ second.Refused := fun hsecond => hfields (hfirst.1.trans hsecond.1.symm)
    exact hrefuses hfirst hsecond
  · by_cases hsecond : second.Refused
    · exact (hrefuses hsecond hfirst).symm
    · have heither : ∀ {α : Type} (field : Field) (one other more : Option α),
          (if second.field = field then other else none).or
              ((if first.field = field then one else none).or more) =
            (if first.field = field then one else none).or
              ((if second.field = field then other else none).or more) := by
        intro α field one other more
        by_cases hfield : first.field = field
        · have hne : second.field ≠ field := fun heq => hfields (hfield.trans heq.symm)
          simp [hne]
        · simp [hfield]
      simp only [apply_of_not_refused hfirst, apply_of_not_refused hsecond, Except.bind, heither]

theorem read_comm {first second : Assignment} (hfields : first.field ≠ second.field)
    (before after : List Assignment) (settings : Settings) :
    settings.read ((before ++ first :: second :: after).flatMap arguments) =
      settings.read ((before ++ second :: first :: after).flatMap arguments) := by
  induction before generalizing settings with
  | nil =>
      have htwo : ∀ first second : Assignment,
          settings.read ((first :: second :: after).flatMap arguments) =
            ((first.apply settings).bind second.apply).bind (·.read (after.flatMap arguments)) := by
        intro first second
        rw [List.flatMap_cons, List.flatMap_cons, read_arguments]
        cases first.apply settings with
        | error stop => rfl
        | ok next => exact second.read_arguments next _
      rw [List.nil_append, List.nil_append, htwo, htwo, apply_comm hfields]
  | cons assignment before ih =>
      rw [List.cons_append, List.cons_append, List.flatMap_cons, List.flatMap_cons, read_arguments,
        read_arguments]
      simp only [ih]

end Assignment

namespace Config

variable {assignments : List Assignment} {env other : List (String × String)}

theorem load_of_refused (hspellable : ∀ assignment ∈ assignments, assignment.Spellable)
    {assignment : Assignment} (hmem : assignment ∈ assignments) (hrefused : assignment.Refused) :
    ∃ name, ∀ env, load env (assignments.flatMap Assignment.spell) =
      .error (.usage (.invalidLevel name)) := by
  obtain ⟨name, hread⟩ := Assignment.read_of_refused hmem hrefused .empty
  refine ⟨name, fun env => ?_⟩
  rw [load, Settings.ofArguments, Assignment.ofTexts_flatMap_spell hspellable]
  simp only [hread]
  rfl

theorem ofEnv_eq (env : List (String × String)) :
    ofEnv env =
      { prompt := .given ((env.lookup "MINISH_PROMPT").getD "$ ")
        logLevel := .given ((Level.ofName? (levelName env)).getD .warning)
        logFile := ((env.lookup "MINISH_LOG_FILE").filter (· ≠ "")).map .given } := by
  unfold ofEnv
  congr 1
  · cases env.lookup "MINISH_PROMPT" <;> rfl
  · cases Level.ofName? (levelName env) <;> rfl
  · rw [Option.orElse_eq_orElse, Option.orElse_eq_or]
    exact Option.or_none

theorem load_of_not_refused (hspellable : ∀ assignment ∈ assignments, assignment.Spellable)
    (haccepted : ∀ assignment ∈ assignments, ¬ assignment.Refused) :
    load env (assignments.flatMap Assignment.spell) = .ok
      { prompt := (Assignment.lastValue .prompt assignments).getD (ofEnv env).prompt
        logLevel := ((Assignment.lastValue .logLevel assignments).bind Setting.level?).getD
          (ofEnv env).logLevel
        logFile := (Assignment.lastValue .logFile assignments).or (ofEnv env).logFile } := by
  rw [load, Settings.ofArguments, Assignment.ofTexts_flatMap_spell hspellable]
  simp only [Assignment.read_of_not_refused haccepted, Settings.empty, Option.or_none]
  rw [Except.map, override, Option.orElse_eq_orElse, Option.orElse_eq_or]

theorem load_comm (hspellable : ∀ assignment ∈ assignments, assignment.Spellable)
    {first second : Assignment} {before after : List Assignment}
    (hassignments : assignments = before ++ first :: second :: after)
    (hfields : first.field ≠ second.field) :
    load env ((before ++ second :: first :: after).flatMap Assignment.spell) =
      load env (assignments.flatMap Assignment.spell) := by
  have hswapped : ∀ assignment ∈ before ++ second :: first :: after, assignment.Spellable := by
    intro assignment hmem
    apply hspellable assignment
    rw [hassignments]
    simp only [List.mem_append, List.mem_cons] at hmem ⊢
    tauto
  rw [load, load, Settings.ofArguments, Settings.ofArguments,
    Assignment.ofTexts_flatMap_spell hspellable, Assignment.ofTexts_flatMap_spell hswapped]
  simp only [hassignments, Assignment.read_comm hfields]

/-- What a variable says matters only where nothing on the command line sets its field. -/
theorem load_congr (hspellable : ∀ assignment ∈ assignments, assignment.Spellable)
    (hprompt : (∀ assignment ∈ assignments, assignment.field ≠ .prompt) →
      other.lookup "MINISH_PROMPT" = env.lookup "MINISH_PROMPT")
    (hlevel : (∀ assignment ∈ assignments, assignment.field ≠ .logLevel) →
      other.lookup "MINISH_LOG_LEVEL" = env.lookup "MINISH_LOG_LEVEL")
    (hfile : (∀ assignment ∈ assignments, assignment.field ≠ .logFile) →
      other.lookup "MINISH_LOG_FILE" = env.lookup "MINISH_LOG_FILE") :
    load other (assignments.flatMap Assignment.spell) =
      load env (assignments.flatMap Assignment.spell) := by
  by_cases haccepted : ∀ assignment ∈ assignments, ¬ assignment.Refused
  · have hpromptEq : (Assignment.lastValue .prompt assignments).getD (ofEnv other).prompt =
        (Assignment.lastValue .prompt assignments).getD (ofEnv env).prompt := by
      cases hlast : Assignment.lastValue .prompt assignments with
      | some value => rfl
      | none => rw [ofEnv, hprompt (Assignment.lastValue_eq_none_iff.mp hlast), ofEnv]
    have hlevelEq : ((Assignment.lastValue .logLevel assignments).bind Setting.level?).getD
        (ofEnv other).logLevel =
        ((Assignment.lastValue .logLevel assignments).bind Setting.level?).getD
          (ofEnv env).logLevel := by
      cases hlast : Assignment.lastValue .logLevel assignments with
      | some value =>
          obtain ⟨level, hvalue⟩ := Assignment.exists_level_of_lastValue haccepted hlast
          simp [hvalue]
      | none =>
        rw [ofEnv, levelName, hlevel (Assignment.lastValue_eq_none_iff.mp hlast), ofEnv, levelName]
    have hfileEq : (Assignment.lastValue .logFile assignments).or (ofEnv other).logFile =
        (Assignment.lastValue .logFile assignments).or (ofEnv env).logFile := by
      cases hlast : Assignment.lastValue .logFile assignments with
      | some value => rfl
      | none => rw [ofEnv, hfile (Assignment.lastValue_eq_none_iff.mp hlast), ofEnv]
    rw [load_of_not_refused hspellable haccepted, load_of_not_refused hspellable haccepted,
      hpromptEq, hlevelEq, hfileEq]
  · push Not at haccepted
    obtain ⟨assignment, hmem, hrefused⟩ := haccepted
    obtain ⟨name, hload⟩ := load_of_refused hspellable hmem hrefused
    rw [hload, hload]

/-- **The last assignment to a field counts, over the environment and that over the default, and
every level is checked.** Assignments to different fields commute, a variable that an assignment
overrides has no effect, and one warning is given if and only if the environment names a level that
is none. -/
theorem load_assignments (world : World)
    (hspellable : ∀ assignment ∈ assignments, assignment.Spellable) :
    ((∃ assignment ∈ assignments, assignment.Refused) →
      ∃ stop, load world.env (assignments.flatMap Assignment.spell) = .error stop ∧
        stop.status = 2) ∧
    ((∀ assignment ∈ assignments, ¬ assignment.Refused) →
      load world.env (assignments.flatMap Assignment.spell) = .ok
        { prompt := (Assignment.lastValue .prompt assignments).getD
            (.given ((world.env.lookup "MINISH_PROMPT").getD "$ "))
          logLevel := ((Assignment.lastValue .logLevel assignments).bind Setting.level?).getD
            (.given ((Level.ofName?
              (Text.upper ((world.env.lookup "MINISH_LOG_LEVEL").getD ""))).getD .warning))
          logFile := (Assignment.lastValue .logFile assignments).or
            (((world.env.lookup "MINISH_LOG_FILE").filter (· ≠ "")).map .given) }) ∧
    (∀ before first second after, assignments = before ++ first :: second :: after →
      first.field ≠ second.field →
      load world.env ((before ++ second :: first :: after).flatMap Assignment.spell) =
        load world.env (assignments.flatMap Assignment.spell)) ∧
    (∀ env,
      ((∀ assignment ∈ assignments, assignment.field ≠ .prompt) →
        env.lookup "MINISH_PROMPT" = world.env.lookup "MINISH_PROMPT") →
      ((∀ assignment ∈ assignments, assignment.field ≠ .logLevel) →
        env.lookup "MINISH_LOG_LEVEL" = world.env.lookup "MINISH_LOG_LEVEL") →
      ((∀ assignment ∈ assignments, assignment.field ≠ .logFile) →
        env.lookup "MINISH_LOG_FILE" = world.env.lookup "MINISH_LOG_FILE") →
      load env (assignments.flatMap Assignment.spell) =
        load world.env (assignments.flatMap Assignment.spell)) ∧
    (world.prepare (assignments.flatMap Assignment.spell)).2.records.filter
        (·.component = .config) =
      world.records.filter (·.component = .config) ++
        (let name := Text.upper ((world.env.lookup "MINISH_LOG_LEVEL").getD "")
        if name = "" ∨ (Level.ofName? name).isSome then [] else [unknownLevel name]) := by
  refine ⟨?_, ?_, fun _ _ _ _ => load_comm hspellable, fun env => load_congr hspellable, ?_⟩
  · rintro ⟨assignment, hmem, hrefused⟩
    obtain ⟨name, hload⟩ := load_of_refused hspellable hmem hrefused
    exact ⟨_, hload world.env, rfl⟩
  · intro haccepted
    rw [load_of_not_refused hspellable haccepted, ofEnv_eq]
    rfl
  · obtain ⟨later, hrecords, hlater⟩ := world.records_prepare (assignments.flatMap Assignment.spell)
    have hnone : later.filter (·.component = .config) = [] :=
      List.filter_eq_nil_iff.mpr fun record hrecord => by simpa using hlater record hrecord
    have hwarned : (envRecords world.env).filter (·.component = .config) =
        envRecords world.env := by
      unfold envRecords
      split <;> rfl
    rw [hrecords, List.filter_append, List.filter_append, hnone, hwarned, List.append_nil]
    rfl

/-- The environment names another log file and no level, and the level is set twice. -/
theorem load_repeated_settings :
    load [("MINISH_LOG_LEVEL", "chatty"), ("MINISH_LOG_FILE", "env.log")]
        ["--log-level", "error", "--prompt=-x", "--log-file", "", "--log-level=debug"] =
      .ok ⟨.given "-x", .given .debug, some (.given "")⟩ := by
  have hload := (@load_assignments
    [⟨.logLevel, "error", false⟩, ⟨.prompt, "-x", true⟩, ⟨.logFile, "", false⟩,
      ⟨.logLevel, "debug", true⟩]
    ⟨⟨[]⟩, .root, [("MINISH_LOG_LEVEL", "chatty"), ("MINISH_LOG_FILE", "env.log")], .traceOnly, []⟩
    (by decide)).2.1 (by unfold Assignment.Refused; decide +kernel)
  refine Eq.trans (congrArg (load _) ?_) (hload.trans (congrArg Except.ok ?_))
  · decide +kernel
  · decide +kernel

/-- The exception: `--` is no level, and yet it is accepted behind `=`. -/
theorem load_dashes :
    Level.ofName? (Text.upper "--") = none ∧
      load [] ["--log-level=--"] = .ok ⟨.given "$ ", .blank, none⟩ :=
  ⟨by decide +kernel, rfl⟩

end Config

end LineShell
