import LineShell.Proofs.Options.Precedence

/-!
# Which command lines are accepted

A command line is accepted if its arguments are assignments, in either spelling and abbreviated or
not, and none of them asks for a level that is none. So the environment has no say in whether the
program starts, nor in what is printed if it does not, and where it starts it only fills in the
fields that no option sets.
-/

namespace LineShell

namespace Argument

variable {text : String} {texts : List String} {argument : Argument} {arguments : List Argument}

/-- An option that sets a field goes by its long name. -/
def IsLong : Argument → Prop
  | .option (.set _) short _ => short = false
  | .option .help _ _ | .unknown _ | .plain _ | .endOfOptions => True

theorem isLong_ofLong (hlong : ofLong text = .ok argument) : argument.IsLong := by
  unfold ofLong at hlong
  dsimp only at hlong
  have hoption : ∀ flag value, (Argument.option flag false value).IsLong := by
    intro flag value
    cases flag <;> trivial
  split at hlong
  · cases hlong
    exact hoption _ _
  · cases hlong
    exact hoption _ _
  · cases hlong
    exact hoption _ _
  · cases hlong
    split <;> trivial
  · cases hlong

theorem isLong_ofShort (text : String) : (ofShort text).IsLong := by
  unfold ofShort
  split <;> try trivial
  split <;> trivial

theorem isLong_ofText (htext : ofText text = .ok argument) : argument.IsLong := by
  unfold ofText at htext
  split at htext
  · exact isLong_ofLong htext
  · cases htext
    exact isLong_ofShort text
  · cases htext
    trivial

theorem isLong_ofTexts (htexts : ofTexts texts = .ok arguments) :
    ∀ argument ∈ arguments, argument.IsLong := by
  induction texts generalizing arguments with
  | nil =>
      cases htexts
      simp
  | cons text texts ih =>
      by_cases hend : text = "--"
      · rw [ofTexts, if_pos hend] at htexts
        cases htexts
        simp [IsLong]
      · obtain ⟨argument, rest, hargument, hrest, rfl⟩ := exists_of_ofTexts_cons hend htexts
        exact List.forall_mem_cons.mpr ⟨isLong_ofText hargument, ih hrest⟩

end Argument

namespace Assignment

variable {assignments : List Assignment}

/-- Arguments that are carried out to their end, with nothing left over, are assignments. -/
theorem exists_of_read {settings set : Settings} {arguments : List Argument}
    (hread : settings.read arguments = .ok (set, []))
    (hlong : ∀ argument ∈ arguments, argument.IsLong) :
    ∃ assignments : List Assignment, arguments = assignments.flatMap Assignment.arguments := by
  fun_induction Settings.read settings arguments with
  | case1 => exact ⟨[], rfl⟩
  | case5 settings field short text arguments next hgive ih =>
      obtain ⟨hshort, hrest⟩ := List.forall_mem_cons.mp hlong
      obtain ⟨assignments, rfl⟩ := ih hread hrest
      cases hshort
      exact ⟨⟨field, text, true⟩ :: assignments, rfl⟩
  | case7 settings field short text arguments next hgive ih =>
      obtain ⟨hshort, hrest⟩ := List.forall_mem_cons.mp hlong
      obtain ⟨assignments, rfl⟩ := ih hread (List.forall_mem_cons.mp hrest).2
      cases hshort
      exact ⟨⟨field, text, false⟩ :: assignments, rfl⟩
  | case2 | case3 => cases hread
  | case4 | case6 | case8 => simp_all
  | case9 | case10 | case11 =>
      obtain ⟨rest, _, hnil⟩ := Settings.map_leaveOver_eq_ok hread
      cases hnil

/-- What assignments set: for each field the last of them counts. -/
def settings (assignments : List Assignment) : Settings where
  prompt := lastValue .prompt assignments
  logLevel := (lastValue .logLevel assignments).bind Setting.level?
  logFile := lastValue .logFile assignments

theorem read_empty (haccepted : ∀ assignment ∈ assignments, ¬ assignment.Refused) :
    Settings.empty.read (assignments.flatMap arguments) = .ok (settings assignments, []) := by
  rw [read_of_not_refused haccepted]
  simp only [Settings.empty, Option.or_none]
  rfl

theorem ofArguments_eq_ok_iff {texts : List String} {set : Settings} :
    Settings.ofArguments texts = .ok set ↔
      ∃ assignments : List Assignment,
        Argument.ofTexts texts = .ok (assignments.flatMap arguments) ∧
        (∀ assignment ∈ assignments, ¬ assignment.Refused) ∧ set = settings assignments := by
  constructor
  · intro hset
    obtain ⟨sorted, hsorted, hread⟩ := Settings.exists_of_ofArguments hset
    obtain ⟨assignments, rfl⟩ := exists_of_read hread (Argument.isLong_ofTexts hsorted)
    have haccepted : ∀ assignment ∈ assignments, ¬ assignment.Refused := by
      intro assignment hmem hrefused
      obtain ⟨name, herror⟩ := read_of_refused hmem hrefused Settings.empty
      rw [herror] at hread
      cases hread
    rw [read_empty haccepted] at hread
    cases hread
    exact ⟨assignments, hsorted, haccepted, rfl⟩
  · rintro ⟨assignments, hsorted, haccepted, rfl⟩
    simp only [Settings.ofArguments, hsorted, read_empty haccepted]

theorem exists_lastValue {field : Field}
    (hmem : ∃ assignment ∈ assignments, assignment.field = field) :
    ∃ value, lastValue field assignments = some value := by
  obtain ⟨assignment, hassignment, hfield⟩ := hmem
  exact Option.ne_none_iff_exists'.mp fun hnone =>
    lastValue_eq_none_iff.mp hnone assignment hassignment hfield

end Assignment

namespace Config

variable {assignments : List Assignment}

/-- The configurations agree on the fields that the assignments set. -/
structure AgreeOn (assignments : List Assignment) (first second : Config) : Prop where
  prompt : (∃ assignment ∈ assignments, assignment.field = .prompt) → first.prompt = second.prompt
  logLevel : (∃ assignment ∈ assignments, assignment.field = .logLevel) →
    first.logLevel = second.logLevel
  logFile : (∃ assignment ∈ assignments, assignment.field = .logFile) →
    first.logFile = second.logFile

theorem agreeOn_override (haccepted : ∀ assignment ∈ assignments, ¬ assignment.Refused)
    (first second : Config) :
    AgreeOn assignments (first.override (Assignment.settings assignments))
      (second.override (Assignment.settings assignments)) where
  prompt hmem := by
    obtain ⟨value, hvalue⟩ := Assignment.exists_lastValue hmem
    simp [override, Assignment.settings, hvalue]
  logLevel hmem := by
    obtain ⟨value, hvalue⟩ := Assignment.exists_lastValue hmem
    obtain ⟨level, hlevel⟩ := Assignment.exists_level_of_lastValue haccepted hvalue
    simp [override, Assignment.settings, hvalue, hlevel]
  logFile hmem := by
    obtain ⟨value, hvalue⟩ := Assignment.exists_lastValue hmem
    simp [override, Assignment.settings, hvalue]

/-- The level is one of the levels, unless the last setting of it is blank. -/
theorem logLevel_override (haccepted : ∀ assignment ∈ assignments, ¬ assignment.Refused)
    (env : List (String × String)) :
    (Assignment.lastValue .logLevel assignments ≠ some .blank →
      ∃ level, ((ofEnv env).override (Assignment.settings assignments)).logLevel = .given level) ∧
    (Assignment.lastValue .logLevel assignments = some .blank →
      ((ofEnv env).override (Assignment.settings assignments)).logLevel = .blank) := by
  cases hlast : Assignment.lastValue .logLevel assignments with
  | none =>
      refine ⟨fun _ => ⟨(Level.ofName? (levelName env)).getD .warning, ?_⟩,
        fun hblank => by cases hblank⟩
      rw [override, Assignment.settings, hlast, ofEnv_eq]
      rfl
  | some value =>
      obtain ⟨level, hlevel⟩ := Assignment.exists_level_of_lastValue haccepted hlast
      cases value with
      | blank => simp [override, Assignment.settings, hlast, Setting.level?]
      | given text =>
          obtain ⟨name, hname, rfl⟩ := Option.map_eq_some_iff.mp hlevel
          refine ⟨fun _ => ⟨name, ?_⟩, fun hblank => by cases hblank⟩
          simp [override, Assignment.settings, hlast, Setting.level?, hname]

/-- **The arguments alone decide whether the program starts.** If they are not accepted, they decide
the status and all that is printed, the warning about the environment aside. If they are, they are
assignments, the environment matters only for the fields that these do not set, and the level is one
of the levels, unless the last setting of it is blank. -/
theorem load_decided_by_arguments (arguments : List String) :
    (∃ stop : Stop, (stop.status = 0 ∨ stop.status = 2) ∧
      (∀ assignments : List Assignment,
        Argument.ofTexts arguments = .ok (assignments.flatMap Assignment.arguments) →
        ∃ assignment ∈ assignments, assignment.Refused) ∧
      ∀ world : World,
        load world.env arguments = .error stop ∧
        (world.prepare arguments).1 = .done stop.status ∧
        World.Shows ((envRecords world.env).map .logged ++ stop.events) world
          (world.prepare arguments).2) ∨
    ∃ assignments : List Assignment,
      Argument.ofTexts arguments = .ok (assignments.flatMap Assignment.arguments) ∧
      (∀ assignment ∈ assignments, ¬ assignment.Refused) ∧ ∀ world : World,
        ∃ config, load world.env arguments = .ok config ∧
          (Assignment.lastValue .logLevel assignments ≠ some .blank →
            (∃ level, config.logLevel = .given level) ∧
            ∀ ready : World, (ready.setUpLogging config).1 ≠ .error .noLevel) ∧
          (Assignment.lastValue .logLevel assignments = some .blank → config.logLevel = .blank) ∧
          (∀ env, ∃ other, load env arguments = .ok other ∧ AgreeOn assignments config other) ∧
          ∃ later,
            World.Shows ((envRecords world.env).map .logged ++ later) world
              (world.prepare arguments).2 ∧
            (later = [] ∨
              later = [.logged ⟨.debug, .program, "starting with " ++ config.describe⟩]) := by
  cases hset : Settings.ofArguments arguments with
  | error stop =>
      refine .inl ⟨stop, by cases stop <;> simp [Stop.status], ?_, fun world => ?_⟩
      · intro assignments hsorted
        by_contra hnone
        push Not at hnone
        have haccepted := Assignment.ofArguments_eq_ok_iff.mpr ⟨assignments, hsorted, hnone, rfl⟩
        rw [hset] at haccepted
        cases haccepted
      have hload : load world.env arguments = .error stop := by rw [load, hset]; rfl
      refine ⟨hload, by rw [World.prepare_of_stop hload], ?_⟩
      rw [World.prepare_of_stop hload]
      exact (World.shows_foldl_log world _).trans (World.shows_printStop world.warned stop)
  | ok set =>
      obtain ⟨assignments, hsorted, haccepted, rfl⟩ := Assignment.ofArguments_eq_ok_iff.mp hset
      have hload : ∀ env, load env arguments =
          .ok ((ofEnv env).override (Assignment.settings assignments)) := by
        intro env
        rw [load, hset]
        rfl
      refine .inr ⟨assignments, hsorted, haccepted, fun world =>
        ⟨_, hload world.env, ?_, ?_, ?_, ?_⟩⟩
      · intro hlast
        obtain ⟨level, hlevel⟩ := (logLevel_override haccepted world.env).1 hlast
        exact ⟨⟨level, hlevel⟩, fun ready => World.setUpLogging_ne_noLevel hlevel⟩
      · exact (logLevel_override haccepted world.env).2
      · exact fun env => ⟨_, hload env, agreeOn_override haccepted _ _⟩
      · exact World.shows_prepare_of_config (hload world.env)

/-- An abbreviated option with the value `--` overrides a level of the environment with none, and
logging cannot be set up. -/
theorem load_blank_level :
    load [("MINISH_LOG_LEVEL", "debug")] ["--log-l=--"] = .ok ⟨.given "$ ", .blank, none⟩ ∧
      ((⟨⟨[]⟩, .root, [("MINISH_LOG_LEVEL", "debug")], .unset, []⟩ : World).prepare
        ["--log-l=--"]).1 = .failed .noLevel :=
  ⟨rfl, rfl⟩

end Config

end LineShell
