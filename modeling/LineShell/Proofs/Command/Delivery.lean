import LineShell.Proofs.Command.Redirection
import LineShell.Proofs.World.Output

/-!
# Where the answers of builtins go

A sequence of builtins, each with its own redirect or none, leaves in every file the answers sent
there since it was last truncated, behind what it held if it never was. All other answers are on
standard output. A builtin that fails leaves nothing anywhere.

A log file takes records besides; the statements are about the other files.
-/

namespace LineShell

/-! ### The part of a list since the last element of a kind -/

/-- The list from the last element with a property on, or all of it if there is none. -/
def sinceLast {α : Type} (property : α → Bool) : List α → List α
  | [] => []
  | first :: rest => if rest.any property then sinceLast property rest else first :: rest

section SinceLast

variable {α : Type} {property : α → Bool}

theorem sinceLast_of_any_eq_false {list : List α} (hnone : list.any property = false) :
    sinceLast property list = list := by
  cases list with
  | nil => rfl
  | cons first rest =>
      have hrest : rest.any property = false := by
        rw [List.any_cons, Bool.or_eq_false_iff] at hnone
        exact hnone.2
      simp [sinceLast, hrest]

/-- A text that is now and then started anew is what was added since it last was. -/
theorem foldl_sinceLast (property : α → Bool) (added : α → String) (list : List α) (text : String) :
    list.foldl (fun text element => (if property element then "" else text) ++ added element) text =
      (if list.any property then "" else text) ++
        String.join ((sinceLast property list).map added) := by
  induction list generalizing text with
  | nil => simp [sinceLast]
  | cons first rest ih =>
      rw [List.foldl_cons, ih, sinceLast, List.any_cons]
      cases hrest : rest.any property with
      | true => simp
      | false =>
          rw [sinceLast_of_any_eq_false hrest]
          simp [String.append_assoc]

end SinceLast

/-- An answer and where it goes. -/
structure Delivery where
  text : String
  redirect : Option Redirect

namespace Delivery

def targets (world : World) (path : Path) (delivery : Delivery) : Bool :=
  delivery.redirect.any fun redirect => world.Denotes redirect.path path

def truncates (world : World) (path : Path) (delivery : Delivery) : Bool :=
  delivery.redirect.any fun redirect => !redirect.append && world.Denotes redirect.path path

def added (world : World) (path : Path) (delivery : Delivery) : String :=
  if delivery.redirect.any fun redirect =>
      redirect.descriptor = .stdout && world.Denotes redirect.path path
  then delivery.text ++ "\n" else ""

def printed (delivery : Delivery) : String :=
  if delivery.redirect.any fun redirect => redirect.descriptor = .stdout then ""
  else delivery.text ++ "\n"

end Delivery

namespace World

variable {world before after : World} {registry : Registry} {command : Command} {path : Path}
  {touched : Path → Bool → Prop}

theorem TouchesOnly.targets_eq (htouches : TouchesOnly touched before after) (path : Path) :
    Delivery.targets after path = Delivery.targets before path := by
  funext delivery
  simp only [Delivery.targets, htouches.searchesAlike.denotes_iff]

theorem TouchesOnly.truncates_eq (htouches : TouchesOnly touched before after) (path : Path) :
    Delivery.truncates after path = Delivery.truncates before path := by
  funext delivery
  simp only [Delivery.truncates, htouches.searchesAlike.denotes_iff]

theorem TouchesOnly.added_eq (htouches : TouchesOnly touched before after) (path : Path) :
    Delivery.added after path = Delivery.added before path := by
  funext delivery
  simp only [Delivery.added, htouches.searchesAlike.denotes_iff]

/-- What the texts of two worlds differ by is the deliveries between them. -/
structure Delivered (deliveries : List Delivery) (before after : World) : Prop where
  touchesOnly :
    TouchesOnly (fun path _ => deliveries.any (Delivery.targets before path)) before after
  out : after.out = before.out ++ String.join (deliveries.map Delivery.printed)
  textAt : ∀ path, before.logging.path? ≠ some path →
    after.files.textAt path =
      deliveries.foldl (fun text delivery =>
        (if delivery.truncates before path then "" else text) ++ delivery.added before path)
        (before.files.textAt path)

theorem Delivered.trans {between : World} {first second : List Delivery}
    (hfirst : Delivered first before between) (hsecond : Delivered second between after) :
    Delivered (first ++ second) before after where
  touchesOnly := by
    refine (hfirst.touchesOnly.mono ?_).trans (hsecond.touchesOnly.mono ?_)
    · intro path _ htargets
      simp [htargets]
    · intro path _ htargets
      rw [hfirst.touchesOnly.targets_eq] at htargets
      simp [htargets]
  out := by
    rw [hsecond.out, hfirst.out, List.map_append, String.join_append, String.append_assoc]
  textAt path hlog := by
    rw [hsecond.textAt path (hfirst.touchesOnly.logging ▸ hlog), hfirst.textAt path hlog,
      hfirst.touchesOnly.truncates_eq, hfirst.touchesOnly.added_eq, List.foldl_append]

theorem delivered_of_isIdle {steps : List Step} (hidle : ∀ step ∈ steps, step.IsIdle)
    (hprinted : written .stdout (steps.flatMap Step.performed) = "") (world : World) :
    Delivered [] world (world.takeAll steps) := by
  have htouches := touchesOnly_takeAll world hidle
  refine ⟨htouches.mono fun _ _ => False.elim, ?_, fun path hlog => ?_⟩
  · rw [(world.performs_takeAll steps).out, hprinted]
    rfl
  · exact FileSystem.textAt_congr (htouches.elsewhere path hlog fun _ => id)

theorem delivered_log (world : World) (record : Record) :
    Delivered [] world (world.log record) := by
  have hidle : ∀ step ∈ [Step.log record], step.IsIdle := List.forall_mem_singleton.mpr trivial
  exact delivered_of_isIdle hidle rfl world

theorem delivered_report (world : World) (error : ShellError) :
    Delivered [] world (world.report error) := by
  have hidle : ∀ step ∈ [Step.say .stderr error.message], step.IsIdle :=
    List.forall_mem_singleton.mpr trivial
  exact delivered_of_isIdle hidle rfl world

/-! ### One answer -/

theorem textAt_openFile_write {spec : String} (hfile : world.DenotesFile spec path)
    (append : Bool) (text : String) (elsewhere : Path) :
    (world.takeAll [.openFile path append, .write path append text]).files.textAt elsewhere =
      if world.Denotes spec elsewhere then
        (if append then world.files.textAt elsewhere else "") ++ text
      else world.files.textAt elsewhere := by
  rw [takeAll_openFile_write hfile.2, FileSystem.textAt_store hfile.2]
  by_cases hdenotes : world.Denotes spec elsewhere
  · obtain rfl := hfile.1.unique hdenotes
    simp [hdenotes]
  · have hne : elsewhere ≠ path := by
      rintro rfl
      exact hdenotes hfile.1
    simp [hdenotes, hne]

theorem deliver_delivered {redirect : Option Redirect}
    (hregular : ∀ spec, redirect = some spec → ∃ path, world.DenotesFile spec.path path)
    (text : String) :
    ∃ after, world.deliver text redirect = (.ok (), after) ∧
      Delivered [⟨text, redirect⟩] world after := by
  rw [deliver_eq]
  cases redirect with
  | none =>
      refine ⟨_, rfl, touchesOnly_takeAll world (List.forall_mem_singleton.mpr trivial),
        (performs_takeAll world [.say .stdout text]).out, fun _ _ => ?_⟩
      simp [Delivery.truncates, Delivery.added, deliverPlan, Step.say, take, emit]
  | some redirect =>
      obtain ⟨target, hfile⟩ := hregular redirect rfl
      obtain ⟨descriptor, spec, append⟩ := redirect
      have htargets : [(⟨text, some ⟨descriptor, spec, append⟩⟩ : Delivery)].any
          (Delivery.targets world target) := by
        simpa [Delivery.targets] using hfile.1
      have hwithin : ∀ more, ∀ step ∈ [Step.openFile target append, .write target append more],
          step.Within fun path _ =>
            [(⟨text, some ⟨descriptor, spec, append⟩⟩ : Delivery)].any
              (Delivery.targets world path) := fun more =>
        List.forall_mem_cons.mpr ⟨htargets, List.forall_mem_singleton.mpr htargets⟩
      cases descriptor with
      | stdout =>
          rw [deliverPlan, writePlan_of_denotesFile hfile]
          refine ⟨_, rfl, touchesOnly_takeAll world (hwithin _),
            (performs_takeAll world _).out, fun path _ => ?_⟩
          rw [textAt_openFile_write hfile]
          by_cases hdenotes : world.Denotes spec path <;> cases append <;>
            simp [Delivery.truncates, Delivery.added, hdenotes]
      | stderr =>
          have hprinted : (world.take (.say .stdout text)).DenotesFile spec target := hfile
          rw [deliverPlan, writePlan_of_denotesFile hfile, follow_after, follow]
          refine ⟨_, rfl, ?_, ?_, fun path _ => ?_⟩
          · rw [← takeAll_append]
            exact touchesOnly_takeAll world (List.forall_mem_cons.mpr ⟨trivial, hwithin _⟩)
          · rw [← takeAll_append]
            exact (performs_takeAll world _).out
          · have hkept : (world.take (.say .stdout text)).Denotes spec path ↔
                world.Denotes spec path := Iff.rfl
            refine (textAt_openFile_write hprinted append "" path).trans ?_
            simp only [hkept]
            by_cases hdenotes : world.Denotes spec path <;> cases append <;>
              simp [Delivery.truncates, Delivery.added, hdenotes, Step.say, take, emit]

/-! ### One command -/

/-- What a command delivers: the answer of its builtin, if that does not fail. -/
def deliveriesOf (world : World) (registry : Registry) (command : Command) : List Delivery :=
  match world.answer registry command with
  | some (.ok text) => [⟨text, command.redirect⟩]
  | _ => []

/-- A builtin whose target, if it has one, is a regular file. -/
structure IsRegularBuiltin (world : World) (registry : Registry) (command : Command) : Prop where
  name_not_special : command.name ∉ specialNames
  registered : (registry.get? command.name).isSome
  regular : ∀ redirect, command.redirect = some redirect →
    ∃ path, world.DenotesFile redirect.path path

theorem TouchesOnly.isRegularBuiltin (htouches : TouchesOnly touched before after)
    (hbuiltin : before.IsRegularBuiltin registry command) :
    after.IsRegularBuiltin registry command where
  name_not_special := hbuiltin.name_not_special
  registered := hbuiltin.registered
  regular redirect hredirect := by
    obtain ⟨path, hfile⟩ := hbuiltin.regular redirect hredirect
    exact ⟨path, htouches.denotesFile_iff.mpr hfile⟩

/-- A builtin with a regular target fails with status 1 and delivers nothing, or delivers its answer
with status 0. -/
theorem dispatch_delivered (hbuiltin : world.IsRegularBuiltin registry command) :
    Delivered (world.deliveriesOf registry command) world (world.dispatch registry command).2 ∧
      (world.dispatch registry command).1 =
        .ok (.status (if (world.deliveriesOf registry command).isEmpty then 1 else 0)) := by
  obtain ⟨hspecial, hregistered, hregular⟩ := hbuiltin
  obtain ⟨hexit, hcd⟩ := not_mem_specialNames_iff.mp hspecial
  obtain ⟨builtin, hget⟩ := Option.isSome_iff_exists.mp hregistered
  have hnoted := logged_log world ⟨.debug, .execution, command.note "builtin "⟩
  have hdebug := delivered_log world ⟨.debug, .execution, command.note "builtin "⟩
  rw [deliveriesOf, world.answer_of_builtin hget]
  cases hanswer : registry.ask builtin (world.debug .execution (command.note "builtin "))
      command.args with
  | error error =>
      have hplan := attemptPlan_of_builtin world hcd hget
      rw [hanswer] at hplan
      have hattempt : world.attempt registry command =
          (.error error, world.log ⟨.debug, .execution, command.note "builtin "⟩) := by
        rw [attempt_eq, hplan]
        rfl
      obtain ⟨code, hstatus, hdispatch⟩ := dispatch_of_error hexit (congrArg Prod.fst hattempt)
      obtain ⟨text, rfl⟩ := ask_error hanswer
      have hcode : code = 1 := by
        cases hstatus
        rfl
      rw [hdispatch, hattempt, hcode]
      exact ⟨hdebug.trans (delivered_report _ (.builtin text)), rfl⟩
  | ok text =>
      have hfiles : ∀ redirect, command.redirect = some redirect →
          ∃ path, (world.debug .execution (command.note "builtin ")).DenotesFile
            redirect.path path := by
        intro redirect hredirect
        obtain ⟨path, hfile⟩ := hregular redirect hredirect
        exact ⟨path, hnoted.alike.denotesFile_iff.mpr hfile⟩
      obtain ⟨after, hdeliver, hdelivered⟩ := deliver_delivered hfiles text
      have hattempt := attempt_of_answer world hcd hget hanswer
      rw [hdeliver] at hattempt
      rw [dispatch_of_ok hexit (by rw [hattempt]; rfl), hattempt]
      exact ⟨hdebug.trans hdelivered, rfl⟩

/-! ### A sequence of commands -/

def dispatchAll (world : World) (registry : Registry) (commands : List Command) : World :=
  commands.foldl (fun world command => (world.dispatch registry command).2) world

def deliveries (registry : Registry) (world : World) : List Command → List Delivery
  | [] => []
  | command :: commands =>
    world.deliveriesOf registry command ++
      deliveries registry (world.dispatch registry command).2 commands

theorem dispatchAll_delivered {commands : List Command}
    (hbuiltins : ∀ command ∈ commands, world.IsRegularBuiltin registry command) :
    Delivered (deliveries registry world commands) world (world.dispatchAll registry commands) := by
  induction commands generalizing world with
  | nil => exact delivered_of_isIdle (List.forall_mem_nil _) rfl world
  | cons command commands ih =>
      obtain ⟨hcommand, hcommands⟩ := List.forall_mem_cons.mp hbuiltins
      have hfirst := (dispatch_delivered hcommand).1
      exact hfirst.trans (ih fun later hlater =>
        hfirst.touchesOnly.isRegularBuiltin (hcommands later hlater))

/-- **Where the answers go.** After a sequence of builtins with regular targets a file holds what it
held, or nothing if it was truncated, and then the answers sent to it since the last truncation.
Standard output grows by the answers that go to no file. Files that are no target stay as they
are. -/
theorem dispatchAll_textAt (world : World) (registry : Registry) (commands : List Command)
    (hbuiltins : ∀ command ∈ commands, world.IsRegularBuiltin registry command) :
    (∀ path, world.logging.path? ≠ some path →
      (world.dispatchAll registry commands).files.textAt path =
        (if (deliveries registry world commands).any (Delivery.truncates world path) then ""
          else world.files.textAt path) ++
        String.join
          ((sinceLast (Delivery.truncates world path) (deliveries registry world commands)).map
            (Delivery.added world path))) ∧
    (∀ path, world.logging.path? ≠ some path →
      (deliveries registry world commands).any (Delivery.targets world path) = false →
        (world.dispatchAll registry commands).files.find? path = world.files.find? path) ∧
    (world.dispatchAll registry commands).out =
      world.out ++ String.join ((deliveries registry world commands).map Delivery.printed) ∧
    ∀ before command after, commands = before ++ command :: after →
      ((world.dispatchAll registry before).dispatch registry command).1 =
        .ok (.status
          (if ((world.dispatchAll registry before).deliveriesOf registry command).isEmpty then 1
            else 0)) := by
  have hdelivered := dispatchAll_delivered hbuiltins
  refine ⟨fun path hlog => ?_, fun path hlog htargets => ?_, hdelivered.out, ?_⟩
  · rw [hdelivered.textAt path hlog, foldl_sinceLast]
  · exact hdelivered.touchesOnly.elsewhere path hlog fun _ => by simp [htargets]
  · rintro before command after rfl
    have hearlier : ∀ earlier ∈ before, world.IsRegularBuiltin registry earlier :=
      fun earlier hmem => hbuiltins earlier (List.mem_append_left _ hmem)
    have hcommand : world.IsRegularBuiltin registry command := hbuiltins command (by simp)
    exact (dispatch_delivered
      ((dispatchAll_delivered hearlier).touchesOnly.isRegularBuiltin hcommand)).2

theorem dispatchAll_two_targets :
    let failing : Builtin := fun _ _ _ => .error "no"
    let registry : Registry := ⟨[("echo", some .echo), ("fail", some failing)]⟩
    let world : World := { bare with files := ⟨[(["g"], .file ⟨"old\n", none⟩)]⟩ }
    let commands : List Command :=
      [⟨"echo", ["a"], some ⟨.stdout, "f", true⟩⟩, ⟨"echo", ["b"], some ⟨.stdout, "./f", false⟩⟩,
        ⟨"fail", [], some ⟨.stdout, "f", false⟩⟩, ⟨"echo", ["c"], some ⟨.stdout, "g", true⟩⟩,
        ⟨"echo", ["d"], some ⟨.stderr, "g", true⟩⟩, ⟨"echo", ["e"], some ⟨.stdout, "f", true⟩⟩]
    (world.dispatchAll registry commands).files.textAt ["f"] = "b\ne\n" ∧
      (world.dispatchAll registry commands).files.textAt ["g"] = "old\nc\n" ∧
      (world.dispatchAll registry commands).out = "d\n" := by
  intro failing registry world commands
  have hregular : ∀ path ∈ [["f"], ["g"]], world.files.IsRegular path := by
    intro path hpath
    simp only [List.mem_cons, List.not_mem_nil, or_false] at hpath
    rcases hpath with rfl | rfl
    · exact .inl rfl
    · exact .inr ⟨_, rfl⟩
  obtain ⟨htext, _, hout, _⟩ := dispatchAll_textAt world registry commands (by
    intro command hcommand
    have htarget : command.name ∉ specialNames ∧ (registry.get? command.name).isSome ∧
        ∀ redirect ∈ command.redirect, ∃ path ∈ [["f"], ["g"]],
          world.Denotes redirect.path path := by
      revert command
      decide
    obtain ⟨hspecial, hregistered, hdenotes⟩ := htarget
    refine ⟨hspecial, hregistered, fun redirect hredirect => ?_⟩
    obtain ⟨path, hpath, hdenoted⟩ := hdenotes redirect hredirect
    exact ⟨path, hdenoted, hregular path hpath⟩)
  refine ⟨?_, ?_, ?_⟩
  · rw [htext ["f"] (by decide)]
    decide +kernel
  · rw [htext ["g"] (by decide)]
    decide +kernel
  · rw [hout]
    decide +kernel

end World

end LineShell
