import LineShell.Proofs.Command.Refusal
import LineShell.Proofs.FileSystem.Denotation

/-!
# Moving about

`cd` goes to the directory that its argument denotes, or stays where it is and says why. It writes
to no file, and a redirect means nothing to it. Where the shell comes to from a directory that
exists, the path that `pwd` reported before leads back.

A working directory may have been removed. Then `.` and `..` still lead to it and to the removed
directories above it: `cd` goes there, but such a directory has no path for `pwd` to report.
-/

namespace LineShell

/-- What `pwd` says in a place: a removed directory has no path. -/
def Place.report (place : Place) : Except String String :=
  if place.lost = 0 then .ok place.path.render else .error "pwd: No such file or directory"

theorem Builtin.pwd_eq (isBuiltin : String → Bool) (world : World) (args : List String) :
    Builtin.pwd isBuiltin world args = world.cwd.report := by
  unfold Builtin.pwd World.workingDirectory Place.report
  split <;> rfl

theorem Place.report_eq_ok_iff {place : Place} {path : String} :
    place.report = .ok path ↔ place.lost = 0 ∧ place.path.render = path := by
  unfold report
  split <;> simp [*]

namespace World

variable {world after : World} {args : List String} {target text : String} {place : Place}

/-! ### Directories that are denoted -/

/-- The path text that `cd` is to go to: a home directory that the environment names, or the
argument. -/
def CdTarget (world : World) (args : List String) (target : String) : Prop :=
  ((args = [] ∨ args = ["~"]) ∧ world.valueOf "HOME" = some target ∧ target ≠ "") ∨
    (args = [target] ∧ target ≠ "~")

theorem CdTarget.unique {other : String} (htarget : world.CdTarget args target)
    (hother : world.CdTarget args other) : target = other := by
  rcases htarget with ⟨hargs, htarget, -⟩ | ⟨rfl, htilde⟩
  · rcases hother with ⟨-, hother, -⟩ | ⟨rfl, htilde⟩
    · exact Option.some.inj (htarget.symm.trans hother)
    · simp [htilde] at hargs
  · rcases hother with ⟨hargs, -⟩ | ⟨hargs, -⟩
    · simp [htilde] at hargs
    · exact List.singleton_inj.mp hargs

theorem home?_eq_some_iff :
    world.home? = some target ↔ world.valueOf "HOME" = some target ∧ target ≠ "" := by
  simp [home?, Option.filter_eq_some_iff]

theorem homeTarget_eq_ok_iff :
    (match world.home? with
      | some home => .ok home
      | none => .error ShellError.homeNotSet) = Except.ok target ↔
      world.valueOf "HOME" = some target ∧ target ≠ "" := by
  rw [← home?_eq_some_iff]
  cases world.home? <;> simp

theorem cdTarget_eq_ok_iff : world.cdTarget args = .ok target ↔ world.CdTarget args target := by
  match args with
  | [] =>
      refine homeTarget_eq_ok_iff.trans ?_
      simp [CdTarget]
  | [arg] =>
      by_cases harg : arg = "~"
      · subst harg
        refine homeTarget_eq_ok_iff.trans ?_
        constructor
        · exact fun hhome => .inl ⟨.inr rfl, hhome⟩
        · rintro (⟨_, hhome⟩ | ⟨hargs, htilde⟩)
          · exact hhome
          · exact absurd (List.singleton_inj.mp hargs).symm htilde
      · have htarget : world.cdTarget [arg] = .ok arg := by simp [cdTarget]
        rw [htarget, Except.ok.injEq]
        constructor
        · rintro rfl
          exact .inr ⟨rfl, harg⟩
        · rintro (⟨hnone | htilde, _⟩ | ⟨hargs, _⟩)
          · cases hnone
          · exact absurd (List.singleton_inj.mp htilde) harg
          · exact List.singleton_inj.mp hargs
  | _ :: _ :: _ => simp [cdTarget, CdTarget]

def origin (world : World) (text : String) : Place :=
  if text.toList.head? = some '/' then .root else world.cwd

/-- A path text denotes a directory: wherever its names lead down, there is one. -/
structure Reaches (world : World) (text : String) (place : Place) : Prop where
  ne : text ≠ ""
  fits : text.utf8ByteSize ≤ FileSystem.maxPathBytes
  noNul : hasNul text = false
  passable : world.files.Passable (world.origin text) (Text.split '/' text)
  place_eq : place = (world.origin text).along (Text.split '/' text)

theorem Reaches.unique {other : Place} (hreaches : world.Reaches text place)
    (hother : world.Reaches text other) : other = place :=
  hother.place_eq.trans hreaches.place_eq.symm

theorem readPath_eq_ok (hne : text ≠ "") (hfits : text.utf8ByteSize ≤ FileSystem.maxPathBytes) :
    FileSystem.readPath world.cwd text = .ok (world.origin text, Text.split '/' text) := by
  rw [FileSystem.readPath, if_neg hne, if_neg (by omega), origin]

theorem directoryAt_eq_ok_iff :
    world.files.directoryAt world.cwd text = .ok place ↔
      text ≠ "" ∧ text.utf8ByteSize ≤ FileSystem.maxPathBytes ∧
        world.files.descend (world.origin text) (Text.split '/' text) = .ok place := by
  unfold FileSystem.directoryAt
  by_cases hne : text = ""
  · simp [FileSystem.readPath, hne]
  · by_cases hfits : text.utf8ByteSize ≤ FileSystem.maxPathBytes
    · simp [readPath_eq_ok hne hfits, hne, hfits]
    · have hlong : FileSystem.readPath world.cwd text = .error .nameTooLong := by
        rw [FileSystem.readPath, if_neg hne, if_pos (by omega)]
      simp [hlong, hfits]

theorem placeAt_eq_ok_iff : world.placeAt text = .ok place ↔ world.Reaches text place := by
  have hplace : world.placeAt text = .ok place ↔
      hasNul text = false ∧ world.files.directoryAt world.cwd text = .ok place := by
    unfold placeAt
    cases hasNul text with
    | true => simp
    | false => cases world.files.directoryAt world.cwd text <;> simp
  rw [hplace, directoryAt_eq_ok_iff, FileSystem.descend_eq_ok_iff]
  constructor
  · rintro ⟨hnul, hne, hfits, hpassable, hplace⟩
    exact ⟨hne, hfits, hnul, hpassable, hplace⟩
  · rintro ⟨hne, hfits, hnul, hpassable, hplace⟩
    exact ⟨hnul, hne, hfits, hpassable, hplace⟩

/-! ### Directories that exist -/

/-- Where the working directory, or what is left of it, exists, every directory that is reached or
what is left of it exists. From a directory that has not been removed none is reached that has. -/
theorem Reaches.holds (hreaches : world.Reaches text place)
    (hholds : world.files.Holds world.cwd.path) :
    world.files.Holds place.path ∧ (world.cwd.lost = 0 → place.lost = 0) := by
  obtain ⟨hne, hfits, hnul, hpassable, rfl⟩ := hreaches
  have hnames : ∀ name ∈ Text.split '/' text, '/' ∉ name.toList ∧ '\x00' ∉ name.toList := by
    intro name hname
    refine ⟨fun hslash => (Text.mem_of_mem_split hname hslash).2 rfl, fun hc => ?_⟩
    have hmem := (Text.mem_of_mem_split hname hc).1
    simp [hasNul, hmem] at hnul
  have horigin : world.files.Holds (world.origin text).path ∧
      (world.cwd.lost = 0 → (world.origin text).lost = 0) := by
    unfold origin
    split
    · exact ⟨world.files.holds_nil, fun _ => rfl⟩
    · exact ⟨hholds, id⟩
  obtain ⟨hplace, hkept⟩ := horigin.1.along hpassable hnames
  exact ⟨hplace, hkept ∘ horigin.2⟩

/-- The path of a directory that exists denotes it from everywhere. -/
theorem reaches_render {path : Path} (hholds : world.files.Holds path)
    (hfits : path.render.utf8ByteSize ≤ FileSystem.maxPathBytes) :
    world.Reaches path.render ⟨path, 0⟩ := by
  have hhead : path.render.toList.head? = some '/' := by simp [Path.render]
  have horigin : world.origin path.render = .root := if_pos hhead
  obtain ⟨hpassable, hplace⟩ := hholds.passable_render
  refine ⟨?_, hfits, hholds.noNul_render, horigin ▸ hpassable, horigin ▸ hplace.symm⟩
  intro hempty
  rw [hempty] at hhead
  cases hhead

theorem cdTarget_render (path : Path) : world.CdTarget [path.render] path.render := by
  refine .inr ⟨rfl, fun htilde => ?_⟩
  have hhead := congrArg (fun text : String => text.toList.head?) htilde
  simp [Path.render] at hhead

/-! ### What `cd` does -/

theorem cdPlan_of_reaches (htarget : world.CdTarget args target)
    (hreaches : world.Reaches target place) :
    world.cdPlan args =
      ⟨.ok 0, [.move place, .log ⟨.debug, .builtins, "working directory is now " ++ target⟩]⟩ := by
  simp only [cdPlan, cdTarget_eq_ok_iff.mpr htarget, placeAt_eq_ok_iff.mpr hreaches]

theorem cdPlan_of_not_reaches
    (hnone : ¬ ∃ target place, world.CdTarget args target ∧ world.Reaches target place) :
    ∃ error, (world.cdPlan args).answer = .error error := by
  unfold cdPlan
  cases htarget : world.cdTarget args with
  | error refusal => exact ⟨refusal, rfl⟩
  | ok target =>
      dsimp only
      cases hplace : world.placeAt target with
      | error failure => exact ⟨_, rfl⟩
      | ok place =>
          exact absurd
            ⟨target, place, cdTarget_eq_ok_iff.mp htarget, placeAt_eq_ok_iff.mp hplace⟩ hnone

theorem attempt_cd (world : World) (registry : Registry) (args : List String)
    (redirect : Option Redirect) :
    world.attempt registry ⟨"cd", args, redirect⟩ = world.follow (world.cdPlan args) := by
  rw [attempt_eq, attemptPlan_of_cd registry rfl]

theorem dispatch_cd_of_reaches (registry : Registry) (htarget : world.CdTarget args target)
    (hreaches : world.Reaches target place) :
    ∃ after, (∀ redirect,
        world.dispatch registry ⟨"cd", args, redirect⟩ = (.ok (.status 0), after)) ∧
      Unchanged [] { world with cwd := place } after := by
  refine ⟨_, fun redirect => ?_, unchanged_log { world with cwd := place }
    ⟨.debug, .builtins, "working directory is now " ++ target⟩⟩
  have hattempt := world.attempt_cd registry args redirect
  rw [cdPlan_of_reaches htarget hreaches] at hattempt
  rw [dispatch_of_ok (by simp) (congrArg Prod.fst hattempt), hattempt]
  rfl

theorem dispatch_cd_of_not_reaches (registry : Registry)
    (hnone : ¬ ∃ target place, world.CdTarget args target ∧ world.Reaches target place) :
    ∃ after error, (∀ redirect,
        world.dispatch registry ⟨"cd", args, redirect⟩ = (.ok (.status 1), after)) ∧
      Unchanged [.wrote .shell .stderr (ShellError.message error ++ "\n")] world after := by
  obtain ⟨error, herror⟩ := cdPlan_of_not_reaches hnone
  obtain ⟨hbuiltin, hidles⟩ := cdPlan_of_error herror
  refine ⟨(world.takeAll (world.cdPlan args).steps).report error, error, fun redirect => ?_,
    (hidles.unchanged world).trans (unchanged_printLine _ .stderr error.message)⟩
  have hattempt := world.attempt_cd registry args redirect
  have hrefused : world.Refused registry ⟨"cd", args, redirect⟩ error :=
    ⟨by simp, by rw [hattempt, follow, herror], .inl hbuiltin⟩
  obtain ⟨code, hstatus, hdispatch⟩ := dispatch_of_error hrefused.name_ne_exit hrefused.fails
  rw [hdispatch, hrefused.status_eq hstatus, hattempt, follow]

/-! ### The way back -/

theorem out_of_moved {events : List Event}
    (hmoved : Unchanged events { world with cwd := place } after)
    (hquiet : written .stdout events = "") : after.out = world.out := by
  have hout := hmoved.performs.out
  rwa [hquiet, String.append_empty] at hout

/-- Wherever a shell has moved to, the path that `pwd` reported before leads back. -/
theorem dispatch_cd_back {events : List Event}
    (hmoved : Unchanged events { world with cwd := place } after) (registry : Registry)
    {path : String} {isBuiltin : String → Bool} {words : List String}
    (hholds : world.files.Holds world.cwd.path)
    (hpwd : Builtin.pwd isBuiltin world words = .ok path)
    (hfits : path.utf8ByteSize ≤ FileSystem.maxPathBytes) :
    ∃ back, (∀ redirect,
        after.dispatch registry ⟨"cd", [path], redirect⟩ = (.ok (.status 0), back)) ∧
      back.cwd = world.cwd := by
  rw [Builtin.pwd_eq] at hpwd
  obtain ⟨hlost, rfl⟩ := Place.report_eq_ok_iff.mp hpwd
  have hkept : after.files.Holds world.cwd.path := hholds.congr hmoved.outline
  obtain ⟨back, hdispatch, hback⟩ :=
    dispatch_cd_of_reaches registry (cdTarget_render world.cwd.path) (reaches_render hkept hfits)
  refine ⟨back, hdispatch, hback.cwd.trans ?_⟩
  rw [← hlost]

/-- **`cd` goes to the directory that its target denotes, and nowhere if there is none.** It has the
same result under every redirect, changes nothing but the working directory, and prints nothing but
a diagnostic. Afterwards `pwd` reports the new directory. The path that it reported before leads
back. -/
theorem dispatch_cd (world : World) (registry : Registry) (args : List String) :
    ∃ (code : Int) (events : List Event) (after : World),
      (∀ redirect, world.dispatch registry ⟨"cd", args, redirect⟩ = (.ok (.status code), after)) ∧
      Unchanged events { world with cwd := after.cwd } after ∧ after.out = world.out ∧
      (code = 0 ∧ events = [] ∨
        code = 1 ∧ ∃ error : ShellError, events = [.wrote .shell .stderr (error.message ++ "\n")]) ∧
      (code = 0 ↔ ∃ target place, world.CdTarget args target ∧ world.Reaches target place) ∧
      (∀ target place, world.CdTarget args target → world.Reaches target place →
        after.cwd = place ∧ ∀ isBuiltin words, Builtin.pwd isBuiltin after words = place.report) ∧
      (code ≠ 0 → after.cwd = world.cwd ∧
        ∀ isBuiltin words, Builtin.pwd isBuiltin after words = Builtin.pwd isBuiltin world words) ∧
      (world.files.Holds world.cwd.path →
        after.files.Holds after.cwd.path ∧ (world.cwd.lost = 0 → after.cwd.lost = 0)) ∧
      ∀ path isBuiltin words, world.files.Holds world.cwd.path →
        Builtin.pwd isBuiltin world words = .ok path → path.utf8ByteSize ≤ FileSystem.maxPathBytes →
        ∃ back, (∀ redirect,
            after.dispatch registry ⟨"cd", [path], redirect⟩ = (.ok (.status 0), back)) ∧
          back.cwd = world.cwd := by
  by_cases hreached : ∃ target place, world.CdTarget args target ∧ world.Reaches target place
  · obtain ⟨target, place, htarget, hreaches⟩ := hreached
    obtain ⟨after, hdispatch, hafter⟩ := dispatch_cd_of_reaches registry htarget hreaches
    have hcwd : after.cwd = place := hafter.cwd
    refine ⟨0, [], after, hdispatch, hcwd ▸ hafter, out_of_moved hafter rfl, .inl ⟨rfl, rfl⟩,
      iff_of_true rfl ⟨target, place, htarget, hreaches⟩, ?_, fun hcode => absurd rfl hcode, ?_,
      fun _ _ _ => dispatch_cd_back hafter registry⟩
    · intro other there hother hthere
      obtain rfl := htarget.unique hother
      obtain rfl := hreaches.unique hthere
      exact ⟨hcwd, fun isBuiltin words => hcwd ▸ Builtin.pwd_eq isBuiltin after words⟩
    · intro hholds
      obtain ⟨hplace, hkept⟩ := hreaches.holds hholds
      exact hcwd ▸ ⟨hplace.congr hafter.outline, hkept⟩
  · obtain ⟨after, error, hdispatch, hafter⟩ := dispatch_cd_of_not_reaches registry hreached
    have hcwd : after.cwd = world.cwd := hafter.cwd
    refine ⟨1, _, after, hdispatch, hcwd ▸ hafter, out_of_moved hafter rfl, .inr ⟨rfl, error, rfl⟩,
      iff_of_false (by simp) hreached, ?_, ?_, ?_, fun _ _ _ => dispatch_cd_back hafter registry⟩
    · exact fun target place htarget hreaches => absurd ⟨target, place, htarget, hreaches⟩ hreached
    · exact fun _ => ⟨hcwd, fun isBuiltin words => by simp only [Builtin.pwd_eq, hcwd]⟩
    · intro hholds
      rw [hcwd]
      exact ⟨hholds.congr hafter.outline, id⟩

theorem dispatch_cd_there_and_back :
    let world : World :=
      { bare with files := ⟨[(["a"], .directory), (["a", "b"], .directory)]⟩, cwd := ⟨["a"], 0⟩ }
    let there := (world.dispatch .default ⟨"cd", ["./b/../b//"], some ⟨.stdout, "f", false⟩⟩).2
    there.cwd = ⟨["a", "b"], 0⟩ ∧
      (there.dispatch .default ⟨"cd", ["/a"], none⟩).2.cwd = ⟨["a"], 0⟩ := by
  intro world there
  obtain ⟨code, events, after, hdispatch, _, _, _, _, _, _, _, hback⟩ :=
    dispatch_cd world .default ["./b/../b//"]
  have hthere : there = after := congrArg Prod.snd (hdispatch (some ⟨.stdout, "f", false⟩))
  have hname : FileSystem.IsName "a" := ⟨by decide, by decide, by decide, by decide⟩
  have hholds : world.files.Holds ["a"] := world.files.holds_nil.concat hname rfl
  obtain ⟨back, hagain, hcwd⟩ := hback "/a" (fun _ => false) [] hholds rfl (by decide)
  refine ⟨by decide +kernel, ?_⟩
  rw [hthere, hagain none]
  exact hcwd

/-- From a working directory that has been removed `.` still leads to it, and `pwd` has no path to
report. -/
theorem dispatch_cd_removed :
    let world := remove { bare with files := ⟨[(["d"], .directory)]⟩, cwd := ⟨["d"], 0⟩ } ["d"]
    (world.dispatch .default ⟨"cd", ["."], none⟩).1 = .ok (.status 0) ∧
      ¬ ∃ path, Builtin.pwd (fun _ => false) (world.dispatch .default ⟨"cd", ["."], none⟩).2 [] =
        .ok path := by
  intro world
  refine ⟨rfl, ?_⟩
  rintro ⟨path, hpath⟩
  rw [Builtin.pwd_eq, Place.report_eq_ok_iff] at hpath
  exact absurd hpath.1 (by decide +kernel)

end World

end LineShell
