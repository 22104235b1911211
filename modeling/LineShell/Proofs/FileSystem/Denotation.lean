import LineShell.Failure
import LineShell.Proofs.FileSystem.Outline

/-!
# Where names lead

The names of a path text lead to a place that can be told from the names alone: `.` stays, `..` goes
up and any other name goes down. A walk comes there exactly if every name that goes down finds a
directory. From a directory that exists a walk comes to directories that exist, and the path of such
a directory, written out, leads to it from everywhere.
-/

namespace LineShell

/-! ### The names of a path text -/

namespace Text

variable {separator : Char} {text : String} {names : List String}

theorem splitChars_eq_splitOn (separator : Char) (cs : List Char) :
    splitChars separator cs = cs.splitOn separator := by
  induction cs with
  | nil => rfl
  | cons c cs ih =>
      rw [splitChars, ih, List.splitOn_cons_eq_if_modifyHead]
      by_cases hc : c = separator
      · simp [hc]
      · rw [if_neg hc, if_neg (by simpa using hc)]
        cases hpieces : cs.splitOn separator with
        | nil => exact absurd hpieces (List.splitOn_ne_nil separator cs)
        | cons piece pieces => rfl

/-- What is put together with separators comes apart again. -/
theorem split_intercalate (hnames : ∀ name ∈ names, separator ∉ name.toList) (hne : names ≠ []) :
    split separator ((String.singleton separator).intercalate names) = names := by
  have hpieces : ∀ piece ∈ names.map String.toList, separator ∉ piece := by
    intro piece hpiece
    obtain ⟨name, hname, rfl⟩ := List.mem_map.mp hpiece
    exact hnames name hname
  rw [split, splitChars_eq_splitOn, String.toList_intercalate, String.toList_singleton,
    List.splitOn_intercalate separator hpieces (by simpa using hne)]
  simp

/-- The pieces have the characters of the text, and no separators. -/
theorem mem_of_mem_splitChars {c : Char} {cs piece : List Char}
    (hpiece : piece ∈ splitChars separator cs) (hc : c ∈ piece) : c ∈ cs ∧ c ≠ separator := by
  induction cs generalizing piece with
  | nil =>
      obtain rfl : piece = [] := by simpa [splitChars] using hpiece
      cases hc
  | cons d cs ih =>
      rw [splitChars] at hpiece
      split at hpiece
      · rcases List.mem_cons.mp hpiece with rfl | hpiece
        · cases hc
        · exact (ih hpiece hc).imp_left (List.mem_cons_of_mem d)
      · rename_i hd
        cases hpieces : splitChars separator cs with
        | nil => exact absurd hpieces (splitChars_ne_nil separator cs)
        | cons first pieces =>
            rw [hpieces] at hpiece ih
            rcases List.mem_cons.mp hpiece with rfl | hpiece
            · rcases List.mem_cons.mp hc with rfl | hc
              · exact ⟨List.mem_cons_self, hd⟩
              · exact (ih List.mem_cons_self hc).imp_left (List.mem_cons_of_mem d)
            · exact (ih (List.mem_cons_of_mem first hpiece) hc).imp_left (List.mem_cons_of_mem d)

theorem mem_of_mem_split {name : String} {c : Char} (hname : name ∈ split separator text)
    (hc : c ∈ name.toList) : c ∈ text.toList ∧ c ≠ separator := by
  obtain ⟨piece, hpiece, rfl⟩ := List.mem_map.mp hname
  rw [String.toList_ofList] at hc
  exact mem_of_mem_splitChars hpiece hc

theorem mem_of_mem_intercalate {between : String} {c : Char}
    (hc : c ∈ (between.intercalate names).toList) :
    c ∈ between.toList ∨ ∃ name ∈ names, c ∈ name.toList := by
  induction names with
  | nil => simp at hc
  | cons name names ih =>
      cases names with
      | nil =>
          rw [String.intercalate_singleton] at hc
          exact .inr ⟨name, List.mem_cons_self, hc⟩
      | cons next names =>
          rw [String.intercalate_cons_cons, String.toList_append, String.toList_append,
            List.append_assoc] at hc
          rcases List.mem_append.mp hc with hc | hc
          · exact .inr ⟨name, List.mem_cons_self, hc⟩
          · rcases List.mem_append.mp hc with hc | hc
            · exact .inl hc
            · refine (ih hc).imp_right ?_
              rintro ⟨lower, hlower, hc⟩
              exact ⟨lower, List.mem_cons_of_mem name hlower, hc⟩

end Text

/-- A name that goes down: it is neither empty nor one of `.` and `..`. -/
def GoesDown (name : String) : Prop := name ∉ ["", ".", ".."]

instance : DecidablePred GoesDown := fun name =>
  inferInstanceAs (Decidable (name ∉ ["", ".", ".."]))

theorem not_goesDown_iff {name : String} :
    ¬ GoesDown name ↔ name = "" ∨ name = "." ∨ name = ".." := by
  rw [GoesDown, Decidable.not_not]
  simp

/-! ### The way of the names -/

namespace Place

/-- Where a name leads, if anything is there. -/
def toward (place : Place) (name : String) : Place :=
  if name = "" ∨ name = "." then place
  else if name = ".." then place.parent
  else ⟨place.path ++ [name], place.lost⟩

/-- Where names lead one after another. -/
def along (place : Place) (names : List String) : Place := names.foldl toward place

theorem toward_of_goesDown (place : Place) {name : String} (hdown : GoesDown name) :
    place.toward name = ⟨place.path ++ [name], place.lost⟩ := by
  simp only [GoesDown, List.mem_cons, List.not_mem_nil, or_false, not_or] at hdown
  simp [toward, hdown]

theorem along_of_goesDown (upper : Path) {names : Path} (hnames : ∀ name ∈ names, GoesDown name) :
    along ⟨upper, 0⟩ names = ⟨upper ++ names, 0⟩ := by
  induction names generalizing upper with
  | nil => rw [List.append_nil, along, List.foldl_nil]
  | cons name names ih =>
      obtain ⟨hname, hnames⟩ := List.forall_mem_cons.mp hnames
      have hrest := ih (upper ++ [name]) hnames
      rw [along] at hrest ⊢
      rw [List.foldl_cons, toward_of_goesDown _ hname, hrest, List.append_assoc,
        List.singleton_append]

end Place

namespace FileSystem

variable {files other : FileSystem} {start place next : Place} {names : List String} {name : String}
  {path upper : Path}

structure HasDirectory (files : FileSystem) (place : Place) (name : String) : Prop where
  kept : place.lost = 0
  fits : name.utf8ByteSize ≤ maxNameBytes
  found : files.find? (place.path ++ [name]) = some .directory

/-- Every name that goes down finds a directory, in the place that the names before it lead to. -/
def Passable (files : FileSystem) (start : Place) (names : List String) : Prop :=
  ∀ before name after, names = before ++ name :: after → GoesDown name →
    files.HasDirectory (start.along before) name

theorem passable_nil (files : FileSystem) (start : Place) : files.Passable start [] := by
  intro before name after hnames
  simp at hnames

theorem passable_cons :
    files.Passable start (name :: names) ↔
      (GoesDown name → files.HasDirectory start name) ∧
        files.Passable (start.toward name) names := by
  constructor
  · intro hpassable
    refine ⟨hpassable [] name names rfl, ?_⟩
    rintro before lower after rfl
    exact hpassable (name :: before) lower after rfl
  · rintro ⟨hname, hnames⟩ before lower after hsplit
    cases before with
    | nil =>
        cases hsplit
        exact hname
    | cons first before =>
        obtain ⟨rfl, rfl⟩ := List.cons.inj hsplit
        exact hnames before lower after rfl

theorem hasDirectory_iff :
    files.HasDirectory place name ↔
      files.child? place name = .ok (some .directory) ∧ place.lost = 0 := by
  constructor
  · rintro ⟨hkept, hfits, hfound⟩
    rw [child?, if_neg (by omega), if_neg (by omega), hfound]
    exact ⟨rfl, hkept⟩
  · rintro ⟨hchild, hkept⟩
    rw [child?, if_neg (by omega)] at hchild
    by_cases hfits : name.utf8ByteSize > maxNameBytes
    · rw [if_pos hfits] at hchild
      cases hchild
    · rw [if_neg hfits] at hchild
      exact ⟨hkept, by omega, Except.ok.inj hchild⟩

theorem lost_of_child? {node : Node} (hchild : files.child? place name = .ok (some node)) :
    place.lost = 0 := by
  by_cases hlost : place.lost > 0
  · rw [child?, if_pos hlost] at hchild
    cases hchild
  · omega

theorem enter_of_goesDown (hdown : GoesDown name) :
    files.enter place name = .ok next ↔
      files.HasDirectory place name ∧ next = place.toward name := by
  have hname := hdown
  simp only [GoesDown, List.mem_cons, List.not_mem_nil, or_false, not_or] at hname
  rw [Place.toward_of_goesDown _ hdown, hasDirectory_iff, enter, if_neg (by simp [hname]),
    if_neg hname.2.2]
  cases hchild : files.child? place name with
  | error error => simp
  | ok found =>
      cases found with
      | none => simp
      | some node =>
          have hkept := lost_of_child? hchild
          cases node <;> simp [hkept, eq_comm]

theorem enter_of_not_goesDown (files : FileSystem) (place : Place) (hstays : ¬ GoesDown name) :
    files.enter place name = .ok (place.toward name) := by
  rcases not_goesDown_iff.mp hstays with rfl | rfl | rfl <;> rfl

theorem enter_eq_ok_iff :
    files.enter place name = .ok next ↔
      (GoesDown name → files.HasDirectory place name) ∧ next = place.toward name := by
  by_cases hdown : GoesDown name
  · rw [enter_of_goesDown hdown, forall_prop_of_true hdown]
  · rw [enter_of_not_goesDown files place hdown, Except.ok.injEq, eq_comm,
      and_iff_right fun hname => absurd hname hdown]

/-- **A walk comes where the names lead, exactly if every name that goes down finds a
directory.** -/
theorem descend_eq_ok_iff :
    files.descend start names = .ok place ↔
      files.Passable start names ∧ place = start.along names := by
  induction names generalizing start with
  | nil => simp [descend, passable_nil, Place.along, eq_comm]
  | cons name names ih =>
      rw [passable_cons, descend, Place.along, List.foldl_cons, ← Place.along]
      cases henter : files.enter start name with
      | error error =>
          have hrefused : ¬ (GoesDown name → files.HasDirectory start name) := by
            intro hname
            have hentered := enter_eq_ok_iff.mpr ⟨hname, rfl⟩
            rw [henter] at hentered
            cases hentered
          simp only [hrefused, false_and, reduceCtorEq]
      | ok next =>
          obtain ⟨hname, rfl⟩ := enter_eq_ok_iff.mp henter
          rw [and_iff_right hname]
          exact ih

/-! ### Directories that exist -/

/-- A name that a directory can have. -/
structure IsName (name : String) : Prop where
  goesDown : GoesDown name
  fits : name.utf8ByteSize ≤ maxNameBytes
  noSlash : '/' ∉ name.toList
  noNul : '\x00' ∉ name.toList

/-- The directory and all above it exist. -/
def Holds (files : FileSystem) (path : Path) : Prop :=
  ∀ upper name, upper ++ [name] <+: path → IsName name ∧
    files.find? (upper ++ [name]) = some .directory

theorem holds_nil (files : FileSystem) : files.Holds [] := by
  intro upper name hleads
  simp at hleads

theorem Holds.above (hholds : files.Holds path) (hupper : upper <+: path) : files.Holds upper :=
  fun higher name hleads => hholds higher name (hleads.trans hupper)

theorem Holds.concat (hholds : files.Holds path) (hname : IsName name)
    (hfound : files.find? (path ++ [name]) = some .directory) : files.Holds (path ++ [name]) := by
  intro upper lower hleads
  rcases List.prefix_concat_iff.mp hleads with heq | hleads
  · obtain ⟨rfl, hlower⟩ := List.append_inj' heq rfl
    obtain rfl := List.singleton_inj.mp hlower
    exact ⟨hname, hfound⟩
  · exact hholds upper lower hleads

theorem Holds.isName (hholds : files.Holds path) (hname : name ∈ path) : IsName name := by
  obtain ⟨upper, lower, rfl⟩ := List.append_of_mem hname
  exact (hholds upper name ⟨lower, by simp⟩).1

/-- Directories are seen in the outline. -/
theorem Holds.congr (houtline : other.outline = files.outline) (hholds : files.Holds path) :
    other.Holds path := by
  intro upper name hleads
  obtain ⟨hname, hfound⟩ := hholds upper name hleads
  refine ⟨hname, ?_⟩
  have hseen : other.outline (upper ++ [name]) = some .directory := by
    rw [houtline, outline, hfound]
    rfl
  obtain ⟨node, hnode, hdirectory⟩ := Option.map_eq_some_iff.mp hseen
  cases node with
  | directory => exact hnode
  | file | sink | full => cases hdirectory

theorem Holds.toward (hholds : files.Holds start.path)
    (hdirectory : GoesDown name → files.HasDirectory start name) (hslash : '/' ∉ name.toList)
    (hnul : '\x00' ∉ name.toList) :
    files.Holds (start.toward name).path ∧ (start.lost = 0 → (start.toward name).lost = 0) := by
  by_cases hdown : GoesDown name
  · obtain ⟨hkept, hfits, hfound⟩ := hdirectory hdown
    rw [Place.toward_of_goesDown _ hdown]
    exact ⟨hholds.concat ⟨hdown, hfits, hslash, hnul⟩ hfound, id⟩
  · rcases not_goesDown_iff.mp hdown with rfl | rfl | rfl
    · exact ⟨hholds, id⟩
    · exact ⟨hholds, id⟩
    · rcases start with ⟨path, lost⟩
      cases lost with
      | zero => exact ⟨hholds.above (List.dropLast_prefix path), fun _ => rfl⟩
      | succ lost => exact ⟨hholds, nofun⟩

theorem Holds.along (hholds : files.Holds start.path) (hpassable : files.Passable start names)
    (hnames : ∀ name ∈ names, '/' ∉ name.toList ∧ '\x00' ∉ name.toList) :
    files.Holds (start.along names).path ∧ (start.lost = 0 → (start.along names).lost = 0) := by
  induction names generalizing start with
  | nil => exact ⟨hholds, id⟩
  | cons name names ih =>
      obtain ⟨hname, hrest⟩ := List.forall_mem_cons.mp hnames
      obtain ⟨hdirectory, hpassable⟩ := passable_cons.mp hpassable
      obtain ⟨hnext, hkept⟩ := hholds.toward hdirectory hname.1 hname.2
      obtain ⟨hplace, hlost⟩ := ih hnext hpassable hrest
      exact ⟨hplace, hlost ∘ hkept⟩

/-! ### Paths written out -/

/-- From a directory that exists, the names below it lead down. -/
theorem Holds.passable (upper : Path) (hholds : files.Holds (upper ++ names)) :
    files.Passable ⟨upper, 0⟩ names := by
  rintro before name after rfl _
  have hbefore : ∀ lower ∈ before, GoesDown lower := by
    intro lower hlower
    exact (hholds.isName (by simp [hlower])).goesDown
  rw [Place.along_of_goesDown upper hbefore]
  obtain ⟨hname, hfound⟩ := hholds (upper ++ before) name ⟨after, by simp⟩
  exact ⟨rfl, hname.fits, hfound⟩

theorem split_render (hnames : ∀ name ∈ path, '/' ∉ name.toList) :
    Text.split '/' path.render = "" :: if path = [] then [""] else path := by
  cases path with
  | nil => rfl
  | cons name path =>
      have hrender : Path.render (name :: path) = (String.singleton '/').intercalate
          ("" :: name :: path) := by
        rw [Path.render, String.intercalate_cons_cons, String.empty_append]
        rfl
      rw [hrender, if_neg (List.cons_ne_nil name path)]
      exact Text.split_intercalate (List.forall_mem_cons.mpr ⟨by simp, hnames⟩)
        (List.cons_ne_nil _ _)

/-- The path of an existing directory leads to it from the root. -/
theorem Holds.passable_render (hholds : files.Holds path) :
    files.Passable .root (Text.split '/' path.render) ∧
      Place.along .root (Text.split '/' path.render) = ⟨path, 0⟩ := by
  have hstays : ¬ GoesDown "" := by decide
  have hwalk : files.Passable .root path ∧ Place.along .root path = ⟨path, 0⟩ :=
    ⟨Holds.passable [] hholds, Place.along_of_goesDown [] fun name hname =>
      (hholds.isName hname).goesDown⟩
  rw [split_render fun name hname => (hholds.isName hname).noSlash]
  by_cases hpath : path = []
  · subst hpath
    refine ⟨?_, rfl⟩
    refine passable_cons.mpr ⟨fun hdown => absurd hdown hstays, ?_⟩
    exact passable_cons.mpr ⟨fun hdown => absurd hdown hstays, passable_nil files _⟩
  · rw [if_neg hpath]
    exact ⟨passable_cons.mpr ⟨fun hdown => absurd hdown hstays, hwalk.1⟩, hwalk.2⟩

theorem Holds.noNul_render (hholds : files.Holds path) : hasNul path.render = false := by
  have hnul : '\x00' ∉ path.render.toList := by
    rw [Path.render, String.toList_append]
    rintro hmem
    rcases List.mem_append.mp hmem with hslash | hmem
    · exact absurd hslash (by decide)
    · rcases Text.mem_of_mem_intercalate hmem with hslash | ⟨name, hname, hnul⟩
      · exact absurd hslash (by decide)
      · exact (hholds.isName hname).noNul hnul
  simpa [hasNul] using hnul

end FileSystem

end LineShell
