import LineShell.Proofs.World.Step

/-!
# What is added to the trace

The trace only grows. `Performs` says by what, log records and the lines written for them aside, and
`Shows` by what, those lines alone aside: they depend on where records go, and nothing else does.
-/

namespace LineShell

def Event.diagnostic? : Event → Option String
  | .wrote .shell .stderr text => some text
  | _ => none

/-- The event is a log record or the line written for one. -/
def Event.IsLog : Event → Prop
  | .logged _ => True
  | .wrote .log .stderr _ => True
  | _ => False

instance : DecidablePred Event.IsLog
  | .logged _ | .wrote .log .stderr _ => .isTrue trivial
  | .wrote .log .stdout _ | .wrote .shell _ _ | .wrote .child _ _ | .spawned _ => .isFalse id

def Event.isLogLine : Event → Bool
  | .wrote .log _ _ => true
  | _ => false

theorem Logging.eq_of_mem_lines {logging : Logging} {record : Record} {event : Event}
    (hevent : event ∈ logging.lines record) : ∃ text, event = .wrote .log .stderr text := by
  cases logging with
  | unset | stream threshold =>
      simp only [lines] at hevent
      split at hevent
      · exact ⟨_, List.mem_singleton.mp hevent⟩
      · cases hevent
  | traceOnly | file threshold path => cases hevent

namespace Step

/-- What a step adds to the trace besides log records and their lines. -/
def performed : Step → List Event
  | emit event => [event].filter (¬ ·.IsLog)
  | log _ | openFile .. | write .. | move _ => []

/-- What a step adds to the trace besides the lines of log records. -/
def shown : Step → List Event
  | emit event => [event].filter fun event => !event.isLogLine
  | log record => [.logged record]
  | openFile .. | write .. | move _ => []

theorem filter_added_isLog (logging : Logging) (step : Step) :
    (step.added logging).filter (¬ ·.IsLog) = step.performed := by
  cases step with
  | log record =>
      refine List.filter_eq_nil_iff.mpr fun event hevent => ?_
      rcases List.mem_cons.mp hevent with rfl | hline
      · simp [Event.IsLog]
      · obtain ⟨text, rfl⟩ := Logging.eq_of_mem_lines hline
        simp [Event.IsLog]
  | emit | openFile | write | move => rfl

theorem filter_added_isLogLine (logging : Logging) (step : Step) :
    (step.added logging).filter (fun event => !event.isLogLine) = step.shown := by
  cases step with
  | log record =>
      have hlines : (logging.lines record).filter (fun event => !event.isLogLine) = [] := by
        refine List.filter_eq_nil_iff.mpr fun event hevent => ?_
        obtain ⟨text, rfl⟩ := Logging.eq_of_mem_lines hevent
        simp [Event.isLogLine]
      rw [added, List.filter_cons_of_pos (by rfl), hlines, shown]
  | emit | openFile | write | move => rfl

end Step

namespace World

variable {world before between after : World} {kind : Event → Prop}
  {events first second : List Event}

def diagnostics (world : World) : List String := world.trace.filterMap Event.diagnostic?

/-- The trace goes on with events of one kind. -/
def Adds (kind : Event → Prop) (before after : World) : Prop :=
  ∃ events, after.trace = before.trace ++ events ∧ ∀ event ∈ events, kind event

theorem Adds.refl (kind : Event → Prop) (world : World) : Adds kind world world :=
  ⟨[], by simp⟩

theorem Adds.trans (hfirst : Adds kind before between) (hsecond : Adds kind between after) :
    Adds kind before after := by
  obtain ⟨first, hfirstTrace, hfirst⟩ := hfirst
  obtain ⟨second, hsecondTrace, hsecond⟩ := hsecond
  refine ⟨first ++ second, by rw [hsecondTrace, hfirstTrace, List.append_assoc], ?_⟩
  intro event hevent
  rcases List.mem_append.mp hevent with hevent | hevent
  · exact hfirst event hevent
  · exact hsecond event hevent

/-! ### What is performed -/

/-- The events are what is added to the trace, log records and the lines written for them aside. -/
def Performs (events : List Event) (before after : World) : Prop :=
  ∃ added, after.trace = before.trace ++ added ∧ added.filter (¬ ·.IsLog) = events

theorem Performs.of_trace_eq (htrace : after.trace = before.trace) : Performs [] before after :=
  ⟨[], by simp [htrace]⟩

theorem Performs.trans (hfirst : Performs first before between)
    (hsecond : Performs second between after) : Performs (first ++ second) before after := by
  obtain ⟨firstAdded, hfirstTrace, rfl⟩ := hfirst
  obtain ⟨secondAdded, hsecondTrace, rfl⟩ := hsecond
  refine ⟨firstAdded ++ secondAdded, ?_, List.filter_append _ _⟩
  rw [hsecondTrace, hfirstTrace, List.append_assoc]

theorem performs_takeAll (world : World) (steps : List Step) :
    Performs (steps.flatMap Step.performed) world (world.takeAll steps) := by
  refine ⟨_, world.trace_takeAll steps, ?_⟩
  rw [List.filter_flatMap]
  simp only [Step.filter_added_isLog]

/-- A view of the trace that takes no log record into account grows by its part of what is
performed. -/
theorem Performs.filterMap {α : Type} (hperforms : Performs events before after)
    {view : Event → Option α} (hview : ∀ event : Event, event.IsLog → view event = none) :
    after.trace.filterMap view = before.trace.filterMap view ++ events.filterMap view := by
  obtain ⟨added, htrace, rfl⟩ := hperforms
  rw [htrace, List.filterMap_append, List.filterMap_filter]
  congr 2
  funext event
  by_cases hevent : event.IsLog
  · simp [hevent, hview event hevent]
  · simp [hevent]

theorem Performs.spawns (hperforms : Performs events before after) :
    after.spawns = before.spawns ++ spawnsIn events := by
  refine hperforms.filterMap fun event hlog => ?_
  cases event with
  | wrote => rfl
  | logged => rfl
  | spawned => cases hlog

theorem written_append (stream : Descriptor) (first second : List Event) :
    written stream (first ++ second) = written stream first ++ written stream second := by
  rw [written, List.filterMap_append, String.join_append, written, written]

/-- Lines for log records go to standard error alone. -/
theorem Performs.out (hperforms : Performs events before after) :
    after.out = before.out ++ written .stdout events := by
  rw [World.out, written, hperforms.filterMap, String.join_append]
  · rfl
  · intro event hlog
    cases event with
    | logged => rfl
    | spawned => rfl
    | wrote writer stream text =>
        cases stream with
        | stderr => rfl
        | stdout => cases writer <;> cases hlog

/-- The text on a stream, the lines written for log records aside. -/
def shown (stream : Descriptor) (world : World) : String :=
  written stream (world.trace.filter (¬ ·.IsLog))

theorem Performs.shown (hperforms : Performs events before after) (stream : Descriptor) :
    after.shown stream = before.shown stream ++ written stream events := by
  obtain ⟨added, htrace, rfl⟩ := hperforms
  rw [World.shown, htrace, List.filter_append, written_append, World.shown]

/-! ### The transcript -/

def transcript (world : World) : List Event := world.trace.filter fun event => !event.isLogLine

/-- The events are what is added to the transcript. -/
def Shows (events : List Event) (before after : World) : Prop :=
  after.transcript = before.transcript ++ events

theorem Shows.of_trace_eq (htrace : after.trace = before.trace) : Shows [] before after := by
  rw [Shows, transcript, htrace, List.append_nil, transcript]

theorem Shows.refl (world : World) : Shows [] world world :=
  Shows.of_trace_eq rfl

theorem Shows.trans (hfirst : Shows first before between) (hsecond : Shows second between after) :
    Shows (first ++ second) before after := by
  rw [Shows, hsecond, hfirst, List.append_assoc]

theorem shows_takeAll (world : World) (steps : List Step) :
    Shows (steps.flatMap Step.shown) world (world.takeAll steps) := by
  rw [Shows, transcript, trace_takeAll, List.filter_append, List.filter_flatMap, ← transcript]
  simp only [Step.filter_added_isLogLine]

/-- A view of the trace that takes no log line into account grows by its part of what is shown. -/
theorem Shows.filterMap {α : Type} (hshows : Shows events before after)
    {view : Event → Option α}
    (hview : ∀ event : Event, event.isLogLine → view event = none) :
    after.trace.filterMap view = before.trace.filterMap view ++ events.filterMap view := by
  have htranscript : ∀ world : World,
      world.transcript.filterMap view = world.trace.filterMap view := by
    intro world
    rw [transcript, List.filterMap_filter]
    congr 1
    funext event
    cases hevent : event.isLogLine with
    | true => simp [hview event hevent]
    | false => simp
  rw [← htranscript, hshows, List.filterMap_append, htranscript]

theorem Shows.spawns (hshows : Shows events before after) :
    after.spawns = before.spawns ++ spawnsIn events :=
  hshows.filterMap fun event hline => by cases event <;> first | rfl | cases hline

theorem Shows.records (hshows : Shows events before after) :
    after.records = before.records ++ recordsIn events :=
  hshows.filterMap fun event hline => by cases event <;> first | rfl | cases hline

theorem Shows.diagnostics (hshows : Shows events before after) :
    after.diagnostics = before.diagnostics ++ events.filterMap Event.diagnostic? :=
  hshows.filterMap fun event hline => by
    rcases event with ⟨_ | _ | _, _, _⟩ | _ | _ <;> first | rfl | cases hline

/-- The texts that a started program wrote on a stream. -/
def childTextsIn (stream : Descriptor) (trace : List Event) : List String :=
  trace.filterMap fun
    | .wrote .child on text => if on = stream then some text else none
    | _ => none

def childText (stream : Descriptor) (world : World) : String :=
  String.join (childTextsIn stream world.trace)

theorem Shows.childText (hshows : Shows events before after) (stream : Descriptor) :
    after.childText stream =
      before.childText stream ++ String.join (childTextsIn stream events) := by
  rw [World.childText, childTextsIn, hshows.filterMap, String.join_append]
  · rfl
  · intro event hline
    rcases event with ⟨_ | _ | _, _, _⟩ | _ | _ <;> first | rfl | cases hline

end World

end LineShell
