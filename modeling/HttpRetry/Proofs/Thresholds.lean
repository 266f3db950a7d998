import HttpRetry.Logging.Session
import HttpRetry.Proofs.Hierarchy
/-!
Which events are printed once logging has been configured. A configuration decides about the levels of
three loggers, of the root and of the one handler, whatever was configured before; later on only another
configuration changes them. So a logger's first part tells the level from which its events are printed.
-/
set_option autoImplicit false

namespace HttpRetry

def Entry.Holds (entry : Entry String) (text : String) : Prop :=
  entry = .checked text ∨ entry = .unchecked (.str text)

structure Settings.Asks (settings : Settings) (root transport : Nat) : Prop where
  level : ∃ text, settings.logLevel.Holds text ∧ LevelValue.ofName text = .number root
  transport :
    (settings.transportLogLevel ∈
        [.checked none, .checked (some ""), .unchecked .null, .unchecked (.str "")] ∧
      transport = root) ∨
    ∃ text, text ≠ "" ∧ (settings.transportLogLevel = .checked (some text) ∨
        settings.transportLogLevel = .unchecked (.str text)) ∧
      LevelValue.ofName text = .number transport

namespace Logging

def after (s : Setup) (steps : List Step) : Setup :=
  steps.foldl (fun s st => (step s st).setup) s

def Step.event? (s : Setup) : Step → Option (String × Level × Members)
  | .emit logger level bound fields text =>
    let event := s.addContext ((bound.putAll fields).put "event" (.str text))
    match clash? level bound fields, event.get? "_record" with
    | none, none | none, some .null => some (logger, level, event)
    | _, _ => none
  | .message logger level template args =>
    (Template.message? template args).map fun message =>
      (logger, level, s.addContext [("event", .str message)])
  | _ => none

def settledLoggers : List String := [transportLogger, clientLogger, networkLogger]

/-- The level from which the events of a logger are printed, by the first part of its name. -/
def thresholdOf (root transport : Nat) (first : String) : Nat :=
  if first = "roundtrip_retry" then if transport = 0 then root else transport
  else if first = "httpx" ∨ first = "httpcore" then max root Level.warning.number
  else root

namespace Setup

variable {s s' s'' : Setup} {name other : String}

theorem own_setLevel (s : Setup) (other : String) (level : Nat) (name : String) :
    (s.setLevel other level).own name = if name = other then level else s.own name := by
  simp only [own, setLevel, List.lookup_cons]
  by_cases same : name = other <;> simp [same, beq_eq_false_iff_ne.mpr]

theorem own_settle (s : Setup) (handler : Handler) (root transport : Nat) (name : String) :
    (s.settle handler root transport).own name =
      if name = networkLogger then max root quietLevel
      else if name = clientLogger then max root quietLevel
      else if name = transportLogger then transport
      else s.own name := by
  simp only [settle, own_setLevel]
  rfl

structure Kept (s s' : Setup) : Prop where
  root : s'.root = s.root
  handlers : s'.handlers = s.handlers
  own : ∀ name, s'.own name = s.own name

namespace Kept

theorem refl (s : Setup) : s.Kept s := ⟨rfl, rfl, fun _ => rfl⟩

theorem trans (first : s.Kept s') (second : s'.Kept s'') : s.Kept s'' :=
  ⟨second.root.trans first.root, second.handlers.trans first.handlers,
    fun name => (second.own name).trans (first.own name)⟩

end Kept

theorem register_kept (s : Setup) (name : String) : s.Kept (s.register name) := by
  unfold register
  split
  · exact .refl s
  · rename_i missing
    have unknown : s.loggers.lookup name = none :=
      Option.not_isSome_iff_eq_none.mp (not_or.mp missing).2
    refine ⟨rfl, rfl, fun other => ?_⟩
    rw [own_setLevel]
    split
    · subst other
      simp [own, unknown]
    · rfl

theorem textOf_holds {entry : Entry String} {text : String} (holds : entry.Holds text)
    (member : String) : textOf member entry = .ok text := by
  rcases holds with rfl | rfl <;> rfl

theorem levels_asked {settings : Settings} {root transport : Nat}
    (asked : settings.Asks root transport) :
    levels settings = .ok (.number root, .number transport) := by
  obtain ⟨⟨text, holds, named⟩, wanted⟩ := asked
  rw [levels, textOf_holds holds]
  rcases wanted with ⟨unset, rfl⟩ | ⟨text, some, set, names⟩
  · rcases (show _ ∨ _ ∨ _ ∨ _ by simpa using unset) with unset | unset | unset | unset <;>
      simp [unset, named, Json.truthy]
  · rcases set with set | set <;> simp [set, some, named, names]

theorem configure_asked (s : Setup) {settings : Settings} {root transport : Nat}
    {environment : String} (asked : settings.Asks root transport)
    (placed : settings.environment.Holds environment) :
    s.configure settings = .ok (s.settle
      ⟨min root transport, Text.lower environment = "production"⟩ root transport) := by
  rw [configure, levels_asked asked, isProduction, textOf_holds placed]
  rfl

theorem exists_of_bind_ok {α β : Type} {x : Except FailureSpec α} {f : α → Except FailureSpec β} {b : β}
    (ends : x >>= f = .ok b) : ∃ a, x = .ok a ∧ f a = .ok b := by
  cases x with
  | error e => cases ends
  | ok a => exact ⟨a, rfl, ends⟩

theorem configure_settles {s s' : Setup} {settings : Settings}
    (used : s.configure settings = .ok s') :
    ∃ handler root transport, s' = s.settle handler root transport := by
  obtain ⟨⟨root, transport⟩, -, used⟩ := exists_of_bind_ok used
  obtain ⟨production, -, used⟩ := exists_of_bind_ok used
  obtain ⟨lesser, -, used⟩ := exists_of_bind_ok used
  obtain ⟨level, -, used⟩ := exists_of_bind_ok used
  split at used
  · cases used
    exact ⟨_, _, _, rfl⟩
  · cases used

theorem own_settle_other (s : Setup) (handler : Handler) (root transport : Nat)
    (other : name ∉ settledLoggers) : (s.settle handler root transport).own name = s.own name := by
  simp only [settledLoggers, List.mem_cons, List.not_mem_nil, or_false, not_or] at other
  obtain ⟨transport, client, network⟩ := other
  rw [own_settle, if_neg network, if_neg client, if_neg transport]

end Setup

theorem registerAll_kept (s : Setup) (events : List Event) : s.Kept (registerAll s events) := by
  induction events generalizing s with
  | nil => exact .refl s
  | cons e events ih =>
    cases e with
    | logged => exact (s.register_kept _).trans (ih _)
    | _ => exact ih s

theorem setup_reportOf (s : Setup) (result : Result) (lines : Except FailureSpec (List String)) :
    (reportOf s result lines).setup = s := by
  cases lines <;> rfl

theorem setup_request (s : Setup) (stack : Stack) (order : Order) :
    (request s stack order).setup =
      registerAll s (Session.request stack 0 order false {}).2.trace := by
  unfold request
  generalize Session.request stack 0 order false {} = ran
  obtain ⟨result, l⟩ := ran
  cases result <;> rfl

theorem step_kept (s : Setup) {st : Step} (settled : ∀ settings, st ≠ .configure settings) :
    s.Kept (step s st).setup := by
  cases st with
  | configure settings => exact absurd rfl (settled settings)
  | emit logger level bound fields event =>
    simp only [step]
    cases clash? level bound fields with
    | some spec => exact s.register_kept logger
    | none =>
      rw [setup_reportOf]
      exact s.register_kept logger
  | message logger => exact s.register_kept logger
  | context fields => exact ⟨rfl, rfl, fun _ => rfl⟩
  | request stack order =>
    rw [step, setup_request]
    exact registerAll_kept s _

/-- No step gives a level to a logger that a configuration gives none. -/
theorem own_step (s : Setup) (st : Step) {name : String} (other : name ∉ settledLoggers) :
    (step s st).setup.own name = s.own name := by
  by_cases configures : ∃ settings, st = .configure settings
  · obtain ⟨settings, rfl⟩ := configures
    simp only [step]
    cases used : s.configure settings with
    | error spec => rfl
    | ok s' =>
      obtain ⟨handler, root, transport, rfl⟩ := Setup.configure_settles used
      rw [setup_reportOf, (Setup.register_kept _ setupLogger).own,
        s.own_settle_other handler root transport other]
  · exact (step_kept s fun settings is => configures ⟨settings, is⟩).own name

theorem own_after (s : Setup) (steps : List Step) {name : String} (other : name ∉ settledLoggers) :
    (after s steps).own name = s.own name := by
  induction steps generalizing s with
  | nil => rfl
  | cons st steps ih => exact (ih _).trans (own_step s st other)

theorem after_cons (s : Setup) (st : Step) (steps : List Step) :
    after s (st :: steps) = after (step s st).setup steps :=
  rfl

theorem after_append (s : Setup) (first second : List Step) :
    after s (first ++ second) = after (after s first) second :=
  List.foldl_append

theorem getLast?_run (s : Setup) (steps : List Step) (st : Step) :
    (run s (steps ++ [st])).getLast? = some (step (after s steps) st) := by
  induction steps generalizing s with
  | nil => rfl
  | cons first steps ih =>
    rw [List.cons_append, run, List.getLast?_cons, ih, after_cons]
    rfl

theorem after_kept (s : Setup) {steps : List Step}
    (settled : ∀ st ∈ steps, ∀ settings, st ≠ .configure settings) : s.Kept (after s steps) := by
  induction steps generalizing s with
  | nil => exact .refl s
  | cons st steps ih =>
    exact (step_kept s (settled st List.mem_cons_self)).trans
      (ih _ fun st mem => settled st (List.mem_cons_of_mem _ mem))

/-- After the last configuration the levels are its own, whatever there was before. -/
theorem after_configured (s : Setup) (earlier : List Step) {later : List Step} {settings : Settings}
    {root transport : Nat} {environment : String} (asked : settings.Asks root transport)
    (placed : settings.environment.Holds environment)
    (settled : ∀ st ∈ later, ∀ other, st ≠ .configure other) :
    ((after s earlier).settle ⟨min root transport, Text.lower environment = "production"⟩ root
      transport).Kept (after s (earlier ++ .configure settings :: later)) := by
  have configures : (step (after s earlier) (.configure settings)).setup =
      ((after s earlier).settle ⟨min root transport, Text.lower environment = "production"⟩ root
        transport).register setupLogger := by
    simp only [step, Setup.configure_asked _ asked placed, setup_reportOf]
  rw [after_append, after_cons, configures]
  exact (Setup.register_kept _ setupLogger).trans (after_kept _ settled)

theorem part_of_settled {name : String} (settled : name ∈ settledLoggers) : Part name :=
  (by decide : ∀ name ∈ settledLoggers, Part name) name settled

theorem addContext_register (s : Setup) (name : String) (event : Members) :
    (s.register name).addContext event = s.addContext event := by
  unfold Setup.register
  split <;> rfl

theorem lines_step {s : Setup} {st : Step} {name : String} {level : Level} {event : Members}
    (brings : st.event? s = some (name, level, event)) :
    (step s st).lines = (s.register name).emit name level event := by
  cases st with
  | emit logger at_ bound fields text =>
    simp only [Step.event?] at brings
    simp only [step, Setup.emitEvent, addContext_register]
    split at brings
    · rename_i clear plain
      cases brings
      simp only [clear, plain, reportOf]
    · rename_i clear plain
      cases brings
      simp only [clear, plain, reportOf]
    · cases brings
  | message logger at_ template args =>
    obtain ⟨message, formats, is⟩ := Option.map_eq_some_iff.mp brings
    cases is
    simp [step, Setup.emitMessage, formats, addContext_register]
  | _ => cases brings

theorem quiet_ne_zero (root : Nat) : max root quietLevel ≠ 0 := by
  unfold quietLevel
  omega

theorem min_le_thresholdOf (root transport : Nat) (first : String) :
    min root transport ≤ thresholdOf root transport first := by
  unfold thresholdOf
  split_ifs <;> omega

/-- Nobody but a configuration has given a level to the logger of these parts or to one above it. -/
def Setup.Free (s : Setup) (parts : List String) : Prop :=
  ∀ above, above ≠ [] → above <+: parts → dotted above ∉ settledLoggers → s.own (dotted above) = 0

theorem free_after {s : Setup} {parts : List String} (free : s.Free parts) (steps : List Step) :
    (after s steps).Free parts := fun above some before other => by
  rw [own_after s steps other]
  exact free above some before other

namespace Setup

section Settled

variable {s s' : Setup} {handler : Handler} {root transport : Nat} {first : String} {more : List String}

theorem threshold_first (kept : (s.settle handler root transport).Kept s') (is : Part first)
    (free : first ∉ settledLoggers → s.own first = 0) :
    s'.threshold first = thresholdOf root transport first := by
  have unset (own : s'.own first = 0) : s'.threshold first = root :=
    (s'.threshold_part is own).trans kept.root
  have set (level : Nat) (own : s'.own first = level) (some : level ≠ 0) :
      s'.threshold first = level := by
    rw [threshold, own, if_neg some]
  by_cases settled : first ∈ settledLoggers
  · have own := kept.own first
    simp only [settledLoggers, List.mem_cons, List.not_mem_nil, or_false] at settled
    rcases settled with rfl | rfl | rfl
    · rw [own_settle, if_neg (by decide), if_neg (by decide), if_pos rfl] at own
      rw [thresholdOf, if_pos (by decide)]
      split
      · rename_i none
        exact unset (own.trans none)
      · rename_i some
        exact set transport own some
    · rw [own_settle, if_neg (by decide), if_pos rfl] at own
      rw [thresholdOf, if_neg (by decide), if_pos (.inl rfl)]
      exact set _ own (quiet_ne_zero root)
    · rw [own_settle, if_pos rfl] at own
      rw [thresholdOf, if_neg (by decide), if_pos (.inr rfl)]
      exact set _ own (quiet_ne_zero root)
  · have own : s'.own first = 0 := by
      rw [kept.own, own_settle_other _ _ _ _ settled]
      exact free settled
    rw [unset own]
    simp only [settledLoggers, transportLogger, clientLogger, networkLogger, List.mem_cons,
      List.not_mem_nil, or_false, not_or] at settled
    obtain ⟨transport, client, network⟩ := settled
    rw [thresholdOf, if_neg transport, if_neg (not_or.mpr ⟨client, network⟩)]

/-- Where nobody else sets a level, the first part of a name decides about its threshold. -/
theorem threshold_settled (kept : (s.settle handler root transport).Kept s')
    (proper : ∀ part ∈ first :: more, Part part) (free : s.Free (first :: more)) :
    s'.threshold (dotted (first :: more)) = thresholdOf root transport first := by
  have below : s'.threshold (dotted (first :: more)) = s'.threshold first := by
    refine s'.threshold_dotted first more proper fun above some before => ?_
    have other : dotted (first :: above) ∉ settledLoggers := fun settled =>
      dotted_cons_ne (part_of_settled settled).undotted some first rfl
    rw [kept.own, own_settle_other _ _ _ _ other]
    exact free _ (List.cons_ne_nil first above) (List.cons_prefix_cons.mpr ⟨rfl, before⟩) other
  refine below.trans (threshold_first kept (proper first List.mem_cons_self) fun other => ?_)
  simpa using free [first] (by simp) (by simp) (by simpa using other)

/-- Every event of a logger is handed to the one handler or to none, and the handler lets it pass. -/
theorem emit_settled (kept : (s.settle handler root transport).Kept s')
    (passes : handler.level ≤ min root transport)
    (proper : ∀ part ∈ first :: more, Part part) (free : s.Free (first :: more))
    (level : Level) (event : Members) :
    s'.emit (dotted (first :: more)) level event =
      if thresholdOf root transport first ≤ level.number then
        handler.written (complete (dotted (first :: more)) level event)
      else [] := by
  have is : Part first := proper first List.mem_cons_self
  have handlers : s'.handlers = [handler] := kept.handlers
  have threshold := threshold_settled kept proper free
  have through := Nat.le_trans passes (min_le_thresholdOf root transport first)
  rw [emit, threshold, handlers, loggerName, if_neg (dotted_ne_empty is more)]
  split
  · rename_i reaches
    simp [Handler.print, Nat.le_trans through reaches]
  · rfl

end Settled

end Setup

/-- Events are printed once, from the level on that the last configuration sets for the first part of
their logger's name; the handler hides none of them. The transport's tag is on the loggers whose first
part is the transport's. -/
theorem prints_from_threshold (s : Setup) (earlier : List Step) {later : List Step} {settings : Settings}
    {root transport : Nat} {environment : String} (asked : settings.Asks root transport)
    (placed : settings.environment.Holds environment)
    (settled : ∀ st ∈ later, ∀ other, st ≠ .configure other)
    {first : String} {more : List String} (proper : ∀ part ∈ first :: more, Part part)
    (free : s.Free (first :: more)) :
    let configured := after s (earlier ++ .configure settings :: later)
    let handler : Handler := ⟨min root transport, Text.lower environment = "production"⟩
    let name := dotted (first :: more)
    let printed := fun (level : Level) (event : Members) =>
      if thresholdOf root transport first ≤ level.number then
        handler.written (Setup.complete name level event)
      else []
    configured.handlers = [handler] ∧
      configured.threshold name = thresholdOf root transport first ∧
      handler.level ≤ configured.threshold name ∧
      (∀ level event, configured.emit name level event = printed level event) ∧
      (∀ st level event, st.event? configured = some (name, level, event) →
        ∃ report, (run s (earlier ++ .configure settings :: later ++ [st])).getLast? = some report ∧
          report.lines = printed level event) ∧
      ∀ event, tagName name event =
        if first = "roundtrip_retry" then event.put "component" (.str "retry-transport")
        else event := by
  intro configured handler name printed
  have settles := after_configured s earlier asked placed settled
  have alone := free_after free earlier
  have threshold := Setup.threshold_settled settles proper alone
  have emits {s' : Setup} (kept : Setup.Kept _ s') (level : Level) (event : Members) :
      s'.emit name level event = printed level event :=
    Setup.emit_settled kept (Nat.le_refl _) proper alone level event
  refine ⟨settles.handlers, threshold, ?_, emits settles, ?_, ?_⟩
  · rw [threshold]
    exact min_le_thresholdOf root transport first
  · intro st level event brings
    refine ⟨_, getLast?_run s _ st, ?_⟩
    rw [lines_step brings]
    exact emits (settles.trans (Setup.register_kept _ name)) level event
  · intro event
    have transport : Part transportLogger := part_of_settled List.mem_cons_self
    have under := isUnder_dotted transport (proper first List.mem_cons_self) more
    simp only [tagName, name, under]
    rfl

def verboseTransport : Settings :=
  { logLevel := .checked "WARNING", transportLogLevel := .checked (some "DEBUG") }

theorem prints_from_threshold_verbose :
    let steps : List Step :=
      [.configure {}, .configure verboseTransport, .message "app" .info "Order placed" []]
    let engine := dotted ["roundtrip_retry", "retry", "engine"]
    verboseTransport.Asks 30 10 ∧ (∀ part ∈ ["roundtrip_retry", "retry", "engine"], Part part) ∧
      (after {} steps).threshold engine = 10 ∧
      ∃ report, (run {} (steps ++ [.emit engine .debug [] [] "Retrying request"])).getLast? = some report ∧
        report.lines =
          ["T [debug    ] Retrying request               [roundtrip_retry.retry.engine] " ++
            "component=retry-transport"] := by
  intro steps engine
  have asked : verboseTransport.Asks 30 10 :=
    ⟨⟨"WARNING", .inl rfl, by decide⟩, .inr ⟨"DEBUG", by decide, .inl rfl, by decide⟩⟩
  have settled : ∀ st ∈ [Step.message "app" .info "Order placed" []],
      ∀ other, st ≠ .configure other := by
    simp
  have proper : ∀ part ∈ ["roundtrip_retry", "retry", "engine"], Part part := by decide
  obtain ⟨-, threshold, -, -, printed, -⟩ := prints_from_threshold {} [.configure {}] asked
    (.inl rfl) settled proper fun _ _ _ _ => rfl
  obtain ⟨report, last, lines⟩ :=
    printed (.emit engine .debug [] [] "Retrying request") .debug
      [("event", .str "Retrying request")] rfl
  refine ⟨asked, proper, threshold, report, last, lines.trans ?_⟩
  decide +kernel

/-- A level of zero is none of its own: the transport's loggers take the root's. An event that cannot be
written is not printed. And a logger without a level of its own takes the one that somebody has set for a
name above it, and not the root's. -/
theorem unset_level_is_inherited :
    let settings : Settings :=
      { logLevel := .checked "WARNING", transportLogLevel := .checked (some "NOTSET") }
    let quieted : Setup := Setup.setLevel {} "app" Level.error.number
    settings.Asks 30 0 ∧ 0 ≤ Level.info.number ∧
      (run {} [.configure settings,
        .emit "roundtrip_retry.retry.engine" .info [] [] "Request error"]).map (·.lines) = [[], []] ∧
      ({} : Settings).Asks 20 20 ∧ 20 ≤ Level.info.number ∧
      (run {} [.configure {},
        .emit "app" .info [] [("stack", .int 5)] "Order placed"]).map (·.lines) = [[], []] ∧
      quieted.own "app.jobs" = 0 ∧
      (run quieted [.configure {},
        .emit "app.jobs" .info [] [] "Order placed"]).map (·.lines) = [[], []] := by
  intro settings quieted
  have asked : settings.Asks 30 0 :=
    ⟨⟨"WARNING", .inl rfl, by decide⟩, .inr ⟨"NOTSET", by decide, .inl rfl, by decide⟩⟩
  have usual : ({} : Settings).Asks 20 20 :=
    ⟨⟨"INFO", .inl rfl, by decide⟩, .inl ⟨List.mem_cons_self, rfl⟩⟩
  exact ⟨asked, by decide, by decide +kernel, usual, by decide, by decide +kernel, by decide +kernel,
    by decide +kernel⟩

end Logging

end HttpRetry
