import HttpRetry.Proofs.Causes
import HttpRetry.Proofs.Restrained
import HttpRetry.Proofs.Stacked
set_option autoImplicit false

namespace HttpRetry

def Attempt.headline (a : Attempt) : String :=
  a.request.method ++ " " ++ a.request.url ++ " failed after " ++ toString a.count ++ " attempts"

namespace Failure

def lastErrorText (last : Failure) : String := "last error: " ++ last.typeName ++ ": " ++ last.text

def lastStatusText (status : Option Int) : String := "last status: " ++ statusText status

end Failure

def Attempt.outcomeText (a : Attempt) : String :=
  match a.error with
  | some last => last.lastErrorText
  | none => Failure.lastStatusText a.status?

namespace Failure

def Says (outcome : String) (e : Failure) : Prop :=
  ∃ attempt, e.attempt? = some attempt ∧ e.text = attempt.headline ++ " (" ++ outcome ++ ")"

def Blames (type : String) (e : Failure) : Prop :=
  ∃ last, e.lastError? = some last ∧ last.typeName = type ∧ e.Says last.lastErrorText

def detail? (name : String) (e : Failure) : Option Json := e.details?.bind (·.get? name)

/-- The message and the details name the same cause: an error of the same type, or none. -/
def Consistent (e : Failure) : Prop :=
  (∀ type, e.Blames type ↔ e.detail? "error_type" = some (.str type)) ∧
    (e.Says (lastStatusText e.statusCode?) ↔ e.detail? "error_type" = some .null)

structure Tells (attempt : Attempt) (e : Failure) : Prop where
  about : e.attempt? = some attempt
  lastError : e.lastError? = attempt.error
  statusCode : e.statusCode? = attempt.status?
  attempts : e.detail? "attempts" = some (.int attempt.count)
  status : e.detail? "status_code" = some (optionalInt attempt.status?)
  /-- Where there was an error the details name its type, unless it counts as false. -/
  named : ∀ last, attempt.error = some last →
    (e.detail? "error_type" = some (.str last.typeName) ↔ last.kind.falsy = false)
  unnamed : e.detail? "error_type" = some .null ↔
    ∀ last, attempt.error = some last → last.kind.falsy = true
  /-- The message names it in any case. -/
  blames : ∀ last, attempt.error = some last → e.Says last.lastErrorText
  regrets : attempt.error = none → e.Says (lastStatusText attempt.status?)
  consistent : e.Consistent ↔ ∀ last, attempt.error = some last → last.kind.falsy = false

section
variable {id : FailureId} {attempt : Attempt} {last : Failure} {status : Option Int}
  {outcome : String}

theorem text_exhausted (id : FailureId) (attempt : Attempt) :
    (exhausted id attempt).text = attempt.headline ++ " (" ++ attempt.outcomeText ++ ")" := by
  obtain ⟨start, count, error, request, response, one⟩ := attempt
  apply String.ext
  cases error with
  | none => simp [text, Attempt.headline, Attempt.outcomeText, lastStatusText, Attempt.status?]
  | some last => simp [text, Attempt.headline, Attempt.outcomeText, lastErrorText]

/-- The message names one outcome only. -/
theorem exhausted_says_iff : (exhausted id attempt).Says outcome ↔ outcome = attempt.outcomeText := by
  constructor
  · rintro ⟨about, same, said⟩
    obtain rfl : attempt = about := Option.some.inj same
    rw [text_exhausted, String.append_left_inj, String.append_right_inj] at said
    exact said.symm
  · rintro rfl
    exact ⟨attempt, rfl, text_exhausted id attempt⟩

theorem lastErrorText_ne_lastStatusText : last.lastErrorText ≠ lastStatusText status := by
  intro same
  have chars := congrArg String.toList same
  simp [lastErrorText, lastStatusText] at chars

theorem detail_error_type :
    (exhausted id attempt).detail? "error_type" = some (reportedKind attempt) := rfl

theorem reportedKind_of_error (failed : attempt.error = some last) :
    reportedKind attempt = if last.kind.falsy then .null else .str last.typeName := by
  simp [reportedKind, failed]

theorem reportedKind_of_none (clean : attempt.error = none) : reportedKind attempt = .null := by
  simp [reportedKind, clean]

theorem exhausted_consistent (id : FailureId) (attempt : Attempt) :
    (exhausted id attempt).Consistent ↔
      ∀ last, attempt.error = some last → last.kind.falsy = false := by
  unfold Consistent Blames
  rw [detail_error_type]
  cases failed : attempt.error with
  | none =>
    have outcome : attempt.outcomeText = lastStatusText attempt.status? := by
      simp [Attempt.outcomeText, failed]
    simp [lastError?, statusCode?, failed, reportedKind_of_none failed, exhausted_says_iff, outcome]
  | some last =>
    have outcome : attempt.outcomeText = last.lastErrorText := by simp [Attempt.outcomeText, failed]
    have other : lastStatusText attempt.status? ≠ last.lastErrorText :=
      lastErrorText_ne_lastStatusText.symm
    cases falsy : last.kind.falsy <;>
      simp [lastError?, statusCode?, failed, reportedKind_of_error failed, exhausted_says_iff,
        outcome, other, falsy]

theorem exhausted_tells (id : FailureId) (attempt : Attempt) :
    (exhausted id attempt).Tells attempt := by
  constructor
  · rfl
  · rfl
  · rfl
  · rfl
  · rfl
  · intro last failed
    rw [detail_error_type, reportedKind_of_error failed]
    cases falsy : last.kind.falsy <;> simp
  · rw [detail_error_type]
    cases failed : attempt.error with
    | none => simp [reportedKind_of_none failed]
    | some last =>
      rw [reportedKind_of_error failed]
      cases falsy : last.kind.falsy <;> simp [falsy]
  · intro last failed
    rw [exhausted_says_iff]
    simp [Attempt.outcomeText, failed]
  · intro clean
    rw [exhausted_says_iff]
    simp [Attempt.outcomeText, clean]
  · exact exhausted_consistent id attempt

theorem Tells.outOf {e : Failure} (tells : e.Tells attempt) (routine : Routine) :
    e.outOf routine = e := by
  have about := tells.about
  apply outOf_of_general
  cases e with
  | aborted _ _ => rfl
  | exhausted _ _ => rfl
  | _ => cases about

end

end Failure

def Point.Answered (pt : Point) : Prop :=
  ∀ f outer attempt decision error, pt.frames = f :: outer →
    pt.phase.answer? = some (attempt, decision, error) →
    ∃ asked, f.place.layer.retryer.Gives attempt asked decision error

theorem Takes.gives {s : Setting} {call : Call} {pt pt' : Point} {l l' : Ledger}
    (takes : Takes s call pt l pt' l') (h : pt.Answered) : pt'.Answered := by
  intro f' outer' attempt' decision' error' frames given
  cases takes with
  | pause unmoved => exact h f' outer' attempt' decision' error' frames given
  | answered gives =>
    cases frames
    cases given
    exact ⟨_, gives⟩
  | @pass f outer inner attempt answer l held =>
    cases answer with
    | error e => cases given
    | ok answer => exact h f' outer' attempt' decision' error' frames given
  | @release f outer inner attempt answer r l rejected has =>
    cases answer with
    | error e => cases given
    | ok answer => exact h f' outer' attempt' decision' error' frames given
  | @released f outer inner attempt answer l =>
    cases answer with
    | error e => cases given
    | ok answer => exact h f' outer' attempt' decision' error' frames given
  | @tolerate f outer inner attempt answer e l swallowed =>
    cases answer with
    | error e => cases given
    | ok answer => exact h f' outer' attempt' decision' error' frames given
  | _ => cases given

theorem DefaultPolicy.of_abort {policy : DefaultPolicy} {attempt : Attempt}
    (h : policy.decide attempt = .abort) :
    policy.isRetryable attempt = true ∧ policy.cap ≤ attempt.count := by
  unfold decide at h
  split at h
  · split at h
    · exact ⟨‹_›, ‹_›⟩
    · cases h
  · cases h

/-- What a default retryer gives up on, and with which error, where these events were before. -/
structure DefaultPolicy.GivesUp (policy : DefaultPolicy) (depth c i : Nat) (attempt : Attempt)
    (e : Failure) (earlier : List Event) : Prop where
  retryable : policy.isRetryable attempt = true
  count : attempt.count = policy.cap
  /-- It is the last of as many attempts as the cap allows. -/
  latest : ∃ v, visit depth c i earlier = some v ∧ v.attempts.head? = some attempt ∧
    v.attempts.length = policy.cap
  reported : ∃ entry rest, earlier = .logged c i entry :: rest ∧
    entry.notice = .retryerError policy.cap .abort e
  tells : e.Tells attempt

namespace Reached

variable {s : Setting} {layers : List Layer} {calls : List Call}
  {initial : List (FailureId × Failure)} {points : Nat → Point} {l : Ledger}

theorem answered (reached : Reached s (placesFrom 0 layers) calls initial points l) (c : Nat) :
    (points c).Answered := by
  apply reached.point_keeps
  · exact fun f outer attempt decision error frames => by cases frames
  · exact fun _ _ _ _ _ takes => takes.gives

/-- A default retryer aborts with an error about the attempt that has the number of its cap. -/
theorem exhausts (distinct : (calls.map (·.id)).Nodup)
    (reached : Reached s (placesFrom 0 layers) calls initial points l) {c i : Nat} {layer : Layer}
    {policy : DefaultPolicy} (found : layers[i]? = some layer)
    (standard : layer.retryer = .standard policy) :
    Always (fun earlier event => ∀ attempt, event = .answered c i attempt .abort →
      policy.isRetryable attempt = true ∧ attempt.count = policy.cap ∧
        ∃ id entry rest, earlier = .logged c i entry :: rest ∧
          entry.notice = .retryerError attempt.count .abort (.exhausted id attempt)) l.journal := by
  apply reached.always
  · intro event aside earlier attempt same
    simp [same, Event.isAside] at aside
  · intro points l call event earlier before mem arises attempt same
    subst same
    obtain ⟨rfl, f, outer, elapsed, error, asked, frames, rfl, phase, gives, split⟩ := arises
    have own : layers[f.place.index]? = some f.place.layer :=
      ((before.through call.id).head_of frames).2.1
    obtain rfl : layer = f.place.layer := Option.some.inj (found.symm.trans own)
    have few : f.made < f.place.layer.cap := by
      apply (before.restrained distinct call mem).made f (by simp [frames])
      simp [standard, Retryer.isScripted]
    have count := (before.owns distinct call mem f outer attempt frames (by rw [phase]; rfl)).count
    rw [standard] at gives split
    obtain ⟨decides, id, rfl⟩ := gives
    obtain ⟨retryable, reaches⟩ := DefaultPolicy.of_abort decides.symm
    rw [Layer.cap_standard standard] at few
    simp only [Retryer.remarks, Option.map_some, Option.toList_some, List.cons_append,
      List.nil_append, List.map_cons, List.map_nil, List.reverse_cons, List.reverse_nil] at split
    exact ⟨retryable, by omega, id, _, _, split, Place.notice_entry ..⟩

theorem givesUp (distinct : (calls.map (·.id)).Nodup)
    (reached : Reached s (placesFrom 0 layers) calls initial points l) {c i : Nat} {layer : Layer}
    {policy : DefaultPolicy} {attempt : Attempt} {earlier : List Event}
    (found : layers[i]? = some layer) (standard : layer.retryer = .standard policy)
    (happened : .answered c i attempt .abort :: earlier <:+ l.journal) :
    ∃ e, policy.GivesUp layers.length c i attempt e earlier := by
  obtain ⟨retryable, count, id, entry, rest, split, notice⟩ :=
    (reached.exhausts distinct found standard).at happened attempt rfl
  have order := reached.inOrder distinct
  obtain ⟨v, at_, latest⟩ := order.at happened
  have all := count_head (order.suffix ((List.suffix_cons _ _).trans happened)) at_ latest
  exact ⟨_, retryable, count, ⟨v, at_, latest, by omega⟩, ⟨entry, rest, split, count ▸ notice⟩,
    Failure.exhausted_tells id attempt⟩

theorem abortsAsGiven (distinct : (calls.map (·.id)).Nodup)
    (reached : Reached s (placesFrom 0 layers) calls initial points l) {c i : Nat} {layer : Layer}
    {policy : DefaultPolicy} (found : layers[i]? = some layer)
    (standard : layer.retryer = .standard policy) :
    Always (fun earlier event => ∀ entry count e, event = .logged c i entry →
      entry.notice = .aborting count e → ∃ attempt,
        Decides c i attempt .abort (some e) earlier) l.journal := by
  apply reached.always
  · intro event aside earlier entry count e same
    simp [same, Event.isAside] at aside
  · intro points l call event earlier before mem arises entry count e same notice
    subst same
    obtain ⟨rfl, f, outer, frames, rfl, -, aborts⟩ := arises
    obtain ⟨rfl, attempt, error, phase, raises⟩ := aborts count e notice
    have own : layers[f.place.index]? = some f.place.layer :=
      ((before.through call.id).head_of frames).2.1
    obtain rfl : layer = f.place.layer := Option.some.inj (found.symm.trans own)
    have answer : (points call.id).phase.answer? = some (attempt, .abort, error) := by
      rw [phase]
      rfl
    obtain ⟨asked, gives⟩ := before.answered call.id f outer attempt .abort error frames answer
    rw [standard] at gives
    obtain ⟨-, id, rfl⟩ := gives
    obtain same | ⟨none_, -⟩ := raises
    · cases same
      exact ⟨attempt, before.decided distinct call mem f outer attempt .abort _ frames answer⟩
    · cases none_

end Reached

structure Ledger.Surrenders (layers : List Layer) (l : Ledger) : Prop where
  /-- They do so on the attempt with the number of their cap, and with an error that tells of it. -/
  gaveUp : ∀ c i layer policy attempt earlier, layers[i]? = some layer →
    layer.retryer = .standard policy → .answered c i attempt .abort :: earlier <:+ l.journal →
      ∃ e, policy.GivesUp layers.length c i attempt e earlier
  /-- It is this error that the layer aborts with and leaves the call with; in between it has done no
  more than release the attempt's response. -/
  aborts : ∀ c i layer policy entry count e later earlier, layers[i]? = some layer →
    layer.retryer = .standard policy → l.journal = later ++ .logged c i entry :: earlier →
      entry.notice = .aborting count e → ∃ attempt since before,
        earlier = since ++ .answered c i attempt .abort :: before ∧
          (∀ event ∈ since, event.concerns c = true → event.releases i = true) ∧
          policy.GivesUp layers.length c i attempt e before ∧
          ∃ rest, later = rest ++ [.left c i (.raised e)]

/-- In every run of calls on a stack, whatever the transport raises or returns: a default retryer gives
up on the attempt with the number of its cap only, and its error tells the truth of that attempt. Its
message and its details name the same cause exactly if the attempt's error does not count as false. -/
theorem exhaustion_reports_last_attempt (s : Setting) (layers : List Layer) (tasks : List Task)
    (ms : List Move) (initial : List (FailureId × Failure))
    (waiting : ∀ t ∈ tasks, t.stage = .waiting)
    (distinct : ((callsOf tasks ms).map (·.id)).Nodup) :
    (runMoves s (placesFrom 0 layers) ms tasks).Yields { causes := initial } fun _ l =>
      l.Surrenders layers := by
  refine (runMoves_reached s _ tasks ms initial waiting distinct).mono fun tasks' l moved => ?_
  obtain ⟨points, reached, -⟩ := moved
  constructor
  · exact fun c i layer policy attempt earlier found standard happened =>
      reached.givesUp distinct found standard happened
  · intro c i layer policy entry count e later earlier found standard split notice
    have happened : .logged c i entry :: earlier <:+ l.journal := ⟨later, split.symm⟩
    obtain ⟨attempt, since, before, answered, releases, mentioned⟩ :=
      (reached.abortsAsGiven distinct found standard).at happened entry count e rfl notice
    have earlier_ : .answered c i attempt .abort :: before <:+ l.journal :=
      .trans ⟨.logged c i entry :: since, by simp [answered]⟩ happened
    obtain ⟨given, gives⟩ := reached.givesUp distinct found standard earlier_
    obtain ⟨_, rest, left, rfl⟩ := reached.leaves distinct split fun next forces =>
      ⟨.raised (e.outOf s.mode.routine), forces count e notice, rfl⟩
    -- The error that the answer was reported with is the one that is raised.
    obtain ⟨told, _, tells, noticed⟩ := mentioned e rfl
    obtain ⟨told', _, tells', noticed'⟩ := gives.reported
    obtain ⟨rfl, -⟩ : told = told' ∧ _ := by simpa using tells.symm.trans tells'
    obtain rfl : e = given := (Notice.retryerError.inj (noticed.symm.trans noticed')).2.2
    rw [gives.tells.outOf] at left
    exact ⟨attempt, since, before, answered, releases, gives, rest, left⟩

def doubting : Layer :=
  { hasty with forced := some (.of { name := "ReadError", family := .transport } (some "reset")) }

def endingOf (layers : List Layer) (call : Call) (turns : Nat) : Option Failure :=
  ((runMoves ⟨.suspending, .binary⟩ (placesFrom 0 layers) (List.replicate turns (.resume 0))
    [⟨call, none, .waiting⟩] {}).1[0]?).bind fun t => t.stage.reply?.bind Reply.error?

/-- A call that ends with an error about its third attempt, which had both a response and an error. -/
theorem exhaustion_reports_last_attempt_doubting :
    let s : Setting := ⟨.suspending, .binary⟩
    let layers := [doubting]
    let tasks : List Task := [⟨unservedCall, none, .waiting⟩]
    let moves : List Move := List.replicate 6 (.resume 0)
    let run := runMoves s (placesFrom 0 layers) moves tasks { causes := [] }
    (∀ t ∈ tasks, t.stage = .waiting) ∧ ((callsOf tasks moves).map (·.id)).Nodup ∧
      run.2.Surrenders layers ∧
      (endingOf layers unservedCall 6).bind Failure.statusCode? = some 503 ∧
      (endingOf layers unservedCall 6).map Failure.text =
        some "GET http://example.test/ failed after 3 attempts (last error: ReadError: reset)" ∧
      (((endingOf layers unservedCall 6).bind (·.detail? "error_type")).bind Json.string?) =
        some "ReadError" := by
  intro s layers tasks moves run
  have waiting : ∀ t ∈ tasks, t.stage = .waiting := by simp [tasks]
  have distinct : ((callsOf tasks moves).map (·.id)).Nodup := by decide
  have surrenders := exhaustion_reports_last_attempt s layers tasks moves [] waiting distinct
  exact ⟨waiting, distinct, surrenders, by decide +kernel, by decide +kernel, by decide +kernel⟩

def falsyCall : Call where
  id := 0
  request := { method := "GET", url := "http://example.test/" }
  feed := fun _ =>
    let kind := { name := "FalsyTransportError", family := .transport, falsy := true }
    { act := .raise (.of kind (some "reset")) }

/-- The message names such an error, and the details do not. -/
theorem exhaustion_hides_falsy_error :
    ∃ e, endingOf [hasty] falsyCall 6 = some e ∧ e.Blames "FalsyTransportError" ∧
      e.detail? "error_type" = some .null ∧ ¬ e.Consistent := by
  have carried : ((endingOf [hasty] falsyCall 6).bind Failure.lastError?).map
      (fun last => (last.typeName, last.kind.falsy)) = some ("FalsyTransportError", true) := by
    decide +kernel
  obtain ⟨last, found, known⟩ := Option.map_eq_some_iff.mp carried
  obtain ⟨type, falsy⟩ : last.typeName = _ ∧ last.kind.falsy = true := Prod.mk.inj known
  obtain ⟨e, ends, failed⟩ := Option.bind_eq_some_iff.mp found
  cases e with
  | exhausted id attempt =>
    have failed : attempt.error = some last := failed
    have tells := Failure.exhausted_tells id attempt
    have falsies : ∀ other, attempt.error = some other → other.kind.falsy = true := by
      simp [failed, falsy]
    refine ⟨_, ends, ⟨last, failed, type, tells.blames last failed⟩, tells.unnamed.mpr falsies, ?_⟩
    intro consistent
    simp [tells.consistent.mp consistent last failed] at falsy
  | _ => cases failed

end HttpRetry
