import HttpRetry.Proofs.Drainage
import HttpRetry.Proofs.Draining
import HttpRetry.Proofs.Interrupts
set_option autoImplicit false

namespace HttpRetry

open Work

structure Response.Unread (r r' : Response) : Prop where
  body : r'.body = r.body
  consumed : r'.consumed = r.consumed
  reads : r'.reads = r.reads
  bytes : r'.bytes = r.bytes

theorem Response.unread_shut (r : Response) : r.Unread r.shut := ⟨rfl, rfl, rfl, rfl⟩

theorem Response.Unread.refl (r : Response) : r.Unread r := ⟨rfl, rfl, rfl, rfl⟩

theorem Response.Unread.trans {r r' r'' : Response} (h : r.Unread r') (h' : r'.Unread r'') :
    r.Unread r'' :=
  ⟨h'.body.trans h.body, h'.consumed.trans h.consumed, h'.reads.trans h.reads,
    h'.bytes.trans h.bytes⟩

section
variable {mode : Mode} {call : Nat} {id : ResponseId} {l : Ledger} {r : Response} {s : Stream}

theorem close_shuts (known : l.response? id = some r) :
    (close mode call id).Yields l fun _ l' => ∃ r', l'.response? id = some r' ∧ r.Unread r' ∧
      (r.closed = true → r'.closed = true) ∧
      ∀ s, r.body = .stream s → s.mode = mode → r'.closed = true := by
  refine yields_get ?_
  simp only [known]
  cases streamed : r.body with
  | memory text => exact ⟨r, known, .refl r, fun closed => closed, fun _ same => by cases same⟩
  | stream s =>
    simp only
    by_cases readable : s.mode = mode
    · cases shut : r.closed with
      | true =>
        simp only [readable, ne_eq, not_true_eq_false, if_false, if_true]
        exact ⟨r, known, .refl r, fun _ => shut, fun _ _ _ => shut⟩
      | false =>
        simp only [readable, ne_eq, not_true_eq_false, if_false, Bool.false_eq_true]
        refine yields_modify (yields_note ?_)
        have shut : ((l.adjustResponse id .shut).note
            (.streamClosed call id r.reads r.bytes)).response? id = some r.shut := by simp [known]
        cases s.closeFailure with
        | none => exact ⟨r.shut, shut, r.unread_shut, fun _ => rfl, fun _ _ _ => rfl⟩
        | some spec => exact ⟨r.shut, shut, r.unread_shut, fun _ => rfl, fun _ _ _ => rfl⟩
    · simp only [readable, ne_eq, not_false_eq_true, if_true]
      refine ⟨r, known, .refl r, fun closed => closed, fun s' same readable' => ?_⟩
      cases same
      exact absurd readable' readable

theorem close_error (known : l.response? id = some r) (streamed : r.body = .stream s)
    (readable : s.mode = mode) {e : Failure} (failed : (close mode call id l).1 = .error e) :
    ∃ spec id, s.closeFailure = some spec ∧ e = (spec.failure id).outOf mode.routine := by
  unfold close at failed
  rw [get_apply] at failed
  simp only [known, streamed, readable, ne_eq, not_true_eq_false, if_false] at failed
  cases shut : r.closed with
  | true =>
    rw [shut] at failed
    cases failed
  | false =>
    cases fails : s.closeFailure with
    | none =>
      rw [shut, fails] at failed
      cases failed
    | some spec =>
      rw [shut, fails] at failed
      cases failed
      exact ⟨spec, _, rfl, rfl⟩

end

/-- What reading up to a limit comes to: the stream's failure if it is met, and else no failure but one
of reaching the limit or of closing the stream at its end. -/
structure Taken.Results (mode : Mode) (s : Stream) (atLimit : Option FailureSpec) (taken : Taken)
    (result : Except Failure Unit) : Prop where
  met : taken.Meets s → ∃ spec id, s.failure = some spec ∧
    result = .error ((spec.failure id).outOf mode.reader)
  unmet : ¬ taken.Meets s → ∀ e, result = .error e → ∃ spec id,
    taken.stopped = true ∧ atLimit = some spec ∧ e = (spec.failure id).outOf mode.reader ∨
      taken.stopped = false ∧ s.closeFailure = some spec ∧
        e = ((spec.failure id).outOf mode.routine).outOf mode.reader

section
variable {mode : Mode} {call : Nat} {id : ResponseId} {l : Ledger} {r : Response} {s : Stream}

theorem reading_ends {taken : Taken} (from_ : taken.From s.chunks) (known : l.response? id = some r)
    (streamed : r.body = .stream s) (readable : s.mode = mode) (atLimit : Option FailureSpec) :
    Yields (match if taken.stopped then atLimit else s.failure with
        | some spec => failWith mode.reader call spec
        | none =>
          if taken.stopped then return .ok ()
          else return (← close mode call id).mapError (·.outOf mode.reader)) l fun result l' =>
      taken.Results mode s atLimit result ∧ ∃ r', l'.response? id = some r' ∧ r.Unread r' := by
  have meets := from_.meets_iff
  cases stopped : taken.stopped with
  | true =>
    have unmet : ¬ taken.Meets s := by simp [meets, stopped]
    cases atLimit with
    | none => exact ⟨⟨fun met => absurd met unmet, fun _ e raised => by cases raised⟩, r, known, .refl r⟩
    | some spec =>
      refine ⟨⟨fun met => absurd met unmet, fun _ e raised => ?_⟩, r, known, .refl r⟩
      cases raised
      exact ⟨spec, _, .inl ⟨stopped, rfl, rfl⟩⟩
  | false =>
    cases fails : s.failure with
    | some spec =>
      have met : taken.Meets s := meets.mpr ⟨stopped, by simp [fails]⟩
      exact ⟨⟨fun _ => ⟨spec, _, fails, rfl⟩, fun unmet => absurd met unmet⟩, r, known, .refl r⟩
    | none =>
      have unmet : ¬ taken.Meets s := by simp [meets, fails]
      have closes : (close mode call id).Yields l _ := close_shuts known
      obtain ⟨r', known', unread, -⟩ := closes
      refine ⟨⟨fun met => absurd met unmet, fun _ e raised => ?_⟩, r', known', unread⟩
      have raised : (close mode call id l).1.mapError (·.outOf mode.reader) = .error e := raised
      cases closed : (close mode call id l).1 with
      | ok u =>
        rw [closed] at raised
        cases raised
      | error e' =>
        rw [closed] at raised
        cases raised
        obtain ⟨spec, made, closing, rfl⟩ := close_error known streamed readable closed
        exact ⟨spec, made, .inr ⟨stopped, closing, rfl⟩⟩

theorem iterate_fresh (known : l.response? id = some r) (streamed : r.body = .stream s)
    (readable : s.mode = mode) (unconsumed : r.consumed = false) (opened : r.closed = false)
    (limit : Nat) (atLimit : Option FailureSpec) :
    let taken := takeUntil limit 0 0 s.chunks
    (iterate mode call (some limit) atLimit id).Yields l fun result l' =>
      taken.Results mode s atLimit result ∧
        ∃ r', l'.response? id = some r' ∧ (r.drawn taken.chunks).Unread r' := by
  intro taken
  have drawn : (l.adjustResponse id (.drawn taken.chunks)).response? id =
      some (r.drawn taken.chunks) := by simp [known]
  refine yields_get ?_
  simp only [known, streamed, readable, unconsumed, opened, ne_eq, not_true_eq_false, if_false,
    Bool.false_eq_true]
  exact yields_modify (reading_ends (takeUntil_from limit 0 0 s.chunks) drawn streamed readable atLimit)

end

/-- What the release of a response that `response` is known of reads, and how it leaves it. -/
structure Place.ReadsToLimit (p : Place) (mode : Mode) (call : Call) (r : ResponseRef) (l : Ledger)
    (response after : Response) : Prop where
  /-- A response that is consumed or closed is not read at all. -/
  untouched : response.consumed = true ∨ response.closed = true → response.Unread after
  /-- What the mode can close is closed, and what was closed stays so. -/
  closed : (∃ s, response.body = .stream s ∧ s.mode = mode) ∨ response.closed = true →
    after.closed = true
  /-- Any other is read up to the limit, if the mode can read it. -/
  reads : response.consumed = false → response.closed = false → ∀ chunks fails closeFailure,
    let s := Stream.failing mode chunks fails closeFailure
    let taken := takeUntil p.layer.drainLimit 0 0 s.chunks
    response.body = .stream s → taken.Drains p.layer.drainLimit chunks (fails.map (·.1)) s ∧
      taken.Results mode s p.layer.limitFailure? (p.drainedIn mode call r l).1 ∧
      (response.drawn taken.chunks).Unread after

namespace Place

variable {p : Place} {mode : Mode} {call : Call} {attempt : Attempt} {r : ResponseRef} {l : Ledger}
  {response : Response}

theorem response?_tolerate (result : Except Failure Unit) (id : ResponseId) :
    (p.tolerate call attempt result l).2.response? id = l.response? id := by
  cases result with
  | ok u => rfl
  | error e =>
    cases swallowed : e.isSwallowed with
    | true => simp [tolerate_swallowed attempt swallowed]
    | false => rw [tolerate_snd swallowed]

theorem drain_untouched (known : l.response? r.id = some response)
    (begun : response.consumed = true ∨ response.closed = true) :
    p.drain mode call r l = (.ok (), l) := by
  unfold drain
  rw [get_apply, known]
  simp only [Bool.or_eq_true, begun, if_true]
  rfl

theorem drain_fresh {s : Stream} (known : l.response? r.id = some response)
    (streamed : response.body = .stream s) (readable : s.mode = mode)
    (unconsumed : response.consumed = false) (opened : response.closed = false) :
    let taken := takeUntil p.layer.drainLimit 0 0 s.chunks
    (p.drain mode call r).Yields l fun result l' =>
      taken.Results mode s p.layer.limitFailure? result ∧
        ∃ r', l'.response? r.id = some r' ∧ (response.drawn taken.chunks).Unread r' := by
  intro taken
  refine yields_get ?_
  simp only [known, unconsumed, opened, Bool.or_self, Bool.false_eq_true, if_false]
  exact iterate_fresh known streamed readable unconsumed opened _ _

theorem discard_reads (known : l.response? r.id = some response) :
    ∃ after, (p.closedIn mode call r l).2.response? r.id = some after ∧
      p.ReadsToLimit mode call r l response after := by
  have known : (l.note (.releasing call.id p.index r.id)).response? r.id = some response := by
    simpa using known
  have closes {r' : Response} (found : (p.drainedIn mode call r l).2.response? r.id = some r') :
      ∃ after, (p.closedIn mode call r l).2.response? r.id = some after ∧ r'.Unread after ∧
        (r'.closed = true → after.closed = true) ∧
        ∀ s, r'.body = .stream s → s.mode = mode → after.closed = true := close_shuts found
  by_cases begun : response.consumed = true ∨ response.closed = true
  · have drained : (p.drainedIn mode call r l).2.response? r.id = some response := by
      rwa [drainedIn, drain_untouched known begun]
    obtain ⟨after, found, unread, stays, shuts⟩ := closes drained
    refine ⟨after, found, fun _ => unread, ?_, fun unconsumed opened => ?_⟩
    · exact fun shut => shut.elim (fun ⟨s, streamed, readable⟩ => shuts s streamed readable) stays
    · simp [unconsumed, opened] at begun
  · obtain ⟨unconsumed, opened⟩ : response.consumed = false ∧ response.closed = false := by
      simpa using begun
    by_cases reads : ∃ s, response.body = .stream s ∧ s.mode = mode
    · obtain ⟨s, streamed, readable⟩ := reads
      have drains : (p.drain mode call r).Yields _ _ :=
        drain_fresh known streamed readable unconsumed opened
      obtain ⟨results, r', drained, unread⟩ := drains
      obtain ⟨after, found, unread', -, shuts⟩ := closes drained
      refine ⟨after, found, fun h => absurd h begun, fun _ => ?_, fun _ _ chunks fails fail => ?_⟩
      · exact shuts s (unread.body.trans streamed) readable
      · intro s' taken streamed'
        obtain rfl : s = s' := Body.stream.inj (streamed.symm.trans streamed')
        obtain ⟨n, cut⟩ := Stream.failing_cut mode chunks fails fail
        exact ⟨cut.drains p.layer.one_le_drainLimit, results, unread.trans unread'⟩
    · have stirs : (p.drain mode call r).Stirs r.id (fun result => False → Mild result)
          (l.note (.releasing call.id p.index r.id)) := drain_stirs False.elim False.elim
      obtain ⟨r', drained, -⟩ := stirs.2.response?_self known
      obtain ⟨after, found, -⟩ := closes drained
      refine ⟨after, found, fun h => absurd h begun, fun shut => ?_, fun _ _ chunks fails fail => ?_⟩
      · rcases shut with readable | shut
        · exact absurd readable reads
        · simp [shut] at opened
      · exact fun streamed => absurd ⟨_, streamed, Stream.mode_failing mode chunks fails fail⟩ reads

/-- Releasing an attempt with a response reads of that no more than what first comes to the limit, and
leaves it closed, whichever failures reading and closing it meet. -/
theorem release_reads_to_limit (p : Place) (mode : Mode) (call : Call) (attempt : Attempt)
    (l : Ledger) {r : ResponseRef} {response : Response} (has : attempt.response = some r)
    (known : l.response? r.id = some response) :
    (p.release mode call attempt).Yields l fun _ l' => ∃ after,
      l'.response? r.id = some after ∧ p.ReadsToLimit mode call r l response after := by
  obtain ⟨after, found, reads⟩ := discard_reads known
  unfold Yields
  rw [release_of_some has, discard_noted]
  exact ⟨after, (response?_tolerate _ _).trans found, reads⟩

def sparing : Place :=
  { oneRetry with layer := { oneRetry.layer with
      drainLimit := 4, shownLimit := .int 4, one_le_drainLimit := Nat.le_add_left 1 3 } }

def failingAfter (given : Nat) : Response :=
  .ofStream 503 (.failing .blocking [.filler 0, .filler 3, .filler 2, .filler 9]
    (some (given, .of .osError (some "reset"))) none)

/-- The third chunk comes to the limit: a failure after it is not met, one before it is. -/
theorem release_reads_to_limit_failing :
    let call : Call := ⟨0, { method := "GET", url := "http://example.test/" }, fun _ => { act := .nothing }⟩
    let r : ResponseRef := ⟨⟨0, 0⟩, 503⟩
    let attempt : Attempt := ⟨none, 1, none, call.request, some r, Nat.le_refl 1⟩
    let built (given : Nat) : Ledger := ({} : Ledger).build 0 (failingAfter given)
    let left (given : Nat) : Ledger := (sparing.release .blocking call attempt (built given)).2
    attempt.response = some r ∧ (∀ given, (built given).response? r.id = some (failingAfter given)) ∧
      (∀ given, ∃ after, (left given).response? r.id = some after ∧
        sparing.ReadsToLimit .blocking call r (built given) (failingAfter given) after) ∧
      [2, 3].map (fun given => ((left given).response? r.id).map fun after =>
        (after.reads, after.bytes, after.closed)) = [some (2, 3, true), some (3, 5, true)] ∧
      [2, 3].map (fun given => (left given).drainFailures.length) = [1, 0] := by
  intro call r attempt built left
  have known : ∀ given, (built given).response? r.id = some (failingAfter given) := fun given => rfl
  exact ⟨rfl, known,
    fun given => release_reads_to_limit sparing .blocking call attempt (built given) rfl (known given),
    by decide +kernel, by decide +kernel⟩

end Place

end HttpRetry
