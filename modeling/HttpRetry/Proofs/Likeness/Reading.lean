import Mathlib.Data.List.Forall2
import HttpRetry.Proofs.Likeness.Layer
import HttpRetry.Proofs.Sound
set_option autoImplicit false

namespace HttpRetry

open Work

def entryRef (entry : ResponseId × Response) : ResponseRef := ⟨entry.1, entry.2.status⟩

section
variable (k : Likeness) (mode mode' : Mode)

/-- Streams that do alike, each in its mode: they are of these modes, or the modes are one. -/
structure Stream.Alike (s s' : Stream) : Prop where
  modes : s.mode = mode ∧ s'.mode = mode' ∨ mode' = mode ∧ s'.mode = s.mode
  chunks : s'.chunks = s.chunks
  failure : s'.failure = s.failure
  closeFailure : s'.closeFailure = s.closeFailure
  raises : ∀ spec, s.failure = some spec ∨ s.closeFailure = some spec →
    k.Admits spec.kind ∧ (mode' = mode ∨ spec.kind.family ≠ .asyncEnding)

inductive Body.Alike : Body → Body → Prop
  | memory (text : String) : Body.Alike (.memory text) (.memory text)
  | stream {s s' : Stream} (streams : s.Alike k mode mode' s') : Body.Alike (.stream s) (.stream s')

structure Response.Alike (r r' : Response) : Prop where
  status : r'.status = r.status
  body : r.body.Alike k mode mode' r'.body
  consumed : r'.consumed = r.consumed
  closed : r'.closed = r.closed
  loaded : r'.loaded = r.loaded
  reads : r'.reads = r.reads
  bytes : r'.bytes = r.bytes
  closes : r'.closes = r.closes

inductive Act.Alike : Act → Act → Prop
  | raise (spec : FailureSpec) (admitted : k.Admits spec.kind) : Act.Alike (.raise spec) (.raise spec)
  | nothing : Act.Alike .nothing .nothing
  | again (index : Nat) : Act.Alike (.again index) (.again index)
  | repeated (serial : Nat) : Act.Alike (.repeated serial) (.repeated serial)
  | respondText (status : Int) (text : String) :
    Act.Alike (.respondText status text) (.respondText status text)
  | respond (status : Int) {s s' : Stream} (streams : s.Alike k mode mode' s') (how : Preparation) :
    Act.Alike (.respond status s how) (.respond status s' how)

def Feed.Alike (feed feed' : Feed) : Prop :=
  ∀ n, (feed' n).advance = (feed n).advance ∧ (feed n).act.Alike k mode mode' (feed' n).act

end

section
variable {k : Likeness} {mode mode' : Mode}

theorem Stream.Alike.refl (endings : k.endings) (s : Stream) : s.Alike k mode mode s where
  modes := .inr ⟨rfl, rfl⟩
  chunks := rfl
  failure := rfl
  closeFailure := rfl
  raises _ _ := ⟨fun _ => endings, .inl rfl⟩

theorem Body.Alike.refl (endings : k.endings) (body : Body) : body.Alike k mode mode body := by
  cases body with
  | memory text => exact .memory text
  | stream s => exact .stream (.refl endings s)

theorem Act.Alike.refl (endings : k.endings) (act : Act) : act.Alike k mode mode act := by
  cases act with
  | raise spec => exact .raise spec fun _ => endings
  | nothing => exact .nothing
  | again index => exact .again index
  | repeated serial => exact .repeated serial
  | respondText status text => exact .respondText status text
  | respond status s how => exact .respond status (.refl endings s) how

theorem Feed.Alike.refl (endings : k.endings) (feed : Feed) : feed.Alike k mode mode feed :=
  fun n => ⟨rfl, .refl endings (feed n).act⟩

namespace Stream.Alike

variable {s s' : Stream}

theorem eq (h : s.Alike k mode mode s') : s' = s := by
  obtain ⟨modes, chunks, failure, closeFailure, -⟩ := h
  have same : s'.mode = s.mode := by
    rcases modes with ⟨own, own'⟩ | ⟨-, same⟩
    · rw [own, own']
    · exact same
  cases s
  cases s'
  simp_all

theorem readable (h : s.Alike k mode mode' s') : s'.mode = mode' ↔ s.mode = mode := by
  rcases h.modes with ⟨own, own'⟩ | ⟨rfl, same⟩
  · exact iff_of_true own' own
  · rw [same]

/-- Streams of the wrong mode are met only where the modes are one. -/
theorem wrong (h : s.Alike k mode mode' s') (other : s.mode ≠ mode) : mode' = mode :=
  h.modes.elim (fun own => absurd own.1 other) And.left

end Stream.Alike

theorem Body.Alike.cases {body body' : Body} (h : body.Alike k mode mode' body') :
    (∃ text, body = .memory text ∧ body' = .memory text) ∨
      ∃ s s', body = .stream s ∧ body' = .stream s' ∧ s.Alike k mode mode' s' := by
  cases h with
  | memory text => exact .inl ⟨text, rfl, rfl⟩
  | stream streams => exact .inr ⟨_, _, rfl, rfl, streams⟩

namespace Response.Alike

variable {r r' : Response}

theorem refl (endings : k.endings) (r : Response) : r.Alike k mode mode r :=
  ⟨rfl, .refl endings r.body, rfl, rfl, rfl, rfl, rfl, rfl⟩

theorem eq (h : r.Alike k mode mode r') : r' = r := by
  obtain ⟨status, bodies, consumed, closed, loaded, reads, bytes, closes⟩ := h
  have body : r'.body = r.body := by
    rcases bodies.cases with ⟨text, body, body'⟩ | ⟨s, s', body, body', streams⟩
    · rw [body, body']
    · rw [body, body', streams.eq]
  cases r
  cases r'
  simp_all

theorem drawn (h : r.Alike k mode mode' r') (taken : List Chunk) :
    (r.drawn taken).Alike k mode mode' (r'.drawn taken) :=
  { h with
    consumed := rfl
    reads := congrArg (· + taken.length) h.reads
    bytes := congrArg (· + totalSize taken) h.bytes }

theorem kept (h : r.Alike k mode mode' r') : r.kept.Alike k mode mode' r'.kept :=
  { h with loaded := rfl }

theorem shut (h : r.Alike k mode mode' r') : r.shut.Alike k mode mode' r'.shut :=
  { h with closed := rfl, closes := congrArg (· + 1) h.closes }

end Response.Alike

end

inductive Response.Use : (Response → Response) → Prop
  | drawn (taken : List Chunk) : Response.Use (.drawn taken)
  | kept : Response.Use .kept
  | shut : Response.Use .shut

theorem Response.Alike.used {k : Likeness} {mode mode' : Mode} {r r' : Response}
    (h : r.Alike k mode mode' r') {f : Response → Response} (use : Response.Use f) :
    (f r).Alike k mode mode' (f r') := by
  cases use with
  | drawn taken => exact h.drawn taken
  | kept => exact h.kept
  | shut => exact h.shut

abbrev KnownAlike (k : Likeness) (mode mode' : Mode) : Option Response → Option Response → Prop :=
  Option.Rel (Response.Alike k mode mode')

theorem KnownAlike.cases {k : Likeness} {mode mode' : Mode} {known known' : Option Response}
    (h : KnownAlike k mode mode' known known') :
    known = none ∧ known' = none ∨
      ∃ r r', known = some r ∧ known' = some r' ∧ r.Alike k mode mode' r' := by
  cases h with
  | none => exact .inl ⟨rfl, rfl⟩
  | some alike => exact .inr ⟨_, _, rfl, rfl, alike⟩

theorem KnownAlike.of_eq {k : Likeness} (endings : k.endings) {mode : Mode}
    {known known' : Option Response} (same : known' = known) : KnownAlike k mode mode known known' := by
  subst same
  cases known' with
  | none => exact .none
  | some r => exact .some (.refl endings r)

theorem KnownAlike.eq {k : Likeness} {mode : Mode} {known known' : Option Response}
    (h : KnownAlike k mode mode known known') : known' = known := by
  cases h with
  | none => rfl
  | some alike => rw [alike.eq]

structure EntryAlike (E : ResponseId → Response → Response → Prop)
    (entry entry' : ResponseId × Response) : Prop where
  same : entry'.1 = entry.1
  alike : E entry.1 entry.2 entry'.2

section
variable {E : ResponseId → Response → Response → Prop} {entries entries' : List (ResponseId × Response)}
  (h : List.Forall₂ (EntryAlike E) entries entries')

include h

theorem refs_alike (statuses : ∀ {id r r'}, E id r r' → r'.status = r.status) :
    entries'.map entryRef = entries.map entryRef := by
  induction h with
  | nil => rfl
  | cons first _ ih =>
    rw [List.map_cons, List.map_cons, ih, entryRef, first.same, statuses first.alike]
    rfl

theorem lookup_alike (id : ResponseId) :
    Option.Rel (E id) (List.lookup id entries) (List.lookup id entries') := by
  induction h with
  | nil => exact .none
  | @cons entry entry' _ _ first _ ih =>
    rw [List.lookup_cons, List.lookup_cons, first.same]
    cases here : id == entry.1 with
    | false => exact ih
    | true =>
      rw [beq_iff_eq] at here
      exact .some (here ▸ first.alike)

theorem adjust_alike {id : ResponseId} {f f' : Response → Response}
    (changes : ∀ r r', List.lookup id entries = some r → List.lookup id entries' = some r' →
      E id (f r) (f' r')) :
    List.Forall₂ (EntryAlike E) (Ledger.adjust id f entries) (Ledger.adjust id f' entries') := by
  induction h with
  | nil => exact .nil
  | @cons entry entry' rest rest' first others ih =>
    obtain ⟨i, r⟩ := entry
    obtain ⟨i', r'⟩ := entry'
    obtain rfl : i' = i := first.same
    by_cases here : i' = id
    · subst here
      simp only [Ledger.adjust, if_true]
      refine .cons ⟨rfl, changes r r' ?_ ?_⟩ others
      · rw [List.lookup_cons, beq_self_eq_true]
      · rw [List.lookup_cons, beq_self_eq_true]
    · have there : (id == i') = false := by simpa using Ne.symm here
      simp only [Ledger.adjust, here, if_false]
      refine .cons first (ih fun r r' known known' => changes r r' ?_ ?_)
      · rw [List.lookup_cons, there]
        exact known
      · rw [List.lookup_cons, there]
        exact known'

end

/-- A tie that is kept by what is counted in both runs, and by what is done in both to a response
that does alike in both. -/
structure Replays (k : Likeness) (R : Tie) (mode mode' : Mode) : Prop where
  adjust : ∀ {ids l l'}, R ids l l' → ∀ {id},
    KnownAlike k mode mode' (l.response? id) (l'.response? id) → ∀ {f}, Response.Use f →
      R ids (l.adjustResponse id f) (l'.adjustResponse id f)
  counted : ∀ {ids l l'}, R ids l l' → ∀ method decision,
    R ids { l with metrics := l.metrics.countAttempt method decision }
      { l' with metrics := l'.metrics.countAttempt method decision }
  drained : ∀ {ids l l'}, R ids l l' → R ids { l with metrics := l.metrics.countDrainError }
    { l' with metrics := l'.metrics.countDrainError }

/-- A tie that is also kept by what the innermost transport does for a call. -/
structure Resends (k : Likeness) (R : Tie) (mode mode' : Mode) (call : Call) : Prop
    extends Replays k R mode mode' where
  confined : call.Confined k.reach
  sends : ∀ {ids l l'}, R ids l l' → (l'.calls call.id).sends = (l.calls call.id).sends
  send : ∀ {ids l l'}, R ids l l' →
    R ids (l.adjustCall call.id fun c => { c with sends := c.sends + 1 })
      (l'.adjustCall call.id fun c => { c with sends := c.sends + 1 })
  built : ∀ {ids l l'}, R ids l l' → (l'.calls call.id).built = (l.calls call.id).built
  build : ∀ {ids l l'}, R ids l l' → ∀ {r r' : Response}, r.Alike k mode mode' r' →
    let id : ResponseId := ⟨call.id, (l.calls call.id).built⟩
    R ids (l.build call.id r) (l'.build call.id r') ∧
      KnownAlike k mode mode' ((l.build call.id r).response? id) ((l'.build call.id r').response? id)
  listed : ∀ {ids l l'}, R ids l l' → ∀ {n index}, (call.feed n).act = .again index →
    (l'.responses[index]?).map entryRef = (l.responses[index]?).map entryRef
  known : ∀ {ids l l'}, R ids l l' → ∀ serial,
    (l'.response? ⟨call.id, serial⟩).map (·.status) = (l.response? ⟨call.id, serial⟩).map (·.status)

def Tie.at (R : Tie) (k : Likeness) (mode mode' : Mode) (id : ResponseId) : Tie :=
  fun ids l l' => R ids l l' ∧ KnownAlike k mode mode' (l.response? id) (l'.response? id)

section
variable {k : Likeness} {R : Tie} {mode mode' : Mode} {call : Nat}

theorem Parallel.at (h : Parallel k call R) (mode mode' : Mode) (id : ResponseId) :
    Parallel k call (R.at k mode mode' id) :=
  h.and fun same rests rests' => by
    rw [rests.response?, rests'.response?]
    exact same

theorem KnownAlike.adjusted {l l' : Ledger} {id : ResponseId}
    (same : KnownAlike k mode mode' (l.response? id) (l'.response? id)) {f : Response → Response}
    (use : Response.Use f) (other : ResponseId) :
    KnownAlike k mode mode' ((l.adjustResponse other f).response? id)
      ((l'.adjustResponse other f).response? id) := by
  by_cases own : id = other
  · subst own
    rw [Ledger.response?_adjustResponse_self, Ledger.response?_adjustResponse_self]
    rcases same.cases with ⟨known, known'⟩ | ⟨r, r', known, known', alike⟩
    · rw [known, known']
      exact .none
    · rw [known, known']
      exact .some (alike.used use)
  · rw [Ledger.response?_adjustResponse_of_ne _ own, Ledger.response?_adjustResponse_of_ne _ own]
    exact same

theorem Replays.at (w : Replays k R mode mode') (id : ResponseId) :
    Replays k (R.at k mode mode' id) mode mode' where
  adjust tied other same _ use := ⟨w.adjust tied.1 same use, tied.2.adjusted use other⟩
  counted tied method decision := ⟨w.counted tied.1 method decision, tied.2⟩
  drained tied := ⟨w.drained tied.1, tied.2⟩

end

def Closed (k : Likeness) (mode mode' : Mode) (ids : Naming)
    (result result' : Except Failure Unit) : Prop :=
  Ended k ids result result' ∧
    (mode' = mode ∨ ∀ e : Failure, result = .error e → e.kind.family ≠ .asyncEnding)

theorem Failure.outOf_ne_asyncEnding {e : Failure} {routine : Routine}
    (h : e.kind.family ≠ .asyncEnding) : (e.outOf routine).kind.family ≠ .asyncEnding := by
  rcases outOf_cases routine e with same | ⟨text, -, turned⟩
  · rw [same]
    exact h
  · rw [turned]
    exact Family.noConfusion

namespace Replays

variable {k : Likeness} {R : Tie} {mode mode' : Mode} (w : Replays k R mode mode') {call : Nat}
  (h : Parallel k call R) (modes : k.endings → mode' = mode) {ids : Naming} {l l' : Ledger}
  {id : ResponseId} (tied : R.at k mode mode' id ids l l')

include w tied

theorem likens_adjust {f : Response → Response} (use : Response.Use f) :
    Likens (R.at k mode mode' id) Any (adjustResponse id f) (adjustResponse id f) ids l l' :=
  likens_modify ⟨w.adjust tied.1 tied.2 use, tied.2.adjusted use id⟩

include h modes

theorem likens_closing :
    Likens (R.at k mode mode' id) (Closed k mode mode') (close mode call id) (close mode' call id)
      ids l l' := by
  have h' := h.at mode mode' id
  have fine (ids : Naming) : Closed k mode mode' ids (.ok ()) (.ok ()) :=
    ⟨.ok trivial, .inr fun _ fails => by cases fails⟩
  have fails {ids l l'} (tied : R.at k mode mode' id ids l l') (spec : FailureSpec)
      (admitted : k.Admits spec.kind) (read : mode' = mode ∨ spec.kind.family ≠ .asyncEnding) :
      Likens (R.at k mode mode' id) (Closed k mode mode') (failWith mode.routine call spec)
        (failWith mode'.routine call spec) ids l l' := by
    obtain ⟨ids', le, ended, tied'⟩ :=
      h'.likens_failWith tied spec admitted (Likeness.objects_routine modes admitted)
    refine ⟨ids', le, ⟨ended, read.imp_right fun plain e fails => ?_⟩, tied'⟩
    cases fails
    refine Failure.outOf_ne_asyncEnding ?_
    rwa [FailureSpec.kind_failure]
  refine likens_get ?_
  rcases tied.2.cases with ⟨known, known'⟩ | ⟨r, r', known, known', alike⟩
  · rw [known, known']
    exact likens_pure (fine _) tied
  · rw [known, known']
    rcases alike.body.cases with ⟨text, body, body'⟩ | ⟨s, s', body, body', streams⟩
    · simp only [body, body']
      exact likens_pure (fine _) tied
    · simp only [body, body', alike.closed, alike.reads, alike.bytes, streams.closeFailure, ne_eq,
        streams.readable]
      by_cases own : s.mode = mode
      · rw [if_neg (not_not_intro own), if_neg (not_not_intro own)]
        split
        · exact likens_pure (fine _) tied
        · refine likens_bind (w.likens_adjust tied .shut) fun _ _ _ _ _ _ _ tied => ?_
          refine likens_bind (h'.likens_note tied rfl (.streamClosed call id _ _))
            fun _ _ _ _ _ _ _ tied => ?_
          cases closing : s.closeFailure with
          | none => exact likens_pure (fine _) tied
          | some spec =>
            obtain ⟨admitted, read⟩ := streams.raises spec (.inr closing)
            exact fails tied spec admitted read
      · rw [if_pos own, if_pos own]
        obtain rfl := streams.wrong own
        exact fails tied _ (k.admits Family.noConfusion) (.inl rfl)

theorem likens_close :
    Likens (R.at k mode mode' id) (Ended k) (close mode call id) (close mode' call id) ids l l' :=
  (w.likens_closing h modes tied).mono fun _ _ _ closed => closed.1

theorem likens_iterate (limit : Option Nat) {atLimit : Option FailureSpec}
    (limited : ∀ spec, atLimit = some spec → spec.kind.family = .general) :
    Likens (R.at k mode mode' id) (Ended k) (iterate mode call limit atLimit id)
      (iterate mode' call limit atLimit id) ids l l' := by
  have h' := h.at mode mode' id
  have fails {ids l l'} (tied : R.at k mode mode' id ids l l') (spec : FailureSpec)
      (admitted : k.Admits spec.kind) (read : mode' = mode ∨ spec.kind.family ≠ .asyncEnding) :
      Likens (R.at k mode mode' id) (Ended k) (failWith mode.reader call spec)
        (failWith mode'.reader call spec) ids l l' :=
    h'.likens_failWith tied spec admitted (Likeness.objects_reader modes admitted read)
  have plain {spec : FailureSpec} (general : spec.kind.family = .general) :
      k.Admits spec.kind ∧ (mode' = mode ∨ spec.kind.family ≠ .asyncEnding) := by
    rw [general]
    exact ⟨k.admits (by rw [general]; exact Family.noConfusion), .inr Family.noConfusion⟩
  refine likens_get ?_
  rcases tied.2.cases with ⟨known, known'⟩ | ⟨r, r', known, known', alike⟩
  · rw [known, known']
    exact likens_pure (.ok trivial) tied
  · rw [known, known']
    simp only [alike.consumed, alike.closed]
    split
    · exact fails tied _ (k.admits Family.noConfusion) (.inr Family.noConfusion)
    · split
      · exact fails tied _ (k.admits Family.noConfusion) (.inr Family.noConfusion)
      · rcases alike.body.cases with ⟨text, body, body'⟩ | ⟨s, s', body, body', streams⟩
        · simp only [body, body']
          exact likens_pure (.ok trivial) tied
        · simp only [body, body', streams.chunks, streams.failure, ne_eq, streams.readable]
          by_cases own : s.mode = mode
          · rw [if_neg (not_not_intro own), if_neg (not_not_intro own)]
            refine likens_bind (w.likens_adjust tied (.drawn _)) fun _ _ _ _ _ _ _ tied => ?_
            have raises : ∀ spec, (if (takeChunks limit s.chunks).stopped then atLimit else s.failure) =
                some spec → k.Admits spec.kind ∧ (mode' = mode ∨ spec.kind.family ≠ .asyncEnding) := by
              intro spec some
              split at some
              · exact plain (limited spec some)
              · exact streams.raises spec (.inl some)
            cases raised : if (takeChunks limit s.chunks).stopped then atLimit else s.failure with
            | some spec =>
              obtain ⟨admitted, read⟩ := raises spec raised
              exact fails tied spec admitted read
            | none =>
              simp only
              split
              · exact likens_pure (.ok trivial) tied
              · refine likens_bind (w.likens_closing h modes tied) fun _ _ _ _ _ _ closed tied => ?_
                obtain ⟨ended, read⟩ := closed
                cases ended with
                | ok _ => exact likens_pure (.ok trivial) tied
                | error error =>
                  refine likens_pure (.error (error.outOf ?_)) tied
                  exact Likeness.objects_reader modes error.admitted
                    (read.imp_right fun plain => plain _ rfl)
          · rw [if_pos own, if_pos own]
            obtain rfl := streams.wrong own
            exact fails tied _ (k.admits Family.noConfusion) (.inl rfl)

theorem likens_read :
    Likens (R.at k mode mode' id) (Ended k) (Work.read mode call id) (Work.read mode' call id)
      ids l l' := by
  refine likens_get ?_
  rcases tied.2.cases with ⟨known, known'⟩ | ⟨r, r', known, known', alike⟩
  · rw [known, known']
    exact likens_pure (.ok trivial) tied
  · rw [known, known']
    simp only [alike.loaded]
    split
    · exact likens_pure (.ok trivial) tied
    · refine likens_bind (w.likens_iterate h modes tied none fun _ fails => by cases fails)
        fun _ _ _ _ _ _ result tied => ?_
      cases result with
      | error error => exact likens_pure (.error error) tied
      | ok _ =>
        exact likens_bind (w.likens_adjust tied .kept) fun _ _ _ _ _ _ _ tied =>
          likens_pure (.ok trivial) tied

theorem likens_prepare (how : Preparation) :
    Likens (R.at k mode mode' id) (Ended k) (prepare mode call id how) (prepare mode' call id how)
      ids l l' := by
  cases how with
  | fresh => exact likens_pure (.ok trivial) tied
  | read => exact w.likens_read h modes tied
  | begun => exact w.likens_iterate h modes tied (some 1) fun _ fails => by cases fails
  | closed => exact w.likens_close h modes tied

end Replays

namespace Resends

variable {k : Likeness} {R : Tie} {mode mode' : Mode} {call : Call}
  (w : Resends k R mode mode' call) (h : Parallel k call.id R) (modes : k.endings → mode' = mode)
  {ids : Naming} {l l' : Ledger}

theorem likens_addResponse {α β : Type} {V : Naming → α → β → Prop} {call : Nat} {r r' : Response}
    {f : ResponseId → Work α} {f' : ResponseId → Work β}
    (rest : Likens R V (f ⟨call, (l.calls call).built⟩) (f' ⟨call, (l'.calls call).built⟩) ids
      (l.build call r) (l'.build call r')) :
    Likens R V (addResponse call r >>= f) (addResponse call r' >>= f') ids l l' := rest

include w h

theorem likens_again {n index : Nat} (act : (call.feed n).act = .again index) (tied : R ids l l') :
    Likens R (Reply.Alike k) (perform mode call.id (.again index))
      (perform mode' call.id (.again index)) ids l l' := by
  refine likens_get ?_
  have listed := w.listed tied act
  cases found : l.responses[index]? with
  | none =>
    rw [found, Option.map_none, Option.map_eq_none_iff] at listed
    rw [listed]
    exact h.likens_raised tied unbuilt (k.admits Family.noConfusion)
  | some entry =>
    rw [found, Option.map_some, Option.map_eq_some_iff] at listed
    obtain ⟨entry', found', same⟩ := listed
    obtain ⟨id, r⟩ := entry
    obtain ⟨id', r'⟩ := entry'
    rw [found']
    refine likens_pure ?_ tied
    rw [show (⟨id', r'.status⟩ : ResponseRef) = ⟨id, r.status⟩ from same]
    exact .response _ (w.confined.again n index act id)

theorem likens_repeated (serial : Nat) (tied : R ids l l') :
    Likens R (Reply.Alike k) (perform mode call.id (.repeated serial))
      (perform mode' call.id (.repeated serial)) ids l l' := by
  refine likens_get ?_
  have known := w.known tied serial
  cases found : l.response? ⟨call.id, serial⟩ with
  | none =>
    rw [found, Option.map_none, Option.map_eq_none_iff] at known
    rw [known]
    exact h.likens_raised tied unbuilt (k.admits Family.noConfusion)
  | some r =>
    rw [found, Option.map_some, Option.map_eq_some_iff] at known
    obtain ⟨r', found', same⟩ := known
    rw [found']
    refine likens_pure ?_ tied
    rw [same]
    exact .response _ (w.confined.own serial)

include modes

theorem likens_respond (status : Int) {stream stream' : Stream}
    (streams : stream.Alike k mode mode' stream') (how : Preparation) (tied : R ids l l') :
    Likens R (Reply.Alike k) (perform mode call.id (.respond status stream how))
      (perform mode' call.id (.respond status stream' how)) ids l l' := by
  have built : (Response.ofStream status stream).Alike k mode mode' (.ofStream status stream') :=
    ⟨rfl, .stream streams, rfl, rfl, rfl, rfl, rfl, rfl⟩
  refine likens_addResponse ?_
  rw [w.built tied]
  refine likens_bind ((w.toReplays.likens_prepare h modes (w.build tied built) how).weaken
    fun tied => tied.1) fun _ _ _ _ _ _ result tied => ?_
  cases result with
  | error error => exact likens_pure (.raised error) tied
  | ok _ => exact likens_pure (.response _ (w.confined.own _)) tied

theorem likens_perform {n : Nat} {act' : Act} (alike : (call.feed n).act.Alike k mode mode' act')
    (tied : R ids l l') :
    Likens R (Reply.Alike k) (perform mode call.id (call.feed n).act) (perform mode' call.id act')
      ids l l' := by
  cases act : (call.feed n).act with
  | raise spec =>
    rw [act] at alike
    cases alike with
    | raise _ admitted => exact h.likens_raised tied spec admitted
  | nothing =>
    rw [act] at alike
    cases alike with
    | nothing => exact likens_pure .nothing tied
  | again index =>
    rw [act] at alike
    cases alike with
    | again => exact w.likens_again h act tied
  | repeated serial =>
    rw [act] at alike
    cases alike with
    | repeated => exact w.likens_repeated h serial tied
  | respondText status text =>
    rw [act] at alike
    cases alike with
    | respondText =>
      have ofText : (Response.ofText status text).Alike k mode mode' (.ofText status text) :=
        ⟨rfl, .memory text, rfl, rfl, rfl, rfl, rfl, rfl⟩
      refine likens_addResponse ?_
      rw [w.built tied]
      exact likens_pure (.response _ (w.confined.own _)) (w.build tied ofText).1
  | respond status stream how =>
    rw [act] at alike
    cases alike with
    | respond _ streams => exact w.likens_respond h modes status streams how tied

theorem likens_transmit {feed : Feed} (fed : call.feed.Alike k mode mode' feed)
    (tied : R ids l l') :
    Likens R (Reply.Alike k) (call.transmit mode) ((call.fed feed).transmit mode') ids l l' := by
  refine likens_bind (h.likens_note tied rfl (.sent call.id call.request))
    fun _ _ _ l₁ l₁' _ _ tied => ?_
  have next : Likens R (fun _ n n' => n' = n) (nextSend call.id) (nextSend call.id) _ l₁ l₁' :=
    ⟨_, fun h => h, w.sends tied, w.send tied⟩
  refine likens_bind next fun _ n n' _ _ _ same tied => ?_
  subst same
  obtain ⟨advance, act⟩ := fed n'
  have advances {ids l l'} (tied : R ids l l') : Likens R Any (Work.advance (call.feed n').advance)
      (Work.advance (feed n').advance) ids l l' := by
    rw [advance]
    exact h.likens_advance tied _
  refine likens_bind (advances tied) fun _ _ _ _ _ _ _ tied => ?_
  exact likens_map (w.likens_perform h modes act tied) fun _ _ _ reply => reply.outOf modes

end Resends

namespace Place

variable {k : Likeness} {R : Tie} {s s' : Setting} {call : Call} {feed : Feed} {p p' : Place}
  {ids : Naming} {l l' : Ledger} (h : Parallel k call.id R) (w : Replays k R s.mode s'.mode)
  (modes : k.endings → s'.mode = s.mode) (index : p.index = k.layer p'.index)
  (layer : p'.layer = p.layer)

include h index layer

theorem likens_report (tied : R ids l l') {n n' : Notice} (alike : n.Alike k ids n') :
    Likens R Any (p.report call n) (p'.report (call.fed feed) n') ids l l' := by
  unfold report
  rw [alike.isBound, layer]
  split
  · exact h.likens_note tied rfl (.logged call.id index p.layer.sink (some call.request) alike)
  · exact h.likens_note tied rfl (.logged call.id index .standard none alike)

theorem likens_binds (tied : R ids l l') :
    Likens R Any (p.bind call) (p'.bind (call.fed feed)) ids l l' := by
  unfold Place.bind
  rw [layer]
  split
  · exact h.likens_note tied rfl (.bound call.id index call.request)
  · exact likens_pure trivial tied

omit h index in
theorem measured_alike {f f' : Metrics → Metrics} (tied : R ids l l')
    (counted : R ids { l with metrics := f l.metrics } { l' with metrics := f' l'.metrics }) :
    R ids (p.measured f l) (p'.measured f' l') := by
  unfold measured
  rw [layer]
  split
  · exact counted
  · exact tied

omit index

include w modes in
theorem likens_discard (r : ResponseRef) (tied : R.at k s.mode s'.mode r.id ids l l') :
    Likens (R.at k s.mode s'.mode r.id) (Ended k) (p.discard s.mode call r)
      (p'.discard s'.mode (call.fed feed) r) ids l l' := by
  have limited : ∀ spec, p.layer.limitFailure? = some spec → spec.kind.family = .general := by
    intro spec some
    unfold Layer.limitFailure? at some
    split at some
    · cases some
      rfl
    · cases some
  have drains : Likens (R.at k s.mode s'.mode r.id) (Ended k) (p.drain s.mode call r)
      (p'.drain s'.mode (call.fed feed) r) ids l l' := by
    refine likens_get ?_
    rw [layer]
    rcases tied.2.cases with ⟨known, known'⟩ | ⟨response, response', known, known', alike⟩
    · rw [known, known']
      exact likens_pure (.ok trivial) tied
    · rw [known, known']
      simp only [alike.consumed, alike.closed]
      split
      · exact likens_pure (.ok trivial) tied
      · exact w.likens_iterate h modes tied _ limited
  refine likens_bind drains fun _ _ _ _ _ _ drained tied => ?_
  refine likens_bind (w.likens_close h modes tied) fun _ _ _ _ _ le closed tied => ?_
  cases closed with
  | error error => exact likens_pure (.error error) tied
  | ok _ => exact likens_pure (drained.mono le fun _ _ h => h) tied

include w index in
theorem likens_tolerate {attempt attempt' : Attempt} (alike : attempt.Alike k ids attempt')
    {result result' : Except Failure Unit} (results : Ended k ids result result')
    (tied : R ids l l') :
    Likens R (Ended k) (p.tolerate call attempt result)
      (p'.tolerate (call.fed feed) attempt' result') ids l l' := by
  unfold tolerate
  cases results with
  | ok _ => exact likens_pure (.ok trivial) tied
  | error error =>
    simp only [error.isSwallowed, alike.count]
    split
    · refine likens_bind (likens_report h index layer tied (.drainError _ error))
        fun _ _ _ _ _ _ _ tied => ?_
      refine likens_bind (likens_modify (measured_alike layer tied (w.drained tied)))
        fun _ _ _ _ _ _ _ tied => ?_
      exact likens_pure (.ok trivial) tied
    · exact likens_pure (.error error) tied

include w modes index in
theorem likens_release {attempt attempt' : Attempt} (alike : attempt.Alike k ids attempt')
    (same : ∀ r, attempt.response = some r →
      KnownAlike k s.mode s'.mode (l.response? r.id) (l'.response? r.id)) (tied : R ids l l') :
    Likens R (Ended k) (p.release s.mode call attempt) (p'.release s'.mode (call.fed feed) attempt')
      ids l l' := by
  unfold release
  rw [alike.response]
  cases response : attempt.response with
  | none => exact likens_pure (.ok trivial) tied
  | some r =>
    have tiedAt : R.at k s.mode s'.mode r.id ids l l' := ⟨tied, same r response⟩
    have h' := h.at s.mode s'.mode r.id
    refine Likens.weaken (R := R.at k s.mode s'.mode r.id) ?_ fun tied => tied.1
    refine likens_bind (h'.likens_note tiedAt rfl (.releasing call.id index r.id))
      fun _ _ _ _ _ le _ tied => ?_
    refine likens_bind (likens_discard h w modes layer r tied)
      fun _ _ _ _ _ le' result tied => ?_
    exact likens_tolerate h' (w.at r.id) index layer ((alike.mono le).mono le') result tied

include h w index layer in
/-- Layers of one configuration do alike if their parts see alike and they release alike. -/
theorem alike_of_layer (raises : ∀ {kind}, p.layer.Raises kind → k.Admits kind)
    (asks : ∀ {ids l l'}, R ids l l' → (∀ policy, p.layer.retryer ≠ .standard policy) →
      l'.asks p'.index = l.asks p.index)
    (peeks : ∀ {ids l l'}, R ids l l' → ∀ answers, p.layer.retryer = .timed answers →
      ReadingAlike k (p.layer.clock.peek l) (p.layer.clock.peek l'))
    (waits : ∀ {ids l l'}, R ids l l' → ∀ delay, p.layer.delay = some delay →
      delay (l'.delays p'.index) = delay (l.delays p.index))
    (delayed : ∀ {ids l l'}, R ids l l' → ∀ {began ended began' ended'},
      (k.timed → began' = began ∧ ended' = ended) →
        R ids { l with metrics := l.metrics.observeDelay (s.timer.between began ended) }
          { l' with metrics := l'.metrics.observeDelay (s'.timer.between began' ended') })
    (release : ∀ {ids l l'}, R ids l l' → ∀ {attempt attempt'}, attempt.Alike k ids attempt' →
      Likens R (Ended k) (p.release s.mode call attempt)
        (p'.release s'.mode (call.fed feed) attempt') ids l l') :
    p.Alike k R s s' call feed p' where
  index := index
  retryer := by rw [layer]
  delay := by rw [layer]
  forced := by rw [layer]
  raises := raises
  asks := asks
  peeks tied := by
    rw [layer]
    exact peeks tied
  waits := waits
  report tied _ _ alike := likens_report h index layer tied alike
  counted tied method decision := measured_alike layer tied (w.counted tied method decision)
  delayed tied _ _ _ _ times := measured_alike layer tied (delayed tied times)
  release := release

end Place

end HttpRetry
