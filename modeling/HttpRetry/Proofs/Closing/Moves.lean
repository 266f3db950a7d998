import HttpRetry.Proofs.Apart
import HttpRetry.Proofs.Closing.Layer
import HttpRetry.Proofs.Rounds
set_option autoImplicit false

namespace HttpRetry

open Work

def Stage.held : Stage → Option ResponseId
  | .ended reply => reply.held
  | _ => none

def Stage.Tidy (mode : Mode) (call : Call) : Stage → Ledger → Prop
  | .ended reply, l => Handed mode call reply l
  | _, l => Ready mode call l

section
variable {call other : Call} {reach : ResponseId → Prop} {scope : Scope} {l l' : Ledger}
    {mode : Mode}

theorem Progress.Tidy.stage {progress : Progress} (h : progress.Tidy mode call l) :
    progress.stage.Tidy mode call l := by
  cases progress with
  | suspended s => exact h
  | finished reply => exact h

theorem Stage.Tidy.holds {stage : Stage} (h : stage.Tidy mode call l) :
    l.Holds call.id stage.held := by
  cases stage with
  | waiting => exact Ready.holds h
  | running s => exact Ready.holds h
  | ended reply => exact Handed.holds h

theorem Changes.holds_of_ne (h : Changes other reach scope l l') (ne : call.id ≠ other.id)
    {held : Option ResponseId} (hh : l.Holds call.id held) : l'.Holds call.id held := by
  have received : ∀ id, Received l'.journal call.id id → Received l.journal call.id id := by
    intro id hr
    induction h with
    | refl => exact hr
    | tail _ h ih =>
      apply ih
      rcases h.journal_own with hj | ⟨e, own, hj⟩
      · exact hj ▸ hr
      · rw [hj] at hr
        obtain ⟨layer, r, hr, hid⟩ := hr
        rcases List.mem_cons.mp hr with rfl | hr
        · exact absurd own ne
        · exact ⟨layer, r, hr, hid⟩
  intro id hr
  rcases hh id (received id hr) with e | shut
  · exact .inl e
  · exact .inr (h.isShut shut)

theorem Ready.apart (h : Ready mode call l) (hc : Changes other reach scope l l')
    (kept : l'.Kept mode) (ne : call.id ≠ other.id) : Ready mode call l' :=
  ⟨kept, hc.holds_of_ne ne h.holds⟩

theorem Stage.Tidy.apart {stage : Stage} (h : stage.Tidy mode call l)
    (hc : Changes other reach scope l l') (kept : l'.Kept mode) (ne : call.id ≠ other.id) :
    stage.Tidy mode call l' := by
  cases stage with
  | waiting => exact Ready.apart h hc kept ne
  | running s => exact Ready.apart h hc kept ne
  | ended reply =>
    exact ⟨kept, hc.holds_of_ne ne (Handed.holds h), fun id hid => hc.known (Handed.known h id hid)⟩

theorem Stage.Tidy.changes {stage : Stage} (h : stage.Tidy mode call l) (hm : other.Matches mode)
    (hc : Changes other reach (.round false) l l') : stage.Tidy mode call l' := by
  cases stage with
  | waiting => exact Ready.changes h hm hc
  | running s => exact Ready.changes h hm hc
  | ended reply => exact Handed.changes h hm hc

theorem Stage.Tidy.kept {stage : Stage} (h : stage.Tidy mode call l) : l.Kept mode := by
  cases stage with
  | waiting => exact Ready.kept h
  | running s => exact Ready.kept h
  | ended reply => exact Handed.kept h

end

namespace Task

variable {s : Setting} {t : Task} {l : Ledger}

theorem advance_tidy (hm : t.call.Matches s.mode) (places : List Place)
    (h : t.stage.Tidy s.mode t.call l) :
    (t.advance s places).Yields l fun stage l' => stage.Tidy s.mode t.call l' := by
  unfold Task.advance
  split
  · rename_i hs
    rw [hs] at h
    exact yields_bind (t.call.begin_tidy hm places h) fun _ _ h => yields_pure h.stage
  · rename_i hs
    rw [hs] at h
    exact yields_bind (Suspended.resume_tidy hm _ h) fun _ _ h => yields_pure h.stage
  · rename_i hs
    exact yields_pure (hs ▸ h)

theorem cancel_tidy (hm : t.call.Matches s.mode) (h : t.stage.Tidy s.mode t.call l) :
    (t.cancel s).Yields l fun stage l' => stage.Tidy s.mode t.call l' := by
  unfold Task.cancel
  split
  · rename_i hs
    rw [hs] at h
    exact yields_bind ((fail_makes _).ready hm h) fun e _ h => yields_pure (h.handed_raised e)
  · rename_i hs
    rw [hs] at h
    refine yields_bind ((fail_makes _).ready hm h) fun e _ h => ?_
    exact yields_bind (Suspended.throw_tidy hm e _ h) fun _ _ h => yields_pure h.stage
  · rename_i hs
    exact yields_pure (hs ▸ h)

end Task

def Move.call? : Move → Option Call
  | .send call _ => some call
  | _ => none

/-- What holds between moves of calls: of the tasks, and of calls that are still to be made. -/
structure Orderly (mode : Mode) (tasks : List Task) (calls : List Call) (l : Ledger) : Prop where
  kept : l.Kept mode
  tasks : ∀ t ∈ tasks, t.stage.Tidy mode t.call l
  calls : ∀ call ∈ calls, Ready mode call l

/-- Whether calls are all different and have streams of the mode only. -/
structure Proper (mode : Mode) (calls : List Call) : Prop where
  distinct : (calls.map (·.id)).Nodup
  streams : ∀ call ∈ calls, call.Matches mode

theorem Proper.sublist {mode : Mode} {calls calls' : List Call} (h : Proper mode calls)
    (sub : calls'.Sublist calls) : Proper mode calls' :=
  ⟨h.distinct.sublist (sub.map _), fun call hc => h.streams call (sub.subset hc)⟩

section
variable {mode : Mode} {s : Setting} {places : List Place} {l l' : Ledger} {tasks : List Task}

theorem moveAt_orderly {f : Task → Work Stage} {calls : List Call}
    (proper : Proper mode (tasks.map (·.call) ++ calls))
    (brings : ∀ t l, (f t).Makes t.call (fun _ => True) (.round true) l)
    (tidy : ∀ t l, t.call.Matches mode → t.stage.Tidy mode t.call l →
      (f t).Yields l fun stage l' => stage.Tidy mode t.call l')
    (i : Nat) (h : Orderly mode tasks calls l) :
    (moveAt f tasks i).Yields l fun tasks' l' =>
      Orderly mode tasks' calls l' ∧ tasks'.map (·.call) = tasks.map (·.call) := by
  unfold moveAt
  split
  · exact yields_pure ⟨h, rfl⟩
  · rename_i t ht
    have mem : t ∈ tasks := List.mem_of_getElem? ht
    have distinct := proper.distinct
    rw [List.map_append, List.map_map] at distinct
    obtain ⟨distinct, -, apart⟩ := List.nodup_append.mp distinct
    have hm := proper.streams t.call (List.mem_append_left _ (List.mem_map_of_mem mem))
    refine yields_bind ((tidy t l hm (h.tasks t mem)).and (brings t l)) fun stage l' h' => ?_
    obtain ⟨moved, changes⟩ := h'
    refine yields_pure ⟨⟨moved.kept, fun t' ht' => ?_, fun call hc => ?_⟩, map_call_set ht stage⟩
    · rcases mem_set_of_distinct distinct ht ht' with rfl | ⟨mem', ne⟩
      · exact moved
      · exact (h.tasks t' mem').apart changes moved.kept ne
    · have ne := apart t.call.id (List.mem_map_of_mem mem) call.id (List.mem_map_of_mem hc)
      exact (h.calls call hc).apart changes moved.kept ne.symm

/-- A call that does nothing, in whose name a caller reads and closes. -/
def Call.idle (id : Nat) : Call :=
  { id, request := ⟨"", "", .caller, ""⟩, feed := fun _ => { act := .nothing } }

theorem Call.idle_matches (id : Nat) : (Call.idle id).Matches mode := by
  rintro r ⟨n, ⟨status, text, h, _⟩ | ⟨status, stream, how, h, _⟩⟩
  · cases h
  · cases h

theorem Orderly.changes {calls : List Call} (h : Orderly mode tasks calls l) {call : Call}
    {reach : ResponseId → Prop} (hm : call.Matches mode)
    (hc : Changes call reach (.round false) l l') :
    Orderly mode tasks calls l' :=
  ⟨hc.kept hm h.kept, fun t ht => (h.tasks t ht).changes hm hc,
    fun call hcall => (h.calls call hcall).changes hm hc⟩

theorem Setting.send_sent {call : Call} (hm : call.Matches s.mode) (budget : Nat)
    (h : Ready s.mode call l) :
    (s.send places budget call).Yields l fun reply l' => Sent s.mode call reply l' := by
  unfold Setting.send
  split
  · exact sendThrough_sent hm budget places h
  · exact sendStepwise_sent hm budget places h

theorem Sent.kept {call : Call} {reply : Option Reply} (h : Sent mode call reply l) :
    l.Kept mode := by
  cases reply with
  | none => exact Ready.kept h
  | some reply => exact Handed.kept h

theorem Move.apply_orderly (m : Move) {calls : List Call}
    (proper : Proper s.mode (tasks.map (·.call) ++ (m.call?.toList ++ calls)))
    (h : Orderly s.mode tasks (m.call?.toList ++ calls) l) :
    (m.apply s places tasks).Yields l fun tasks' l' =>
      Orderly s.mode tasks' calls l' ∧ tasks'.map (·.call) = tasks.map (·.call) := by
  cases m with
  | resume i =>
    refine moveAt_orderly proper (fun t l => ?_) (fun t l hm ht => t.advance_tidy hm places ht) i h
    have reached : t.stage.Within fun _ => True := by
      cases t.stage with
      | ended reply => exact fun _ _ => trivial
      | _ => trivial
    exact (t.advance_brings t.call.confined_all reached s places).mono fun _ _ h => h.1
  | cancel i =>
    refine moveAt_orderly proper (fun t l => ?_) (fun t l hm ht => t.cancel_tidy hm ht) i h
    have reached : t.stage.Within fun _ => True := by
      cases t.stage with
      | ended reply => exact fun _ _ => trivial
      | _ => trivial
    exact (t.cancel_brings reached s).mono fun _ _ h => h.1
  | send call budget =>
    have hm := proper.streams call (by simp [Move.call?])
    have distinct := proper.distinct
    simp only [Move.call?, Option.toList_some, List.singleton_append, List.map_append,
      List.map_cons,
      List.map_map] at distinct
    obtain ⟨-, later, apart⟩ := List.nodup_append.mp distinct
    have ready : Ready s.mode call l := h.calls call (by simp [Move.call?])
    have made := Setting.send_brings (l := l) call.confined_all s places budget
    refine yields_bind ((Setting.send_sent hm budget ready).and made) fun reply l' h' => ?_
    obtain ⟨sent, changes, -⟩ := h'
    refine yields_pure ⟨⟨sent.kept, fun t ht => ?_, fun call' hc => ?_⟩, rfl⟩
    · have ne := apart t.call.id (List.mem_map_of_mem ht) call.id List.mem_cons_self
      exact (h.tasks t ht).apart changes sent.kept ne
    · have ne : call'.id ≠ call.id := fun e =>
        (List.nodup_cons.mp later).1 (e ▸ List.mem_map_of_mem hc)
      exact (h.calls call' (List.mem_append_right _ hc)).apart changes sent.kept ne
  | read call id =>
    have made : (Work.read s.mode (Call.idle call).id id).Makes (Call.idle call) (fun _ => True)
      (.round false) l :=
      read_makes trivial s.mode
    exact yields_bind made fun _ _ hc => yields_pure ⟨h.changes (Call.idle_matches call) hc, rfl⟩
  | close call id =>
    have made : (Work.close s.mode (Call.idle call).id id).Makes (Call.idle call) (fun _ => True)
      (.round false) l :=
      close_makes trivial s.mode
    exact yields_bind made fun _ _ hc => yields_pure ⟨h.changes (Call.idle_matches call) hc, rfl⟩

theorem runMoves_orderly (ms : List Move)
    (proper : Proper s.mode (tasks.map (·.call) ++ ms.filterMap Move.call?))
    (h : Orderly s.mode tasks (ms.filterMap Move.call?) l) :
    (runMoves s places ms tasks).Yields l fun tasks' l' =>
      Orderly s.mode tasks' [] l' ∧ tasks'.map (·.call) = tasks.map (·.call) := by
  induction ms generalizing tasks l with
  | nil => exact yields_pure ⟨h, rfl⟩
  | cons m rest ih =>
    have split : (m :: rest).filterMap Move.call? =
        m.call?.toList ++ rest.filterMap Move.call? := by
      cases hm : m.call? with
      | none => simp [hm]
      | some call => simp [hm]
    rw [split] at proper h
    refine yields_bind (m.apply_orderly proper h) fun tasks' l' h' => ?_
    obtain ⟨orderly, same⟩ := h'
    have proper' : Proper s.mode (tasks'.map (·.call) ++ rest.filterMap Move.call?) := by
      rw [same]
      exact proper.sublist ((List.sublist_append_right _ _).append_left _)
    exact (ih proper' orderly).mono fun tasks'' l'' h'' => ⟨h''.1, h''.2.trans same⟩

end

/-- In every run of calls on a stack, whatever the retryers, the delayers, the streams and the
callers do: at each send, before each delayer works and at the end of each layer's part in a call,
every response that the call's layers were handed is closed, but for the one that the layer returns;
a call that waits holds no open response; and no stream is closed twice. -/
theorem responses_closed_in_time (s : Setting) (places : List Place) (tasks : List Task)
    (ms : List Move) (waiting : ∀ t ∈ tasks, t.stage = .waiting)
    (proper : Proper s.mode (tasks.map (·.call) ++ ms.filterMap Move.call?)) :
    (runMoves s places ms tasks).Yields {} fun tasks' l =>
      (∀ before e after call held, l.trace = before ++ e :: after →
        e.permits = some (call, held) → ∀ id, Received before call id → l.HasStream id →
          held = some id ∨ ClosedIn before id) ∧
      (∀ t ∈ tasks', ∀ id, Received l.trace t.call.id id → t.stage.held = some id ∨ l.IsShut id) ∧
      ∀ id, l.closings id ≤ 1 := by
  have start : Orderly s.mode tasks (ms.filterMap Move.call?) {} := by
    refine ⟨(Ready.empty s.mode (Call.idle 0)).kept, fun t ht => ?_, fun call _ =>
      .empty s.mode call⟩
    rw [waiting t ht]
    exact .empty s.mode t.call
  refine (runMoves_orderly ms proper start).mono fun tasks' l ended => ?_
  obtain ⟨ended, -⟩ := ended
  refine ⟨?_, fun t ht id hr => ?_, fun id => ?_⟩
  · exact ended.kept.closesInTime
  · obtain ⟨layer, r, mem, hid⟩ := hr
    exact (ended.tasks t ht).holds id ⟨layer, r, List.mem_reverse.mp mem, hid⟩
  · rw [ended.kept.sound.counted id]
    cases l.response? id with
    | none => simp
    | some r =>
      simp only [Option.map_some, Option.getD_some, Response.due]
      split
      · omega
      · split
        · omega
        · omega

def sharedFeed (builds : Bool) : Feed := fun sent =>
  { act :=
      if builds && sent = 0 then
        .respond 503 ⟨.suspending, [.text "busy"], none, some (.of .osError (some "reset"))⟩ .fresh
      else .again 0 }

theorem sharedFeed_matches (builds : Bool) (id : Nat) (request : Request) :
    (Call.mk id request (sharedFeed builds)).Matches .suspending := by
  rintro r ⟨n, ⟨status, text, h, _⟩ | ⟨status, stream, how, h, rfl⟩⟩ s hs
  · simp only [sharedFeed] at h
    split at h
    · cases h
    · cases h
  · simp only [sharedFeed] at h
    split at h
    · cases h
      cases hs
      rfl
    · cases h

def stubborn : Layer where
  retryer := .scripted fun _ => .decided .retry .nothing
  clock := .wall
  delay := none
  drainLimit := 1024
  shownLimit := .int 1024
  settings := {}
  sink := .standard
  forced := none
  one_le_drainLimit := by decide

def sharingTasks : List Task :=
  [⟨⟨0, { method := "GET", url := "http://example.test/" }, sharedFeed true⟩, none, .waiting⟩,
    ⟨⟨1, { method := "GET", url := "http://example.test/" }, sharedFeed false⟩, none, .waiting⟩]

/-- Both calls are handed the response again and again, and one is cancelled. -/
def sharingRun : List Task × Ledger :=
  runMoves ⟨.suspending, .binary⟩ [⟨0, stubborn⟩]
    [.resume 0, .resume 1, .resume 0, .resume 1, .resume 0, .cancel 1] sharingTasks {}

theorem responses_closed_in_time_sharing :
    (∀ t ∈ sharingTasks, t.stage = .waiting) ∧ Proper .suspending (sharingTasks.map (·.call)) ∧
    (∀ before e after call held, sharingRun.2.trace = before ++ e :: after →
      e.permits = some (call, held) → ∀ id, Received before call id → sharingRun.2.HasStream id →
        held = some id ∨ ClosedIn before id) ∧
    (∀ t ∈ sharingRun.1, ∀ id, Received sharingRun.2.trace t.call.id id →
      t.stage.held = some id ∨ sharingRun.2.IsShut id) ∧
    (∀ id, sharingRun.2.closings id ≤ 1) ∧ sharingRun.2.closings ⟨0, 0⟩ = 1 := by
  have waiting : ∀ t ∈ sharingTasks, t.stage = .waiting := by simp [sharingTasks]
  have proper : Proper .suspending (sharingTasks.map (·.call)) := by
    refine ⟨by decide, fun call mem => ?_⟩
    simp only [sharingTasks, List.map_cons, List.map_nil, List.mem_cons, List.not_mem_nil,
      or_false] at mem
    rcases mem with rfl | rfl
    · exact sharedFeed_matches true 0 _
    · exact sharedFeed_matches false 1 _
  obtain ⟨timely, held, once⟩ := responses_closed_in_time ⟨.suspending, .binary⟩ [⟨0, stubborn⟩]
    sharingTasks [.resume 0, .resume 1, .resume 0, .resume 1, .resume 0, .cancel 1] waiting proper
  exact ⟨waiting, proper, timely, held, once, by decide +kernel⟩

end HttpRetry
