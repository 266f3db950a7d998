import HttpRetry.Client
import HttpRetry.Settings.Validation
import Mathlib.Tactic.ByContra
/-!
Which limits a layer is built with, and which it is refused for. A limit is given explicitly, or else
stands in the settings that are given, or else in those of the module; settings are validated, and may
have whole numbers put in place of their limits later on. Transports and clients of both modes are built
in the same way around one layer, so that what decides about the layer decides about them.
-/
set_option autoImplicit false

namespace HttpRetry

def Entry.Counts (entry : Entry Int) (n : Int) : Prop := entry = .checked n ∨ entry = .unchecked (.int n)

namespace Settings

def Validated (s : Settings) : Prop := ∃ given, validate given = .ok s

/-- The settings came through validation, after which whole numbers may have been put in place of their
limits. -/
inductive Obtained : Settings → Prop
  | validated {s : Settings} (valid : s.Validated) : Obtained s
  | drainPut {s : Settings} (n : Int) (before : Obtained s) : Obtained (s.put "BODY_DRAIN_LIMIT" (.int n))
  | capPut {s : Settings} (n : Int) (before : Obtained s) :
      Obtained (s.put "DEFAULT_MAX_ATTEMPTS" (.int n))

end Settings

/-- The number in force for a limit: the one given explicitly, or else the one in the settings that are
given, or else the one in the module's own. -/
inductive Effective (shared : Settings) (limit : Settings → Entry Int) :
    (explicit : Option Int) → (given : Option Settings) → Int → Prop
  | explicit (n : Int) (given : Option Settings) : Effective shared limit (some n) given n
  | given {s : Settings} {n : Int} (counts : (limit s).Counts n) :
      Effective shared limit none (some s) n
  | shared {n : Int} (counts : (limit shared).Counts n) : Effective shared limit none none n

structure PolicyOrder where
  maxAttempts : Option Int := none
  statuses : Option (List Int) := none
  settings : Option Settings := none

inductive RetryerOrder where
  | nothing
  | standard (order : PolicyOrder)
  | other (answers : List Answer)

structure LayerOrder where
  retryer : RetryerOrder := .nothing
  settings : Option Settings := none
  delay : Option Delayer := none

structure ClientArguments where
  baseUrl : Option Json := none
  headers : Option Json := none
  timeout : Option Json := none

structure ClientArguments.Accepted (arguments : ClientArguments) : Prop where
  baseUrl : ∃ base, baseOf arguments.baseUrl = .ok base
  headers : Headers.check (arguments.headers.getD .null) = .ok ()

def PolicyOrder.build (shared : Settings) (order : PolicyOrder) : Except BuildError DefaultPolicy :=
  DefaultPolicy.build (order.maxAttempts.map .checked) (order.statuses.map .checked)
    (order.settings.getD shared)

def RetryerOrder.build (shared : Settings) : RetryerOrder → Except BuildError (Option RetryerSpec)
  | .nothing => .ok none
  | .standard order => (order.build shared).map fun policy => some (.standard policy)
  | .other answers => .ok (some (.listed answers))

/-- The cap of the default retryer that is built, explicitly or because no retryer is given; with any
other retryer there is none. -/
inductive RetryerOrder.Cap (shared : Settings) (given : Option Settings) :
    RetryerOrder → Option Int → Prop
  | nothing {cap : Int}
      (effective : Effective shared Settings.defaultMaxAttempts none given cap) :
      Cap shared given .nothing (some cap)
  | standard {order : PolicyOrder} {cap : Int}
      (effective : Effective shared Settings.defaultMaxAttempts order.maxAttempts order.settings cap) :
      Cap shared given (.standard order) (some cap)
  | other (answers : List Answer) : Cap shared given (.other answers) none

namespace RetryerOrder

def sources (shared : Settings) : RetryerOrder → List Settings
  | .standard order => [order.settings.getD shared]
  | .nothing | .other _ => []

def explicitCap : RetryerOrder → Option Int
  | .standard order => order.maxAttempts
  | .nothing | .other _ => none

end RetryerOrder

namespace LayerOrder

def sources (shared : Settings) (o : LayerOrder) : List Settings :=
  o.settings.getD shared :: o.retryer.sources shared

def layer (shared : Settings) (retryer : Option RetryerSpec) (drainLimit : Option Int) (o : LayerOrder) :
    LayerSpec :=
  { retryer, delay := o.delay, drainLimit := drainLimit.map .checked
    settings := o.settings.getD shared }

def transport (shared : Settings) (setting : Setting) (inner : List LayerSpec)
    (closeFailure : Option FailureSpec) (drainLimit : Option Int) (o : LayerOrder) :
    Except BuildError Stack := do
  let retryer ← o.retryer.build shared
  Stack.build setting (o.layer shared retryer drainLimit :: inner) closeFailure

def client (shared : Settings) (setting : Setting) (arguments : ClientArguments)
    (closeFailure : Option FailureSpec) (o : LayerOrder) : Except ClientError Client := do
  let retryer ← (o.retryer.build shared).mapError .build
  ClientSpec.build
    { setting, settings := o.settings.getD shared, retryer, delay := o.delay
      baseUrl := arguments.baseUrl, headers := arguments.headers, timeout := arguments.timeout
      closeFailure }

end LayerOrder

/-- The limits decide whether something is built: it is refused exactly for a cap or a drain limit below
one, for the cap where both are, and else has a layer with just these limits. -/
structure Decided {ε α : Type} (failure : ε → FailureSpec) (has : α → Layer → Prop) (drain : Int)
    (cap : Option Int) (built : Except ε α) : Prop where
  refused : (∃ e, built = .error e ∧ (failure e).kind = .valueError) ↔ (∃ n ∈ cap, n < 1) ∨ drain < 1
  lowCap : (∃ n ∈ cap, n < 1) →
    ∃ e, built = .error e ∧ failure e = .of .valueError (some "max_attempts must be >= 1")
  shortDrain : (∀ n ∈ cap, 1 ≤ n) → drain < 1 →
    ∃ e, built = .error e ∧ failure e = .of .valueError (some "drain_limit must be >= 1")
  usable : (∀ n ∈ cap, 1 ≤ n) → 1 ≤ drain → ∃ a layer, built = .ok a ∧ has a layer ∧
    layer.drainLimit = drain ∧ ∀ n ∈ cap, ∃ policy, layer.retryer = .standard policy ∧ policy.cap = n

namespace Decided

variable {ε α ε' α' : Type} {failure : ε → FailureSpec} {has : α → Layer → Prop}
  {failure' : ε' → FailureSpec} {has' : α' → Layer → Prop} {drain : Int} {cap : Option Int}
  {built : Except ε α} {built' : Except ε' α'}

theorem cap_or (cap : Option Int) : (∃ n ∈ cap, n < 1) ∨ ∀ n ∈ cap, 1 ≤ n := by
  by_cases low : ∃ n ∈ cap, n < 1
  · exact .inl low
  · exact .inr fun n mem => Int.not_lt.mp fun below => low ⟨n, mem, below⟩

theorem of_cases
    (low : (∃ n ∈ cap, n < 1) →
      ∃ e, built = .error e ∧ failure e = .of .valueError (some "max_attempts must be >= 1"))
    (short : (∀ n ∈ cap, 1 ≤ n) → drain < 1 →
      ∃ e, built = .error e ∧ failure e = .of .valueError (some "drain_limit must be >= 1"))
    (usable : (∀ n ∈ cap, 1 ≤ n) → 1 ≤ drain → ∃ a layer, built = .ok a ∧ has a layer ∧
      layer.drainLimit = drain ∧ ∀ n ∈ cap, ∃ policy, layer.retryer = .standard policy ∧ policy.cap = n) :
    Decided failure has drain cap built := by
  refine ⟨⟨fun ⟨e, raised, _⟩ => ?_, ?_⟩, low, short, usable⟩
  · by_contra neither
    obtain ⟨high, long⟩ := not_or.mp neither
    obtain ⟨a, layer, ok, -⟩ :=
      usable ((cap_or cap).resolve_left high) (Int.not_lt.mp long)
    cases raised.symm.trans ok
  · intro unusable
    rcases cap_or cap with below | enough
    · obtain ⟨e, raised, told⟩ := low below
      exact ⟨e, raised, congrArg FailureSpec.kind told⟩
    · obtain ⟨e, raised, told⟩ := short enough
        (unusable.resolve_left fun ⟨n, mem, below⟩ => absurd (enough n mem) (Int.not_le.mpr below))
      exact ⟨e, raised, congrArg FailureSpec.kind told⟩

theorem transfer (decided : Decided failure has drain cap built)
    (errors : ∀ e, built = .error e → ∃ e', built' = .error e' ∧ failure' e' = failure e)
    (builds : ∀ a, built = .ok a → ∃ a', built' = .ok a' ∧ ∀ layer, has a layer → has' a' layer) :
    Decided failure' has' drain cap built' := by
  refine of_cases (fun low => ?_) (fun enough short => ?_) fun enough long => ?_
  · obtain ⟨e, raised, told⟩ := decided.lowCap low
    obtain ⟨e', raised', same⟩ := errors e raised
    exact ⟨e', raised', same.trans told⟩
  · obtain ⟨e, raised, told⟩ := decided.shortDrain enough short
    obtain ⟨e', raised', same⟩ := errors e raised
    exact ⟨e', raised', same.trans told⟩
  · obtain ⟨a, layer, ok, holds, limits⟩ := decided.usable enough long
    obtain ⟨a', ok', keeps⟩ := builds a ok
    exact ⟨a', layer, ok', keeps layer holds, limits⟩

end Decided

theorem Limit.ofEntry_counts {entry : Entry Int} {n : Int} (counts : entry.Counts n) :
    Limit.ofEntry entry = .ok (Limit.ofInt n) := by
  rcases counts with rfl | rfl <;> rfl

structure Settings.Whole (s : Settings) (drain cap : Int) : Prop where
  drain : s.bodyDrainLimit.Counts drain
  cap : s.defaultMaxAttempts.Counts cap
  statuses : ∃ statuses, s.defaultRetryStatuses = .checked statuses

namespace Settings

variable {s : Settings}

theorem field_checked {α : Type} {P : α → Prop} (given : Members) (name : String) (default : α)
    (read : Json → Except Complaint α) (usual : P default) (reads : ∀ v a, read v = .ok a → P a) :
    ∃ a, (field given name (.checked default) read).2 = .checked a ∧ P a := by
  unfold field
  cases given.get? name with
  | none => exact ⟨default, rfl, usual⟩
  | some value =>
    simp only
    cases result : read value with
    | ok a => exact ⟨a, rfl, reads value a result⟩
    | error complaint => exact ⟨default, rfl, usual⟩

theorem statuses_checked (given : Members) (default : List Int) :
    ∃ list, (statuses given (.checked default)).2 = .checked list := by
  unfold statuses
  split
  · exact ⟨default, rfl⟩
  · exact ⟨_, rfl⟩
  · exact ⟨default, rfl⟩

theorem one_le_of_above {v : Json} {n : Int} (read : (do above 0 (← asInt v)) = .ok n) : 1 ≤ n := by
  cases whole : asInt v with
  | error e => simp [whole, bind, Except.bind] at read
  | ok m =>
    simp only [whole, bind, Except.bind, above] at read
    split at read
    · cases read
      omega
    · cases read

theorem one_le_of_atLeast {v : Json} {n : Int} (read : (do atLeast 1 (← asInt v)) = .ok n) :
    1 ≤ n := by
  cases whole : asInt v with
  | error e => simp [whole, bind, Except.bind] at read
  | ok m =>
    simp only [whole, bind, Except.bind, atLeast] at read
    split at read
    · cases read
      assumption
    · cases read

/-- Validation lets only usable limits through. -/
theorem Validated.usable (valid : s.Validated) :
    ∃ drain cap, s.Whole drain cap ∧ 1 ≤ drain ∧ 1 ≤ cap := by
  obtain ⟨given, valid⟩ := valid
  obtain ⟨drain, drained, low⟩ := field_checked (P := (1 ≤ ·)) given "BODY_DRAIN_LIMIT"
    4096 (fun v => do above 0 (← asInt v)) (by decide) fun _ _ => one_le_of_above
  obtain ⟨cap, capped, least⟩ := field_checked (P := (1 ≤ ·)) given "DEFAULT_MAX_ATTEMPTS"
    3 (fun v => do atLeast 1 (← asInt v)) (by decide) fun _ _ => one_le_of_atLeast
  obtain ⟨list, listed⟩ := statuses_checked given [429, 502, 503, 504]
  unfold validate at valid
  simp only at valid
  split at valid
  · cases valid
    exact ⟨drain, cap, ⟨.inl drained, .inl capped, list, listed⟩, low, least⟩
  · cases valid

theorem Obtained.whole (obtained : s.Obtained) : ∃ drain cap, s.Whole drain cap := by
  induction obtained with
  | validated valid =>
    obtain ⟨drain, cap, whole, -⟩ := valid.usable
    exact ⟨drain, cap, whole⟩
  | drainPut n before ih =>
    obtain ⟨drain, cap, whole⟩ := ih
    exact ⟨n, cap, .inr rfl, whole.cap, whole.statuses⟩
  | capPut n before ih =>
    obtain ⟨drain, cap, whole⟩ := ih
    exact ⟨drain, n, whole.drain, .inr rfl, whole.statuses⟩

end Settings

theorem DefaultPolicy.build_counts (maxAttempts : Option (Entry Int))
    (statuses : Option (Entry (List Int))) {settings : Settings} {n : Int} {list : List Int}
    (counts : (maxAttempts.getD settings.defaultMaxAttempts).Counts n)
    (listed : statuses.getD settings.defaultRetryStatuses = .checked list) :
    (n < 1 → build maxAttempts statuses settings = .error .attempts) ∧
      (1 ≤ n → ∃ policy, build maxAttempts statuses settings = .ok policy ∧ policy.cap = n) := by
  unfold build
  rw [Limit.ofEntry_counts counts, listed]
  constructor
  · intro low
    exact dif_neg (Int.not_le.mpr low)
  · intro high
    refine ⟨_, dif_pos high, Int.toNat_of_nonneg (Int.le_trans Int.one_nonneg high)⟩

theorem LayerSpec.build_counts {spec : LayerSpec} {n : Int} {retryer : Retryer}
    (chosen : spec.chosenRetryer = .ok retryer)
    (counts : (spec.drainLimit.getD spec.settings.bodyDrainLimit).Counts n) :
    (n < 1 → spec.build = .error .drain) ∧
      (1 ≤ n → ∃ layer, spec.build = .ok layer ∧ layer.drainLimit = n ∧ layer.retryer = retryer) := by
  unfold build
  rw [Limit.ofEntry_counts counts, chosen]
  constructor
  · intro low
    exact dif_neg (Int.not_le.mpr low)
  · intro high
    refine ⟨_, dif_pos high, Int.toNat_of_nonneg (Int.le_trans Int.one_nonneg high), rfl⟩

theorem LayerSpec.build_error {spec : LayerSpec} {e : BuildError}
    (refused : spec.chosenRetryer = .error e) : spec.build = .error e := by
  unfold build
  rw [refused]
  rfl

theorem Entry.Counts.unique {entry : Entry Int} {n m : Int} (one : entry.Counts n)
    (other : entry.Counts m) : n = m := by
  rcases one with rfl | rfl <;> rcases other with same | same <;> cases same <;> rfl

/-- A limit that cannot be used, where the settings in force hold another one, has been given. -/
theorem Effective.given_of_lt {shared : Settings} {limit : Settings → Entry Int} {explicit : Option Int}
    {given : Option Settings} {n m : Int} (effective : Effective shared limit explicit given n)
    (holds : (limit (given.getD shared)).Counts m) (usable : 1 ≤ m) (low : n < 1) :
    explicit = some n := by
  cases effective with
  | explicit => rfl
  | given counts =>
    have same := counts.unique holds
    omega
  | shared counts =>
    have same := counts.unique holds
    omega

theorem Effective.entry {shared : Settings} {limit : Settings → Entry Int} {explicit : Option Int}
    {given : Option Settings} {n : Int} (effective : Effective shared limit explicit given n) :
    ((explicit.map Entry.checked).getD (limit (given.getD shared))).Counts n := by
  cases effective with
  | explicit => exact .inl rfl
  | given counts => exact counts
  | shared counts => exact counts

theorem exists_effective {shared : Settings} (limit : Settings → Entry Int) (explicit : Option Int)
    (given : Option Settings) {n : Int} (counts : (limit (given.getD shared)).Counts n) :
    ∃ n, Effective shared limit explicit given n := by
  cases explicit with
  | some m => exact ⟨m, .explicit m given⟩
  | none =>
    cases given with
    | some s => exact ⟨n, .given counts⟩
    | none => exact ⟨n, .shared counts⟩

theorem PolicyOrder.build_counts {shared : Settings} {order : PolicyOrder} {n : Int}
    (effective : Effective shared Settings.defaultMaxAttempts order.maxAttempts order.settings n)
    (whole : ∃ drain cap, (order.settings.getD shared).Whole drain cap) :
    (n < 1 → order.build shared = .error .attempts) ∧
      (1 ≤ n → ∃ policy, order.build shared = .ok policy ∧ policy.cap = n) := by
  obtain ⟨_, _, -, -, list, listed⟩ := whole
  have listed : ∃ list, (order.statuses.map Entry.checked).getD
      (order.settings.getD shared).defaultRetryStatuses = .checked list := by
    cases order.statuses with
    | none => exact ⟨list, listed⟩
    | some statuses => exact ⟨statuses, rfl⟩
  obtain ⟨list, listed⟩ := listed
  exact DefaultPolicy.build_counts _ _ effective.entry listed

theorem LayerSpec.defaultRetryer_counts (spec : LayerSpec) {shared : Settings}
    {given : Option Settings} {n : Int} (read : spec.settings = given.getD shared)
    (effective : Effective shared Settings.defaultMaxAttempts none given n)
    (whole : ∃ drain cap, (given.getD shared).Whole drain cap) :
    (n < 1 → spec.defaultRetryer = .error .attempts) ∧
      (1 ≤ n → ∃ policy, spec.defaultRetryer = .ok policy ∧ policy.cap = n) := by
  obtain ⟨_, _, -, -, list, listed⟩ := whole
  unfold defaultRetryer
  rw [read]
  exact DefaultPolicy.build_counts none none effective.entry listed

namespace RetryerOrder

variable {shared : Settings} {given : Option Settings} {cap : Option Int}

theorem exists_cap (order : RetryerOrder) (whole : ∃ drain cap, (given.getD shared).Whole drain cap)
    (own : ∀ s ∈ order.sources shared, ∃ drain cap, s.Whole drain cap) :
    ∃ cap, order.Cap shared given cap := by
  cases order with
  | nothing =>
    obtain ⟨_, _, whole⟩ := whole
    obtain ⟨n, effective⟩ :=
      exists_effective Settings.defaultMaxAttempts none given whole.cap
    exact ⟨some n, .nothing effective⟩
  | standard order =>
    obtain ⟨_, _, whole⟩ := own _ (List.mem_singleton.mpr rfl)
    obtain ⟨n, effective⟩ :=
      exists_effective Settings.defaultMaxAttempts order.maxAttempts order.settings whole.cap
    exact ⟨some n, .standard effective⟩
  | other answers => exact ⟨none, .other answers⟩

theorem Cap.given_of_lt {order : RetryerOrder} (capped : order.Cap shared given cap)
    (usable : ∀ s ∈ given.getD shared :: order.sources shared,
      ∃ drain cap, s.Whole drain cap ∧ 1 ≤ drain ∧ 1 ≤ cap) {n : Int} (mem : n ∈ cap) (low : n < 1) :
    order.explicitCap = some n := by
  cases capped with
  | nothing effective =>
    obtain ⟨_, _, holds, -, enough⟩ := usable _ List.mem_cons_self
    obtain rfl := Option.some.inj mem
    exact effective.given_of_lt holds.cap enough low
  | @standard order _ effective =>
    obtain ⟨_, _, holds, -, enough⟩ := usable (order.settings.getD shared)
      (List.mem_cons_of_mem _ (List.mem_singleton.mpr rfl))
    obtain rfl := Option.some.inj mem
    exact effective.given_of_lt holds.cap enough low
  | other answers => cases mem

end RetryerOrder

namespace LayerOrder

variable {shared : Settings} {cap : Option Int} {drain : Int} {drainLimit : Option Int}

def build (shared : Settings) (drainLimit : Option Int) (o : LayerOrder) : Except BuildError Layer := do
  let retryer ← o.retryer.build shared
  (o.layer shared retryer drainLimit).build

/-- A cap below one is reported, whatever the drain limit is. -/
theorem build_low {o : LayerOrder} (capped : o.retryer.Cap shared o.settings cap)
    (whole : ∀ s ∈ o.sources shared, ∃ drain cap, s.Whole drain cap) (low : ∃ n ∈ cap, n < 1) :
    o.build shared drainLimit = .error .attempts := by
  obtain ⟨retryer, settings, delay⟩ := o
  obtain ⟨n, mem, below⟩ := low
  cases capped with
  | nothing effective =>
    obtain rfl := Option.some.inj mem
    have own := whole _ List.mem_cons_self
    refine LayerSpec.build_error ?_
    have refused := (LayerSpec.defaultRetryer_counts
      (layer shared none drainLimit ⟨.nothing, settings, delay⟩) rfl effective own).1 below
    simp only [layer] at refused
    simp only [layer, LayerSpec.chosenRetryer, refused, Except.map]
  | @standard order n' effective =>
    obtain rfl := Option.some.inj mem
    have own := whole (order.settings.getD shared)
      (List.mem_cons_of_mem _ (List.mem_singleton.mpr rfl))
    have refused := (PolicyOrder.build_counts effective own).1 below
    simp only [build, RetryerOrder.build, refused, Except.map, bind, Except.bind]
  | other answers => cases mem

theorem exists_chosen {o : LayerOrder} (drainLimit : Option Int)
    (capped : o.retryer.Cap shared o.settings cap)
    (whole : ∀ s ∈ o.sources shared, ∃ drain cap, s.Whole drain cap) (enough : ∀ n ∈ cap, 1 ≤ n) :
    ∃ given retryer, o.retryer.build shared = .ok given ∧
      (o.layer shared given drainLimit).chosenRetryer = .ok retryer ∧
      ∀ n ∈ cap, ∃ policy, retryer = .standard policy ∧ policy.cap = n := by
  obtain ⟨retryer, settings, delay⟩ := o
  cases capped with
  | @nothing n effective =>
    have own := whole _ List.mem_cons_self
    obtain ⟨policy, chosen, capped⟩ := (LayerSpec.defaultRetryer_counts
      (layer shared none drainLimit ⟨.nothing, settings, delay⟩) rfl effective own).2
      (enough n rfl)
    refine ⟨none, .standard policy, rfl, ?_, fun m mem => ⟨policy, rfl, ?_⟩⟩
    · simp only [layer] at chosen
      simp only [layer, LayerSpec.chosenRetryer, chosen, Except.map]
    · rw [← Option.some.inj mem, capped]
  | @standard order n effective =>
    have own := whole (order.settings.getD shared)
      (List.mem_cons_of_mem _ (List.mem_singleton.mpr rfl))
    obtain ⟨policy, built, capped⟩ := (PolicyOrder.build_counts effective own).2 (enough n rfl)
    refine ⟨some (.standard policy), .standard policy, ?_, rfl, fun m mem => ⟨policy, rfl, ?_⟩⟩
    · simp only [RetryerOrder.build, built, Except.map]
    · rw [← Option.some.inj mem, capped]
  | other answers => exact ⟨some (.listed answers), _, rfl, rfl, fun m mem => by cases mem⟩

theorem build_decided {o : LayerOrder} (capped : o.retryer.Cap shared o.settings cap)
    (effective : Effective shared Settings.bodyDrainLimit drainLimit o.settings drain)
    (whole : ∀ s ∈ o.sources shared, ∃ drain cap, s.Whole drain cap) :
    Decided BuildError.failure (fun layer layer' => layer = layer') drain cap
      (o.build shared drainLimit) := by
  have chosen (enough : ∀ n ∈ cap, 1 ≤ n) := exists_chosen drainLimit capped whole enough
  refine .of_cases (fun low => ⟨.attempts, build_low capped whole low, rfl⟩) ?_ ?_
  · intro enough short
    obtain ⟨given, retryer, built, chosen, -⟩ := chosen enough
    refine ⟨.drain, ?_, rfl⟩
    have refused := (LayerSpec.build_counts chosen effective.entry).1 short
    simp only [build, built, bind, Except.bind, refused]
  · intro enough long
    obtain ⟨given, retryer, built, chosen, capped⟩ := chosen enough
    obtain ⟨layer, made, limited, same⟩ := (LayerSpec.build_counts chosen effective.entry).2 long
    refine ⟨layer, layer, ?_, rfl, limited, by rwa [same]⟩
    simp only [build, built, bind, Except.bind, made]

end LayerOrder

namespace LayerOrder

variable {shared : Settings} {cap : Option Int} {drain : Int} {drainLimit : Option Int} {o : LayerOrder}

/-- A transport fails as its layer does, and has it above the layers of the one it is put around. -/
theorem transport_decided
    (decided : Decided BuildError.failure (fun layer layer' => layer = layer') drain cap
      (o.build shared drainLimit)) (setting : Setting) (closeFailure : Option FailureSpec)
    {inner : List LayerSpec} {below : List Layer} (around : Stack.buildLayers inner = .ok below) :
    Decided BuildError.failure
      (fun stack layer => stack.setting = setting ∧ stack.layers = layer :: below) drain cap
      (o.transport shared setting inner closeFailure drainLimit) := by
  unfold build at decided
  unfold transport
  cases retryer : o.retryer.build shared with
  | error e =>
    rw [retryer] at decided
    refine decided.transfer (fun e' raised => ⟨e', ?_, rfl⟩) fun _ ok => nomatch ok
    cases raised
    rfl
  | ok given =>
    rw [retryer] at decided
    simp only [bind, Except.bind] at decided
    simp only [bind, Except.bind, Stack.build, Stack.buildLayers, around]
    refine decided.transfer (fun e raised => ⟨e, ?_, rfl⟩) fun layer ok => ?_
    · rw [raised]
    · rw [ok]
      refine ⟨_, rfl, ?_⟩
      rintro _ rfl
      exact ⟨rfl, rfl⟩

/-- A client fails as its one layer does, as long as its other arguments are accepted. -/
theorem client_decided
    (decided : Decided BuildError.failure (fun layer layer' => layer = layer') drain cap
      (o.build shared none)) (setting : Setting) (closeFailure : Option FailureSpec)
    {arguments : ClientArguments} (accepted : arguments.Accepted) :
    Decided ClientError.failure
      (fun client layer => client.stack.setting = setting ∧ client.stack.layers = [layer] ∧
        client.layer = layer) drain cap
      (o.client shared setting arguments closeFailure) := by
  obtain ⟨⟨base, parsed⟩, checked⟩ := accepted
  unfold build at decided
  unfold client
  cases retryer : o.retryer.build shared with
  | error e =>
    rw [retryer] at decided
    refine decided.transfer (fun e' raised => ⟨.build e', ?_, rfl⟩) fun _ ok => nomatch ok
    cases raised
    rfl
  | ok given =>
    rw [retryer] at decided
    simp only [bind, Except.bind, layer, Option.map_none] at decided
    simp only [bind, Except.bind, Except.mapError, ClientSpec.build, parsed, checked]
    refine decided.transfer (fun e raised => ⟨.build e, ?_, rfl⟩) fun layer ok => ?_
    · rw [raised]
    · rw [ok]
      refine ⟨_, rfl, ?_⟩
      rintro _ rfl
      exact ⟨rfl, rfl, rfl⟩

/-- No transport can be built with a limit that cannot be used, in whichever way it is asked for. There
is a number in force for the drain limit, and one for the cap of a default retryer wherever one is
built: what is given explicitly, else what the settings given hold, else what the shared ones do,
validated or not. A transport of either mode, around any other, and a client of either mode are refused
with a value error exactly if one of the two is below one; the cap is reported if both are. Otherwise
they have a layer with just these limits. With another retryer no cap counts, and settings that have
been validated can always be used as they are. -/
theorem no_transport_has_an_unusable_limit (shared : Settings) {o : LayerOrder} (drainLimit : Option Int)
    (obtained : ∀ s ∈ o.sources shared, s.Obtained) :
    ∃ drain cap, Effective shared Settings.bodyDrainLimit drainLimit o.settings drain ∧
      o.retryer.Cap shared o.settings cap ∧
      (∀ setting closeFailure inner below, Stack.buildLayers inner = .ok below →
        Decided BuildError.failure
          (fun stack layer => stack.setting = setting ∧ stack.layers = layer :: below) drain cap
          (o.transport shared setting inner closeFailure drainLimit)) ∧
      (drainLimit = none → ∀ setting closeFailure arguments, arguments.Accepted →
        Decided ClientError.failure
          (fun client layer => client.stack.setting = setting ∧ client.stack.layers = [layer] ∧
            client.layer = layer) drain cap
          (o.client shared setting arguments closeFailure)) ∧
      ((∀ s ∈ o.sources shared, s.Validated) →
        (drain < 1 → drainLimit = some drain) ∧ ∀ n ∈ cap, n < 1 → o.retryer.explicitCap = some n) := by
  have whole : ∀ s ∈ o.sources shared, ∃ drain cap, s.Whole drain cap :=
    fun s mem => (obtained s mem).whole
  obtain ⟨read, own⟩ := List.forall_mem_cons.mp whole
  obtain ⟨cap, capped⟩ := o.retryer.exists_cap read own
  obtain ⟨_, _, counted⟩ := read
  obtain ⟨drain, effective⟩ :=
    exists_effective Settings.bodyDrainLimit drainLimit o.settings counted.drain
  have decided := build_decided capped effective whole
  refine ⟨drain, cap, effective, capped, ?_, ?_, ?_⟩
  · intro setting closeFailure inner below around
    exact transport_decided decided setting closeFailure around
  · rintro rfl setting closeFailure arguments accepted
    exact client_decided decided setting closeFailure accepted
  · intro valid
    have usable := fun s mem => (valid s mem).usable
    refine ⟨fun low => ?_, fun n mem low => ?_⟩
    · obtain ⟨_, _, holds, enough, -⟩ := usable _ List.mem_cons_self
      exact effective.given_of_lt holds.drain enough low
    · exact capped.given_of_lt usable mem low

def starved : Settings :=
  (({} : Settings).put "BODY_DRAIN_LIMIT" (.int 0)).put "DEFAULT_MAX_ATTEMPTS" (.int (-1))

theorem obtained_starved : starved.Obtained :=
  .capPut (-1) (.drainPut 0 (.validated ⟨[], rfl⟩))

/-- With these settings a transport is refused for its cap, a client whose retryer has a cap of its own
for its drain limit, and a transport with another retryer is built once a drain limit is given. -/
theorem no_transport_has_an_unusable_limit_starved :
    let s : Setting := ⟨.suspending, .binary⟩
    let bare : LayerOrder := { settings := some starved }
    let capped : LayerOrder := { bare with retryer := .standard { maxAttempts := some 3 } }
    let scripted : LayerOrder := { bare with retryer := .other [] }
    (∃ e, bare.transport {} s [] none none = .error e ∧
        e.failure = .of .valueError (some "max_attempts must be >= 1")) ∧
      (∃ e, capped.client {} s {} none = .error e ∧
        e.failure = .of .valueError (some "drain_limit must be >= 1")) ∧
      ∃ stack, scripted.transport {} s [] none (some 1) = .ok stack := by
  intro s bare capped scripted
  have starving : ∀ t ∈ [starved], t.Obtained := List.forall_mem_singleton.mpr obtained_starved
  have fresh : ({} : Settings).Obtained := .validated ⟨[], rfl⟩
  refine ⟨?_, ?_, ?_⟩
  · obtain ⟨drain, cap, -, counts, transports, -⟩ :=
      no_transport_has_an_unusable_limit {} (o := bare) none starving
    cases counts with
    | nothing effective =>
      cases effective with
      | given counts =>
        obtain rfl := counts.unique (m := -1) (.inr rfl)
        exact (transports s none [] [] rfl).lowCap ⟨-1, rfl, by decide⟩
  · obtain ⟨drain, cap, effective, counts, -, clients, -⟩ :=
      no_transport_has_an_unusable_limit {} (o := capped) none
        (List.forall_mem_cons.mpr ⟨obtained_starved, List.forall_mem_singleton.mpr fresh⟩)
    cases counts with
    | standard explicit =>
      cases explicit with
      | explicit =>
        cases effective with
        | given counts =>
          obtain rfl := counts.unique (m := 0) (.inr rfl)
          exact (clients rfl s none {} ⟨⟨{}, rfl⟩, rfl⟩).shortDrain
            (fun n mem => by cases mem; decide) (by decide)
  · obtain ⟨drain, cap, effective, counts, transports, -⟩ :=
      no_transport_has_an_unusable_limit {} (o := scripted) (some 1) starving
    cases counts with
    | other =>
      cases effective with
      | explicit =>
        obtain ⟨stack, -, built, -⟩ := (transports s none [] [] rfl).usable
          (fun n mem => by cases mem) (by decide)
        exact ⟨stack, built⟩

end LayerOrder

end HttpRetry
