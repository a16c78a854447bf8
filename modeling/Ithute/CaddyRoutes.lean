import Ithute.Library.ChangeLedger
import Ithute.Library.InterleavedCalls
import Mathlib.Data.Nat.Basic

/-!
# Routes of the edge

`activate_route` and `deactivate_route` change one application's route file
and reload Caddy with all of them; where the reload fails, the file gets its
previous text back and Caddy is reloaded once more.  A reload is two requests,
and other calls may take steps in between.
-/

namespace Ithute

open TransitionRuns InterleavedCalls ChangeLedger

namespace Caddy

/-- `_hostname` and `_origin`; `none` is their `CaddyRouteError`. -/
structure RouteTools where
  hostname : String → Option String
  origin : String → Option String

def routeText (hostname origin : String) : String :=
  hostname ++ " \x7b\n    encode zstd gzip\n    header \x7b\n" ++
    "        Strict-Transport-Security \"max-age=31536000; includeSubDomains\"\n" ++
    "        X-Content-Type-Options \"nosniff\"\n" ++ "        X-Frame-Options \"DENY\"\n" ++
    "        Referrer-Policy \"strict-origin-when-cross-origin\"\n" ++
    "        -Server\n    \x7d\n    reverse_proxy " ++ origin ++ "\n\x7d\n"

def renderRoute (tools : RouteTools) (hostname origin : String) : Option String := do
  let hostname ← tools.hostname hostname
  let origin ← tools.origin origin
  some (routeText hostname origin)

variable {App Config : Type*} [DecidableEq App]

/-- What a call does to the file of an application: the text that it writes,
none to remove it, the previous text, and how often the file had changed when
the call read that. -/
structure RouteChange (App : Type*) where
  app : App
  requested : Option String
  previous : Option String
  seen : ℕ

/-- Where a call stands.  What Caddy has adapted is kept with the number of
changes of any file by then. -/
inductive RouteCall (App Config : Type*) where
  | idle
  | ready (change : RouteChange App)
  | changed (change : RouteChange App)
  | adapted (change : RouteChange App) (config : Config) (revision : ℕ)
  | failing (change : RouteChange App)
  | restored (change : RouteChange App)
  | readapted (change : RouteChange App) (config : Config) (revision : ℕ)
  | returned (change : RouteChange App)
  | raised

/-- A request to load may fail after Caddy has loaded. -/
inductive Reply where
  | answered | refused | lost
  deriving DecidableEq

inductive RouteStep (App : Type*) where
  | activate (app : App) (hostname origin : String)
  | deactivate (app : App)
  /-- `os.replace`, or `unlink`. -/
  | change
  | adapt (answered : Bool)
  | load (reply : Reply)
  /-- The file gets its previous text back. -/
  | restore
  deriving DecidableEq

/-- The route files and what Caddy has loaded.  The ledger has the changes of
the calls that have not raised, and counts tell how often files changed. -/
structure Edge (App Config : Type*) where
  files : App → Option String
  loaded : Config
  lastReload : Option Bool := none
  ledger : List (Change ℕ App (Option String)) := []
  changes : App → ℕ := fun _ => 0
  revision : ℕ := 0

namespace Edge

variable (edge : Edge App Config)

def put (app : App) (text : Option String) : Edge App Config :=
  { edge with
    files := Function.update edge.files app text
    changes := Function.update edge.changes app (edge.changes app + 1)
    revision := edge.revision + 1 }

def change (caller : ℕ) (change : RouteChange App) : Edge App Config :=
  { edge.put change.app change.requested with
    ledger := ⟨caller, change.app, change.requested⟩ :: edge.ledger }

def restore (caller : ℕ) (change : RouteChange App) : Edge App Config :=
  { edge.put change.app change.previous with
    ledger := retract caller edge.ledger }

def withdraw (caller : ℕ) (change : RouteChange App) : Edge App Config :=
  { edge with
    changes := Function.update edge.changes change.app (edge.changes change.app + 1)
    ledger := retract caller edge.ledger }

def load (reply : Reply) (config : Config) : Edge App Config :=
  { edge with
    loaded := if reply = .refused then edge.loaded else config
    lastReload := some (reply = .answered) }

def adaptFails : Edge App Config := { edge with lastReload := some false }

end Edge

section Perform

variable (tools : RouteTools) (build : (App → Option String) → Config)

def perform (caller : ℕ) (step : RouteStep App) (edge : Edge App Config) :
    RouteCall App Config → Edge App Config × RouteCall App Config
  | .idle =>
    match step with
    | .activate app hostname origin =>
      (edge, match renderRoute tools hostname origin with
        | some text => .ready ⟨app, some text, edge.files app, edge.changes app⟩
        | none => .raised)
    | .deactivate app => (edge, .ready ⟨app, none, edge.files app, edge.changes app⟩)
    | _ => (edge, .idle)
  | .ready change =>
    match step with
    | .change => (edge.change caller change, .changed change)
    | _ => (edge, .ready change)
  | .changed change =>
    match step with
    | .adapt true => (edge, .adapted change (build edge.files) edge.revision)
    | .adapt false => (edge.adaptFails, .failing change)
    | _ => (edge, .changed change)
  | .adapted change config revision =>
    match step with
    | .load reply => (edge.load reply config,
        if reply = .answered then .returned change else .failing change)
    | _ => (edge, .adapted change config revision)
  | .failing change =>
    match step with
    | .restore =>
      if change.requested = none ∧ change.previous = none then
        (edge.withdraw caller change, .raised)
      else (edge.restore caller change, .restored change)
    | _ => (edge, .failing change)
  | .restored change =>
    match step with
    | .adapt true => (edge, .readapted change (build edge.files) edge.revision)
    | .adapt false => (edge.adaptFails, .raised)
    | _ => (edge, .restored change)
  | .readapted change config revision =>
    match step with
    | .load reply => (edge.load reply config, .raised)
    | _ => (edge, .readapted change config revision)
  | .returned change => (edge, .returned change)
  | .raised => (edge, .raised)

end Perform

abbrev Edges (App Config : Type*) := Interleaved ℕ (Edge App Config) (RouteCall App Config)

def start (files : App → Option String) (loaded : Config) : Edges App Config where
  shared := { files := files, loaded := loaded }
  calls _ := .idle

/-- The change of a call that has made one and has not taken it back. -/
def RouteCall.standing : RouteCall App Config → Option (App × Option String)
  | .changed change | .adapted change _ _ | .failing change
  | .returned change => some (change.app, change.requested)
  | .idle | .ready _ | .restored _ | .readapted _ _ _ | .raised => none

def RouteCall.finished : RouteCall App Config → Bool
  | .idle | .returned _ | .raised => true
  | _ => false

/-- The files are those of the calls that have not raised, in the order of
their changes, and Caddy has loaded them after the last call. -/
structure AllOrNothing (files : App → Option String)
    (build : (App → Option String) → Config) (state : Edges App Config) : Prop where
  standing : ∀ change ∈ state.shared.ledger,
    (state.calls change.owner).standing = some (change.key, change.value)
  returned : ∀ caller change, state.calls caller = .returned change →
    ⟨caller, change.app, change.requested⟩ ∈ state.shared.ledger
  files : state.shared.files = replay files state.shared.ledger
  loaded : (∀ caller, (state.calls caller).finished = true) → state.shared.lastReload = some true →
      state.shared.loaded = build state.shared.files

def RouteStep.isLoad : RouteStep App → Bool
  | .load _ => true
  | _ => false

/-- A call puts a file back only where no other call has changed it since it
was read, and loads only what Caddy has adapted from the files there are. -/
def RouteCall.Undisturbed (edge : Edge App Config) (step : RouteStep App) :
    RouteCall App Config → Prop
  | .failing change => step = .restore → edge.changes change.app = change.seen + 1
  | .adapted _ _ revision | .readapted _ _ revision => step.isLoad = true → edge.revision = revision
  | .idle | .ready _ | .changed _ | .restored _ | .returned _ | .raised => True

instance RouteCall.Undisturbed.decidable (edge : Edge App Config) (step : RouteStep App) :
    (call : RouteCall App Config) → Decidable (call.Undisturbed edge step)
  | .failing change =>
    inferInstanceAs (Decidable (step = .restore → edge.changes change.app = change.seen + 1))
  | .adapted _ _ revision | .readapted _ _ revision =>
    inferInstanceAs (Decidable (step.isLoad = true → edge.revision = revision))
  | .idle | .ready _ | .changed _ | .restored _ | .returned _ | .raised => .isTrue trivial

def Undisturbed (before : Edges App Config) (move : ℕ × RouteStep App)
    (_after : Edges App Config) : Prop :=
  (before.calls move.1).Undisturbed before.shared move.2

instance Undisturbed.decidable (before : Edges App Config)
    (move : ℕ × RouteStep App) (after : Edges App Config) :
    Decidable (Undisturbed before move after) :=
  RouteCall.Undisturbed.decidable before.shared move.2 (before.calls move.1)

section Invariant

variable {tools : RouteTools} {build : (App → Option String) → Config}
variable {initial : App → Option String}

/-- What a call has read of its file, and has written to it, with respect to
the changes made since. -/
def RouteCall.Placed (initial : App → Option String)
    (edge : Edge App Config) (caller : ℕ) : RouteCall App Config → Prop
  | .ready change =>
    change.seen ≤ edge.changes change.app ∧ (edge.changes change.app = change.seen →
        edge.files change.app = change.previous)
  | .changed change | .adapted change _ _ | .failing change =>
    change.seen + 1 ≤ edge.changes change.app ∧ (edge.changes change.app = change.seen + 1 →
        edge.files change.app = change.requested ∧
          replay initial (retract caller edge.ledger) change.app = change.previous)
  | _ => True

/-- What Caddy has adapted for a call is of the files of that revision. -/
def RouteCall.Adapted (build : (App → Option String) → Config)
    (edge : Edge App Config) : RouteCall App Config → Prop
  | .adapted _ config revision | .readapted _ config revision =>
    revision ≤ edge.revision ∧ (edge.revision = revision → config = build edge.files)
  | _ => True

structure RouteCall.Asserts (build : (App → Option String) → Config)
    (initial : App → Option String) (edge : Edge App Config) (caller : ℕ)
    (call : RouteCall App Config) : Prop where
  own : ∀ change ∈ edge.ledger, change.owner = caller →
    call.standing = some (change.key, change.value)
  kept : ∀ app text, call.standing = some (app, text) → ⟨caller, app, text⟩ ∈ edge.ledger
  placed : call.Placed initial edge caller
  adapted : call.Adapted build edge

structure Edge.Around (initial : App → Option String) (caller : ℕ)
    (before after : Edge App Config) : Prop where
  others : ∀ change : Change ℕ App (Option String), change.owner ≠ caller →
    (change ∈ after.ledger ↔ change ∈ before.ledger)
  counted : ∀ app, before.changes app ≤ after.changes app
  files : ∀ app, after.changes app = before.changes app → after.files app = before.files app
  replayed : ∀ app, after.changes app = before.changes app → ∀ other, other ≠ caller →
      replay initial (retract other after.ledger) app =
        replay initial (retract other before.ledger) app
  revised : before.revision ≤ after.revision
  current : after.revision = before.revision → after.files = before.files

namespace Edge

variable {edge before after : Edge App Config} {caller other : ℕ}
variable {change : RouteChange App} {call : RouteCall App Config}

theorem Around.of_same (files : after.files = before.files) (ledger : after.ledger = before.ledger)
    (changes : after.changes = before.changes) (revision : after.revision = before.revision) :
    Around initial caller before after where
  others change _ := by rw [ledger]
  counted app := by rw [changes]
  files app _ := by rw [files]
  replayed app _ other _ := by rw [ledger]
  revised := Nat.le_of_eq revision.symm
  current _ := files

theorem Around.refl : Around initial caller edge edge := .of_same rfl rfl rfl rfl

theorem around_load {reply : Reply} {config : Config} :
    Around initial caller edge (edge.load reply config) :=
  .of_same rfl rfl rfl rfl

theorem around_adaptFails : Around initial caller edge edge.adaptFails := .of_same rfl rfl rfl rfl

theorem ne_of_update_eq {changes : App → ℕ} {app changed : App}
    (same : Function.update changes changed (changes changed + 1) app =
      changes app) : app ≠ changed := by
  rintro rfl
  simp at same

theorem le_update_succ {changes : App → ℕ} (changed app : App) :
    changes app ≤ Function.update changes changed (changes changed + 1) app := by
  by_cases same : app = changed
  · subst same
    simp
  · rw [Function.update_of_ne same]

theorem around_change : Around initial caller edge (edge.change caller change) where
  others entry different := by
    have fresh : entry ≠ ⟨caller, change.app, change.requested⟩ := by
      rintro rfl
      exact different rfl
    simp [Edge.change, fresh]
  counted := le_update_succ change.app
  files app same := Function.update_of_ne (ne_of_update_eq same) ..
  replayed app same other different := by
    have elsewhere := ne_of_update_eq same
    change replay initial (retract other (_ :: edge.ledger)) app = _
    rw [retract_cons_of_ne different.symm, replay_cons_of_ne elsewhere.symm]
  revised := Nat.le_succ _
  current same := absurd same (Nat.succ_ne_self _)

theorem replay_retract_retract (keys : ∀ entry ∈ edge.ledger, entry.owner = caller →
      entry.key = change.app) {app : App} (elsewhere : app ≠ change.app) :
    replay initial (retract other (retract caller edge.ledger)) app =
      replay initial (retract other edge.ledger) app := by
  rw [retract_comm]
  apply replay_retract_of_ne
  intro entry member own same
  exact elsewhere (same ▸ keys entry (mem_retract.mp member).1 own)

theorem around_restore (keys : ∀ entry ∈ edge.ledger, entry.owner = caller →
      entry.key = change.app) : Around initial caller edge (edge.restore caller change) where
  others _ different := mem_retract_of_ne different
  counted := le_update_succ change.app
  files _ same := Function.update_of_ne (ne_of_update_eq same) ..
  replayed _ same _ _ := replay_retract_retract keys (ne_of_update_eq same)
  revised := Nat.le_succ _
  current same := absurd same (Nat.succ_ne_self _)

theorem around_withdraw (keys : ∀ entry ∈ edge.ledger, entry.owner = caller →
      entry.key = change.app) : Around initial caller edge (edge.withdraw caller change) where
  others _ different := mem_retract_of_ne different
  counted := le_update_succ change.app
  files _ _ := rfl
  replayed _ same _ _ := replay_retract_retract keys (ne_of_update_eq same)
  revised := le_rfl
  current _ := rfl

theorem Around.placed (around : Around initial caller before after)
    (different : other ≠ caller) (placed : call.Placed initial before other) :
    call.Placed initial after other := by
  have unseen (change : RouteChange App) (count : ℕ) (seen : count ≤ before.changes change.app)
      (same : after.changes change.app = count) :
      after.changes change.app = before.changes change.app := by
    have counted := around.counted change.app
    omega
  cases call with
  | ready change =>
    obtain ⟨seen, read⟩ := placed
    refine ⟨Nat.le_trans seen (around.counted change.app), ?_⟩
    intro same
    have still := unseen change change.seen seen same
    rw [around.files change.app still]
    exact read (still ▸ same)
  | changed change | adapted change | failing change =>
    obtain ⟨seen, read⟩ := placed
    refine ⟨Nat.le_trans seen (around.counted change.app), ?_⟩
    intro same
    have still := unseen change (change.seen + 1) seen same
    rw [around.files change.app still, around.replayed change.app still other different]
    exact read (still ▸ same)
  | idle | restored | readapted | returned | raised => trivial

theorem Around.adapted (around : Around initial caller before after)
    (adapted : call.Adapted build before) : call.Adapted build after := by
  cases call with
  | adapted change config revision | readapted change config revision =>
    obtain ⟨bound, built⟩ := adapted
    refine ⟨Nat.le_trans bound around.revised, ?_⟩
    intro same
    have revised := around.revised
    have still : after.revision = before.revision := by omega
    rw [around.current still]
    exact built (still ▸ same)
  | idle | ready | changed | failing | restored | returned | raised => trivial

theorem Around.asserts (around : Around initial caller before after) (different : other ≠ caller)
    (asserts : call.Asserts build initial before other) :
    call.Asserts build initial after other where
  own entry member same :=
    asserts.own entry ((around.others entry (same ▸ different)).mp member) same
  kept app text standing :=
    (around.others ⟨other, app, text⟩ different).mpr (asserts.kept app text standing)
  placed := around.placed different asserts.placed
  adapted := around.adapted asserts.adapted

end Edge

section Step

variable {state : Edges App Config} {move : ℕ × RouteStep App}

/-- The files are those of the ledger, and every call knows its place. -/
abbrev Orderly (build : (App → Option String) → Config)
    (initial : App → Option String) (state : Edges App Config) : Prop :=
  Sound (fun edge : Edge App Config => edge.files = replay initial edge.ledger)
    (RouteCall.Asserts build initial) state

namespace Edge

variable {edge : Edge App Config} {caller : ℕ} {change : RouteChange App}

theorem files_change (sound : edge.files = replay initial edge.ledger) :
    (edge.change caller change).files = replay initial (edge.change caller change).ledger := by
  change Function.update edge.files _ _ = replay initial (_ :: edge.ledger)
  rw [replay_cons, sound]

theorem replay_retract_eq_update (sound : edge.files = replay initial edge.ledger)
    (keys : ∀ entry ∈ edge.ledger, entry.owner = caller → entry.key = change.app)
    (read : replay initial (retract caller edge.ledger) change.app = change.previous) :
    replay initial (retract caller edge.ledger) =
      Function.update edge.files change.app change.previous := by
  funext app
  by_cases same : app = change.app
  · rw [same, Function.update_self, read]
  · rw [Function.update_of_ne same, sound]
    apply replay_retract_of_ne
    intro entry member own here
    exact same (here ▸ keys entry member own)

end Edge

namespace RouteCall.Asserts

variable {edge : Edge App Config} {caller : ℕ} {call : RouteCall App Config}
variable {change : RouteChange App}

theorem absent (asserts : call.Asserts build initial edge caller) (none : call.standing = none) :
    ∀ entry ∈ edge.ledger, entry.owner ≠ caller := by
  intro entry member own
  have standing := asserts.own entry member own
  simp [none] at standing

theorem placed_change (sound : edge.files = replay initial edge.ledger)
    (asserts : RouteCall.Asserts build initial edge caller (.ready change)) :
    RouteCall.Placed initial (edge.change caller change) caller (.changed change) := by
  obtain ⟨seen, read⟩ := asserts.placed
  have absent := asserts.absent rfl
  have counted : (edge.change caller change).changes change.app =
      edge.changes change.app + 1 := Function.update_self ..
  have written : (edge.change caller change).files change.app =
      change.requested := Function.update_self ..
  have without : retract caller (edge.change caller change).ledger =
      edge.ledger := retract_cons_self rfl absent
  refine ⟨by omega, fun same => ⟨written, ?_⟩⟩
  rw [without, ← sound]
  exact read (by omega)

theorem keys (asserts : call.Asserts build initial edge caller)
    (standing : call.standing = some (change.app, change.requested)) :
    ∀ entry ∈ edge.ledger, entry.owner = caller → entry.key = change.app := by
  intro entry member own
  have here := asserts.own entry member own
  rw [standing, Option.some.injEq, Prod.mk.injEq] at here
  exact here.1.symm

theorem of_none (none : call.standing = none) (absent : ∀ entry ∈ edge.ledger, entry.owner ≠ caller)
    (placed : call.Placed initial edge caller) (adapted : call.Adapted build edge) :
    call.Asserts build initial edge caller where
  own entry member same := absurd same (absent entry member)
  kept app text standing := by simp [none] at standing
  placed := placed
  adapted := adapted

theorem of_raised {edge' : Edge App Config}
    (absent : ∀ entry ∈ edge'.ledger, entry.owner ≠ caller) :
    RouteCall.Asserts build initial edge' caller .raised :=
  of_none rfl absent trivial trivial

end RouteCall.Asserts

/-- One step keeps the ledger and what its call knows, and leaves what the
others know. -/
theorem perform_orderly (tools : RouteTools) {edge : Edge App Config} {caller : ℕ}
    {call : RouteCall App Config} {step : RouteStep App}
    (sound : edge.files = replay initial edge.ledger)
    (asserts : call.Asserts build initial edge caller) (undisturbed : call.Undisturbed edge step) :
    let after := perform tools build caller step edge call
    after.1.files = replay initial after.1.ledger ∧ after.2.Asserts build initial after.1 caller ∧
        edge.Around initial caller after.1 := by
  have stays : edge.files = replay initial edge.ledger ∧ call.Asserts build initial edge caller ∧
        edge.Around initial caller edge := ⟨sound, asserts, .refl⟩
  cases call with
  | idle =>
    have absent := asserts.absent rfl
    have reads (requested : Option String) (app : App) : RouteCall.Asserts build initial edge caller
          (.ready ⟨app, requested, edge.files app, edge.changes app⟩) :=
      .of_none rfl absent ⟨Nat.le_refl _, fun _ => rfl⟩ trivial
    cases step with
    | activate app hostname origin =>
      refine ⟨sound, ?_, .refl⟩
      simp only [perform]
      cases renderRoute tools hostname origin with
      | some text => exact reads (some text) app
      | none => exact .of_raised absent
    | deactivate app => exact ⟨sound, reads none app, .refl⟩
    | change | adapt | load | restore => exact stays
  | ready change =>
    cases step with
    | change =>
      have absent := asserts.absent rfl
      refine ⟨Edge.files_change sound, ?_, Edge.around_change⟩
      refine ⟨?_, ?_, ?_, trivial⟩
      · intro entry member own
        rcases List.mem_cons.mp member with rfl | earlier
        · rfl
        · exact absurd own (absent entry earlier)
      · rintro app text standing
        cases standing
        exact List.mem_cons_self
      · exact asserts.placed_change sound
    | activate | deactivate | adapt | load | restore => exact stays
  | changed change =>
    cases step with
    | adapt answered =>
      cases answered with
      | true =>
        exact ⟨sound, ⟨asserts.own, asserts.kept, asserts.placed,
          Nat.le_refl _, fun _ => rfl⟩, .refl⟩
      | false =>
        exact ⟨sound, ⟨asserts.own, asserts.kept, asserts.placed, trivial⟩, Edge.around_adaptFails⟩
    | activate | deactivate | change | load | restore => exact stays
  | adapted change config revision =>
    cases step with
    | load reply =>
      refine ⟨sound, ?_, Edge.around_load⟩
      simp only [perform]
      split_ifs
      · exact ⟨asserts.own, asserts.kept, trivial, trivial⟩
      · exact ⟨asserts.own, asserts.kept, asserts.placed, trivial⟩
    | activate | deactivate | change | adapt | restore => exact stays
  | failing change =>
    cases step with
    | restore =>
      obtain ⟨written, read⟩ := asserts.placed.2 (undisturbed rfl)
      have keys := asserts.keys rfl
      have back := Edge.replay_retract_eq_update sound keys read
      have gone : ∀ entry ∈ retract caller edge.ledger, entry.owner ≠ caller :=
        fun entry member => (mem_retract.mp member).2
      simp only [perform]
      split_ifs with nothing
      · refine ⟨?_, .of_raised gone, Edge.around_withdraw keys⟩
        change edge.files = replay initial (retract caller edge.ledger)
        rw [back, nothing.2, ← nothing.1, ← written, Function.update_eq_self]
      · refine ⟨back.symm, ?_, Edge.around_restore keys⟩
        exact .of_none rfl gone trivial trivial
    | activate | deactivate | change | adapt | load => exact stays
  | restored change =>
    have absent := asserts.absent rfl
    cases step with
    | adapt answered =>
      cases answered with
      | true =>
        exact ⟨sound, .of_none rfl absent trivial ⟨Nat.le_refl _, fun _ => rfl⟩, .refl⟩
      | false => exact ⟨sound, .of_raised absent, Edge.around_adaptFails⟩
    | activate | deactivate | change | load | restore => exact stays
  | readapted change config revision =>
    cases step with
    | load reply => exact ⟨sound, .of_raised (asserts.absent rfl), Edge.around_load⟩
    | activate | deactivate | change | adapt | restore => exact stays
  | returned change => exact stays
  | raised => exact stays

theorem Orderly.act (orderly : Orderly build initial state)
    (undisturbed : Undisturbed state move (state.act (perform tools build) move)) :
    Orderly build initial (state.act (perform tools build) move) := by
  obtain ⟨sound, own, around⟩ := perform_orderly tools
    orderly.shared (orderly.calls move.1) undisturbed
  exact Sound.act orderly sound own fun other call different asserts =>
    around.asserts different asserts

end Step

/-- A call that has changed a file and will reload Caddy, or say that it
could not. -/
def RouteCall.reloads : RouteCall App Config → Bool
  | .changed _ | .adapted _ _ _ | .restored _ | .readapted _ _ _ => true
  | _ => false

omit [DecidableEq App] in
theorem RouteCall.reloads_eq_false_of_finished {call : RouteCall App Config}
    (finished : call.finished = true) : call.reloads = false := by
  cases call <;> simp_all [RouteCall.finished, RouteCall.reloads]

/-- After a successful reload Caddy has the files, unless a call is about to
reload it again. -/
def Reloaded (build : (App → Option String) → Config) (state : Edges App Config) : Prop :=
  state.shared.lastReload = some true → state.shared.loaded = build state.shared.files ∨
      ∃ caller, (state.calls caller).reloads = true

structure Edge.SameLoad (before after : Edge App Config) : Prop where
  files : after.files = before.files
  loaded : after.loaded = before.loaded
  lastReload : after.lastReload = before.lastReload

theorem perform_reloaded (tools : RouteTools) {edge : Edge App Config} {caller : ℕ}
    {call : RouteCall App Config} {step : RouteStep App} (adapted : call.Adapted build edge)
    (undisturbed : call.Undisturbed edge step) :
    let after := perform tools build caller step edge call
    after.1.lastReload ≠ some true ∨ after.2.reloads = true ∨ after.1.loaded = build after.1.files ∨
        call.reloads = false ∧ edge.SameLoad after.1 := by
  have same : edge.SameLoad edge := ⟨rfl, rfl, rfl⟩
  have loads {config : Config} {revision : ℕ} {reply : Reply} (bound : revision ≤ edge.revision ∧
        (edge.revision = revision → config = build edge.files))
      (current : edge.revision = revision) :
      (edge.load reply config).lastReload ≠ some true ∨ (edge.load reply config).loaded =
          build (edge.load reply config).files := by
    cases reply with
    | answered => exact .inr (bound.2 current)
    | refused | lost => exact .inl (by simp [Edge.load])
  cases call with
  | idle =>
    cases step with
    | activate | deactivate | change | adapt | load | restore =>
      exact .inr (.inr (.inr ⟨rfl, same⟩))
  | ready change =>
    cases step with
    | change => exact .inr (.inl rfl)
    | activate | deactivate | adapt | load | restore => exact .inr (.inr (.inr ⟨rfl, same⟩))
  | changed change | restored change =>
    cases step with
    | adapt answered =>
      cases answered with
      | true => exact .inr (.inl rfl)
      | false => exact .inl (by simp [perform, Edge.adaptFails])
    | activate | deactivate | change | load | restore => exact .inr (.inl rfl)
  | adapted change config revision | readapted change config revision =>
    cases step with
    | load reply =>
      rcases loads adapted (undisturbed rfl) with failed | current
      · exact .inl failed
      · exact .inr (.inr (.inl current))
    | activate | deactivate | change | adapt | restore => exact .inr (.inl rfl)
  | failing change =>
    cases step with
    | restore =>
      simp only [perform]
      split_ifs
      · exact .inr (.inr (.inr ⟨rfl, rfl, rfl, rfl⟩))
      · exact .inr (.inl rfl)
    | activate | deactivate | change | adapt | load => exact .inr (.inr (.inr ⟨rfl, same⟩))
  | returned change | raised => exact .inr (.inr (.inr ⟨rfl, same⟩))

theorem Reloaded.act {state : Edges App Config} {move : ℕ × RouteStep App}
    (reloaded : Reloaded build state) (orderly : Orderly build initial state)
    (undisturbed : Undisturbed state move (state.act (perform tools build) move)) :
    Reloaded build (state.act (perform tools build) move) := by
  intro succeeded
  rcases perform_reloaded tools (orderly.calls move.1).adapted undisturbed with
    failed | reloads | current | ⟨quiet, same⟩
  · exact absurd succeeded failed
  · refine .inr ⟨move.1, ?_⟩
    rw [Interleaved.calls_act_self]
    exact reloads
  · exact .inl current
  · rcases reloaded (same.lastReload ▸ succeeded) with
      current | ⟨caller, reloads⟩
    · refine .inl ?_
      exact same.loaded.trans (current.trans (congrArg build same.files.symm))
    · refine .inr ⟨caller, ?_⟩
      have other : caller ≠ move.1 := by
        rintro rfl
        simp [quiet] at reloads
      rw [Interleaved.calls_act_of_ne other]
      exact reloads

section Runs

variable {files : App → Option String} {loaded : Config} {moves : List (ℕ × RouteStep App)}

theorem orderly_start : Orderly build files (start files loaded) where
  shared := rfl
  calls _ := .of_none rfl (by simp [start]) trivial trivial

omit [DecidableEq App] in
theorem reloaded_start : Reloaded build (start files loaded) := by
  intro succeeded
  simp [start] at succeeded

theorem Orderly.allOrNothing {state : Edges App Config}
    (orderly : Orderly build initial state) (reloaded : Reloaded build state) :
    AllOrNothing initial build state where
  standing change member := (orderly.calls change.owner).own change member rfl
  returned caller change finished := by
    apply (orderly.calls caller).kept
    rw [finished]
    rfl
  files := orderly.shared
  loaded finished succeeded := by
    rcases reloaded succeeded with current | ⟨caller, reloads⟩
    · exact current
    · rw [RouteCall.reloads_eq_false_of_finished (finished caller)] at reloads
      cases reloads

/-- Where calls put back only files that nobody else has changed, and load
only what was adapted from the files there are, they are all or nothing. -/
theorem all_or_nothing (tools : RouteTools)
    (build : (App → Option String) → Config) (files : App → Option String)
    (loaded : Config) (moves : List (ℕ × RouteStep App)) (undisturbed : EveryStep
      (fun before move after => after = before.act (perform tools build) move)
      Undisturbed (start files loaded) moves) :
    EveryStep (fun before move after => after = before.act (perform tools build) move)
      (fun _ _ after => AllOrNothing files build after) (start files loaded) moves := by
  have preserved (before : Edges App Config) (move : ℕ × RouteStep App) (after : Edges App Config)
      (sound : Orderly build files before ∧ Reloaded build before)
      (acts : after = before.act (perform tools build) move)
      (here : Undisturbed before move after) :
      Orderly build files after ∧ Reloaded build after := by
    rw [acts] at here ⊢
    exact ⟨sound.1.act here, sound.2.act sound.1 here⟩
  refine EveryStep.of_invariant ⟨orderly_start, reloaded_start⟩ preserved ?_ undisturbed
  intro before move after sound acts here
  have next := preserved before move after sound acts here
  exact next.1.allOrNothing next.2

def plainTools : RouteTools where
  hostname := some
  origin := some

def bothRoutes (files : ℕ → Option String) : List (Option String) := [files 1, files 2]

/-- Two applications get their routes; the second one's reload fails. -/
def failingBeside : List (ℕ × RouteStep ℕ) :=
  [(0, .activate 1 "shop.example" "http://10.0.0.5:8080"), (0, .change),
    (1, .activate 2 "blog.example" "http://10.0.0.6:8080"), (1, .change),
    (1, .adapt false), (1, .restore), (1, .adapt true), (1, .load .answered),
    (0, .adapt true), (0, .load .answered)]

theorem all_or_nothing_failingBeside : EveryStep (fun before move after =>
        after = before.act (perform plainTools bothRoutes) move)
      (fun _ _ after => AllOrNothing (fun _ => none) bothRoutes after)
      (start (fun _ => none) [none, none]) failingBeside :=
  all_or_nothing plainTools bothRoutes (fun _ => none) [none, none]
    failingBeside (EveryStep.of_stepByStep (by decide +kernel))

/-- Two calls give one application its route; the second one returns, and
the first one's reload fails. -/
def staleRestore : List (ℕ × RouteStep ℕ) :=
  [(0, .activate 1 "shop.example" "http://10.0.0.5:8080"), (0, .change),
    (1, .activate 1 "shop.example" "http://10.0.0.6:8080"), (1, .change),
    (1, .adapt true), (1, .load .answered), (0, .adapt false)]

/-- The route of a call that has returned is gone, and Caddy still has it. -/
theorem route_lost : ¬ ∀ (moves : List (ℕ × RouteStep ℕ)), EveryStep (fun before move after =>
          after = before.act (perform plainTools bothRoutes) move)
        (fun _ _ after => AllOrNothing (fun _ => none) bothRoutes after)
        (start (fun _ => none) [none, none]) moves := by
  intro always
  have broken := (always (staleRestore ++ [(0, .restore)]) staleRestore
    (0, .restore) [] _ _ rfl (Run.of_foldl _ _ _) rfl).files
  have text := congrFun broken 1
  revert text
  decide +kernel

end Runs

end Invariant

end Caddy

end Ithute
