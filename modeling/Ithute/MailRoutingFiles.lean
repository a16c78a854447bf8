import Ithute.MailRouting
import Ithute.Library.InterleavedCalls

/-!
# The routing files

`sync_mail_routing` builds the routes from what its session sees, takes the
lock of the routing directory and replaces the files one by one.  Its session
may have changed rows that it has not committed.
-/

namespace Ithute

open TransitionRuns InterleavedCalls

namespace Mail

inductive MailChange where
  | saveDomain (row : Domain)
  | saveNode (row : MailNode)
  | saveMailbox (row : Mailbox)
  | saveAlias (row : MailAlias)
  | deleteAlias (id : ℕ)
  | saveGroup (row : DistributionGroup)
  | deleteGroup (id : ℕ)

def saveRow {Row : Type} (id : Row → ℕ) (row : Row) (rows : List Row) : List Row :=
  if rows.any fun other => id other = id row then
    rows.map fun other => if id other = id row then row else other
  else rows ++ [row]

namespace MailTables

def change (tables : MailTables) : MailChange → MailTables
  | .saveDomain row => { tables with domains := saveRow Domain.id row tables.domains }
  | .saveNode row => { tables with nodes := saveRow MailNode.id row tables.nodes }
  | .saveMailbox row => { tables with mailboxes := saveRow Mailbox.id row tables.mailboxes }
  | .saveAlias row => { tables with aliases := saveRow MailAlias.id row tables.aliases }
  | .deleteAlias id =>
    { tables with
      aliases := tables.aliases.filter fun row => row.id ≠ id }
  | .saveGroup row => { tables with groups := saveRow DistributionGroup.id row tables.groups }
  | .deleteGroup id => { tables with groups := tables.groups.filter fun row => row.id ≠ id }

def changed (tables : MailTables) (changes : List MailChange) : MailTables :=
  changes.foldl change tables

end MailTables

/-- The files in the order in which they are replaced. -/
inductive RoutingFileName where
  | relayDomains | relayRecipients | transport | virtualAliases | ready
  deriving DecidableEq

def RoutingFileName.order : List RoutingFileName :=
  [.relayDomains, .relayRecipients, .transport, .virtualAliases, .ready]

/-- What `_atomic_write` is called with. -/
def MailRouting.payload (routing : MailRouting) : RoutingFileName → String
  | .relayDomains => lines routing.relayDomains
  | .relayRecipients => lines routing.relayRecipients
  | .transport => lines routing.transport
  | .virtualAliases => lines routing.virtualAliases
  | .ready => "ready\n"

/-- A file, with the version of the committed rows when its routes were built,
and the session whose uncommitted changes they contain. -/
structure RoutingFile where
  payload : String
  version : ℕ := 0
  uncommitted : Option ℕ := none

/-- The committed rows, the routing directory and the clock.  `version` counts
the commits that change rows, and `lastStart` is the last call of
`sync_mail_routing` with the version it started at. -/
structure RoutingState where
  committed : MailTables
  version : ℕ := 1
  files : RoutingFileName → RoutingFile
  lock : Option ℕ := none
  now : ℤ := 0
  lastStart : Option (ℕ × ℕ) := none

inductive RoutingCall where
  | idle
  | begun (changes : List MailChange)
  | built (changes : List MailChange) (routing : MailRouting) (version : ℕ)
  | writing (changes : List MailChange) (routing : MailRouting) (version : ℕ)
      (remaining : List RoutingFileName)
  | synced (changes : List MailChange) (version : ℕ)
  | committed
  | rolledBack

inductive RoutingStep where
  | tick (passed : ℕ)
  | begin
  | change (change : MailChange)
  /-- The start of `sync_mail_routing`, up to its routes. -/
  | build
  | takeLock
  /-- One `_atomic_write`. -/
  | replace
  | releaseLock
  | commit
  | rollback

namespace RoutingState

def commitChanges (state : RoutingState) (changes : List MailChange) : RoutingState :=
  if changes.isEmpty then state
  else
    { state with
      committed := state.committed.changed changes
      version := state.version + 1 }

def perform (settings : MailSettings) (caller : ℕ) :
    RoutingStep → RoutingState → RoutingCall → RoutingState × RoutingCall
  | .tick passed, state, call => ({ state with now := state.now + passed }, call)
  | .begin, state, .idle => (state, .begun [])
  | .change change, state, .begun changes =>
    (state, .begun (changes ++ [change]))
  | .build, state, .begun changes =>
    let started := { state with lastStart := some (caller, state.version) }
    match (state.committed.changed changes).buildMailRouting settings
        state.now with
    | .error _ => (started, .rolledBack)
    | .ok routing => (started, .built changes routing state.version)
  | .takeLock, state, .built changes routing version =>
    match state.lock with
    | none =>
      ({ state with lock := some caller },
        .writing changes routing version RoutingFileName.order)
    | some _ => (state, .built changes routing version)
  | .replace, state, .writing changes routing version (name :: rest) =>
    ({ state with
        files := Function.update state.files name
          { payload := routing.payload name
            version := version
            uncommitted := if changes.isEmpty then none else some caller } },
      .writing changes routing version rest)
  | .releaseLock, state, .writing changes _ version [] =>
    ({ state with lock := none }, .synced changes version)
  | .commit, state, .begun changes | .commit, state, .synced changes _ =>
    (state.commitChanges changes, .committed)
  | .rollback, state, .begun _ | .rollback, state, .synced _ _ =>
    (state, .rolledBack)
  | _, state, call => (state, call)

end RoutingState

abbrev RoutingWorld := Interleaved ℕ RoutingState RoutingCall

def RoutingWorld.start (committed : MailTables)
    (payloads : RoutingFileName → String) (now : ℤ) : RoutingWorld where
  shared :=
    { committed := committed
      files := fun name => { payload := payloads name }
      now := now }
  calls _ := .idle

abbrev RoutingWorld.next (settings : MailSettings) (world : RoutingWorld)
    (move : ℕ × RoutingStep) : RoutingWorld :=
  world.act (RoutingState.perform settings) move

/-- Whether no `sync_mail_routing` of a session is under way; one that has
returned counts until its session ends, as its changes are uncommitted. -/
def RoutingCall.finished : RoutingCall → Bool
  | .built _ _ _ | .writing _ _ _ _ | .synced _ _ => false
  | .idle | .begun _ | .committed | .rolledBack => true

/-- The files are those of the committed rows once all calls have finished and
the last of them has started after the last commit, and no file holds changes
of a session that has been rolled back. -/
structure Converged (settings : MailSettings) (world : RoutingWorld) : Prop where
  files : (∀ caller, (world.calls caller).finished = true) →
    world.shared.lastStart.map Prod.snd = some world.shared.version → ∀ routing,
      world.shared.committed.buildMailRouting settings world.shared.now = .ok routing →
      ∀ name, (world.shared.files name).payload = routing.payload name
  untraced : ∀ name caller, (world.shared.files name).uncommitted = some caller →
    world.calls caller ≠ .rolledBack

def RoutingCall.begunChanges? : RoutingCall → Option (List MailChange)
  | .begun changes => some changes
  | _ => none

def RoutingCall.builtVersion? : RoutingCall → Option ℕ
  | .built _ _ version => some version
  | _ => none

def RoutingCall.writtenChanges : RoutingCall → List MailChange
  | .synced changes _ => changes
  | _ => []

/-- A step that writes no routes older than those in the files, rolls back no
session that has written its own changes, and is not kept from its routes by
uncommitted changes. -/
def RoutingState.CalmStep (settings : MailSettings) (state : RoutingState)
    (call : RoutingCall) : RoutingStep → Prop
  | .build => ∀ changes ∈ call.begunChanges?,
      (state.committed.buildMailRouting settings state.now).isOk = true →
      ((state.committed.changed changes).buildMailRouting settings state.now).isOk = true
  | .takeLock => ∀ version ∈ call.builtVersion?, ∀ name, (state.files name).version ≤ version
  | .rollback => call.writtenChanges.isEmpty = true
  | _ => True

def CalmSync (settings : MailSettings) (before : RoutingWorld)
    (move : ℕ × RoutingStep) (_ : RoutingWorld) : Prop :=
  before.shared.CalmStep settings (before.calls move.1) move.2

end Mail

end Ithute
