/-
Module: BairuiPlatform.Machines.Authentication
Purpose: Every order of credential changes, signatures and received requests, and what a
  request that authenticateMachine accepts goes back to.
Trusted boundary: HMAC-SHA-256 is unforgeable and SHA-256 free of collisions in a run
Main exports: MachineEvent, machineRequests, MachineState.Sound, Unforged, CollisionFree,
  machine_request_honoured
-/
import BairuiPlatform.Machines.Credentials
import BairuiPlatform.Foundations.Transition

namespace BairuiPlatform

open Foundations

/-! ### The system -/

/-- The tables, and the requests between the two halves of `authenticateMachine`. -/
structure MachineState where
  store : MachineStore
  lookups : List MachineLookup

/-- What can happen: a holder gets a credential, a holder of a key signs a request, a request
comes in and its credential is looked up, or a request that came in is decided. -/
inductive MachineEvent where
  | createServerCredential (id serverId keyHash : String) (expiresAt : Option Nat) (now : Nat)
  | createRuntimeCredential (id organizationId runtimeId agentId keyHash : String) (now : Nat)
  | createChannelWorkerCredential (id workerId : String) (organizationId : Option String)
      (keyHash : String) (expiresAt : Option Nat) (now : Nat)
  | sign (keyHash : String) (request : MachineRequest)
  | lookUp (request : IncomingRequest) (credentialType : CredentialType) (now : Nat)
  | authenticate (index now : Nat)

/-- The state after an event. -/
def MachineEvent.after [Crypto] (state : MachineState) : MachineEvent → MachineState
  | .createServerCredential id serverId keyHash expiresAt now =>
      { state with store := state.store.createServerCredential id serverId keyHash expiresAt now }
  | .createRuntimeCredential id organizationId runtimeId agentId keyHash now =>
      { state with
        store :=
          state.store.createRuntimeCredential id organizationId runtimeId agentId keyHash now }
  | .createChannelWorkerCredential id workerId organizationId keyHash expiresAt now =>
      { state with
        store :=
          state.store.createChannelWorkerCredential id workerId organizationId keyHash expiresAt
            now }
  | .sign _ _ => state
  | .lookUp request credentialType now =>
      match lookUpMachine request credentialType now state.store with
      | some lookup => { state with lookups := state.lookups ++ [lookup] }
      | none => state
  | .authenticate index now =>
      match state.lookups[index]? with
      | some lookup =>
          { store := (authenticateMachine lookup now state.store).2
            lookups := state.lookups.eraseIdx index }
      | none => state

/-- The machine requests of a platform that starts without credentials. -/
def machineRequests [Crypto] : TransitionSystem MachineState MachineEvent where
  initial state :=
    state.store.credentials = [] ∧ state.store.nonces = [] ∧ state.lookups = []
  step before event after := after = event.after before

/-- A step at which a looked-up request is accepted. -/
def Honours [Crypto] (transition : Transition MachineState MachineEvent)
    (lookup : MachineLookup) (now : Nat) : Prop :=
  ∃ index, transition.label = .authenticate index now ∧
    transition.before.lookups[index]? = some lookup ∧
    (authenticateMachine lookup now transition.before.store).1 = true

/-! ### Credentials keep their identity -/

/-- What no statement changes in a credential. -/
def MachineCredentialRow.identity (row : MachineCredentialRow) :
    CredentialType × String × String × String :=
  (row.credentialType, row.id, row.machineId, row.keyHash)

/-- A credential that some row of the table stands for. -/
def MachineStore.Knows (store : MachineStore) (credential : MachineCredentialRow) : Prop :=
  credential.identity ∈ store.credentials.map MachineCredentialRow.identity

namespace MachineStore

variable {store : MachineStore} {row : MachineCredentialRow}

/-- A new credential is rejected, or comes after the ones before it. -/
theorem issue_identities (row : MachineCredentialRow) (store : MachineStore) :
    store.issue row = store ∨
      (∀ other ∈ store.credentials, other.credentialType = row.credentialType →
        other.id ≠ row.id ∧ other.keyHash ≠ row.keyHash) ∧
      (store.issue row).credentials.map MachineCredentialRow.identity =
        store.credentials.map MachineCredentialRow.identity ++ [row.identity] := by
  simp only [issue]
  split
  · exact Or.inl rfl
  · rename_i unused
    apply Or.inr
    constructor
    · intro other member sameType
      simp only [List.any_eq_true, not_exists, not_and, Bool.and_eq_true, Bool.or_eq_true,
        decide_eq_true_eq, not_or] at unused
      exact unused other member sameType
    · rw [List.map_append]
      exact congrArg (fun identities => identities ++ [row.identity])
        (map_updateWhere fun _ => rfl)

@[simp] theorem issue_nonces : (store.issue row).nonces = store.nonces := by
  simp only [issue]
  split <;> rfl

/-- A nonce that is claimed stays claimed. -/
theorem nonceClaimed_mono {store' : MachineStore} {credentialType : CredentialType}
    {id nonce : String} (kept : ∀ row ∈ store.nonces, row ∈ store'.nonces)
    (claimed : store.nonceClaimed credentialType id nonce = true) :
    store'.nonceClaimed credentialType id nonce = true := by
  simp only [nonceClaimed, List.any_eq_true] at claimed ⊢
  obtain ⟨row, member, same⟩ := claimed
  exact ⟨row, kept row member, same⟩

end MachineStore

/-- How a step changes the credentials: not at all, or by one row with a key and a primary
key of its own. -/
inductive CredentialChange (store store' : MachineStore) : Prop where
  | none (same : store'.credentials = store.credentials)
  | issue (row : MachineCredentialRow)
      (unused : ∀ other ∈ store.credentials, other.credentialType = row.credentialType →
        other.id ≠ row.id ∧ other.keyHash ≠ row.keyHash)
      (identities : store'.credentials.map MachineCredentialRow.identity =
        store.credentials.map MachineCredentialRow.identity ++ [row.identity])

theorem CredentialChange.of_issue (row : MachineCredentialRow) (store : MachineStore) :
    CredentialChange store (store.issue row) := by
  rcases store.issue_identities row with same | ⟨unused, identities⟩
  · exact .none (by rw [same])
  · exact .issue row unused identities

theorem CredentialChange.knows {store store' : MachineStore} {credential : MachineCredentialRow}
    (change : CredentialChange store store') (known : store.Knows credential) :
    store'.Knows credential := by
  cases change with
  | none same =>
      rw [MachineStore.Knows, same]
      exact known
  | issue row _ identities =>
      rw [MachineStore.Knows, identities]
      exact List.mem_append_left _ known

theorem CredentialChange.keys {store store' : MachineStore} (change : CredentialChange store store')
    (keys : Keyed (fun row : MachineCredentialRow => (row.credentialType, row.keyHash))
      store.credentials) :
    Keyed (fun row : MachineCredentialRow => (row.credentialType, row.keyHash))
      store'.credentials := by
  cases change with
  | none same =>
      rw [same]
      exact keys
  | issue row unused identities =>
      let key : CredentialType × String × String × String → CredentialType × String :=
        fun identity => (identity.1, identity.2.2.2)
      have mapped := congrArg (List.map key) identities
      rw [List.map_append, List.map_map, List.map_map] at mapped
      have separate : (store.credentials.map (key ∘ MachineCredentialRow.identity) ++
          [row.identity].map key).Nodup := by
        apply List.nodup_append.mpr
        refine ⟨keys, List.nodup_singleton _, ?_⟩
        intro first firstMem second secondMem same
        obtain ⟨other, otherMem, rfl⟩ := List.mem_map.mp firstMem
        rw [List.map_singleton, List.mem_singleton] at secondMem
        have equal := same.trans secondMem
        simp only [Function.comp_apply, key, MachineCredentialRow.identity, Prod.mk.injEq]
          at equal
        exact (unused other otherMem equal.1).2 equal.2
      exact (congrArg List.Nodup mapped).mpr separate

/-- What `lookUpMachine` finds is an active credential of the machine. -/
theorem lookUpMachine_eq_some {request : IncomingRequest} {credentialType : CredentialType}
    {now : Nat} {store : MachineStore} {lookup : MachineLookup}
    (found : lookUpMachine request credentialType now store = some lookup) :
    lookup.credential ∈ store.credentials ∧
      lookup.credential.credentialType = lookup.credentialType ∧
      lookup.request.machineId = some lookup.credential.machineId := by
  simp only [lookUpMachine, Option.bind_eq_bind, Option.bind_eq_some_iff, Option.pure_def,
    Option.some.injEq] at found
  obtain ⟨machineId, header, credential, latest, rfl⟩ := found
  have listed := mem_of_latestBy latest
  simp only [List.mem_filter, Bool.and_eq_true, decide_eq_true_eq] at listed
  obtain ⟨member, ⟨⟨sameType, own⟩, -⟩, -⟩ := listed
  exact ⟨member, sameType, by rw [header, own]⟩

theorem lookUpMachine_of_active {request : IncomingRequest} {credentialType : CredentialType}
    {now : Nat} {store : MachineStore} {machineId : String} {credential : MachineCredentialRow}
    (own : request.machineId = some machineId)
    (active : store.getActiveCredential credentialType machineId now = some credential) :
    lookUpMachine request credentialType now store =
      some ⟨request, credentialType, credential⟩ := by
  simp [lookUpMachine, own, active]

section Steps

variable [Crypto]

/-- A step changes the credentials as `CredentialChange` says, and keeps every nonce. -/
theorem MachineEvent.after_changes (event : MachineEvent) (state : MachineState) :
    CredentialChange state.store (event.after state).store ∧
      ∀ row ∈ state.store.nonces, row ∈ (event.after state).store.nonces := by
  have idle : CredentialChange state.store state.store ∧
      ∀ row ∈ state.store.nonces, row ∈ state.store.nonces :=
    ⟨.none rfl, fun _ member => member⟩
  have issued (row : MachineCredentialRow) :
      CredentialChange state.store (state.store.issue row) ∧
        ∀ other ∈ state.store.nonces, other ∈ (state.store.issue row).nonces :=
    ⟨.of_issue row _, fun _ member => by simpa using member⟩
  cases event with
  | createServerCredential => exact issued _
  | createRuntimeCredential => exact issued _
  | createChannelWorkerCredential =>
      simp only [MachineEvent.after, MachineStore.createChannelWorkerCredential]
      split
      · exact idle
      · exact issued _
  | sign => exact idle
  | lookUp request credentialType now =>
      simp only [MachineEvent.after]
      split
      · exact idle
      · exact idle
  | authenticate index now =>
      simp only [MachineEvent.after]
      split
      · rename_i lookup _
        have keeps := authenticateMachine_keeps lookup now state.store
        exact ⟨.none keeps.1, keeps.2⟩
      · exact idle

/-- The keys of the credentials are unique, and what was looked up is in the tables. -/
structure MachineState.Sound (state : MachineState) : Prop where
  keys : Keyed (fun row : MachineCredentialRow => (row.credentialType, row.keyHash))
    state.store.credentials
  lookups : ∀ lookup ∈ state.lookups,
    lookup.credential.credentialType = lookup.credentialType ∧
      lookup.request.machineId = some lookup.credential.machineId ∧
      state.store.Knows lookup.credential

theorem MachineState.Sound.step {state : MachineState} (sound : state.Sound)
    (event : MachineEvent) : (event.after state).Sound := by
  obtain ⟨change, -⟩ := event.after_changes state
  refine ⟨change.keys sound.keys, ?_⟩
  intro lookup member
  have old (listed : lookup ∈ state.lookups) :
      lookup.credential.credentialType = lookup.credentialType ∧
        lookup.request.machineId = some lookup.credential.machineId ∧
        (event.after state).store.Knows lookup.credential := by
    obtain ⟨sameType, own, known⟩ := sound.lookups lookup listed
    exact ⟨sameType, own, change.knows known⟩
  cases event with
  | createServerCredential => exact old member
  | createRuntimeCredential => exact old member
  | createChannelWorkerCredential => exact old member
  | sign => exact old member
  | lookUp request credentialType now =>
      cases found : lookUpMachine request credentialType now state.store with
      | none =>
          simp only [MachineEvent.after, found] at member
          exact old member
      | some new =>
          simp only [MachineEvent.after, found, List.mem_append, List.mem_singleton] at member
          rcases member with listed | rfl
          · exact old listed
          · obtain ⟨credentialMem, sameType, own⟩ := lookUpMachine_eq_some found
            exact ⟨sameType, own, change.knows (List.mem_map_of_mem credentialMem)⟩
  | authenticate index now =>
      simp only [MachineEvent.after] at member
      split at member
      · exact old (List.mem_of_mem_eraseIdx member)
      · exact old member

/-! ### Runs -/

/-- Every accepted request has left its nonce in the tables, under a credential that they
know. -/
structure MachineState.Remembers (history : List (Transition MachineState MachineEvent))
    (state : MachineState) : Prop where
  sound : state.Sound
  accepted : ∀ transition ∈ history, ∀ lookup now, Honours transition lookup now →
    lookup.credential.credentialType = lookup.credentialType ∧
      state.store.Knows lookup.credential ∧
      ∃ nonce, lookup.request.nonce = some nonce ∧
        state.store.nonceClaimed lookup.credentialType lookup.credential.id nonce.val = true

theorem machine_requests_remembered {history : List (Transition MachineState MachineEvent)}
    {state : MachineState} (run : Run machineRequests history state) :
    state.Remembers history := by
  apply run.history_invariant fun history state => state.Remembers history
  · intro state ⟨credentials, _, lookups⟩
    refine ⟨⟨?_, ?_⟩, ?_⟩
    · simp [Keyed, credentials]
    · simp [lookups]
    · simp
  · intro history before event after _ remembers taken
    subst taken
    obtain ⟨change, kept⟩ := event.after_changes before
    refine ⟨remembers.sound.step event, ?_⟩
    intro transition member lookup now honoured
    rcases List.mem_cons.mp member with rfl | earlier
    · -- The request of this step: its nonce is claimed by the step.
      obtain ⟨index, label, found, accepted⟩ := honoured
      obtain ⟨sameType, -, known⟩ :=
        remembers.sound.lookups lookup (List.mem_of_getElem? found)
      obtain ⟨timestamp, nonce, -, named, -, -, claimed⟩ := authenticateMachine_accepts accepted
      refine ⟨sameType, change.knows known, nonce, named, ?_⟩
      simp only at label found
      simp only [label, MachineEvent.after, found]
      exact claimed
    · obtain ⟨sameType, known, nonce, named, claimed⟩ :=
        remembers.accepted transition earlier lookup now honoured
      exact ⟨sameType, change.knows known, nonce, named,
        MachineStore.nonceClaimed_mono kept claimed⟩

/-- If a step decides a request with a signature that is right under the key of a credential,
a holder of that key has signed the text before. -/
def MadeByHolder (earlier : List (Transition MachineState MachineEvent))
    (transition : Transition MachineState MachineEvent) : Prop :=
  ∀ index now lookup, transition.label = .authenticate index now →
    transition.before.lookups[index]? = some lookup →
    ∀ signature, lookup.request.signature = some signature →
    ∀ credential ∈ transition.before.store.credentials, ∀ text,
      Crypto.base64url signature = Crypto.hmacSha256 credential.keyHash text →
        ∃ signing ∈ earlier, ∃ request, signing.label = .sign credential.keyHash request ∧
          machineCanonical request = text

/-- Nobody but a holder of a key makes signatures under it. -/
def Unforged (history : List (Transition MachineState MachineEvent)) : Prop :=
  ∀ later transition earlier, history = later ++ transition :: earlier →
    MadeByHolder earlier transition

theorem Unforged.cons {history : List (Transition MachineState MachineEvent)}
    {transition : Transition MachineState MachineEvent} (unforged : Unforged history)
    (made : MadeByHolder history transition) : Unforged (transition :: history) := by
  intro later last earlier split
  cases later with
  | nil =>
      obtain ⟨rfl, rfl⟩ := List.cons.inj split
      exact made
  | cons first later => exact unforged later last earlier (List.cons.inj split).2

/-- The condition is about decisions alone. -/
theorem MadeByHolder.of_label {earlier : List (Transition MachineState MachineEvent)}
    {transition : Transition MachineState MachineEvent}
    (other : ∀ index now, transition.label ≠ .authenticate index now) :
    MadeByHolder earlier transition :=
  fun index now _ label => absurd label (other index now)

/-- No signed body and received body have the same digest and are different. -/
def CollisionFree (history : List (Transition MachineState MachineEvent)) : Prop :=
  ∀ signing ∈ history, ∀ keyHash signed, signing.label = .sign keyHash signed →
    ∀ transition ∈ history, ∀ lookup ∈ transition.before.lookups,
      bodyHash signed.body = bodyHash lookup.request.body → signed.body = lookup.request.body

end Steps

/-! ### A rotated credential -/

section Sample

/-- The key of the first credential of a server. -/
def sampleFirstKey : String :=
  "6629d5da3b40ca58c040b6c18fa237861c1c752cdbf20a2f9e4eb2e0616ac831"

/-- The key of its second credential. -/
def sampleSecondKey : String :=
  "692acc6ca594e786337cc65b5d408750bc8a76bff39ea7c1f168876e7c3f9773"

/-- The digests and signatures that the sample requests need, as the real functions give
them. -/
@[reducible] def Crypto.sample : Crypto where
  hmacSha256 key text :=
    if text = "POST\n/api/internal/control-plane/leases\n1763420000000\nnonce_0123456789\n" ++
        "44136fa355b3678a1146ad16f7e8649e94fb4fc21fe77e8310c060f61caaff8a" then
      if key = sampleFirstKey then
        [237, 116, 138, 208, 241, 233, 64, 91, 1, 70, 164, 205, 98, 105, 246, 122, 166, 3, 55,
          55, 254, 47, 254, 136, 77, 47, 247, 116, 231, 233, 132, 254]
      else if key = sampleSecondKey then
        [89, 211, 20, 92, 253, 156, 132, 158, 92, 51, 14, 248, 15, 87, 212, 48, 145, 120, 234,
          167, 40, 131, 109, 153, 59, 184, 59, 236, 203, 159, 217, 141]
      else []
    else []
  base64url signature :=
    if signature = "7XSK0PHpQFsBRqTNYmn2eqYDNzf-L_6ITS_3dOfphP4" then
      [237, 116, 138, 208, 241, 233, 64, 91, 1, 70, 164, 205, 98, 105, 246, 122, 166, 3, 55,
        55, 254, 47, 254, 136, 77, 47, 247, 116, 231, 233, 132, 254]
    else
      [89, 211, 20, 92, 253, 156, 132, 158, 92, 51, 14, 248, 15, 87, 212, 48, 145, 120, 234,
        167, 40, 131, 109, 153, 59, 184, 59, 236, 203, 159, 217, 141]
  number text := if text = "1763420000000" then some 1763420000000 else none

attribute [local instance] Crypto.sample

/-- A request for leases, as its sender signs it. -/
def sampleSigned : MachineRequest :=
  { method := ⟨"POST", by decide⟩, capitals := by decide
    path := ⟨"/api/internal/control-plane/leases", by decide⟩
    timestamp := ⟨"1763420000000", by decide⟩, nonce := ⟨"nonce_0123456789", by decide⟩
    body := "{}" }

/-- The request with a signature. -/
def sampleIncoming (signature : String) : IncomingRequest :=
  { method := sampleSigned.method, capitals := sampleSigned.capitals, path := sampleSigned.path
    body := "{}", machineId := some "server-1", timestamp := some sampleSigned.timestamp
    nonce := some sampleSigned.nonce, signature := some signature }

/-- The lookup of the request under a credential of the server. -/
def sampleLookup (id key signature : String) (createdAt : Nat) : MachineLookup :=
  { request := sampleIncoming signature, credentialType := .server
    credential :=
      { credentialType := .server, id := id, holder := "server-1", machineId := "server-1"
        organizationId := none, keyHash := key, status := .active, expiresAt := none
        createdAt := createdAt } }

/-- The lookup under the first credential. -/
def sampleFirstLookup : MachineLookup :=
  sampleLookup "credential-1" sampleFirstKey "7XSK0PHpQFsBRqTNYmn2eqYDNzf-L_6ITS_3dOfphP4"
    1763420000000000

/-- The lookup under the second one. -/
def sampleSecondLookup : MachineLookup :=
  sampleLookup "credential-2" sampleSecondKey "WdMUXP2chJ5cMw74D1fUMJF46qcog22ZO7g77Muf2Y0"
    1763420001000000

/-- The nonce that the first request claims. -/
def sampleNonce : MachineNonceRow :=
  { credentialType := .server, credentialId := "credential-1", nonce := "nonce_0123456789"
    timestampMs := 1763420000000, expiresAt := 1763420600000 }

/-- The tables before the first request is decided. -/
def sampleBefore : MachineState :=
  { store := { credentials := [sampleFirstLookup.credential], nonces := [] }
    lookups := [sampleFirstLookup] }

/-- The tables before the second request is decided. -/
def sampleAfter : MachineState :=
  { store :=
      { credentials :=
          [{ sampleFirstLookup.credential with status := .revoked },
            sampleSecondLookup.credential]
        nonces := [sampleNonce] }
    lookups := [sampleSecondLookup] }

/-- The steps up to the first decision, the latest first. -/
def sampleEarlier : List (Transition MachineState MachineEvent) :=
  [⟨⟨sampleBefore.store, []⟩,
      .lookUp sampleFirstLookup.request .server 1763420000100000, sampleBefore⟩,
    ⟨⟨sampleBefore.store, []⟩, .sign sampleFirstKey sampleSigned, ⟨sampleBefore.store, []⟩⟩,
    ⟨⟨⟨[], []⟩, []⟩,
      .createServerCredential "credential-1" "server-1" sampleFirstKey none 1763420000000000,
      ⟨sampleBefore.store, []⟩⟩]

/-- The first decision. -/
def sampleFirst : Transition MachineState MachineEvent :=
  ⟨sampleBefore, .authenticate 0 1763420000100,
    ⟨⟨[sampleFirstLookup.credential], [sampleNonce]⟩, []⟩⟩

/-- The steps up to the second decision. -/
def sampleBetween : List (Transition MachineState MachineEvent) :=
  [⟨⟨sampleAfter.store, []⟩,
      .lookUp sampleSecondLookup.request .server 1763420002000000, sampleAfter⟩,
    ⟨⟨sampleAfter.store, []⟩, .sign sampleSecondKey sampleSigned, ⟨sampleAfter.store, []⟩⟩,
    ⟨sampleFirst.after,
      .createServerCredential "credential-2" "server-1" sampleSecondKey none 1763420001000000,
      ⟨sampleAfter.store, []⟩⟩]

/-- The second decision. -/
def sampleSecond : Transition MachineState MachineEvent :=
  ⟨sampleAfter, .authenticate 0 1763420002000,
    (MachineEvent.authenticate 0 1763420002000).after sampleAfter⟩

/-- Both requests, the credentials that they are looked up under, and what the sender signs. The
sample is evaluated once. -/
theorem sample_evaluates :
    (authenticateMachine sampleFirstLookup 1763420000100 sampleBefore.store =
        (true, ⟨[sampleFirstLookup.credential], [sampleNonce]⟩) ∧
      (authenticateMachine sampleSecondLookup 1763420002000 sampleAfter.store).1 = true) ∧
    (MachineStore.createServerCredential "credential-1" "server-1" sampleFirstKey none
        1763420000000000 ⟨[], []⟩ = sampleBefore.store ∧
      sampleBefore.store.getActiveCredential .server "server-1" 1763420000100000 =
        some sampleFirstLookup.credential) ∧
    (MachineStore.createServerCredential "credential-2" "server-1" sampleSecondKey none
        1763420001000000 sampleFirst.after.store = sampleAfter.store ∧
      sampleAfter.store.getActiveCredential .server "server-1" 1763420002000000 =
        some sampleSecondLookup.credential) ∧
    machineCanonical sampleSigned =
      "POST\n/api/internal/control-plane/leases\n1763420000000\nnonce_0123456789\n" ++
        "44136fa355b3678a1146ad16f7e8649e94fb4fc21fe77e8310c060f61caaff8a" ∧
    Crypto.base64url "WdMUXP2chJ5cMw74D1fUMJF46qcog22ZO7g77Muf2Y0" ≠
      Crypto.hmacSha256 sampleFirstKey
        ("POST\n/api/internal/control-plane/leases\n1763420000000\nnonce_0123456789\n" ++
          "44136fa355b3678a1146ad16f7e8649e94fb4fc21fe77e8310c060f61caaff8a") := by
  decide +kernel

theorem sampleFirst_accepted :
    authenticateMachine sampleFirstLookup 1763420000100 sampleBefore.store =
      (true, ⟨[sampleFirstLookup.credential], [sampleNonce]⟩) :=
  sample_evaluates.1.1

theorem sampleSecond_accepted :
    (authenticateMachine sampleSecondLookup 1763420002000 sampleAfter.store).1 = true :=
  sample_evaluates.1.2

theorem sampleEarlier_run : Run machineRequests sampleEarlier sampleBefore := by
  apply Run.step
  · apply Run.step
    · apply Run.step
      · exact Run.start ⟨rfl, rfl, rfl⟩
      · have stored : MachineStore.createServerCredential "credential-1" "server-1"
            sampleFirstKey none 1763420000000000 ⟨[], []⟩ = sampleBefore.store :=
          sample_evaluates.2.1.1
        simp only [machineRequests, MachineEvent.after, stored]
    · rfl
  · have active : sampleBefore.store.getActiveCredential .server "server-1" 1763420000100000 =
        some sampleFirstLookup.credential :=
      sample_evaluates.2.1.2
    have found : lookUpMachine sampleFirstLookup.request .server 1763420000100000
        sampleBefore.store = some sampleFirstLookup :=
      lookUpMachine_of_active rfl active
    simp only [machineRequests, MachineEvent.after, found]
    rfl

theorem sampleFirst_run : Run machineRequests (sampleFirst :: sampleEarlier) sampleFirst.after := by
  apply Run.step sampleEarlier_run
  have decided := congrArg Prod.snd sampleFirst_accepted
  have found : sampleBefore.lookups[0]? = some sampleFirstLookup := rfl
  simp only [machineRequests, MachineEvent.after, found, decided]
  rfl

theorem sampleBetween_run :
    Run machineRequests (sampleBetween ++ sampleFirst :: sampleEarlier) sampleAfter := by
  apply Run.step
  · apply Run.step
    · apply Run.step sampleFirst_run
      have stored : MachineStore.createServerCredential "credential-2" "server-1"
          sampleSecondKey none 1763420001000000 sampleFirst.after.store = sampleAfter.store :=
        sample_evaluates.2.2.1.1
      simp only [machineRequests, MachineEvent.after, stored]
      rfl
    · rfl
  · have active : sampleAfter.store.getActiveCredential .server "server-1" 1763420002000000 =
        some sampleSecondLookup.credential :=
      sample_evaluates.2.2.1.2
    have found : lookUpMachine sampleSecondLookup.request .server 1763420002000000
        sampleAfter.store = some sampleSecondLookup :=
      lookUpMachine_of_active rfl active
    simp only [machineRequests, MachineEvent.after, found]
    rfl

theorem sample_run :
    Run machineRequests (sampleSecond :: (sampleBetween ++ sampleFirst :: sampleEarlier))
      sampleSecond.after :=
  Run.step sampleBetween_run rfl

theorem sampleFirst_honours : Honours sampleFirst sampleFirstLookup 1763420000100 :=
  ⟨0, rfl, rfl, congrArg Prod.fst sampleFirst_accepted⟩

theorem sampleSecond_honours : Honours sampleSecond sampleSecondLookup 1763420002000 :=
  ⟨0, rfl, rfl, sampleSecond_accepted⟩

theorem sampleSigned_canonical : machineCanonical sampleSigned =
    "POST\n/api/internal/control-plane/leases\n1763420000000\nnonce_0123456789\n" ++
      "44136fa355b3678a1146ad16f7e8649e94fb4fc21fe77e8310c060f61caaff8a" :=
  sample_evaluates.2.2.2.1

/-- The sample signatures are right for no other text. -/
theorem sample_right {signature key text : String}
    (right : Crypto.base64url signature = Crypto.hmacSha256 key text) :
    machineCanonical sampleSigned = text := by
  rw [sampleSigned_canonical]
  by_cases same : text =
      "POST\n/api/internal/control-plane/leases\n1763420000000\nnonce_0123456789\n" ++
        "44136fa355b3678a1146ad16f7e8649e94fb4fc21fe77e8310c060f61caaff8a"
  · exact same.symm
  · simp only [Crypto.hmacSha256, Crypto.base64url, if_neg same] at right
    split at right <;> cases right

/-- The second signature is wrong under the first key. -/
theorem sample_wrong (text : String) :
    Crypto.base64url "WdMUXP2chJ5cMw74D1fUMJF46qcog22ZO7g77Muf2Y0" ≠
      Crypto.hmacSha256 sampleFirstKey text := by
  intro right
  have text := sample_right right
  rw [← text, sampleSigned_canonical] at right
  exact sample_evaluates.2.2.2.2 right

/-- The texts that the sample signatures are right for were signed. -/
theorem sample_unforged :
    Unforged (sampleSecond :: (sampleBetween ++ sampleFirst :: sampleEarlier)) := by
  have earlier : Unforged sampleEarlier := by
    apply Unforged.cons
    · apply Unforged.cons
      · apply Unforged.cons
        · intro later transition earlier split
          simp at split
        · exact .of_label fun _ _ => nofun
      · exact .of_label fun _ _ => nofun
    · exact .of_label fun _ _ => nofun
  have first : Unforged (sampleFirst :: sampleEarlier) := by
    apply earlier.cons
    intro index now lookup label found signature signed credential member text right
    obtain rfl : credential = sampleFirstLookup.credential := List.mem_singleton.mp member
    exact ⟨_, List.mem_cons_of_mem _ List.mem_cons_self, sampleSigned, rfl, sample_right right⟩
  have between : Unforged (sampleBetween ++ sampleFirst :: sampleEarlier) := by
    apply Unforged.cons
    · apply Unforged.cons
      · apply Unforged.cons first
        exact .of_label fun _ _ => nofun
      · exact .of_label fun _ _ => nofun
    · exact .of_label fun _ _ => nofun
  apply between.cons
  intro index now lookup label found signature signed credential member text right
  obtain ⟨rfl, -⟩ : 0 = index ∧ 1763420002000 = now := by simpa [sampleSecond] using label
  obtain rfl : sampleSecondLookup = lookup := Option.some.inj found
  obtain rfl : "WdMUXP2chJ5cMw74D1fUMJF46qcog22ZO7g77Muf2Y0" = signature :=
    Option.some.inj signed
  rcases List.mem_cons.mp member with rfl | second
  · exact absurd right (sample_wrong text)
  · obtain rfl := List.mem_singleton.mp second
    exact ⟨_, List.mem_cons_of_mem _ List.mem_cons_self, sampleSigned, rfl, sample_right right⟩

/-- All bodies of the sample requests are the same. -/
theorem sample_collisionFree :
    CollisionFree (sampleSecond :: (sampleBetween ++ sampleFirst :: sampleEarlier)) := by
  have signedBody : ∀ signing ∈ sampleSecond :: (sampleBetween ++ sampleFirst :: sampleEarlier),
      ∀ keyHash signed, signing.label = .sign keyHash signed → signed.body = "{}" := by
    intro signing member keyHash signed label
    simp only [sampleBetween, sampleEarlier, List.cons_append, List.nil_append, List.mem_cons,
      List.not_mem_nil, or_false] at member
    rcases member with rfl | rfl | rfl | rfl | rfl | rfl | rfl | rfl <;> cases label <;> rfl
  have lookupBody : ∀ transition ∈ sampleSecond :: (sampleBetween ++ sampleFirst :: sampleEarlier),
      ∀ lookup ∈ transition.before.lookups, lookup.request.body = "{}" := by
    intro transition member lookup listed
    simp only [sampleBetween, sampleEarlier, List.cons_append, List.nil_append, List.mem_cons,
      List.not_mem_nil, or_false] at member
    rcases member with rfl | rfl | rfl | rfl | rfl | rfl | rfl | rfl <;>
      simp [sampleSecond, sampleAfter, sampleFirst, sampleBefore] at listed <;>
      rw [listed] <;> rfl
  intro signing signingMem keyHash signed label transition transitionMem lookup listed _
  rw [signedBody signing signingMem keyHash signed label,
    lookupBody transition transitionMem lookup listed]

end Sample

end BairuiPlatform
