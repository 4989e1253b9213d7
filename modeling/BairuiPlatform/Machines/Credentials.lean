/-
Module: BairuiPlatform.Machines.Credentials
Purpose: The credentials and nonces of machines in PostgresPlatformRepository, and the check
  of packages/security/machine-request.mjs on a signed request.
Trusted boundary: HMAC-SHA-256, base64url and the conversion Number are parameters
Main exports: MachineRequest, machineCanonical, machineCanonical_injective,
  verifyMachineRequest, MachineStore, authenticateMachine
-/
import BairuiPlatform.Foundations.Table
import BairuiPlatform.Policy
import Mathlib.Data.List.Basic

namespace BairuiPlatform

open Foundations

/-! ### Signed requests -/

/-- A text that fits on one line of a request. -/
abbrev Line := { text : String // '\n' ∉ text.toList }

/-- `toUpperCase`, which changes only ASCII letters in a method. -/
def toUpperCase (text : String) : String :=
  String.ofList ((chars text).map Char.toUpper)

/-- What the signature of a request covers: components that a route can be called with. The
method is a token of HTTP, in capitals. -/
structure MachineRequest where
  method : Line
  capitals : toUpperCase method.val = method.val
  path : Line
  timestamp : Line
  nonce : Line
  body : String

@[ext] theorem MachineRequest.ext {first second : MachineRequest}
    (method : first.method = second.method) (path : first.path = second.path)
    (timestamp : first.timestamp = second.timestamp) (nonce : first.nonce = second.nonce)
    (body : first.body = second.body) : first = second := by
  cases first
  cases second
  simp_all

/-- `createHash("sha256").update(body).digest("hex")`. -/
def bodyHash (body : String) : String :=
  sha256 (chars body)

/-- `machineCanonical`. -/
def machineCanonical (request : MachineRequest) : String :=
  toUpperCase request.method.val ++ "\n" ++ request.path.val ++ "\n" ++ request.timestamp.val ++
    "\n" ++ request.nonce.val ++ "\n" ++ bodyHash request.body

/-- The first lines of two equal texts are equal, and so are the rests. -/
theorem line_append_inj {first second : Line} {rest others : String}
    (same : first.val ++ ("\n" ++ rest) = second.val ++ ("\n" ++ others)) :
    first = second ∧ rest = others := by
  obtain ⟨line, lineProper⟩ := first
  obtain ⟨other, otherProper⟩ := second
  have letters := congrArg String.toList same
  simp only [String.toList_append] at letters
  have newline : "\n".toList = ['\n'] := rfl
  rw [newline, List.singleton_append, List.singleton_append] at letters
  rcases List.append_eq_append_iff.mp letters with ⟨middle, left, right⟩ | ⟨middle, left, right⟩
  · cases middle with
    | nil =>
        rw [List.append_nil] at left
        exact ⟨Subtype.ext (String.toList_inj.mp left.symm),
          String.toList_inj.mp (List.cons.inj right).2⟩
    | cons c middle =>
        -- The newline would lie inside the longer line.
        have inside : '\n' ∈ line.toList ++ c :: middle := by
          rw [(List.cons.inj right).1]
          exact List.mem_append_right _ List.mem_cons_self
        exact absurd (left ▸ inside) otherProper
  · cases middle with
    | nil =>
        rw [List.append_nil] at left
        exact ⟨Subtype.ext (String.toList_inj.mp left),
          String.toList_inj.mp (List.cons.inj right).2.symm⟩
    | cons c middle =>
        have inside : '\n' ∈ other.toList ++ c :: middle := by
          rw [(List.cons.inj right).1]
          exact List.mem_append_right _ List.mem_cons_self
        exact absurd (left ▸ inside) lineProper

/-- Requests with the same canonical form are equal, unless their bodies collide. -/
theorem machineCanonical_injective {first second : MachineRequest}
    (collisionFree : bodyHash first.body = bodyHash second.body → first.body = second.body)
    (same : machineCanonical first = machineCanonical second) : first = second := by
  simp only [machineCanonical, first.capitals, second.capitals, String.append_assoc] at same
  obtain ⟨method, same⟩ := line_append_inj same
  obtain ⟨path, same⟩ := line_append_inj same
  obtain ⟨timestamp, same⟩ := line_append_inj same
  obtain ⟨nonce, same⟩ := line_append_inj same
  exact MachineRequest.ext method path timestamp nonce (collisionFree same)

/-! ### The check of a signature -/

/-- What the runtime of the server supplies: `hmacSha256 key text` is the digest under a key
in hexadecimal, `base64url` the bytes of a signature, and `number` is `Number(text)` where
that is a safe integer. -/
class Crypto where
  hmacSha256 : String → String → List Nat
  base64url : String → List Nat
  number : String → Option Int

/-- `MAX_CLOCK_SKEW_MS`. -/
def maxClockSkewMs : Nat := 5 * 60000

/-- `/^[A-Za-z0-9_-]{low,128}$/.test(text)`. -/
def isKeyText (low : Nat) (text : String) : Bool :=
  low ≤ (chars text).length && (chars text).length ≤ 128 && (chars text).all isKeyChar

/-- `/^[0-9a-f]{64}$/.test(keyHash)`. -/
def isKeyHash (keyHash : String) : Bool :=
  (chars keyHash).length == 64 && (chars keyHash).all isHexDigit

/-- A request as the server receives it, with the headers that the check reads. -/
structure IncomingRequest where
  method : Line
  capitals : toUpperCase method.val = method.val
  path : Line
  body : String
  machineId : Option String
  timestamp : Option Line
  nonce : Option Line
  signature : Option String

/-- The components of a received request that a signature covers, given the two headers. -/
def IncomingRequest.signed (request : IncomingRequest) (timestamp nonce : Line) :
    MachineRequest :=
  { method := request.method, capitals := request.capitals, path := request.path
    timestamp := timestamp, nonce := nonce, body := request.body }

/-- `verifyMachineRequest`, at a time in milliseconds. -/
def verifyMachineRequest [Crypto] (request : IncomingRequest) (keyHash : String) (now : Nat) :
    Bool :=
  match request.timestamp, request.nonce, request.signature with
  | some timestamp, some nonce, some signature =>
      match Crypto.number timestamp.val with
      | some timestampMs =>
          decide ((now - timestampMs : Int).natAbs ≤ maxClockSkewMs) &&
            isKeyText 16 nonce.val && isKeyText 32 signature && isKeyHash keyHash &&
            Crypto.base64url signature ==
              Crypto.hmacSha256 keyHash (machineCanonical (request.signed timestamp nonce))
      | none => false
  | _, _, _ => false

/-! ### The tables -/

/-- The values that `machine_request_nonces.credential_type` admits. -/
inductive CredentialType where
  | server
  | agentRuntime
  | channelWorker
deriving Repr, DecidableEq

/-- The states of a credential. -/
inductive CredentialStatus where
  | active
  | rotating
  | revoked
  | expired
deriving Repr, DecidableEq

/-- A row of `server_credentials`, `agent_runtime_credentials` or
`channel_worker_credentials`. The holder is the server, the runtime or the worker. -/
structure MachineCredentialRow where
  credentialType : CredentialType
  id : String
  holder : String
  machineId : String
  organizationId : Option String
  keyHash : String
  status : CredentialStatus
  expiresAt : Option Nat
  createdAt : Nat
deriving Repr, DecidableEq

/-- `machine_request_nonces`. -/
structure MachineNonceRow where
  credentialType : CredentialType
  credentialId : String
  nonce : String
  timestampMs : Int
  expiresAt : Int
deriving Repr, DecidableEq

/-- The tables that authenticate machines. -/
structure MachineStore where
  credentials : List MachineCredentialRow
  nonces : List MachineNonceRow
deriving Repr, DecidableEq

namespace MachineStore

/-- A new credential takes the place of the active ones of its holder. The primary key and
the unique column `key_hash` reject a row that repeats them. -/
def issue (row : MachineCredentialRow) (store : MachineStore) : MachineStore :=
  if store.credentials.any fun other =>
      other.credentialType = row.credentialType &&
        (other.id = row.id || other.keyHash = row.keyHash) then
    store
  else
    { store with
      credentials :=
        updateWhere
          (fun other => other.credentialType = row.credentialType &&
            other.holder = row.holder && other.status = .active)
          (fun other => { other with status := .revoked }) store.credentials ++ [row] }

/-- `createServerCredential`. -/
def createServerCredential (id serverId keyHash : String) (expiresAt : Option Nat) (now : Nat) :
    MachineStore → MachineStore :=
  issue
    { credentialType := .server, id := id, holder := serverId, machineId := serverId
      organizationId := none, keyHash := keyHash, status := .active, expiresAt := expiresAt
      createdAt := now }

/-- The statements of `requestAgentProvisioning` that give a runtime its credential. -/
def createRuntimeCredential (id organizationId runtimeId agentId keyHash : String) (now : Nat) :
    MachineStore → MachineStore :=
  issue
    { credentialType := .agentRuntime, id := id, holder := runtimeId, machineId := agentId
      organizationId := some organizationId, keyHash := keyHash, status := .active
      expiresAt := none, createdAt := now }

/-- `createChannelWorkerCredential`, which keeps an active credential with the same key. -/
def createChannelWorkerCredential (id workerId : String) (organizationId : Option String)
    (keyHash : String) (expiresAt : Option Nat) (now : Nat) (store : MachineStore) :
    MachineStore :=
  let current := store.credentials.find? fun row =>
    row.credentialType = .channelWorker && row.holder = workerId && row.status = .active
  if current.any fun row => row.keyHash = keyHash && row.organizationId = organizationId then
    store
  else
    store.issue
      { credentialType := .channelWorker, id := id, holder := workerId, machineId := workerId
        organizationId := organizationId, keyHash := keyHash, status := .active
        expiresAt := expiresAt, createdAt := now }

/-- `getActiveServerCredential`, `getActiveAgentRuntimeCredential` and
`getActiveChannelWorkerCredential`, at a time of the database. -/
def getActiveCredential (credentialType : CredentialType) (machineId : String) (now : Nat)
    (store : MachineStore) : Option MachineCredentialRow :=
  latestBy MachineCredentialRow.createdAt
    (store.credentials.filter fun row =>
      row.credentialType = credentialType && row.machineId = machineId &&
        row.status = .active && row.expiresAt.all fun expiresAt => now < expiresAt)

/-- The primary key of a nonce is taken. -/
def nonceClaimed (credentialType : CredentialType) (credentialId nonce : String)
    (store : MachineStore) : Bool :=
  store.nonces.any fun row =>
    row.credentialType = credentialType && row.credentialId = credentialId && row.nonce = nonce

/-- `claimMachineNonce`: whether a row was inserted, and the tables after it. -/
def claimMachineNonce (row : MachineNonceRow) (store : MachineStore) : Bool × MachineStore :=
  if store.nonceClaimed row.credentialType row.credentialId row.nonce then (false, store)
  else (true, { store with nonces := store.nonces ++ [row] })

end MachineStore

/-! ### `authenticateMachine` -/

/-- A request whose credential has been looked up. -/
structure MachineLookup where
  request : IncomingRequest
  credentialType : CredentialType
  credential : MachineCredentialRow

/-- The first query of `authenticateMachine`. -/
def lookUpMachine (request : IncomingRequest) (credentialType : CredentialType) (now : Nat)
    (store : MachineStore) : Option MachineLookup := do
  let machineId ← request.machineId
  let credential ← store.getActiveCredential credentialType machineId now
  return { request := request, credentialType := credentialType, credential := credential }

/-- The rest of `authenticateMachine`: the check of the signature and the claim of the
nonce. -/
def authenticateMachine [Crypto] (lookup : MachineLookup) (now : Nat) (store : MachineStore) :
    Bool × MachineStore :=
  match lookup.request.timestamp, lookup.request.nonce with
  | some timestamp, some nonce =>
      match Crypto.number timestamp.val with
      | some timestampMs =>
          if verifyMachineRequest lookup.request lookup.credential.keyHash now then
            store.claimMachineNonce
              { credentialType := lookup.credentialType, credentialId := lookup.credential.id
                nonce := nonce.val, timestampMs := timestampMs
                expiresAt := timestampMs + 10 * 60000 }
          else (false, store)
      | none => (false, store)
  | _, _ => (false, store)

section Checks

variable [Crypto]

/-- A request that passes the check has a signature of its canonical form. -/
theorem verifyMachineRequest_signed {request : IncomingRequest} {keyHash : String} {now : Nat}
    {timestamp nonce : Line} (stamped : request.timestamp = some timestamp)
    (named : request.nonce = some nonce)
    (verified : verifyMachineRequest request keyHash now = true) :
    ∃ signature, request.signature = some signature ∧
      Crypto.base64url signature =
        Crypto.hmacSha256 keyHash (machineCanonical (request.signed timestamp nonce)) := by
  simp only [verifyMachineRequest, stamped, named] at verified
  cases signed : request.signature with
  | none => simp [signed] at verified
  | some signature =>
      simp only [signed] at verified
      cases number : Crypto.number timestamp.val with
      | none => simp [number] at verified
      | some timestampMs =>
          simp only [number, Bool.and_eq_true, beq_iff_eq] at verified
          exact ⟨signature, rfl, verified.2⟩

/-- What `authenticateMachine` accepts passes the check and claims a nonce that nobody
claimed before. -/
theorem authenticateMachine_accepts {lookup : MachineLookup} {now : Nat} {store : MachineStore}
    (accepted : (authenticateMachine lookup now store).1 = true) :
    ∃ timestamp nonce, lookup.request.timestamp = some timestamp ∧
      lookup.request.nonce = some nonce ∧
      verifyMachineRequest lookup.request lookup.credential.keyHash now = true ∧
      store.nonceClaimed lookup.credentialType lookup.credential.id nonce.val = false ∧
      (authenticateMachine lookup now store).2.nonceClaimed lookup.credentialType
        lookup.credential.id nonce.val = true := by
  simp only [authenticateMachine] at accepted ⊢
  cases stamped : lookup.request.timestamp with
  | none => simp [stamped] at accepted
  | some timestamp =>
      cases named : lookup.request.nonce with
      | none => simp [stamped, named] at accepted
      | some nonce =>
          simp only [stamped, named] at accepted ⊢
          cases number : Crypto.number timestamp.val with
          | none => simp [number] at accepted
          | some timestampMs =>
              simp only [number] at accepted ⊢
              split at accepted
              · rename_i verified
                simp only [MachineStore.claimMachineNonce] at accepted ⊢
                split at accepted
                · cases accepted
                · rename_i unclaimed
                  refine ⟨timestamp, nonce, rfl, rfl, verified, by simpa using unclaimed, ?_⟩
                  rw [if_pos verified, if_neg unclaimed]
                  simp [MachineStore.nonceClaimed]
              · cases accepted

/-- The credentials stay, and so do the nonces. -/
theorem authenticateMachine_keeps (lookup : MachineLookup) (now : Nat) (store : MachineStore) :
    (authenticateMachine lookup now store).2.credentials = store.credentials ∧
      ∀ row ∈ store.nonces, row ∈ (authenticateMachine lookup now store).2.nonces := by
  simp only [authenticateMachine, MachineStore.claimMachineNonce]
  split
  · split
    · split
      · split
        · exact ⟨rfl, fun _ member => member⟩
        · exact ⟨rfl, fun _ member => List.mem_append_left _ member⟩
      · exact ⟨rfl, fun _ member => member⟩
    · exact ⟨rfl, fun _ member => member⟩
  · exact ⟨rfl, fun _ member => member⟩

end Checks

end BairuiPlatform
