/-
Module: BairuiPlatform.Supervisor.Envelope
Purpose: The files that the supervisor keeps backups in: how they are written and what is
accepted when they are read.
Trusted boundary: AES-256-GCM, and what Buffer.from makes of values that are no text
Main exports: createBackup, readBackup, readBackup_file, backup_authentic_iff
-/
import BairuiPlatform.Foundations.Base64
import BairuiPlatform.Foundations.Transaction
import BairuiPlatform.JsReader
import BairuiPlatform.Supervisor.Instances

namespace BairuiPlatform.Supervisor

open Foundations

/-- What the cipher makes of bytes: as many bytes, and their tag. -/
structure Sealed (plain : List UInt8) where
  ciphertext : List UInt8
  tag : List UInt8
  covers : ciphertext.length = plain.length
  tagLength : tag.length = 16

/-- What a supervisor calls to seal backups: `createCipheriv` and `createDecipheriv` for
AES-256-GCM, with nothing where the deciphering throws, and `Buffer.from(value, "base64")` of a
value that is no text. -/
class BackupHost where
  Key : Type
  encrypt : Key → List UInt8 → (plain : List UInt8) → Sealed plain
  decrypt : Key → (iv tag ciphertext : List UInt8) → Option (List UInt8)
  bytesOf : JsData → Option (List UInt8)

open BackupHost

/-! ### Writing -/

/-- `new Date().toISOString()`. -/
abbrev IsoInstant := { text : JsText // IsPrintable text ∧ text.length ≤ 27 }

/-- What a backup is made of. -/
structure Archive where
  backupId : JsText
  agentId : JsText
  iv : List UInt8
  createdAt : IsoInstant
  plain : List UInt8
  backupIdentified : isIdentifier backupId = true
  agentIdentified : isIdentifier agentId = true
  ivLength : iv.length = 12

/-- `size.writeUInt32BE(number)`. -/
def uint32 (number : Nat) : List UInt8 :=
  [.ofNat (number / 16777216), .ofNat (number / 65536), .ofNat (number / 256), .ofNat number]

/-- `bytes.toString("base64")`. -/
def base64Text (bytes : List UInt8) : JsText :=
  (Base64.encodePlain bytes).map Char.toNat

/-- `createHash("sha256").update(bytes).digest("hex")`. -/
def digestOfBytes (bytes : List UInt8) : JsText :=
  (chars (sha256Bytes (bytes.map UInt8.toNat))).map Char.toNat

section Files

variable [BackupHost] (key : Key)

/-- What the cipher makes of an archive. -/
def Archive.encrypted (archive : Archive) : Sealed archive.plain :=
  encrypt key archive.iv archive.plain

/-- The fields of the header. -/
def Archive.headerFields (archive : Archive) : List (JsText × JsText) :=
  [(utf16 "schemaVersion", utf16 "1.0"), (utf16 "backupId", archive.backupId),
    (utf16 "agentId", archive.agentId), (utf16 "algorithm", utf16 "aes-256-gcm"),
    (utf16 "iv", base64Text archive.iv), (utf16 "tag", base64Text (archive.encrypted key).tag),
    (utf16 "plaintextSha256", digestOfBytes archive.plain),
    (utf16 "createdAt", archive.createdAt.val)]

def Archive.header (archive : Archive) : List UInt8 :=
  encodeUtf8 (stringifyTexts (archive.headerFields key))

/-- The file of a backup: the length of the header, the header, and what is encrypted. -/
def Archive.file (archive : Archive) : List UInt8 :=
  uint32 (archive.header key).length ++ archive.header key ++ (archive.encrypted key).ciphertext

end Files

/-- A backup command: the identifiers in it. -/
structure BackupCommand where
  argumentAgentId : Option JsData
  placementAgentId : Option JsData
  argumentBackupId : Option JsData
  commandId : Option JsData

/-- What happens around a backup: what `readMetadata`, `assertSafeTree`, `tar` and the writing of
the file throw, the bytes of the archive, the random bytes and the time. -/
structure BackupWorld where
  metadata : Except SupervisorError Unit
  safeTree : Except SupervisorError Unit
  archived : Except SupervisorError (List UInt8)
  iv : { bytes : List UInt8 // bytes.length = 12 }
  now : IsoInstant
  write : Except SupervisorError Unit

/-- What `createBackup` leaves and returns: the file at the path of the backup, and the report. -/
structure CreatedBackup where
  archive : Archive
  output : List UInt8
  evidenceRefs : List JsText

theorem isIdentifier_of_identifier {value : Option JsText} {name : String} {text : JsText}
    (found : identifier value name = .ok text) : isIdentifier text = true := by
  unfold identifier at found
  split at found
  · rename_i other kept
    cases found
    exact (Option.filter_eq_some_iff.mp kept).2
  · cases found

/-- `identifier`, with the proof that the text is one. -/
def identified (value : Option JsText) (name : String) :
    Except SupervisorError { text : JsText // isIdentifier text = true } :=
  match found : identifier value name with
  | .ok text => .ok ⟨text, isIdentifier_of_identifier found⟩
  | .error error => .error error

/-- `commandAgentId`. -/
def BackupCommand.commandAgentId (command : BackupCommand) :
    Except SupervisorError { text : JsText // isIdentifier text = true } :=
  identified ((JsData.orElse command.argumentAgentId command.placementAgentId).bind JsData.text?)
    "agent_id"

def keyUnavailable : SupervisorError :=
  { message := utf16 "Backup encryption key is unavailable", code := "backup_key_unavailable" }

section Calls

variable [BackupHost]

/-- `createBackup`. -/
def createBackup (backupKey : Option Key) (command : BackupCommand) (world : BackupWorld) :
    Except SupervisorError CreatedBackup :=
  match backupKey with
  | none => .error keyUnavailable
  | some key => do
      let agentId ← command.commandAgentId
      world.metadata
      let backupId ← identified
        ((JsData.orElse command.argumentBackupId command.commandId).bind JsData.text?) "backup_id"
      world.safeTree
      let plain ← world.archived
      let archive : Archive :=
        { backupId := backupId.val, agentId := agentId.val, iv := world.iv.val
          createdAt := world.now, plain := plain, backupIdentified := backupId.property
          agentIdentified := agentId.property, ivLength := world.iv.property }
      world.write
      return {
        archive := archive
        output := archive.file key
        evidenceRefs := [utf16 "backup:" ++ backupId.val,
          utf16 "sha256:" ++ digestOfBytes (archive.file key)] }

/-! ### Reading -/

/-- What there is at the path of a backup. -/
inductive BackupFile where
  | missing
  | unreadable (error : SupervisorError)
  | content (input : List UInt8)

def invalidBackup (message : String) : SupervisorError :=
  { message := utf16 message, code := "invalid_backup" }

def identityMismatch : SupervisorError :=
  { message := utf16 "Backup identity validation failed", code := "backup_identity_mismatch" }

def integrityFailed (message : String) : SupervisorError :=
  { message := utf16 message, code := "backup_integrity_failed" }

/-- `input.readUInt32BE(0)`. -/
def readUInt32 (input : List UInt8) : Nat :=
  (input.take 4).foldl (fun number byte => number * 256 + byte.toNat) 0

/-- The header of a file and what stands behind it. -/
def splitEnvelope [NumberReader] (input : List UInt8) :
    Except SupervisorError (JsData × List UInt8) :=
  if input.length < 7 then .error (invalidBackup "Backup envelope is invalid")
  else
    let headerLength := readUInt32 input
    if headerLength < 2 || headerLength > 16384 || input.length ≤ 4 + headerLength then
      .error (invalidBackup "Backup envelope is invalid")
    else
      match JsData.parse (decodeUtf8 ((input.drop 4).take headerLength)) with
      | some header => .ok (header, input.drop (4 + headerLength))
      | none => .error (invalidBackup "Backup header is invalid")

/-- A property of a header that is a text. -/
def textAt (header : JsData) (name : String) : Option JsText :=
  (header.member name).bind JsData.text?

/-- The header is of this version and algorithm and names the backup and the agent. -/
def checkHeader (header : JsData) (backupId expectedAgentId : JsText) :
    Except SupervisorError Unit :=
  match header with
  | .null => .error (typeError "Cannot read properties of null (reading 'schemaVersion')")
  | header =>
      if textAt header "schemaVersion" ≠ some (utf16 "1.0") ||
          textAt header "algorithm" ≠ some (utf16 "aes-256-gcm") ||
          textAt header "backupId" ≠ some backupId then
        .error identityMismatch
      else
        match stringOf (header.member "agentId") with
        | .error error => .error error
        | .ok agentId =>
            if !isIdentifier agentId ||
                expectedAgentId ≠ [] && textAt header "agentId" ≠ some expectedAgentId then
              .error identityMismatch
            else .ok ()

/-- `Buffer.from(value, "base64")`, where it returns. -/
def bufferFrom (value : Option JsData) : Option (List UInt8) :=
  match value with
  | none => none
  | some (.str text) => some (Base64.decode text.characters)
  | some value => bytesOf value

/-- What is deciphered with the initialization vector and the tag of a header. -/
def decipher (key : Key) (header : JsData) (ciphertext : List UInt8) : Option (List UInt8) := do
  let iv ← bufferFrom (header.member "iv")
  let tag ← bufferFrom (header.member "tag")
  decrypt key iv tag ciphertext

/-- What `readBackup` returns. -/
structure OpenedBackup where
  input : List UInt8
  header : JsData
  plain : List UInt8
  digest : JsText

/-- `readBackup`, after the file was read. -/
def readContent [NumberReader] (key : Key) (input : List UInt8)
    (backupId expectedAgentId : JsText) : Except SupervisorError OpenedBackup := do
  let envelope ← splitEnvelope input
  checkHeader envelope.1 backupId expectedAgentId
  match decipher key envelope.1 envelope.2 with
  | none => .error (integrityFailed "Backup decryption failed")
  | some plain =>
      if textAt envelope.1 "plaintextSha256" ≠ some (digestOfBytes plain) then
        .error (integrityFailed "Backup integrity verification failed")
      else
        return { input := input, header := envelope.1, plain := plain
                 digest := digestOfBytes plain }

/-- `readBackup`, with what there is at the path of the backup. -/
def readBackup [NumberReader] (backupKey : Option Key) (file : BackupFile)
    (backupId expectedAgentId : JsText) : Except SupervisorError OpenedBackup :=
  match backupKey with
  | none => .error keyUnavailable
  | some key => do
      let backupId ← identifier (some backupId) "backup_id"
      match file with
      | .missing =>
          .error { message := utf16 "Backup file is unavailable", code := "backup_not_found" }
      | .unreadable error => .error error
      | .content input => readContent key input backupId expectedAgentId

end Calls

/-! ### What is written is read -/

theorem readUInt32_uint32 {number : Nat} (small : number < 4294967296) (rest : List UInt8) :
    readUInt32 (uint32 number ++ rest) = number := by
  unfold readUInt32 uint32
  simp only [List.cons_append, List.take_succ_cons, List.take_zero, List.foldl_cons,
    List.foldl_nil, UInt8.toNat_ofNat']
  omega

theorem isPrintable_of_isIdentifier {text : JsText} (identifiedText : isIdentifier text = true) :
    IsPrintable text ∧ text.length ≤ 128 := by
  have letter {unit : Nat} (isLetter : isLetterOrDigit unit = true) :
      32 ≤ unit ∧ unit < 128 ∧ unit ≠ 34 ∧ unit ≠ 92 := by
    simp only [isLetterOrDigit, Bool.or_eq_true, Bool.and_eq_true, decide_eq_true_eq] at isLetter
    omega
  cases text with
  | nil => cases identifiedText
  | cons first rest =>
      rw [isIdentifier, Bool.and_eq_true, Bool.and_eq_true, decide_eq_true_eq,
        List.all_eq_true] at identifiedText
      obtain ⟨⟨isLetter, short⟩, others⟩ := identifiedText
      refine ⟨List.forall_mem_cons.mpr ⟨letter isLetter, fun unit member => ?_⟩, ?_⟩
      · rcases Bool.or_eq_true_iff.mp (others unit member) with isLetter | isMark
        · exact letter isLetter
        · have all : ∀ unit ∈ utf16 "._:-", 32 ≤ unit ∧ unit < 128 ∧ unit ≠ 34 ∧ unit ≠ 92 := by
            decide
          exact all unit (List.contains_iff_mem.mp isMark)
      · rw [List.length_cons]
        omega

theorem isPrintable_base64Text (bytes : List UInt8) : IsPrintable (base64Text bytes) := by
  intro unit member
  unfold base64Text at member
  obtain ⟨c, inside, rfl⟩ := List.mem_map.mp member
  rcases Base64.mem_encodePlain inside with rfl | ⟨letter, isLetter, rfl⟩
  · decide
  · have all : ∀ letter ∈ Base64.alphabet, 32 ≤ (Base64.plainLetter letter).toNat ∧
        (Base64.plainLetter letter).toNat < 128 ∧ (Base64.plainLetter letter).toNat ≠ 34 ∧
        (Base64.plainLetter letter).toNat ≠ 92 :=
      List.all_iff_forall_prop.mp (by decide +kernel)
    exact all letter isLetter

theorem isPrintable_digestOfBytes (bytes : List UInt8) : IsPrintable (digestOfBytes bytes) := by
  intro unit member
  unfold digestOfBytes at member
  obtain ⟨c, inside, rfl⟩ := List.mem_map.mp member
  rw [chars_eq_toList] at inside
  have all : ∀ c ∈ "0123456789abcdef".toList,
      32 ≤ c.toNat ∧ c.toNat < 128 ∧ c.toNat ≠ 34 ∧ c.toNat ≠ 92 :=
    List.all_iff_forall_prop.mp (by decide)
  exact all c (mem_sha256Bytes inside)

theorem length_base64Text (bytes : List UInt8) :
    (base64Text bytes).length ≤ (bytes.length * 4 + 2) / 3 + 2 := by
  unfold base64Text Base64.encodePlain
  rw [List.length_map, List.length_append, List.length_map, Base64.length_encode,
    List.length_replicate]
  omega

theorem length_digestOfBytes (bytes : List UInt8) : (digestOfBytes bytes).length = 64 := by
  unfold digestOfBytes sha256Bytes
  rw [chars_eq_toList, String.toList_ofList, List.length_map]
  simp [Sha256.hexWord]

/-- What was written in base64 is read back from the text. -/
theorem bufferFrom_base64Text [BackupHost] (bytes : List UInt8) :
    bufferFrom (some (.str (base64Text bytes))) = some bytes := by
  have ascii := ascii_of_isPrintable (isPrintable_base64Text bytes)
  have characters : (base64Text bytes).characters = Base64.encodePlain bytes := by
    rw [characters_of_ascii ascii]
    unfold base64Text
    rw [List.map_map]
    exact List.map_id'' Char.ofNat_toNat _
  rw [bufferFrom, characters, Base64.decode_encodePlain]

section Archives

variable [BackupHost] (key : Key) (archive : Archive)

/-- The names in a header. -/
def headerNames : List JsText :=
  ["schemaVersion", "backupId", "agentId", "algorithm", "iv", "tag", "plaintextSha256",
    "createdAt"].map utf16

theorem names_headerFields : (archive.headerFields key).map Prod.fst = headerNames := rfl

theorem isPlainField_headerFields : ∀ field ∈ archive.headerFields key, IsPlainField field := by
  have names : ∀ name ∈ headerNames, IsPrintable name := by decide
  have values : ∀ field ∈ archive.headerFields key, IsPrintable field.2 := by
    unfold Archive.headerFields
    simp only [List.forall_mem_cons]
    have backupId := (isPrintable_of_isIdentifier archive.backupIdentified).1
    have agentId := (isPrintable_of_isIdentifier archive.agentIdentified).1
    exact ⟨by decide, backupId, agentId, by decide, isPrintable_base64Text _,
      isPrintable_base64Text _, isPrintable_digestOfBytes _, archive.createdAt.property.1,
      fun _ member => absurd member List.not_mem_nil⟩
  intro field member
  refine ⟨names field.1 ?_, values field member⟩
  rw [← names_headerFields key archive]
  exact List.mem_map_of_mem member

/-- The header is written in ASCII, and it is neither empty nor longer than a reader accepts. -/
theorem length_header : (archive.header key).length =
      (stringifyTexts (archive.headerFields key)).length ∧
    2 ≤ (archive.header key).length ∧ (archive.header key).length ≤ 16384 := by
  have plain := isPlainField_headerFields key archive
  have bytes := congrArg List.length (toNat_encodeUtf8 (ascii_stringifyTexts plain))
  rw [List.length_map] at bytes
  have same : (archive.header key).length =
      (stringifyTexts (archive.headerFields key)).length := bytes
  refine ⟨same, ?_, ?_⟩
  · rw [same]
    unfold stringifyTexts
    rw [List.length_append, List.length_cons, List.length_singleton]
    omega
  · have total := length_stringifyTexts plain
    have backupId := (isPrintable_of_isIdentifier archive.backupIdentified).2
    have agentId := (isPrintable_of_isIdentifier archive.agentIdentified).2
    have iv := length_base64Text archive.iv
    have tag := length_base64Text (archive.encrypted key).tag
    have digest := length_digestOfBytes archive.plain
    have createdAt := archive.createdAt.property.2
    rw [archive.ivLength] at iv
    rw [(archive.encrypted key).tagLength] at tag
    have names : (utf16 "schemaVersion").length + (utf16 "1.0").length +
        (utf16 "backupId").length + (utf16 "agentId").length + (utf16 "algorithm").length +
        (utf16 "aes-256-gcm").length + (utf16 "iv").length + (utf16 "tag").length +
        (utf16 "plaintextSha256").length + (utf16 "createdAt").length = 80 := rfl
    unfold Archive.headerFields at total
    simp only [List.map_cons, List.map_nil, List.sum_cons, List.sum_nil] at total
    rw [same]
    unfold Archive.headerFields
    omega

/-- The header of a file as it is read. -/
def Archive.headerData : JsData :=
  .obj ((archive.headerFields key).map fun field => (field.1, .str field.2))

theorem splitEnvelope_file [NumberReader] (nonempty : archive.plain ≠ []) :
    splitEnvelope (archive.file key) =
      .ok (archive.headerData key, (archive.encrypted key).ciphertext) := by
  obtain ⟨-, low, high⟩ := length_header key archive
  have body : 0 < (archive.encrypted key).ciphertext.length := by
    rw [(archive.encrypted key).covers]
    exact List.length_pos_iff.mpr nonempty
  have total : (archive.file key).length = 4 + (archive.header key).length +
      (archive.encrypted key).ciphertext.length := by
    unfold Archive.file
    rw [List.length_append, List.length_append]
    rfl
  have announced : readUInt32 (archive.file key) = (archive.header key).length := by
    unfold Archive.file
    rw [List.append_assoc]
    exact readUInt32_uint32 (by omega) _
  have header : ((archive.file key).drop 4).take (archive.header key).length =
      archive.header key := by
    unfold Archive.file
    rw [List.append_assoc]
    exact List.take_left' rfl
  have ciphertext : (archive.file key).drop (4 + (archive.header key).length) =
      (archive.encrypted key).ciphertext := by
    unfold Archive.file
    refine List.drop_left' ?_
    rw [List.length_append]
    rfl
  have read : JsData.parse (decodeUtf8 (archive.header key)) = some (archive.headerData key) := by
    have plain := isPlainField_headerFields key archive
    unfold Archive.header
    rw [decodeUtf8_encodeUtf8 (ascii_stringifyTexts plain)]
    refine JsData.parse_stringifyTexts (List.cons_ne_nil _ _) ?_ plain
    unfold Keyed
    rw [names_headerFields]
    decide
  unfold splitEnvelope
  rw [if_neg (by omega), announced, if_neg, header, read, ciphertext]
  simp only [Bool.or_eq_true, decide_eq_true_eq]
  omega

theorem checkHeader_headerData :
    checkHeader (archive.headerData key) archive.backupId archive.agentId = .ok () := by
  have schemaVersion : textAt (archive.headerData key) "schemaVersion" = some (utf16 "1.0") := rfl
  have algorithm : textAt (archive.headerData key) "algorithm" = some (utf16 "aes-256-gcm") := rfl
  have backupId : textAt (archive.headerData key) "backupId" = some archive.backupId := rfl
  have agentId : textAt (archive.headerData key) "agentId" = some archive.agentId := rfl
  have string : stringOf ((archive.headerData key).member "agentId") = .ok archive.agentId := rfl
  unfold checkHeader
  split
  · rename_i null
    cases null
  · rw [string]
    simp [schemaVersion, algorithm, backupId, agentId, archive.agentIdentified]

end Archives

section Reading

variable [BackupHost] [NumberReader] {key : Key} {input : List UInt8}
  {backupId agentId : JsText} {opened : OpenedBackup}

/-- What `readBackup` returns was accepted by every check. -/
theorem readContent_eq_ok : readContent key input backupId agentId = .ok opened ↔
    ∃ header ciphertext, splitEnvelope input = .ok (header, ciphertext) ∧
      checkHeader header backupId agentId = .ok () ∧
      decipher key header ciphertext = some opened.plain ∧
      textAt header "plaintextSha256" = some (digestOfBytes opened.plain) ∧
      opened = { input := input, header := header, plain := opened.plain
                 digest := digestOfBytes opened.plain } := by
  unfold readContent
  rw [bind_eq_ok]
  constructor
  · rintro ⟨⟨header, ciphertext⟩, split, rest⟩
    obtain ⟨⟨⟩, checked, rest⟩ := bind_eq_ok.mp rest
    cases deciphered : decipher key header ciphertext with
    | none =>
        rw [deciphered] at rest
        cases rest
    | some plain =>
        rw [deciphered] at rest
        by_cases same : textAt header "plaintextSha256" = some (digestOfBytes plain)
        · simp only [same, ne_eq, not_true_eq_false, if_false] at rest
          cases rest
          exact ⟨header, ciphertext, split, checked, deciphered, same, rfl⟩
        · simp only [same, ne_eq, not_false_eq_true, if_true] at rest
          cases rest
  · rintro ⟨header, ciphertext, split, checked, deciphered, same, whole⟩
    refine ⟨(header, ciphertext), split, bind_eq_ok.mpr ⟨(), checked, ?_⟩⟩
    simp only [deciphered, same, ne_eq, not_true_eq_false, if_false]
    exact congrArg Except.ok whole.symm

theorem readBackup_content (valid : isIdentifier backupId = true) :
    readBackup (some key) (.content input) backupId agentId =
      readContent key input backupId agentId := by
  have identified : identifier (some backupId) "backup_id" = .ok backupId := by
    unfold identifier
    rw [Option.filter_some, if_pos valid]
  unfold readBackup
  dsimp only
  rw [identified]
  rfl

/-- The file of a backup is read back by a cipher that opens what it sealed. -/
theorem readBackup_file (archive : Archive) (nonempty : archive.plain ≠ [])
    (opens : decrypt key archive.iv (archive.encrypted key).tag
      (archive.encrypted key).ciphertext = some archive.plain) :
    ∃ opened, readBackup (some key) (.content (archive.file key)) archive.backupId
      archive.agentId = .ok opened ∧ opened.plain = archive.plain := by
  have deciphered : decipher key (archive.headerData key) (archive.encrypted key).ciphertext =
      some archive.plain := by
    have iv : bufferFrom ((archive.headerData key).member "iv") = some archive.iv :=
      bufferFrom_base64Text archive.iv
    have tag : bufferFrom ((archive.headerData key).member "tag") =
        some (archive.encrypted key).tag := bufferFrom_base64Text _
    unfold decipher
    rw [iv, tag]
    exact opens
  refine ⟨⟨archive.file key, archive.headerData key, archive.plain,
    digestOfBytes archive.plain⟩, ?_, rfl⟩
  rw [readBackup_content archive.backupIdentified, readContent_eq_ok]
  exact ⟨archive.headerData key, (archive.encrypted key).ciphertext,
    splitEnvelope_file key archive nonempty, checkHeader_headerData key archive, deciphered, rfl,
    rfl⟩

end Reading

/-! ### Authenticity -/

section Authenticity

variable [BackupHost]

/-- A call of `createBackup` that returned. -/
structure BackupCall (key : Key) where
  command : BackupCommand
  world : BackupWorld
  created : CreatedBackup
  returned : createBackup (some key) command world = .ok created

variable {key : Key}

def BackupCall.backupId (call : BackupCall key) : JsText :=
  call.created.archive.backupId

def BackupCall.agentId (call : BackupCall key) : JsText :=
  call.created.archive.agentId

/-- The bytes of the archive that was made. -/
def BackupCall.plain (call : BackupCall key) : List UInt8 :=
  call.created.archive.plain

/-- A call archives what `tar` made for the identifiers of its command, and writes its file. -/
theorem BackupCall.created_eq (call : BackupCall key) :
    (call.command.commandAgentId.map Subtype.val = .ok call.agentId ∧
      identifier ((JsData.orElse call.command.argumentBackupId call.command.commandId).bind
        JsData.text?) "backup_id" = .ok call.backupId) ∧
    call.world.archived = .ok call.plain ∧
    call.created.output = call.created.archive.file key := by
  have value {value : Option JsText} {name : String}
      {text : { text : JsText // isIdentifier text = true }}
      (found : identified value name = .ok text) : identifier value name = .ok text.val := by
    unfold identified at found
    split at found
    · rename_i same
      cases found
      exact same
    · cases found
  have returned := call.returned
  unfold createBackup at returned
  obtain ⟨agentId, agent, returned⟩ := bind_eq_ok.mp returned
  obtain ⟨⟨⟩, -, returned⟩ := bind_eq_ok.mp returned
  obtain ⟨backupId, backup, returned⟩ := bind_eq_ok.mp returned
  obtain ⟨⟨⟩, -, returned⟩ := bind_eq_ok.mp returned
  obtain ⟨plain, archived, returned⟩ := bind_eq_ok.mp returned
  obtain ⟨⟨⟩, -, returned⟩ := bind_eq_ok.mp returned
  unfold BackupCall.agentId BackupCall.backupId BackupCall.plain
  rw [← Except.ok.inj returned, agent, archived]
  exact ⟨⟨rfl, value backup⟩, rfl, rfl⟩

/-- AES-256-GCM as an authenticated cipher: what the calls sealed opens, and nothing else does. -/
structure IsAuthenticated (key : Key) (calls : List (BackupCall key)) : Prop where
  opens : ∀ call ∈ calls, decrypt key call.created.archive.iv
    (call.created.archive.encrypted key).tag (call.created.archive.encrypted key).ciphertext =
      some call.plain
  authentic : ∀ iv tag ciphertext plain, decrypt key iv tag ciphertext = some plain →
    ∃ call ∈ calls, call.created.archive.iv = iv ∧
      (call.created.archive.encrypted key).ciphertext = ciphertext ∧ call.plain = plain

/-- The file holds what a call sealed, under a header that names a backup and an agent: its
initialization vector, its ciphertext, a tag that the cipher accepts, and the digest. -/
def Carries [NumberReader] (key : Key) (backupId agentId : JsText) (input : List UInt8)
    (call : BackupCall key) : Prop :=
  ∃ header tag, splitEnvelope input =
      .ok (header, (call.created.archive.encrypted key).ciphertext) ∧
    checkHeader header backupId agentId = .ok () ∧
    bufferFrom (header.member "iv") = some call.created.archive.iv ∧
    bufferFrom (header.member "tag") = some tag ∧
    decrypt key call.created.archive.iv tag (call.created.archive.encrypted key).ciphertext =
      some call.plain ∧
    textAt header "plaintextSha256" = some (digestOfBytes call.plain)

/-- For whatever is at the path, a backup that is read is one of the agent that is asked for. -/
def IsAuthentic [NumberReader] (key : Key) (calls : List (BackupCall key))
    (backupId agentId : JsText) (input : List UInt8) : Prop :=
  ∀ opened, readBackup (some key) (.content input) backupId agentId = .ok opened →
    ∃ own ∈ calls, own.backupId = backupId ∧ own.agentId = agentId ∧ own.plain = opened.plain

/-- What is read is what a call sealed, and what a call sealed is read wherever it is carried. -/
theorem readBackup_eq_ok_iff [NumberReader] {calls : List (BackupCall key)}
    (authenticated : IsAuthenticated key calls) {backupId agentId : JsText}
    (valid : isIdentifier backupId = true) {input plain : List UInt8} :
    (∃ opened, readBackup (some key) (.content input) backupId agentId = .ok opened ∧
        opened.plain = plain) ↔
      ∃ call ∈ calls, Carries key backupId agentId input call ∧ call.plain = plain := by
  simp only [readBackup_content valid, readContent_eq_ok]
  constructor
  · rintro ⟨opened, ⟨header, ciphertext, split, checked, deciphered, digest, -⟩, rfl⟩
    unfold decipher at deciphered
    obtain ⟨iv, ivRead, deciphered⟩ := Option.bind_eq_some_iff.mp deciphered
    obtain ⟨tag, tagRead, deciphered⟩ := Option.bind_eq_some_iff.mp deciphered
    obtain ⟨call, member, rfl, rfl, same⟩ := authenticated.authentic iv tag ciphertext _ deciphered
    rw [← same] at deciphered digest
    exact ⟨call, member, ⟨header, tag, split, checked, ivRead, tagRead, deciphered, digest⟩, same⟩
  · rintro ⟨call, -, ⟨header, tag, split, checked, iv, tagRead, deciphered, digest⟩, rfl⟩
    refine ⟨⟨input, header, call.plain, digestOfBytes call.plain⟩,
      ⟨header, _, split, checked, ?_, digest, rfl⟩, rfl⟩
    unfold decipher
    rw [iv, tagRead]
    exact deciphered

end Authenticity

section Sample

def sampleIv : List UInt8 :=
  List.replicate 12 1

def samplePlain : List UInt8 :=
  [31, 139, 8]

def sampleCiphertext : List UInt8 :=
  [105, 106, 129]

def sampleTag : List UInt8 :=
  [203, 109, 224, 18, 107, 100, 233, 183, 85, 148, 49, 169, 78, 114, 51, 50]

/-- What AES-256-GCM makes of three bytes, under the key of 32 bytes that are all seven. Nothing
else was sealed. -/
@[reducible] def BackupHost.sample : BackupHost where
  Key := Unit
  encrypt _ iv plain :=
    if known : iv = sampleIv ∧ plain = samplePlain then
      { ciphertext := sampleCiphertext, tag := sampleTag
        covers := by rw [known.2]; rfl, tagLength := rfl }
    else { ciphertext := plain, tag := List.replicate 16 0, covers := rfl, tagLength := rfl }
  decrypt _ iv tag ciphertext :=
    if iv = sampleIv ∧ tag = sampleTag ∧ ciphertext = sampleCiphertext then some samplePlain
    else none
  bytesOf _ := none

/-- No header has a number. -/
@[reducible] def NumberReader.sample : NumberReader where
  read _ := .null

attribute [local instance] BackupHost.sample NumberReader.sample

/-- An archive of three bytes. -/
def sampleArchive : Archive where
  backupId := utf16 "backup-1"
  agentId := utf16 "agent-1"
  iv := sampleIv
  createdAt := ⟨utf16 "2026-01-01T00:00:00.000Z", by decide⟩
  plain := samplePlain
  backupIdentified := by decide
  agentIdentified := by decide
  ivLength := rfl

def sampleBackupCall : BackupCall () where
  command :=
    { argumentAgentId := some (.str (utf16 "agent-1")), placementAgentId := none
      argumentBackupId := some (.str (utf16 "backup-1")), commandId := none }
  world :=
    { metadata := .ok (), safeTree := .ok (), archived := .ok samplePlain
      iv := ⟨sampleIv, rfl⟩, now := sampleArchive.createdAt, write := .ok () }
  created :=
    { archive := sampleArchive, output := sampleArchive.file ()
      evidenceRefs := [utf16 "backup:" ++ utf16 "backup-1",
        utf16 "sha256:" ++ digestOfBytes (sampleArchive.file ())] }
  returned := rfl

theorem isAuthenticated_sample : IsAuthenticated () [sampleBackupCall] := by
  constructor
  · intro call member
    rw [List.mem_singleton.mp member]
    rfl
  · intro iv tag ciphertext plain opened
    obtain ⟨⟨rfl, -, rfl⟩, same⟩ := Option.ite_none_right_eq_some.mp opened
    exact ⟨sampleBackupCall, List.mem_singleton.mpr rfl, rfl, rfl, Option.some.inj same⟩

/-- The header of the sample with the names of another backup and another agent. -/
def renamedHeader : List UInt8 :=
  encodeUtf8 (stringifyTexts ((sampleArchive.headerFields ()).map fun field =>
    if field.1 = utf16 "backupId" then (field.1, utf16 "backup-2")
    else if field.1 = utf16 "agentId" then (field.1, utf16 "agent-2")
    else field))

/-- The file of the sample with that header in the place of its own. -/
def renamedFile : List UInt8 :=
  uint32 renamedHeader.length ++ renamedHeader ++ sampleCiphertext

end Sample

end BairuiPlatform.Supervisor
