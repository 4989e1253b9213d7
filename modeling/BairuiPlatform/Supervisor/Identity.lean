/-
Module: BairuiPlatform.Supervisor.Identity
Purpose: The supervisor's check of an owner's identity configuration, and which imported
character cards pass it.
Trusted boundary: none
Main exports: identityDocument, ownerConfiguration, card_deployable_iff
-/
import BairuiPlatform.Agents.Cards
import BairuiPlatform.Foundations.OrderedMap
import BairuiPlatform.Supervisor.Instances

namespace BairuiPlatform

open Foundations

/-! ### The configuration of an owner -/

/-- Where agents and their configurations are kept. -/
inductive AgentRepository where
  | memory
  | postgres
  deriving DecidableEq

/-- A text after it was kept: a column of PostgreSQL holds UTF-8. -/
def AgentRepository.kept (repository : AgentRepository) (text : JsText) : JsText :=
  match repository with
  | .memory => text
  | .postgres => text.toWellFormed

/-- The fields of `updateAgent` that a configuration shows, after they were kept. -/
def AgentRepository.updateAgent (repository : AgentRepository) (patch : ImportedAgent) :
    ImportedAgent :=
  { name := repository.kept patch.name
    description := repository.kept patch.description
    soulMarkdown := repository.kept patch.soulMarkdown }

/-- The number of a revision, as a document holds it. -/
abbrev Generation := { number : Nat // 1 ≤ number ∧ number ≤ 9007199254740991 }

/-- The document that `requestAgentOwnerConfiguration` makes of the properties of the current
one. -/
def ownerConfiguration (current : OrderedMap JsText JsData) (agentId : JsText)
    (agent : ImportedAgent) (scope : String) (generation : Generation) (disabled : List JsText) :
    JsData :=
  .obj (((current.set
    (utf16 "agent") (.obj [(utf16 "id", .str agentId), (utf16 "name", .str agent.name),
      (utf16 "soul_markdown", .str agent.soulMarkdown)])).set
    (utf16 "owner_change") (.obj [(utf16 "scope", .str (utf16 scope)),
      (utf16 "generation", .num generation.val)])).set
    (utf16 "skills") (.obj [(utf16 "disabled", .arr (disabled.map .str))])).entries

namespace Supervisor

/-! ### The check -/

/-- An error of the checks of an owner's configuration. -/
def invalidScope (message : String) : SupervisorError :=
  { message := utf16 message, code := "invalid_user_config_scope" }

/-- Every property of the object is among the names. -/
def hasOnly (value : JsData) (names : List String) : Bool :=
  match value with
  | .obj fields => fields.all fun field => (names.map utf16).contains field.1
  | _ => true

/-- `ownerChange`. -/
def ownerChange (configDocument : JsData) (expectedScope : String) :
    Except SupervisorError JsData :=
  if configDocument.isObject then
    match configDocument.member "owner_change" with
    | none => .error (invalidScope "Owner configuration scope is invalid")
    | some change =>
        if change.isTruthy &&
            (change.member "scope").bind JsData.text? = some (utf16 expectedScope) &&
            ((change.member "generation").bind JsData.safeInteger?).any (1 ≤ ·) &&
            hasOnly change ["scope", "generation"] then .ok change
        else .error (invalidScope "Owner configuration scope is invalid")
  else .error (invalidScope "Owner configuration document is invalid")

/-- What `identityDocument` returns. -/
structure AgentIdentity where
  name : JsText
  soulMarkdown : JsText

/-- What `/[\0\r\n\u0001-\u001f\u007f]/u` matches. -/
def isNameControl (unit : Nat) : Bool :=
  unit ≤ 31 || unit = 127

/-- `identityDocument`. -/
def identityDocument (configDocument : JsData) (agentId : JsText) :
    Except SupervisorError AgentIdentity :=
  (ownerChange configDocument "identity").bind fun _ =>
    match (configDocument.member "agent").filter JsData.isObject with
    | none => .error (invalidScope "Agent identity structure is invalid")
    | some agent =>
        if hasOnly agent ["id", "name", "soul_markdown"] then
          match (agent.member "name").bind JsData.text? with
          | none => .error (invalidScope "Agent identity is invalid")
          | some name =>
              if (agent.member "id").bind JsData.text? ≠ some agentId || name.trim = [] ||
                  name.length > 64 || name.any isNameControl then
                .error (invalidScope "Agent identity is invalid")
              else
                match (agent.member "soul_markdown").bind JsData.text? with
                | none => .error (invalidScope "Agent SOUL document is invalid")
                | some soul =>
                    if soul.length > 50000 || soul.any isControl then
                      .error (invalidScope "Agent SOUL document is invalid")
                    else
                      .ok { name := name.trim
                            soulMarkdown := (replaceCrLf soul).map fun unit =>
                              if unit = 13 then 10 else unit }
        else .error (invalidScope "Agent identity structure is invalid")

/-! ### Which cards pass -/

section Configuration

variable (current : OrderedMap JsText JsData) (agentId : JsText) (agent : ImportedAgent)
  (scope : String) (generation : Generation) (disabled : List JsText)

theorem member_agent :
    (ownerConfiguration current agentId agent scope generation disabled).member "agent" =
      some (.obj [(utf16 "id", .str agentId), (utf16 "name", .str agent.name),
        (utf16 "soul_markdown", .str agent.soulMarkdown)]) :=
  (OrderedMap.get?_set_of_ne (by decide)).trans
    ((OrderedMap.get?_set_of_ne (by decide)).trans (OrderedMap.get?_set_self _ _ _))

theorem member_owner_change :
    (ownerConfiguration current agentId agent scope generation disabled).member "owner_change" =
      some (.obj [(utf16 "scope", .str (utf16 scope)),
        (utf16 "generation", .num generation.val)]) :=
  (OrderedMap.get?_set_of_ne (by decide)).trans (OrderedMap.get?_set_self _ _ _)

/-- The document says which part of it was changed. -/
theorem ownerChange_ownerConfiguration :
    ∃ change, ownerChange (ownerConfiguration current agentId agent scope generation disabled)
      scope = .ok change := by
  let change : JsData := .obj [(utf16 "scope", .str (utf16 scope)),
    (utf16 "generation", .num generation.val)]
  have changedScope : (change.member "scope").bind JsData.text? = some (utf16 scope) := rfl
  have integer : (JsData.num generation.val).safeInteger? = some (generation.val : Int) :=
    if_pos generation.property.2
  have numbered : ((change.member "generation").bind JsData.safeInteger?).any (1 ≤ ·) = true := by
    have held : change.member "generation" = some (.num generation.val) := rfl
    rw [held, Option.bind_some, integer, Option.any_some, decide_eq_true_eq]
    exact_mod_cast generation.property.1
  have only : hasOnly change ["scope", "generation"] = true := rfl
  have object : (ownerConfiguration current agentId agent scope generation
      disabled).isObject = true := rfl
  refine ⟨change, ?_⟩
  unfold ownerChange
  rw [member_owner_change, if_pos object]
  dsimp only
  rw [if_pos]
  rw [Bool.and_eq_true, Bool.and_eq_true, Bool.and_eq_true, decide_eq_true_eq]
  exact ⟨⟨⟨rfl, changedScope⟩, numbered⟩, only⟩

/-- The check of a document that was made for an agent: what is left to ask is about its name
and its text. -/
theorem identityDocument_ownerConfiguration :
    (∃ identity, identityDocument
        (ownerConfiguration current agentId agent "identity" generation disabled) agentId =
      .ok identity) ↔
      (agent.name.trim ≠ [] ∧ agent.name.length ≤ 64 ∧
        ∀ unit ∈ agent.name, isNameControl unit = false) ∧
      agent.soulMarkdown.length ≤ 50000 ∧ ∀ unit ∈ agent.soulMarkdown, isControl unit = false := by
  obtain ⟨change, changed⟩ :=
    ownerChange_ownerConfiguration current agentId agent "identity" generation disabled
  let identity : JsData := .obj [(utf16 "id", .str agentId), (utf16 "name", .str agent.name),
    (utf16 "soul_markdown", .str agent.soulMarkdown)]
  have found : ((ownerConfiguration current agentId agent "identity" generation disabled).member
      "agent").filter JsData.isObject = some identity := by
    rw [member_agent]
    rfl
  have only : hasOnly identity ["id", "name", "soul_markdown"] = true := rfl
  have id : (identity.member "id").bind JsData.text? = some agentId := rfl
  have name : (identity.member "name").bind JsData.text? = some agent.name := rfl
  have soul : (identity.member "soul_markdown").bind JsData.text? = some agent.soulMarkdown := rfl
  have named : (agent.name.trim ≠ [] ∧ agent.name.length ≤ 64 ∧
      ∀ unit ∈ agent.name, isNameControl unit = false) ↔
      ¬((identity.member "id").bind JsData.text? ≠ some agentId || agent.name.trim = [] ||
        agent.name.length > 64 || agent.name.any isNameControl) = true := by
    simp [id, and_assoc]
  have written : (agent.soulMarkdown.length ≤ 50000 ∧
      ∀ unit ∈ agent.soulMarkdown, isControl unit = false) ↔
      ¬(agent.soulMarkdown.length > 50000 || agent.soulMarkdown.any isControl) = true := by
    simp
  rw [named, written]
  unfold identityDocument
  rw [changed, found]
  simp only [Except.bind, only, if_true, name, soul]
  split
  · rename_i refused
    exact ⟨fun ⟨_, ok⟩ => (nomatch ok), fun accepted => absurd refused accepted.1⟩
  · rename_i accepted
    split
    · rename_i refused
      exact ⟨fun ⟨_, ok⟩ => (nomatch ok), fun accepted => absurd refused accepted.2⟩
    · rename_i acceptedToo
      exact ⟨fun _ => ⟨accepted, acceptedToo⟩, fun _ => ⟨_, rfl⟩⟩

end Configuration

/-- Neither a tab nor a line feed is left of the name of a card. -/
def HasPlainName [CardHost] (input : JsData) : Prop :=
  ∃ source name, (rawCard input).bind cardSource = .ok source ∧
    boundedText (source.member "name") 64 = .ok name ∧ 9 ∉ name ∧ 10 ∉ name

section Kept

variable {text : JsText} (repository : AgentRepository)

theorem length_kept : (repository.kept text).length = text.length := by
  cases repository with
  | memory => rfl
  | postgres => exact JsText.length_toWellFormed text

theorem mem_kept {unit : Nat} (member : unit ∈ repository.kept text) :
    unit ∈ text ∨ unit = 0xFFFD := by
  cases repository with
  | memory => exact .inl member
  | postgres => exact JsText.mem_toWellFormed member

theorem mem_kept_of_mem {unit : Nat} (member : unit ∈ text) :
    unit ∈ repository.kept text ∨
      JsText.isSurrogate unit = true ∧ 0xFFFD ∈ repository.kept text := by
  cases repository with
  | memory => exact .inl member
  | postgres => exact JsText.mem_toWellFormed_of_mem member

end Kept

/-- What is left of a name that is clean is accepted unless it has a tab or a line feed. -/
theorem isNameControl_iff {name : JsText} (clean : IsClean name) :
    (∀ unit ∈ name, isNameControl unit = false) ↔ 9 ∉ name ∧ 10 ∉ name := by
  constructor
  · intro all
    exact ⟨fun tab => absurd (all 9 tab) (by decide), fun feed => absurd (all 10 feed) (by decide)⟩
  · rintro ⟨tab, feed⟩ unit member
    obtain ⟨control, carriage⟩ := clean unit member
    have notTab : unit ≠ 9 := fun same => tab (same ▸ member)
    have notFeed : unit ≠ 10 := fun same => feed (same ▸ member)
    simp only [isControl, Bool.or_eq_false_iff, Bool.and_eq_false_iff,
      decide_eq_false_iff_not] at control
    simp only [isNameControl, Bool.or_eq_false_iff, decide_eq_false_iff_not]
    omega

/-- An imported card passes the supervisor's check if and only if neither a tab nor a line feed
is left of its name. -/
theorem card_deployable_iff [CardHost] {input : JsData} {imported : ImportedCard}
    (parsed : parseTavernCharacterCard input = .ok imported) (repository : AgentRepository)
    (current : OrderedMap JsText JsData) (agentId : JsText) (generation : Generation)
    (disabled : List JsText) :
    (∃ identity, identityDocument (ownerConfiguration current agentId
        (repository.updateAgent imported.agent) "identity" generation disabled) agentId =
      .ok identity) ↔ HasPlainName input := by
  obtain ⟨source, found, named, nonempty, soulClean, soulLength⟩ :=
    parseTavernCharacterCard_ok parsed
  have nameClean := boundedText_isClean named
  have keptClean {text : JsText} (clean : IsClean text) : IsClean (repository.kept text) := by
    intro unit member
    rcases mem_kept repository member with inside | rfl
    · exact clean unit inside
    · decide
  have plain : HasPlainName input ↔ 9 ∉ imported.agent.name ∧ 10 ∉ imported.agent.name := by
    unfold HasPlainName
    rw [found]
    constructor
    · rintro ⟨other, name, isSource, isName, without⟩
      cases isSource
      rw [named] at isName
      cases isName
      exact without
    · intro without
      exact ⟨source, imported.agent.name, rfl, named, without⟩
  have same {unit : Nat} (half : JsText.isSurrogate unit = false) (other : unit ≠ 0xFFFD) :
      unit ∈ repository.kept imported.agent.name ↔ unit ∈ imported.agent.name := by
    constructor
    · intro member
      exact (mem_kept repository member).resolve_right other
    · intro member
      refine (mem_kept_of_mem repository member).resolve_right fun surrogate => ?_
      rw [half] at surrogate
      exact Bool.false_ne_true surrogate.1
  rw [identityDocument_ownerConfiguration, plain]
  unfold AgentRepository.updateAgent
  dsimp only
  rw [isNameControl_iff (keptClean nameClean), same rfl (by decide), same rfl (by decide)]
  constructor
  · intro accepted
    exact accepted.1.2.2
  · intro without
    refine ⟨⟨?_, ?_, without⟩, ?_, fun unit member => (keptClean soulClean unit member).1⟩
    · rw [ne_eq, JsText.trim_eq_nil]
      intro blank
      obtain ⟨unit, member, visible⟩ := boundedText_not_blank named nonempty
      rcases mem_kept_of_mem repository member with kept | ⟨-, kept⟩
      · rw [blank unit kept] at visible
        cases visible
      · exact absurd (blank _ kept) (by decide)
    · rw [length_kept]
      exact boundedText_length named
    · rw [length_kept]
      exact soulLength

/-- Without the libraries for PNG files; the card is given as an object. -/
@[reducible] def CardHost.sample : CardHost where
  parse _ := none
  decodeUtf8 _ := []
  extractChunks _ := none
  decodeText _ := none

section Sample

attribute [local instance] CardHost.sample

/-- A card with a name. -/
def sampleCard (name : JsText) : JsData :=
  .obj [(utf16 "format", .str (utf16 "json")),
    (utf16 "content", .obj [(utf16 "name", .str name),
      (utf16 "description", .str (utf16 "{{char}} helps."))])]

theorem card_deployable_iff_sample : ∃ imported,
    parseTavernCharacterCard (sampleCard (utf16 "  Ada ")) = .ok imported ∧
      ∃ identity, identityDocument (ownerConfiguration .empty (utf16 "agent-1")
        (AgentRepository.memory.updateAgent imported.agent) "identity" ⟨1, by decide⟩ [])
          (utf16 "agent-1") = .ok identity := by
  have parsed : ∃ imported, parseTavernCharacterCard (sampleCard (utf16 "  Ada ")) =
      .ok imported := ⟨_, rfl⟩
  obtain ⟨imported, parsed⟩ := parsed
  exact ⟨imported, parsed, (card_deployable_iff parsed .memory .empty (utf16 "agent-1")
    ⟨1, by decide⟩ []).mpr ⟨_, utf16 "Ada", rfl, rfl, by decide, by decide⟩⟩

/-- A card whose name has a tab is imported, and its configuration is refused. -/
theorem tabbed_name_refused : ∃ imported,
    parseTavernCharacterCard (sampleCard (utf16 "Ada\tLovelace")) = .ok imported ∧
      ∀ identity, identityDocument (ownerConfiguration .empty (utf16 "agent-1")
        (AgentRepository.memory.updateAgent imported.agent) "identity" ⟨1, by decide⟩ [])
          (utf16 "agent-1") ≠ .ok identity := by
  refine ⟨_, rfl, fun identity accepted => ?_⟩
  have named := (identityDocument_ownerConfiguration .empty (utf16 "agent-1") _ ⟨1, by decide⟩
    []).mp ⟨identity, accepted⟩
  exact absurd (named.1.2.2 9 (by decide)) (by decide)

end Sample

end Supervisor

end BairuiPlatform
