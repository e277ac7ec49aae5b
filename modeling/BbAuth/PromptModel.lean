import BbAuth.FallbackWindow
import BbAuth.TextNormalize

open Library
namespace BbAuth

-- The patterns that texts are searched for. All but path and quoted ignore case.
inductive PromptPattern where
  | explicitRun -- run\s+[`'"]([^`'"\s]+)[`'"]
  | path -- (/[A-Za-z0-9_\-\./]+)
  | unlock -- unlock\s+([^\n]+)
  | quoted -- "([^"]+)"
  | keyId -- ID\s+([A-F0-9]{8,})
  | keyType -- (\d{3,5}-bit\s+[A-Za-z0-9-]+\s+key)
  | created -- created\s+([0-9]{4}-[0-9]{2}-[0-9]{2})
  deriving DecidableEq, Repr

-- What Qt knows of Unicode and of patterns: the lower case, the case folding
-- that comparisons use, and the first group of the first match.
structure QtText where
  toLower : QString → QString
  foldCase : QString → QString
  captured : PromptPattern → QString → Option QString

-- What is read of a session.created event.
structure SessionCreated where
  id : QString := []
  source : QString := []
  info : QString := []
  message : QString := []
  description : QString := []
  keyringName : QString := []
  requestorName : QString := []
  confirmOnly : Bool := false
  deriving DecidableEq, Repr

inductive PromptIntent where
  | generic
  | unlock
  | runCommand
  | openPgp
  | fingerprint
  | fido2
  deriving DecidableEq, Repr

namespace PromptModel

open AssuanCodec (trimmed lineFeed arg)
open TextNormalize FallbackWindow

variable (qt : QtText)

def captureFirst (s : QString) (pattern : PromptPattern) : QString := ((qt.captured pattern s).map trimmed).getD []

-- What follows the last slash.
def fileName (path : QString) : QString := (path.reverse.takeWhile (fun c => decide (c ≠ 0x2F))).reverse

def extractCommandName (message : QString) : QString :=
  let command := captureFirst qt message .explicitRun
  let command := if command.isEmpty then captureFirst qt message .path else command
  if command.isEmpty then []
  else if (fileName command).isEmpty then command
  else fileName command

def extractUnlockTarget (s : QString) : QString :=
  let normalized := normalizeDetailText s
  if normalized.isEmpty then []
  else
    let target := captureFirst qt normalized .unlock
    if target.isEmpty then []
    else
      let target := trimmed target
      trimmed (if target.getLast? = some 0x2E then target.dropLast else target)

def extractUnlockTargetFromContext (event : SessionCreated) : QString :=
  let target := extractUnlockTarget qt event.keyringName
  let target := if target.isEmpty then extractUnlockTarget qt event.message else target
  if target.isEmpty then extractUnlockTarget qt event.description else target

def isTemplateUnlockLine (line target : QString) : Bool :=
  let normalized := normalizeCompareText qt.toLower line
  let normalizedTarget := normalizeCompareText qt.toLower target
  if normalized.isEmpty then true
  else if normalizedTarget.isEmpty then false
  else if normalized = normalizedTarget then true
  else contains (text "unlock") normalized && contains normalizedTarget normalized &&
    ["authenticate to unlock","unlock","use your password to unlock","use your account password to unlock"].any
      (fun beginning => (text beginning).isPrefixOf normalized)

def buildUnlockDetails (event : SessionCreated) (target : QString) : QString :=
  let candidates := [event.description,event.message,event.keyringName].map normalizeDetailText
  let lines := (candidates.filter (fun candidate => !candidate.isEmpty)).flatMap (fun candidate => (split candidate).map trimmed)
  uniqueJoined qt.toLower (lines.filter (fun line => !(line.isEmpty || isTemplateUnlockLine qt line target)))

def isLowSignalCommand (commandName : QString) : Bool :=
  let normalized := qt.toLower (trimmed commandName)
  normalized.isEmpty || [text "true",text "sh",text "bash"].contains normalized

def isIdentityLine (line : QString) : Bool := line.contains 0x22 && line.contains 0x3C && line.contains 0x3E

def isKeyMetadataLine (line : QString) : Bool :=
  let lower := qt.toLower line
  (contains (text " id ") lower || (text "id ").isPrefixOf lower) && contains (text "created") lower

-- Every occurrence of the term, whatever its case, is taken out. The letters of
-- the only term have no case outside ASCII.
def without (term : QString) : Nat → QString → QString
  | _,[] => []
  | left + 1,_ :: rest => without term left rest
  | 0,c :: rest =>
    if term.isPrefixOf (toLower (c :: rest)) then without term (term.length - 1) rest else c :: without term 0 rest

def cleanIdentity (identity : QString) : QString := trimmed (without (text " (github)") 0 (simplified identity))

-- The limit is never less than three.
def trimToLength (s : QString) (maxChars : Nat) : QString :=
  if s.length ≤ maxChars then s else trimmed (s.take (maxChars - 3)) ++ text "..."

def infoText (event : SessionCreated) : QString := normalizeDetailText event.info

def detailText (event : SessionCreated) : QString :=
  qt.toLower (normalizeDetailText event.description ++ text " " ++ normalizeDetailText event.message)

def authHintText (event : SessionCreated) : QString := qt.toLower (detailText qt event ++ text " " ++ infoText event)

def touchHint (event : SessionCreated) : Bool :=
  looksLikeFingerprintPrompt (authHintText qt event) || looksLikeFidoPrompt (authHintText qt event) ||
    looksLikeTouchPrompt (authHintText qt event)

def commandName (event : SessionCreated) : QString :=
  if event.source = text "polkit" then extractCommandName qt event.message else []

def unlockTarget (event : SessionCreated) : QString :=
  let target :=
    if event.source = text "polkit" ∨ event.source = text "keyring" then extractUnlockTargetFromContext qt event else []
  if event.source = text "keyring" && target.isEmpty then trimmed event.requestorName else target

def intent (event : SessionCreated) : PromptIntent :=
  if event.source = text "polkit" && looksLikeFingerprintPrompt (authHintText qt event) then .fingerprint
  else if event.source = text "polkit" && looksLikeFidoPrompt (authHintText qt event) then .fido2
  else if event.source = text "pinentry" && (contains (text "openpgp") (detailText qt event) || contains (text "gpg") (detailText qt event)) then
    .openPgp
  else if event.source = text "polkit" && !(commandName qt event).isEmpty then .runCommand
  else if (event.source = text "polkit" || event.source = text "keyring") && !(unlockTarget qt event).isEmpty then .unlock
  else .generic

-- The pieces of a pinentry summary are joined by a bullet.
def pinentrySummary (event : SessionCreated) : QString :=
  let referenceText := if event.description.isEmpty then event.message else event.description
  let identity := cleanIdentity (captureFirst qt referenceText .quoted)
  let keyId := captureFirst qt referenceText .keyId
  let keyType := captureFirst qt referenceText .keyType
  let created := captureFirst qt referenceText .created
  let pieces :=
    (if !identity.isEmpty then [trimToLength identity 72] else if !keyType.isEmpty then [keyType] else []) ++
      (if keyId.isEmpty then [] else [keyId]) ++ (if created.isEmpty then [] else [text "created " ++ created])
  if pieces.isEmpty then firstMeaningfulLine referenceText else [0x20,0x20,0x2022,0x20,0x20].intercalate pieces

def pinentryDetails (event : SessionCreated) : QString :=
  let pinText := normalizeDetailText (if event.description.isEmpty then event.message else event.description)
  let filtered := (split pinText).filter (fun line => !(isIdentityLine line || isKeyMetadataLine qt line))
  if pinText.isEmpty then [] else if filtered.isEmpty then pinText else join filtered

def runSummary (event : SessionCreated) : QString :=
  let summary := firstMeaningfulLine (normalizeDetailText event.description)
  let summary := if summary.isEmpty then firstMeaningfulLine (normalizeDetailText event.message) else summary
  if !summary.isEmpty then summary
  else if isLowSignalCommand qt (commandName qt event) then text "Administrative privileges required"
  else arg (text "Run %1 as superuser") (commandName qt event)

-- Any other prompt: the details are the text that the summary does not say.
def genericModel (event : SessionCreated) : PromptDisplayModel :=
  let summary := firstMeaningfulLine (normalizeDetailText event.message)
  let summary := if summary.isEmpty then firstMeaningfulLine (normalizeDetailText event.description) else summary
  let told (s : QString) : Bool := s.isEmpty || textEquivalent qt.toLower s summary
  {title:=if event.source = text "polkit" then text "Authorization Required" else text "Authentication Required",summary,
   details:=
    if !told (normalizeDetailText event.description) then normalizeDetailText event.description
    else if !told (normalizeDetailText event.message) then normalizeDetailText event.message
    else []}

def touchModel (event : SessionCreated) (title summary : String) : PromptDisplayModel :=
  {title:=text title,summary:=if (infoText event).isEmpty then text summary else firstMeaningfulLine (infoText event),
   details:=normalizeDetailText event.description}

def pinentryModel (event : SessionCreated) (title : String) : PromptDisplayModel :=
  {title:=text title,summary:=pinentrySummary qt event,details:=pinentryDetails qt event}

def described (event : SessionCreated) : PromptDisplayModel :=
  match intent qt event with
  | .unlock =>
    {title:=arg (text "Unlock %1") (unlockTarget qt event),
     summary:=arg (text "Use your password to unlock %1") (unlockTarget qt event),
     details:=buildUnlockDetails qt event (unlockTarget qt event)}
  | .fingerprint => touchModel event "Verify Fingerprint" "Use your fingerprint sensor to continue"
  | .fido2 => touchModel event "Use Security Key" "Touch your security key to continue"
  | .runCommand => {title:=text "Authorization Required",summary:=runSummary qt event}
  | .openPgp => pinentryModel qt event "Unlock OpenPGP Key"
  | .generic =>
    if event.source = text "pinentry" then
      pinentryModel qt event (if contains (text "ssh") (detailText qt event) then "Unlock SSH Key" else "Authentication Required")
    else genericModel qt event

def requested (event : SessionCreated) (model : PromptDisplayModel) : PromptDisplayModel :=
  let requestorName := trimmed event.requestorName
  let duplicateUnlockRequestor :=
    decide (intent qt event = .unlock) && decide (qt.foldCase requestorName = qt.foldCase (unlockTarget qt event))
  if requestorName.isEmpty || duplicateUnlockRequestor then model
  else {model with requestor:=arg (text "Requested by %1") requestorName}

-- Details without a summary give it their first line.
def summarized (model : PromptDisplayModel) : PromptDisplayModel :=
  if model.summary.isEmpty && !model.details.isEmpty then
    let normalizedDetails := normalizeDetailText model.details
    if normalizedDetails.contains lineFeed then
      {model with
        summary:=trimmed (normalizedDetails.takeWhile (fun c => decide (c ≠ lineFeed))),
        details:=trimmed ((normalizedDetails.dropWhile (fun c => decide (c ≠ lineFeed))).drop 1)}
    else {model with summary:=normalizedDetails,details:=[]}
  else model

-- Details do not repeat the summary.
def deduplicated (model : PromptDisplayModel) : PromptDisplayModel :=
  if model.summary.isEmpty || model.details.isEmpty then model
  else
    let model :=
      match split (normalizeDetailText model.details) with
      | first :: rest => if textEquivalent qt.toLower first model.summary then {model with details:=trimmed (join rest)} else model
      | [] => model
    if textEquivalent qt.toLower model.summary model.details then {model with details:=[]} else model

def informed (event : SessionCreated) (model : PromptDisplayModel) : PromptDisplayModel :=
  let infoText := infoText event
  if infoText.isEmpty || textEquivalent qt.toLower infoText model.summary || textEquivalent qt.toLower infoText model.details then model
  else {model with details:=if model.details.isEmpty then infoText else uniqueJoined qt.toLower [model.details,infoText]}

def prompted (event : SessionCreated) (model : PromptDisplayModel) : PromptDisplayModel :=
  let touches := decide (event.source = text "polkit") && touchHint qt event
  let model :=
    if event.source = text "pinentry" then
      {model with prompt:=if (trimmed event.message).isEmpty then text "Passphrase:" else trimmed event.message}
    else if touches then {model with prompt:=text "Press Enter to continue (or wait)",allowEmptyResponse:=true}
    else {model with prompt:=text "Password:"}
  {model with passphrasePrompt:=!touches && (decide (event.source = text "pinentry") || mentionsPassphrase model.prompt)}

def buildDisplayModel (event : SessionCreated) : PromptDisplayModel :=
  prompted qt event (informed qt event (deduplicated qt (summarized (requested qt event (described qt event)))))

theorem described_allows (event : SessionCreated) : (described qt event).allowEmptyResponse = false := by
  unfold described
  cases intent qt event with
  | generic => simp only [apply_ite PromptDisplayModel.allowEmptyResponse,pinentryModel,genericModel,ite_self]
  | unlock | runCommand | openPgp | fingerprint | fido2 => rfl

theorem requested_allows (event : SessionCreated) (model : PromptDisplayModel) :
    (requested qt event model).allowEmptyResponse = model.allowEmptyResponse := by
  unfold requested
  simp only [apply_ite PromptDisplayModel.allowEmptyResponse,ite_self]

theorem summarized_allows (model : PromptDisplayModel) : (summarized model).allowEmptyResponse = model.allowEmptyResponse := by
  unfold summarized
  simp only [apply_ite PromptDisplayModel.allowEmptyResponse,ite_self]

theorem deduplicated_allows (model : PromptDisplayModel) : (deduplicated qt model).allowEmptyResponse = model.allowEmptyResponse := by
  unfold deduplicated
  cases split (normalizeDetailText model.details) with
  | nil => simp only [apply_ite PromptDisplayModel.allowEmptyResponse,ite_self]
  | cons first rest => simp only [apply_ite PromptDisplayModel.allowEmptyResponse,ite_self]

theorem informed_allows (event : SessionCreated) (model : PromptDisplayModel) :
    (informed qt event model).allowEmptyResponse = model.allowEmptyResponse := by
  unfold informed
  simp only [apply_ite PromptDisplayModel.allowEmptyResponse,ite_self]

-- Only the prompts of polkit can be answered by a touch.
theorem buildDisplayModel_allows (event : SessionCreated) :
    (buildDisplayModel qt event).allowEmptyResponse = (decide (event.source = text "polkit") && touchHint qt event) := by
  have before : (informed qt event (deduplicated qt (summarized (requested qt event (described qt event))))).allowEmptyResponse = false := by
    rw [informed_allows,deduplicated_allows,summarized_allows,requested_allows,described_allows]
  unfold buildDisplayModel prompted
  simp only [apply_ite PromptDisplayModel.allowEmptyResponse,before]
  split
  · next pinentry =>
    rw [pinentry]
    rfl
  · split
    · next touches => exact touches.symm
    · next other => exact (Bool.eq_false_iff.mpr other).symm

end PromptModel

end BbAuth
