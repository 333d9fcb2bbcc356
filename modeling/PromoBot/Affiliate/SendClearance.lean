import PromoBot.Affiliate.DeliveryUses
import PromoBot.Affiliate.LegacyTransitionSafety
import PromoBot.Affiliate.PreviewValidation
import PromoBot.Affiliate.ShadowDelivery
import PromoBot.Lib.JsonText
import PromoBot.Lib.Trace

/-!
# What has to be clear before a message is sent

The entries of `ShadowDeliveryService` and `CoinShadowDeliveryService`, from the gates of the
settings to `send_text`: which chat a call may write to, what it reads of the preview, and what
it asks of the chat.  `Affiliate.ShadowDelivery` leaves all of this to the schedule, as the one
stage `preflight`; here `preflight` is taken apart, and the stages after it are those of
`Service.next`.

Any number of calls work on one database, which anything else may change between two of their
steps.  When a message goes out, its preview may have been purged or replaced since it was read
for the last time, so there is nothing to say about the tables at that moment.  What can be
said is what this very call has seen, and in which order.  So a call keeps a log of what it
found out and did, which no step reads, and `Checked` fixes the whole of it up to the send: the
text read, the chat inspected, the same text read again, and the stages passed since.  Whatever
is sent was cleared in this sense (`sends_cleared`).

The services differ in three points.

* The coin service reads the text in the transaction that reserves the delivery, the canonical
  one only after it (`reserve`, `firstRead`).
* The canonical service marks the delivery as sending and then asks `before_send`; the coin
  service asks `before_send` first (`stagesBefore`).
* The coin service repeats the gates of the automatic delivery over its own settings.  The
  canonical one trusts the authorization, which names a destination and no settings.  That it
  was given for the settings of the service is up to the caller, who builds both from the same
  ones; for the canonical service this is assumed (`AuthorizesHere`).

## Why the text is read twice

Between the first reading and the send there is a wait, for Telegram to say what the chat is. A
preview may be purged or made anew meanwhile, and the delivery would send a text whose links
have expired or which nobody has seen.  The second reading is compared with the first, and a
difference ends the call before anything is marked.  The log shows both readings with the
inspection in between, and this is all a call can know: what becomes of the preview after the
second one is not seen any more.

## Why the log is fixed as a whole

Each single check could be stated on its own, and the statements would not add up: that a chat
was inspected and that a text was read says nothing about which came first, or whether it was
this text and this chat.  `Checked` is the log as one list, with the same chat, the same
preview and the same text in all of its entries.  The proof is by the stage a call is at: the
log so far is determined by the stage and by what the call carries with it, and each step adds
the entry its stage stands for.
-/

namespace PromoBot
namespace SendClearance

open Fallible Trace ShadowDeliveryService AffiliateLinkHistoryRepository

/-! ## Settings -/

/-- What the gates read of `EnvironmentSettings`; `hasBotToken` is
`telegram_bot_token is not None`. -/
structure EnvironmentSettings where
  dryRun : Bool
  publishRealDeals : Bool
  publishWithoutAffiliate : Bool
  searchEnabled : Bool
  couponBrowserVerification : Bool
  aliexpressLiveApiEnabled : Bool
  aliexpressCoinShortShadowEnabled : Bool
  aliexpressTelegramShadowEnabled : Bool
  aliexpressTelegramShadowListenerEnabled : Bool
  aliexpressTelegramShadowAutoDeliveryEnabled : Bool
  telegramShadowTestDeliveryEnabled : Bool
  hasBotToken : Bool
  deriving DecidableEq

/-- `-100[1-9][0-9]*`. -/
def IsChannelId (t : Text) : Prop :=
  "-100".toList <+: t ∧ Shadow.IsMessageId (t.drop 4)

instance : DecidablePred IsChannelId := fun _ => inferInstanceAs (Decidable (_ ∧ _))

/-- What deliveries read of `AppConfig`: the source channels, and the chat of each allowed
destination, which is of the only kind there is, `private_channel`. -/
structure AppConfig where
  sourceChannels : List Text
  allowedDestinations : PyDict Text Text
  chatIds : ∀ e ∈ allowedDestinations.items, IsChannelId e.2
  distinct : (allowedDestinations.items.map Prod.snd).Nodup

/-- The chat of a destination. -/
def AppConfig.target (config : AppConfig) (destination : Text) : Option Text :=
  config.allowedDestinations.items.lookup destination

/-- `PRIVATE_TEST_ALIAS`. -/
def privateTestAlias : Text := "private-test".toList

/-- No gate to the public is open. -/
def DryRunOnly (settings : EnvironmentSettings) : Prop :=
  settings.dryRun = true ∧ settings.publishRealDeals = false ∧
    settings.publishWithoutAffiliate = false ∧ settings.searchEnabled = false

instance : DecidablePred DryRunOnly := fun _ => inferInstanceAs (Decidable (_ ∧ _))

/-- `assert_shadow_delivery_gates`. -/
def assertShadowDeliveryGates (settings : EnvironmentSettings) (confirm : Bool) :
    Except String Unit := do
  check (confirm = true) "SHADOW_SEND_CONFIRMATION_REQUIRED"
  check (settings.telegramShadowTestDeliveryEnabled = true) "TELEGRAM_SHADOW_TEST_DELIVERY_DISABLED"
  check (DryRunOnly settings) "SHADOW_DELIVERY_SAFETY_GATE_CLOSED"
  check (settings.hasBotToken = true) "TELEGRAM_BOT_TOKEN_MISSING"

/-- The gate of the automatic delivery. -/
def AutoGateOpen (settings : EnvironmentSettings) : Prop :=
  settings.aliexpressTelegramShadowAutoDeliveryEnabled = true ∧
    settings.aliexpressTelegramShadowEnabled = false ∧
    settings.aliexpressTelegramShadowListenerEnabled = false ∧
    settings.telegramShadowTestDeliveryEnabled = false ∧
    settings.aliexpressLiveApiEnabled = true ∧ DryRunOnly settings ∧
    settings.couponBrowserVerification = false

instance : DecidablePred AutoGateOpen := fun _ => inferInstanceAs (Decidable (_ ∧ _))

/-- The checks of `authorize_automatic_shadow_delivery`. -/
def authorizeAutomaticShadowDelivery (settings : EnvironmentSettings) (config : AppConfig)
    (destination : Text) : Except String Unit := do
  check (AutoGateOpen settings) "SHADOW_AUTO_DELIVERY_SAFETY_GATE_CLOSED"
  check (settings.hasBotToken = true) "SHADOW_AUTO_DELIVERY_BOT_TOKEN_MISSING"
  check (destination = privateTestAlias) "SHADOW_AUTO_DELIVERY_DESTINATION_REQUIRED"
  check (config.sourceChannels.length = 1) "SHADOW_AUTO_DELIVERY_ONE_SOURCE_REQUIRED"
  check (∀ source ∈ config.sourceChannels, IsChannelId source)
    "SHADOW_AUTO_DELIVERY_NUMERIC_SOURCE_REQUIRED"
  let target ← orRaise (config.target destination) "SHADOW_AUTO_DELIVERY_DESTINATION_NOT_ALLOWED"
  check (target ∉ config.sourceChannels) "SHADOW_AUTO_DELIVERY_DESTINATION_IS_SOURCE"

/-- `AutomaticShadowDeliveryAuthorization`.  Only `authorize_automatic_shadow_delivery` has the
token to make one; for which settings and configuration it did, an authorization does not say. -/
structure Authorization where
  destination : Text
  issued : ∃ settings config, authorizeAutomaticShadowDelivery settings config destination = .ok ()

/-- The gate of the coin deliveries. -/
def CoinGateOpen (settings : EnvironmentSettings) (automatic : Bool) : Prop :=
  settings.aliexpressCoinShortShadowEnabled = true ∧ settings.aliexpressLiveApiEnabled = true ∧
    DryRunOnly settings ∧ settings.couponBrowserVerification = false ∧
    settings.aliexpressTelegramShadowEnabled = false ∧
    settings.aliexpressTelegramShadowListenerEnabled = false ∧
    (settings.aliexpressTelegramShadowAutoDeliveryEnabled = true → automatic = true) ∧
    settings.telegramShadowTestDeliveryEnabled = false

instance (settings : EnvironmentSettings) (automatic : Bool) :
    Decidable (CoinGateOpen settings automatic) := inferInstanceAs (Decidable (_ ∧ _))

/-- `_authorized_target`. -/
def authorizedTarget (settings : EnvironmentSettings) (config : AppConfig) (destination : Text)
    (automatic : Bool) : Except String Text := do
  check (CoinGateOpen settings automatic) "COIN_SHADOW_SAFETY_GATE_CLOSED"
  check (settings.hasBotToken = true) "COIN_SHADOW_BOT_TOKEN_MISSING"
  check (destination = privateTestAlias) "COIN_SHADOW_DESTINATION_REQUIRED"
  let target ← orRaise (config.target destination) "COIN_SHADOW_DESTINATION_NOT_ALLOWED"
  check (∀ source ∈ config.sourceChannels, IsChannelId source) "COIN_SHADOW_NUMERIC_SOURCE_REQUIRED"
  check (target ∉ config.sourceChannels) "COIN_SHADOW_DESTINATION_IS_SOURCE"
  return target

/-! ## Entries -/

/-- How a delivery is asked for: `deliver`, `deliver_automatic` and `deliver_multi_automatic`
of the two services. -/
inductive Entry
  | manual (confirm : Bool)
  | automatic (authorization : Authorization)
  | coinManual
  | coinAutomatic (multi : Bool) (authorization : Authorization)

/-- The service an entry belongs to. -/
def Entry.service : Entry → Shadow.Service
  | .manual _ | .automatic _ => .canonical
  | .coinManual => .coin false
  | .coinAutomatic multi _ => .coin multi

/-- The beginning of `ShadowDeliveryService._deliver`. -/
def canonicalTarget (config : AppConfig) (destination : Text) : Except String Text := do
  let target ← orRaise (config.target destination) "SHADOW_DESTINATION_NOT_ALLOWED"
  check (∀ source ∈ config.sourceChannels, IsChannelId source) "SHADOW_SOURCE_NUMERIC_ID_REQUIRED"
  return target

/-- The chat a call may write to, before anything is read of the database.  Of an authorization
`deliver_automatic` of the canonical service looks at the destination only; the coin service
asks for its own settings and configuration once more. -/
def Entry.admit (settings : EnvironmentSettings) (config : AppConfig) (destination : Text) :
    Entry → Except String Text
  | .manual confirm => do
    assertShadowDeliveryGates settings confirm
    canonicalTarget config destination
  | .automatic authorization => do
    check (authorization.destination = destination) "SHADOW_AUTO_DELIVERY_AUTHORIZATION_INVALID"
    canonicalTarget config destination
  | .coinManual => authorizedTarget settings config destination false
  | .coinAutomatic _ authorization => do
    authorizeAutomaticShadowDelivery settings config destination
    check (authorization.destination = destination) "COIN_SHADOW_AUTO_AUTHORIZATION_INVALID"
    authorizedTarget settings config destination true

/-! ## What is read -/

/-- The tables a delivery reads its preview from. -/
structure Tables extends ShadowDb where
  evidence : CoinShadowEvidences
  coinPreviews : AliExpressCoinShadowPreviews
  multiPreviews : CoinShadowMultiPreviews

variable (env : Conversion.Environment) (isAware : Text → Bool)

/-- `get_ready`, of either repository of coin previews: the text of the preview. -/
def getReady (t : Tables) (multi : Bool) (previewId : Nat) (now : Instant) :
    Except String (Option Text) :=
  if multi then
    match (t.multiPreviews.get? previewId).filter fun r =>
        now < r.contentExpiresAt ∧ ∀ row ∈ r.occurrences,
          ∃ evidence ∈ t.evidence.get? row.evidenceId, Above evidence.expiresAt now with
    | none => .ok none
    | some r => (validateMultiPreview isAware t.history t.evidence t.uses previewId r).map
        fun _ => some r.renderedText
  else
    match (t.coinPreviews.get? previewId).filter fun r => now < r.contentExpiresAt with
    | none => .ok none
    | some r => (validateCoinPreview t.history t.evidence t.uses previewId r).map
        fun _ => some r.renderedText

/-- `_validated_text` of the service. -/
def readText (t : Tables) (service : Shadow.Service) (previewId : Nat) (chatId : Text)
    (now : Instant) : Except String Text :=
  match service with
  | .canonical => validatedText env t.toShadowDb previewId chatId now
  | .coin multi => do
    let text ← orRaise (← getReady isAware t multi previewId now) "COIN_SHADOW_PREVIEW_NOT_READY"
    check (Conversion.utf16Length text ≤ 4096) "COIN_SHADOW_MESSAGE_TOO_LONG"
    return text

/-- What Telegram says of a chat. -/
structure ChannelAccess where
  id : Int
  type : Text
  username : Option Text
  activeUsernames : List Text
  botMembershipStatus : Text
  canPostMessages : Bool
  deriving DecidableEq

/-- The chat is that channel, and it has no name by which it could be found.  The canonical
service takes an empty name for none. -/
def ChannelAccess.IsPrivate (access : ChannelAccess) (service : Shadow.Service) (chatId : Text) :
    Prop :=
  JsonText.dumpInt access.id = chatId ∧ access.type = "channel".toList ∧
    (access.username = none ∨ service = .canonical ∧ access.username = some []) ∧
    access.activeUsernames = []

instance (access : ChannelAccess) (service : Shadow.Service) (chatId : Text) :
    Decidable (access.IsPrivate service chatId) := inferInstanceAs (Decidable (_ ∧ _))

/-- `_validate_access`, and the checks of the canonical service on the chat. -/
def validateAccess (access : ChannelAccess) (service : Shadow.Service) (chatId : Text) :
    Except String Unit :=
  match service with
  | .canonical => check (access.IsPrivate service chatId) "SHADOW_DESTINATION_NOT_PRIVATE_CHANNEL"
  | .coin _ => do
    check (access.IsPrivate service chatId) "COIN_SHADOW_DESTINATION_NOT_PRIVATE_CHANNEL"
    check (access.botMembershipStatus ∈ ["administrator", "creator", "owner"].map String.toList)
      "COIN_SHADOW_BOT_NOT_CHANNEL_MEMBER"
    check (access.canPostMessages = true) "COIN_SHADOW_BOT_CANNOT_POST"

/-! ## Calls -/

/-- What a call is about, once it is admitted. -/
structure Delivery where
  service : Shadow.Service
  previewId : Nat
  chatId : Text

/-- Where a call is. -/
inductive Position
  | idle
  /-- The transaction that reserves the delivery is next. -/
  | reserving (d : Delivery)
  /-- The canonical service reads the preview for the first time. -/
  | reading (d : Delivery)
  /-- The chat is asked for; the text is the one read. -/
  | inspecting (d : Delivery) (text : Text)
  /-- The preview is read again. -/
  | rereading (d : Delivery) (text : Text)
  /-- The stages after the preflight, with the text to send. -/
  | going (d : Delivery) (stage : Shadow.Stage) (text : Text)
  | over

/-- What a call found out or did. -/
inductive Event
  | read (t : Tables) (now : Instant) (text : Text)
  | inspected (access : ChannelAccess)
  /-- A stage of the delivery succeeded. -/
  | passed (stage : Shadow.Stage)
  | sent (chatId text : Text)

/-- A call and its log. -/
structure Call where
  position : Position
  log : List Event

/-- The tables and the calls. -/
structure World where
  tables : Tables
  calls : Nat → Call

/-- What comes next for a call. -/
inductive Answer
  | call (entry : Entry) (previewId : Nat) (destination : Text)
  /-- The first transaction; `created` if the delivery was not reserved before. -/
  | reserve (created : Bool) (now : Instant)
  /-- The preview is read. -/
  | read (now : Instant)
  | inspect (access : ChannelAccess)
  /-- `mark_sending` or `before_send` succeeds. -/
  | proceed
  | sendText
  /-- The call raises, returns or dies. -/
  | leave

/-- What can happen next. -/
inductive Action
  /-- Other parts of the program write. -/
  | others (tables : Tables)
  | act (p : Nat) (answer : Answer)

/-- A call goes on, and has found out something. -/
def Call.goOn (c : Call) (position : Position) (event : Event) : Call :=
  ⟨position, c.log ++ [event]⟩

/-- A call turns to something else. -/
def Call.turn (c : Call) (position : Position) : Call := { c with position := position }

/-- The transaction that reserves the delivery of a call. -/
def reserve (t : Tables) (c : Call) (d : Delivery) (created : Bool) (now : Instant) : Call :=
  match d.service with
  | .canonical =>
    if (t.previews.get? d.previewId).isSome ∧ created = true then c.turn (.reading d)
    else c.turn .over
  | .coin multi =>
    match getReady isAware t multi d.previewId now with
    | .ok (some text) =>
      if created = true then c.goOn (.inspecting d text) (.read t now text) else c.turn .over
    | .ok none | .error _ => c.turn .over

/-- The first reading of the canonical service, and the check before it. -/
def firstRead (config : AppConfig) (t : Tables) (c : Call) (d : Delivery) (now : Instant) : Call :=
  if d.chatId ∈ config.sourceChannels then c.turn .over
  else match readText env isAware t d.service d.previewId d.chatId now with
    | .ok text => c.goOn (.inspecting d text) (.read t now text)
    | .error _ => c.turn .over

/-- The second reading. -/
def secondRead (t : Tables) (c : Call) (d : Delivery) (expected : Text) (now : Instant) : Call :=
  match readText env isAware t d.service d.previewId d.chatId now with
  | .ok text =>
    if text = expected then
      c.goOn (.going d (d.service.next .preflight) text) (.read t now text)
    else c.turn .over
  | .error _ => c.turn .over

variable (settings : EnvironmentSettings) (config : AppConfig)

def Call.step (t : Tables) (c : Call) : Answer → Option Call
  | .call entry previewId destination =>
    match c.position with
    | .idle =>
      match entry.admit settings config destination with
      | .ok chatId => some (c.turn (.reserving ⟨entry.service, previewId, chatId⟩))
      | .error _ => some (c.turn .over)
    | _ => none
  | .reserve created now =>
    match c.position with
    | .reserving d => some (reserve isAware t c d created now)
    | _ => none
  | .read now =>
    match c.position with
    | .reading d => some (firstRead env isAware config t c d now)
    | .rereading d text => some (secondRead env isAware t c d text now)
    | _ => none
  | .inspect access =>
    match c.position with
    | .inspecting d text =>
      match validateAccess access d.service d.chatId with
      | .ok _ => some (c.goOn (.rereading d text) (.inspected access))
      | .error _ => some (c.turn .over)
    | _ => none
  | .proceed =>
    match c.position with
    | .going d .marking text =>
      some (c.goOn (.going d (d.service.next .marking) text) (.passed .marking))
    | .going d .beforeSend text =>
      some (c.goOn (.going d (d.service.next .beforeSend) text) (.passed .beforeSend))
    | _ => none
  | .sendText =>
    match c.position with
    | .going d .sending text => some (c.goOn (.going d .inTransport text) (.sent d.chatId text))
    | _ => none
  | .leave => some (c.turn .over)

def step (w : World) : Action → Option World
  | .others tables => some { w with tables := tables }
  | .act p answer => ((w.calls p).step env isAware settings config w.tables answer).map fun c =>
      { w with calls := Function.update w.calls p c }

/-- Any number of calls, under these settings. -/
def system : TransitionSystem World Action where
  init w := ∀ p, w.calls p = ⟨.idle, []⟩
  step := step env isAware settings config

/-- The entry is given an authorization that its own settings and configuration give. -/
def Entry.AuthorizedHere : Entry → Prop
  | .automatic authorization =>
    authorizeAutomaticShadowDelivery settings config authorization.destination = .ok ()
  | .manual _ | .coinManual | .coinAutomatic _ _ => True

/-- The canonical service is called with authorizations for its own settings and configuration.
The service relies on its caller for that, which builds both from the same settings. -/
def AuthorizesHere (_ : World) : Action → Prop
  | .act _ (.call entry _ _) => entry.AuthorizedHere settings config
  | _ => True

/-! ## Which chat -/

/-- What the gates and the configuration say of a chat a call was admitted for. -/
structure Permitted (chatId : Text) : Prop where
  dryRun : DryRunOnly settings
  token : settings.hasBotToken = true
  allowed : ∃ destination, config.target destination = some chatId
  numeric : ∀ source ∈ config.sourceChannels, IsChannelId source

variable {settings config}

theorem authorize_eq_ok {destination : Text}
    (h : authorizeAutomaticShadowDelivery settings config destination = .ok ()) :
    DryRunOnly settings ∧ settings.hasBotToken = true := by
  obtain ⟨_, hgate, h⟩ := bind_eq_ok.1 h
  obtain ⟨_, htoken, -⟩ := bind_eq_ok.1 h
  exact ⟨(check_eq_ok.1 hgate).2.2.2.2.2.1, check_eq_ok.1 htoken⟩

theorem canonicalTarget_eq_ok {destination chatId : Text}
    (h : canonicalTarget config destination = .ok chatId) :
    config.target destination = some chatId ∧
      ∀ source ∈ config.sourceChannels, IsChannelId source := by
  obtain ⟨target, htarget, h⟩ := bind_eq_ok.1 h
  obtain ⟨_, hnumeric, h⟩ := bind_eq_ok.1 h
  obtain rfl := Except.ok.inj h
  exact ⟨orRaise_eq_ok.1 htarget, check_eq_ok.1 hnumeric⟩

theorem authorizedTarget_eq_ok {destination chatId : Text} {automatic : Bool}
    (h : authorizedTarget settings config destination automatic = .ok chatId) :
    Permitted settings config chatId ∧ chatId ∉ config.sourceChannels := by
  obtain ⟨_, hgate, h⟩ := bind_eq_ok.1 h
  obtain ⟨_, htoken, h⟩ := bind_eq_ok.1 h
  obtain ⟨_, -, h⟩ := bind_eq_ok.1 h
  obtain ⟨target, htarget, h⟩ := bind_eq_ok.1 h
  obtain ⟨_, hnumeric, h⟩ := bind_eq_ok.1 h
  obtain ⟨_, hsource, h⟩ := bind_eq_ok.1 h
  obtain rfl := Except.ok.inj h
  exact ⟨⟨(check_eq_ok.1 hgate).2.2.1, check_eq_ok.1 htoken, ⟨_, orRaise_eq_ok.1 htarget⟩,
    check_eq_ok.1 hnumeric⟩, check_eq_ok.1 hsource⟩

/-- **Whoever is admitted may write to the chat**; the coin service has seen to it by then that
the chat is no source. -/
theorem admit_eq_ok {entry : Entry} {destination chatId : Text}
    (hhere : entry.AuthorizedHere settings config)
    (h : entry.admit settings config destination = .ok chatId) :
    Permitted settings config chatId ∧
      (entry.service ≠ .canonical → chatId ∉ config.sourceChannels) := by
  cases entry with
  | manual confirm =>
    obtain ⟨_, hgates, h⟩ := bind_eq_ok.1 h
    obtain ⟨_, -, hgates⟩ := bind_eq_ok.1 hgates
    obtain ⟨_, -, hgates⟩ := bind_eq_ok.1 hgates
    obtain ⟨_, hdry, htoken⟩ := bind_eq_ok.1 hgates
    obtain ⟨htarget, hnumeric⟩ := canonicalTarget_eq_ok h
    exact ⟨⟨check_eq_ok.1 hdry, check_eq_ok.1 htoken, ⟨_, htarget⟩, hnumeric⟩,
      fun hne => absurd rfl hne⟩
  | automatic authorization =>
    obtain ⟨_, -, h⟩ := bind_eq_ok.1 h
    obtain ⟨hdry, htoken⟩ := authorize_eq_ok hhere
    obtain ⟨htarget, hnumeric⟩ := canonicalTarget_eq_ok h
    exact ⟨⟨hdry, htoken, ⟨_, htarget⟩, hnumeric⟩, fun hne => absurd rfl hne⟩
  | coinManual =>
    obtain ⟨hpermitted, hsource⟩ := authorizedTarget_eq_ok h
    exact ⟨hpermitted, fun _ => hsource⟩
  | coinAutomatic multi authorization =>
    obtain ⟨_, -, h⟩ := bind_eq_ok.1 h
    obtain ⟨_, -, h⟩ := bind_eq_ok.1 h
    obtain ⟨hpermitted, hsource⟩ := authorizedTarget_eq_ok h
    exact ⟨hpermitted, fun _ => hsource⟩

/-! ## What a log says -/

/-- The stages after the preflight that come before a stage. -/
def stagesBefore : Shadow.Service → Shadow.Stage → List Shadow.Stage
  | .canonical, .beforeSend => [.marking]
  | .canonical, .sending => [.marking, .beforeSend]
  | .coin _, .marking => [.beforeSend]
  | .coin _, .sending => [.beforeSend, .marking]
  | _, _ => []

/-- A log that ends before a stage: the text was read, the chat was found to be the private
channel, and the same text was read again. -/
def Checked (d : Delivery) (text : Text) (stage : Shadow.Stage) (log : List Event) : Prop :=
  ∃ t₁ now₁ access t₂ now₂,
    log = [.read t₁ now₁ text, .inspected access, .read t₂ now₂ text] ++
      (stagesBefore d.service stage).map .passed ∧
    validateAccess access d.service d.chatId = .ok () ∧
    readText env isAware t₂ d.service d.previewId d.chatId now₂ = .ok text

/-- What is sent was cleared: to a chat that is permitted and no source, after the checks. -/
def Cleared (settings : EnvironmentSettings) (config : AppConfig) (pre : List Event) :
    Event → Prop
  | .sent chatId text => Permitted settings config chatId ∧ chatId ∉ config.sourceChannels ∧
      ∃ service previewId, Checked env isAware ⟨service, previewId, chatId⟩ text .sending pre
  | .read _ _ _ | .inspected _ | .passed _ => True

/-- What the log of a call says of its position. -/
def PositionFits (settings : EnvironmentSettings) (config : AppConfig) (log : List Event) :
    Position → Prop
  | .idle => log = []
  | .reserving d => Permitted settings config d.chatId ∧
      (d.service ≠ .canonical → d.chatId ∉ config.sourceChannels) ∧ log = []
  | .reading d => Permitted settings config d.chatId ∧ log = []
  | .inspecting d text => Permitted settings config d.chatId ∧ d.chatId ∉ config.sourceChannels ∧
      ∃ t now, log = [.read t now text]
  | .rereading d text => Permitted settings config d.chatId ∧ d.chatId ∉ config.sourceChannels ∧
      ∃ t now access, log = [.read t now text, .inspected access] ∧
        validateAccess access d.service d.chatId = .ok ()
  | .going d stage text => Permitted settings config d.chatId ∧
      d.chatId ∉ config.sourceChannels ∧
      (stage ≠ .inTransport → Checked env isAware d text stage log)
  | .over => True

/-- A call is where its log says, and has sent nothing that was not cleared. -/
structure Fits (settings : EnvironmentSettings) (config : AppConfig) (c : Call) : Prop where
  lawful : Lawful (Cleared env isAware settings config) c.log
  position : PositionFits env isAware settings config c.log c.position

variable {env isAware} {c c' : Call} {t : Tables} {d : Delivery} {text : Text}

theorem Fits.over (h : Fits env isAware settings config c) :
    Fits env isAware settings config (c.turn .over) :=
  ⟨h.lawful, trivial⟩

theorem Fits.goOn (h : Fits env isAware settings config c) {position : Position} {event : Event}
    (hevent : Cleared env isAware settings config c.log event)
    (hposition : PositionFits env isAware settings config (c.log ++ [event]) position) :
    Fits env isAware settings config (c.goOn position event) :=
  ⟨h.lawful.concat hevent, hposition⟩

theorem Fits.reserve (h : Fits env isAware settings config c)
    (hposition : c.position = .reserving d) (created : Bool) (now : Instant) :
    Fits env isAware settings config (reserve isAware t c d created now) := by
  have hfits := h.position
  rw [hposition] at hfits
  obtain ⟨hpermitted, hsource, hlog⟩ := hfits
  unfold SendClearance.reserve
  split
  · split
    · exact ⟨h.lawful, hpermitted, hlog⟩
    · exact h.over
  · next multi hservice =>
    split
    · next text hready =>
      split
      · refine h.goOn trivial ⟨hpermitted, hsource (by simp [hservice]), t, now, ?_⟩
        rw [hlog, List.nil_append]
      · exact h.over
    · exact h.over
    · exact h.over

theorem Fits.firstRead (h : Fits env isAware settings config c)
    (hposition : c.position = .reading d) (now : Instant) :
    Fits env isAware settings config (firstRead env isAware config t c d now) := by
  have hfits := h.position
  rw [hposition] at hfits
  obtain ⟨hpermitted, hlog⟩ := hfits
  unfold SendClearance.firstRead
  split
  · exact h.over
  · next hsource =>
    split
    · refine h.goOn trivial ⟨hpermitted, hsource, t, now, ?_⟩
      rw [hlog, List.nil_append]
    · exact h.over

theorem Fits.secondRead (h : Fits env isAware settings config c)
    (hposition : c.position = .rereading d text) (now : Instant) :
    Fits env isAware settings config (secondRead env isAware t c d text now) := by
  have hfits := h.position
  rw [hposition] at hfits
  obtain ⟨hpermitted, hsource, t₁, now₁, access, hlog, haccess⟩ := hfits
  unfold SendClearance.secondRead
  split
  · next text' hread =>
    split
    · next heq =>
      subst heq
      refine h.goOn trivial ⟨hpermitted, hsource, fun _ => ?_⟩
      refine ⟨t₁, now₁, access, t, now, ?_, haccess, hread⟩
      rw [hlog]
      cases d.service <;> rfl
    · exact h.over
  · exact h.over

theorem Checked.next {stage : Shadow.Stage} {log : List Event}
    (h : Checked env isAware d text stage log) (hstage : stage = .marking ∨ stage = .beforeSend) :
    Checked env isAware d text (d.service.next stage) (log ++ [.passed stage]) := by
  obtain ⟨t₁, now₁, access, t₂, now₂, rfl, haccess, hread⟩ := h
  refine ⟨t₁, now₁, access, t₂, now₂, ?_, haccess, hread⟩
  rw [List.append_assoc]
  rcases hstage with rfl | rfl
  · cases d.service <;> rfl
  · cases d.service <;> rfl

theorem Fits.going (h : Fits env isAware settings config c) {stage : Shadow.Stage}
    (hposition : c.position = .going d stage text) (hstage : stage ≠ .inTransport) :
    Permitted settings config d.chatId ∧ d.chatId ∉ config.sourceChannels ∧
      Checked env isAware d text stage c.log := by
  have hfits := h.position
  rw [hposition] at hfits
  exact ⟨hfits.1, hfits.2.1, hfits.2.2 hstage⟩

theorem Fits.proceed (h : Fits env isAware settings config c) {stage : Shadow.Stage}
    (hposition : c.position = .going d stage text)
    (hstage : stage = .marking ∨ stage = .beforeSend) :
    Fits env isAware settings config
      (c.goOn (.going d (d.service.next stage) text) (.passed stage)) := by
  have hne : stage ≠ .inTransport := by rcases hstage with rfl | rfl <;> decide
  obtain ⟨hpermitted, hsource, hchecked⟩ := h.going hposition hne
  exact h.goOn trivial ⟨hpermitted, hsource, fun _ => hchecked.next hstage⟩

/-- **A step of a call keeps it where its log says.** -/
theorem Fits.step (h : Fits env isAware settings config c) {answer : Answer}
    (hhere : ∀ entry previewId destination, answer = .call entry previewId destination →
      entry.AuthorizedHere settings config)
    (hstep : c.step env isAware settings config t answer = some c') :
    Fits env isAware settings config c' := by
  cases answer with
  | call entry previewId destination =>
    simp only [Call.step] at hstep
    split at hstep
    · next hposition =>
      have hlog : c.log = [] := by
        have hfits := h.position
        rw [hposition] at hfits
        exact hfits
      split at hstep
      · next chatId hadmit =>
        obtain rfl := Option.some.inj hstep
        obtain ⟨hpermitted, hsource⟩ := admit_eq_ok (hhere entry previewId destination rfl) hadmit
        exact ⟨h.lawful, hpermitted, hsource, hlog⟩
      · obtain rfl := Option.some.inj hstep
        exact h.over
    · cases hstep
  | reserve created now =>
    simp only [Call.step] at hstep
    split at hstep
    · next d hposition =>
      obtain rfl := Option.some.inj hstep
      exact h.reserve hposition created now
    · cases hstep
  | read now =>
    simp only [Call.step] at hstep
    split at hstep
    · next d hposition =>
      obtain rfl := Option.some.inj hstep
      exact h.firstRead hposition now
    · next d text hposition =>
      obtain rfl := Option.some.inj hstep
      exact h.secondRead hposition now
    · cases hstep
  | inspect access =>
    simp only [Call.step] at hstep
    split at hstep
    · next d text hposition =>
      split at hstep
      · next haccess =>
        obtain rfl := Option.some.inj hstep
        have hfits := h.position
        rw [hposition] at hfits
        obtain ⟨hpermitted, hsource, t, now, hlog⟩ := hfits
        refine h.goOn trivial ⟨hpermitted, hsource, t, now, access, ?_, haccess⟩
        rw [hlog]
        rfl
      · obtain rfl := Option.some.inj hstep
        exact h.over
    · cases hstep
  | proceed =>
    simp only [Call.step] at hstep
    split at hstep
    · next d text hposition =>
      obtain rfl := Option.some.inj hstep
      exact h.proceed hposition (.inl rfl)
    · next d text hposition =>
      obtain rfl := Option.some.inj hstep
      exact h.proceed hposition (.inr rfl)
    · cases hstep
  | sendText =>
    simp only [Call.step] at hstep
    split at hstep
    · next d text hposition =>
      obtain rfl := Option.some.inj hstep
      obtain ⟨hpermitted, hsource, hchecked⟩ := h.going hposition (by decide)
      exact h.goOn ⟨hpermitted, hsource, d.service, d.previewId, hchecked⟩
        ⟨hpermitted, hsource, fun hne => absurd rfl hne⟩
    · cases hstep
  | leave =>
    obtain rfl := Option.some.inj hstep
    exact h.over

theorem fits_of_reachable {w : World}
    (h : (system env isAware settings config).ReachableUnder (AuthorizesHere settings config) w)
    (p : Nat) : Fits env isAware settings config (w.calls p) := by
  refine h.invariant (P := fun w => ∀ p, Fits env isAware settings config (w.calls p)) ?_ ?_ p
  · intro w hinit p
    rw [hinit p]
    exact ⟨lawful_nil, rfl⟩
  · intro w a w' hfits hhere hstep p
    cases a with
    | others tables =>
      obtain rfl := Option.some.inj hstep
      exact hfits p
    | act q answer =>
      obtain ⟨c, hc, rfl⟩ := Option.map_eq_some_iff.1 hstep
      show Fits env isAware settings config (Function.update w.calls q c p)
      by_cases hp : p = q
      · subst hp
        rw [Function.update_self]
        refine (hfits p).step (fun entry previewId destination hcall => ?_) hc
        subst hcall
        exact hhere
      · rw [Function.update_of_ne hp]
        exact hfits p

theorem Checked.not_sent {chatId : Text} {text' : Text} {stage : Shadow.Stage} {log : List Event}
    (h : Checked env isAware d text stage log) : .sent chatId text' ∉ log := by
  obtain ⟨t₁, now₁, access, t₂, now₂, rfl, -, -⟩ := h
  intro hmem
  rcases List.mem_append.1 hmem with hmem | hmem
  · simp at hmem
  · obtain ⟨stage', -, hstage'⟩ := List.mem_map.1 hmem
    cases hstage'

/-- **Whatever is sent was cleared.**  However the calls interleave, and whatever else changes
the tables, a call sends one text at most; and it sends it in dry-run mode only, to a chat which
is an allowed destination and none of the sources.  Before that the same call read this very
text, found the chat to be the private channel it is configured as, read the text once more as
one that may be sent, and had the delivery marked and admitted, in the order of its service ---
and nothing else. -/
theorem sends_cleared {w : World}
    (h : (system env isAware settings config).ReachableUnder (AuthorizesHere settings config) w)
    (p : Nat) {pre post : List Event} {chatId text : Text}
    (hlog : (w.calls p).log = pre ++ .sent chatId text :: post) :
    Permitted settings config chatId ∧ chatId ∉ config.sourceChannels ∧
      (∃ service previewId,
        Checked env isAware ⟨service, previewId, chatId⟩ text .sending pre) ∧
      ∀ chatId' text', .sent chatId' text' ∉ post := by
  have hlawful := (fits_of_reachable h p).lawful
  obtain ⟨hpermitted, hsource, hchecked⟩ := hlawful pre _ post hlog
  refine ⟨hpermitted, hsource, hchecked, fun chatId' text' hmem => ?_⟩
  -- What was sent later would have the first message in its clearance.
  obtain ⟨before, after, rfl⟩ := List.append_of_mem hmem
  obtain ⟨-, -, service, previewId, hlater⟩ :=
    hlawful (pre ++ .sent chatId text :: before) (.sent chatId' text') after (by
      rw [hlog, List.append_assoc, List.cons_append])
  exact hlater.not_sent (List.mem_append_right pre List.mem_cons_self)

/-! ## A coin preview is sent -/

/-- The settings of a manual coin delivery. -/
def coinSettings : EnvironmentSettings where
  dryRun := true
  publishRealDeals := false
  publishWithoutAffiliate := false
  searchEnabled := false
  couponBrowserVerification := false
  aliexpressLiveApiEnabled := true
  aliexpressCoinShortShadowEnabled := true
  aliexpressTelegramShadowEnabled := false
  aliexpressTelegramShadowListenerEnabled := false
  aliexpressTelegramShadowAutoDeliveryEnabled := false
  telegramShadowTestDeliveryEnabled := false
  hasBotToken := true

/-- One source, and one destination. -/
def oneChannel : AppConfig where
  sourceChannels := ["-1001".toList]
  allowedDestinations := ⟨[(privateTestAlias, "-1002".toList)], by decide⟩
  chatIds := by decide
  distinct := by decide

/-- A coin link has a preview. -/
def previewed : LegacyTransition.World :=
  (LegacyTransition.system CoinGeneration.testEnvironment).endOf LegacyTransition.replacedWorld
    [.base (.start 0 1), .base (.answer 0 (.response CoinGeneration.firstAnswer) 2),
      .base (.store 0 true), .save ⟨1, List.replicate 64 'b', "oi".toList, 3, 4, false⟩]

/-- The tables with that preview, before anything is sent. -/
def undelivered : World where
  tables :=
    { messages := ∅
      links := ∅
      candidates := ∅
      history := previewed.history
      proofs := ∅
      uses := previewed.uses
      previews := ∅
      evidence := previewed.evidence
      coinPreviews := previewed.previews
      multiPreviews := ∅ }
  calls := fun _ => ⟨.idle, []⟩

/-- The chat is a channel without a name, and the bot may post. -/
def privateChannel : ChannelAccess :=
  ⟨-1002, "channel".toList, none, [], "administrator".toList, true⟩

/-- The preview is delivered. -/
def coinDelivery : List Action :=
  [.call .coinManual 6 privateTestAlias, .reserve true 3, .inspect privateChannel, .read 3,
    .proceed, .proceed, .sendText].map (.act 0)

/-- The message an event is about. -/
def Event.message : Event → Option (Text × Text)
  | .sent chatId text => some (chatId, text)
  | .read _ _ _ | .inspected _ | .passed _ => none

theorem Event.eq_sent {e : Event} {chatId text : Text} (h : e.message = some (chatId, text)) :
    e = .sent chatId text := by
  cases e with
  | sent chatId' text' =>
    obtain ⟨rfl, rfl⟩ := Prod.mk.inj (Option.some.inj h)
    rfl
  | read | inspected | passed => cases h

/-- Where the delivery leads. -/
def delivered : World :=
  (system CoinGeneration.testEnvironment (fun _ => true) coinSettings oneChannel).endOf undelivered
    coinDelivery

theorem sends_cleared_coin : ∃ pre,
    (delivered.calls 0).log = pre ++ [.sent "-1002".toList "oi".toList] ∧
      ∃ service previewId, Checked CoinGeneration.testEnvironment (fun _ => true)
        ⟨service, previewId, "-1002".toList⟩ "oi".toList .sending pre := by
  have hreachable : (system CoinGeneration.testEnvironment (fun _ => true) coinSettings
      oneChannel).ReachableUnder (AuthorizesHere coinSettings oneChannel) delivered :=
    ⟨undelivered, fun _ => rfl, TransitionSystem.runUnder_of_replay (by
      intro a ha w
      simp only [coinDelivery, List.map_cons, List.map_nil, List.mem_cons, List.not_mem_nil,
        or_false] at ha
      rcases ha with rfl | rfl | rfl | rfl | rfl | rfl | rfl <;> trivial)
      (TransitionSystem.replay_endOf _ _ (by decide +kernel))⟩
  have hmessage : ((delivered.calls 0).log.getLast?.bind Event.message) =
      some ("-1002".toList, "oi".toList) := by decide +kernel
  obtain ⟨e, hlast, he⟩ := Option.bind_eq_some_iff.1 hmessage
  obtain ⟨pre, hlog⟩ := List.getLast?_eq_some_iff.1 hlast
  rw [Event.eq_sent he] at hlog
  exact ⟨pre, hlog, (sends_cleared hreachable 0 hlog).2.2.1⟩

end SendClearance
end PromoBot
