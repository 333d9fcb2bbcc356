import PromoBot.Domain.StateMachines
import PromoBot.Lib.PyText

/-!
# Transport-neutral relay values

`relay/models.py`.  The checks of each `__post_init__` are fields of the
structures, so a link without an address or a message without a channel cannot
be built.

The two content hashes are SHA-256 digests of a JSON rendering of the message.
They are parameters here (`ContentHashes`): nothing below depends on more than
that equal messages have equal hashes.
-/

namespace PromoBot

/-- `LinkSource`. -/
inductive LinkSource
  | text | entityUrl | entityTextUrl | button
  deriving DecidableEq, Repr

/-- `ExtractedLink`. -/
structure ExtractedLink where
  url : Text
  source : LinkSource
  ordinal : Nat
  url_ne_blank : url.strip ≠ []
  deriving DecidableEq

/-- `MessageSurfaceMetadata`. -/
structure MessageSurfaceMetadata where
  hasButtons : Bool
  hasCaption : Bool
  hasCustomEmoji : Bool
  hasHiddenLinks : Bool
  hasMedia : Bool
  hasWebPagePreview : Bool
  flattenedEntityTypes : List Text
  unsupportedEntityTypes : List Text
  deriving DecidableEq

/-- `MessageSurfaceMetadata.is_safe_plain_text`. -/
def MessageSurfaceMetadata.isSafePlainText (m : MessageSurfaceMetadata) : Bool :=
  !(m.hasButtons || m.hasCaption || m.hasCustomEmoji || m.hasHiddenLinks || m.hasMedia ||
    !m.unsupportedEntityTypes.isEmpty)

/-- `MessageSurfaceMetadata()`, the defaults. -/
def MessageSurfaceMetadata.default : MessageSurfaceMetadata :=
  ⟨false, false, false, false, false, false, [], []⟩

/-- `IncomingMessage`. -/
structure IncomingMessage where
  platform : Text
  messageId : Nat
  channelId : Text
  occurredAt : Instant
  originalText : Text
  links : List ExtractedLink
  surfaceMetadata : MessageSurfaceMetadata
  messageId_pos : 1 ≤ messageId
  channelId_ne_empty : channelId ≠ []
  deriving DecidableEq

/-- A message without links. -/
def plainMessage : IncomingMessage where
  platform := "telegram".toList
  messageId := 1
  channelId := "-100".toList
  occurredAt := 0
  originalText := "oi".toList
  links := []
  surfaceMetadata := .default
  messageId_pos := by decide
  channelId_ne_empty := by decide

/-- `IncomingMessage.content_hash` and `IncomingMessage.legacy_content_hash`. -/
structure ContentHashes where
  contentHash : IncomingMessage → Text
  legacyContentHash : IncomingMessage → Text

end PromoBot
