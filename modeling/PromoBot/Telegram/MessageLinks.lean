import PromoBot.Lib.PyInt
import PromoBot.Lib.Raises
import PromoBot.Lib.Segments
import PromoBot.Lib.UrlRoundTrip
import PromoBot.Stores.Urls

/-!
# Links to Telegram messages

`parse_telegram_message_link` and `TelegramMessageReference` of `telegram/monitor.py`.

`IsMessageLink` is the grammar: a plain `https` address on `t.me` whose path is a user name and
a number, or the letter `c` and two numbers.  Every rejection the source writes itself is
right, but it leaves the numbers to `str.isdigit` and `int`, and these do not mean the same:

* a superscript is a digit to the one and refused by the other;
* a digit of another script is accepted by both, and is none of the grammar;
* more than 4300 digits are refused, and so are more than 4297 of a channel id, to which three
  are added before it is read again.

`parseTelegramMessageLink_exact_iff` says that nothing else goes wrong.

## What exactness is

A parser can be wrong in two directions, and `Exact` is about both at once: a text that is a
link is answered with its reference, and any other is answered with the error of the parser.
The second part is more than a refusal.  `int` refuses in its own words, with another exception
as far as the text of it goes, and a caller which shows the message shows that one.

The condition is on the text alone (`NumbersReadable`): the address is read, its path has the
form of a link, and the numbers in it can be read, or one of them is zero, in which case the
parser refuses whatever else there is.

## By segments

The source strips slashes, splits the path and looks at the number of segments.  The grammar
writes a path out, with slashes before and after.  `isMessageLink_iff` is the step between: a
grammar of segments, which is what each branch of the parser is compared with.  The two
directions of a link are closed by `parse_channelLink` and `parse_userLink`: what is written
for a reference is read back as it.
-/

namespace PromoBot
namespace Telegram

open Fallible PyUrl Urls

/-! ## References -/

/-- `TELEGRAM_PUBLIC_USERNAME.fullmatch(t) is not None`. -/
def isPublicUsername : Text → Bool
  | [] => false
  | c :: t => Text.isAsciiLetter c &&
      t.all (fun d => Text.isAsciiLetter d || Text.isAsciiDigit d || d = '_') &&
      4 ≤ t.length && t.length ≤ 31

/-- `TelegramMessageReference`, with what `__post_init__` checks. -/
structure TelegramMessageReference where
  messageId : Int
  chatId : Option Int
  username : Option Text
  messageId_pos : 1 ≤ messageId
  one_chat : chatId.isNone ≠ username.isNone
  chatId_ne_zero : chatId ≠ some 0
  username_fits : ∀ t ∈ username, isPublicUsername t = true

/-- What the parser raises, a `ValueError` each time. -/
inductive LinkError
  /-- `TELEGRAM_MESSAGE_LINK_INVALID`. -/
  | invalid
  /-- `TELEGRAM_MESSAGE_REFERENCE_INVALID`. -/
  | reference
  /-- What `int` says. -/
  | int (refusal : PyInt.Refusal)
  deriving DecidableEq, Repr

/-- `TelegramMessageReference(message_id=…, chat_id=…, username=…)`. -/
def TelegramMessageReference.make (messageId : Int) (chatId : Option Int)
    (username : Option Text) : Except LinkError TelegramMessageReference :=
  if h : 1 ≤ messageId ∧ chatId.isNone ≠ username.isNone ∧ chatId ≠ some 0 ∧
      ∀ t ∈ username, isPublicUsername t = true then
    .ok ⟨messageId, chatId, username, h.1, h.2.1, h.2.2.1, h.2.2.2⟩
  else .error .reference

/-! ## The parser -/

/-- The address is one on `t.me` and has nothing but a path. -/
def PlainAddress (u : PyUnicode) (parts : SplitResult) (port : Option Nat) : Prop :=
  parts.scheme = "https".toList ∧ parts.hostname u = some "t.me".toList ∧ port = none ∧
    parts.username = none ∧ parts.password = none ∧ parts.query = [] ∧ parts.fragment = [] ∧
    '%' ∉ parts.path

instance (u : PyUnicode) (parts : SplitResult) (port : Option Nat) :
    Decidable (PlainAddress u parts port) := inferInstanceAs (Decidable (_ ∧ _))

variable (u : PyUnicode) (digit : Char → Option Nat)

/-- `int`, as the parser sees it. -/
def readInt (t : Text) : Except LinkError Int := (PyInt.int digit t).mapError .int

/-- The branch for `c`, a channel and a message. -/
def parsePrivate (channelPart messagePart : Text) :
    Except LinkError TelegramMessageReference := do
  check (isDigits u channelPart = true ∧ isDigits u messagePart = true) .invalid
  let channelId ← readInt digit channelPart
  let messageId ← readInt digit messagePart
  check (1 ≤ channelId ∧ 1 ≤ messageId) .invalid
  let chatId ← readInt digit ("-100".toList ++ Text.ofNat channelId.toNat)
  TelegramMessageReference.make messageId (some chatId) none

/-- The branch for a user name and a message. -/
def parsePublic (username messagePart : Text) : Except LinkError TelegramMessageReference := do
  check (isPublicUsername username = true ∧ isDigits u messagePart = true) .invalid
  let messageId ← readInt digit messagePart
  check (1 ≤ messageId) .invalid
  TelegramMessageReference.make messageId none (some username)

/-- What the segments of the path say. -/
def parseSegments : List Text → Except LinkError TelegramMessageReference
  | [letter, channelPart, messagePart] =>
    if letter = ['c'] then parsePrivate u digit channelPart messagePart else .error .invalid
  | [username, messagePart] => parsePublic u digit username messagePart
  | _ => .error .invalid

/-- `parse_telegram_message_link`. -/
def parseTelegramMessageLink (url : Text) : Except LinkError TelegramMessageReference := do
  let (parts, port) ← orRaise
    ((urlsplit u url).bind fun parts => parts.port.map fun port => (parts, port)) .invalid
  check (PlainAddress u parts port) .invalid
  parseSegments u digit ((Text.stripOf '/' parts.path).split '/')

/-! ## The grammar -/

/-- The address is a plain one on `t.me`, with this path. -/
def IsAddress (url path : Text) : Prop :=
  ∃ parts, urlsplit u url = some parts ∧ parts.port = some none ∧ PlainAddress u parts none ∧
    parts.path = path

/-- A positive number, written in ASCII digits. -/
structure IsNumber (t : Text) (n : Nat) : Prop where
  ne_nil : t ≠ []
  digits : PyInt.IsAsciiNumeral t
  value : t.toNat = n
  pos : 0 < n

/-- The chat of a channel: its number after `-100`. -/
def channelChat (n : Nat) : Int := -(Text.toNat ("100".toList ++ Text.ofNat n) : Int)

/-- A run of slashes, before or after a path. -/
def IsSlashes (t : Text) : Prop := ∀ c ∈ t, c = '/'

/-- **What a link to a message is**, and to which. -/
inductive IsMessageLink (url : Text) (reference : TelegramMessageReference) : Prop
  | toChannel {front channel message back : Text} {n m : Nat} (hfront : IsSlashes front)
      (hback : IsSlashes back) (hchannel : IsNumber channel n) (hmessage : IsNumber message m)
      (haddress : IsAddress u url
        (front ++ ['/'].intercalate [['c'], channel, message] ++ back))
      (hm : reference.messageId = m) (hchat : reference.chatId = some (channelChat n))
      (husername : reference.username = none)
  | toUser {front username message back : Text} {m : Nat} (hfront : IsSlashes front)
      (hback : IsSlashes back) (hfits : isPublicUsername username = true)
      (hmessage : IsNumber message m)
      (haddress : IsAddress u url (front ++ ['/'].intercalate [username, message] ++ back))
      (hm : reference.messageId = m) (hchat : reference.chatId = none)
      (husername : reference.username = some username)

/-- Whether a string is answered as the grammar says: with the reference it is a link to, or,
if it is none, with the error of the parser. -/
def Exact (url : Text) : Prop :=
  (∃ reference, parseTelegramMessageLink u digit url = .ok reference ∧
    IsMessageLink u url reference) ∨
  (parseTelegramMessageLink u digit url = .error .invalid ∧
    ∀ reference, ¬ IsMessageLink u url reference)

/-! ## Reading the numbers -/

/-- What the tables say of ASCII characters. -/
structure AsciiDigits : Prop where
  isDigit : ∀ c : Char, c.toNat < 128 → u.isDigit c = Text.isAsciiDigit c
  decimal : PyInt.ReadsAscii digit

/-- `int` reads the text. -/
def Converts (t : Text) : Prop := PyInt.IsDecimal digit t ∧ t.length ≤ Json.maxStrDigits

variable {u digit} {t channel message username : Text} {reference : TelegramMessageReference}

theorem readInt_ne_invalid : readInt digit t ≠ .error .invalid := by
  intro h
  obtain ⟨_, -, h⟩ := mapError_eq_error.1 h
  cases h

theorem readInt_eq_ok (hu : AsciiDigits u digit) (ht : isDigits u t = true) {n : Int} :
    readInt digit t = .ok n ↔ Converts digit t ∧ n = PyInt.value digit t := by
  rw [isDigits, Bool.and_eq_true, decide_eq_true_eq, List.all_eq_true] at ht
  have hint : PyInt.int digit t = (PyInt.ofDigits digit t).map Int.ofNat := by
    obtain ⟨c, t, rfl⟩ := List.exists_cons_of_ne_nil ht.1
    have hc : c ≠ '-' := by
      rintro rfl
      have hdigit := hu.isDigit '-' (by decide)
      rw [ht.2 _ List.mem_cons_self] at hdigit
      exact absurd hdigit (by decide)
    unfold PyInt.int
    split
    · next heq => exact absurd (List.cons.inj heq).1 hc
    · rfl
  rw [readInt, mapError_eq_ok, hint, map_eq_ok]
  constructor
  · rintro ⟨m, hm, rfl⟩
    obtain ⟨-, hdecimal, hlength, rfl⟩ := PyInt.ofDigits_eq_ok.1 hm
    exact ⟨⟨hdecimal, hlength⟩, rfl⟩
  · rintro ⟨⟨hdecimal, hlength⟩, rfl⟩
    exact ⟨_, PyInt.ofDigits_eq_ok.2 ⟨ht.1, hdecimal, hlength, rfl⟩, rfl⟩

theorem isAsciiNumeral_ofNat (n : Nat) : PyInt.IsAsciiNumeral (Text.ofNat n) :=
  fun _ hc => Text.isAsciiDigit_of_mem_ofNat hc

/-- The id of a channel is read again with three more digits. -/
theorem readInt_chat (hu : AsciiDigits u digit) {n : Nat} {chat : Int} :
    readInt digit ("-100".toList ++ Text.ofNat n) = .ok chat ↔
      (Text.ofNat n).length ≤ 4297 ∧ chat = channelChat n := by
  have hascii : PyInt.IsAsciiNumeral ("100".toList ++ Text.ofNat n) := by
    intro c hc
    rcases List.mem_append.1 hc with hc | hc
    · exact (by decide : ∀ d ∈ "100".toList, Text.isAsciiDigit d = true) c hc
    · exact isAsciiNumeral_ofNat n c hc
  have hint : PyInt.int digit ("-100".toList ++ Text.ofNat n) =
      (PyInt.ofDigits digit ("100".toList ++ Text.ofNat n)).map fun (m : Nat) => -(m : Int) := rfl
  have hlength : ("100".toList ++ Text.ofNat n).length = 3 + (Text.ofNat n).length :=
    List.length_append
  rw [readInt, mapError_eq_ok, hint, map_eq_ok]
  constructor
  · rintro ⟨m, hm, rfl⟩
    obtain ⟨-, -, hle, rfl⟩ := PyInt.ofDigits_eq_ok.1 hm
    rw [hlength, Json.maxStrDigits] at hle
    refine ⟨by omega, ?_⟩
    rw [PyInt.value_of_ascii hu.decimal hascii, channelChat]
  · rintro ⟨hle, rfl⟩
    refine ⟨_, PyInt.ofDigits_eq_ok.2 ⟨List.cons_ne_nil _ _, hascii.isDecimal hu.decimal, ?_, rfl⟩,
      ?_⟩
    · rw [hlength, Json.maxStrDigits]
      omega
    · rw [PyInt.value_of_ascii hu.decimal hascii, channelChat]

theorem channelChat_ne_zero (n : Nat) : channelChat n ≠ 0 := by
  have hpos : 0 < Text.toNat ("100".toList ++ Text.ofNat n) := by
    show 0 < Text.toNat ('1' :: ("00".toList ++ Text.ofNat n))
    rw [PyInt.toNat_cons]
    exact Nat.add_pos_left (Nat.mul_pos (Nat.pow_pos (by decide)) (by decide)) _
  rw [channelChat]
  omega

theorem make_eq_ok {messageId : Int} {chatId : Option Int} {username : Option Text} :
    TelegramMessageReference.make messageId chatId username = .ok reference ↔
      reference.messageId = messageId ∧ reference.chatId = chatId ∧
        reference.username = username := by
  unfold TelegramMessageReference.make
  constructor
  · intro h
    split at h
    · obtain rfl := Except.ok.inj h
      exact ⟨rfl, rfl, rfl⟩
    · cases h
  · rintro ⟨rfl, rfl, rfl⟩
    rw [dif_pos ⟨reference.messageId_pos, reference.one_chat, reference.chatId_ne_zero,
      reference.username_fits⟩]

theorem make_ne_invalid {messageId : Int} {chatId : Option Int} {username : Option Text} :
    TelegramMessageReference.make messageId chatId username ≠ .error .invalid := by
  unfold TelegramMessageReference.make
  split <;> simp

/-! ## The two branches -/

theorem parsePrivate_eq_ok (hu : AsciiDigits u digit) :
    parsePrivate u digit channel message = .ok reference ↔
      (isDigits u channel = true ∧ isDigits u message = true) ∧
      (Converts digit channel ∧ Converts digit message) ∧
      (0 < PyInt.value digit channel ∧ 0 < PyInt.value digit message) ∧
      (Text.ofNat (PyInt.value digit channel)).length ≤ 4297 ∧
      reference.messageId = PyInt.value digit message ∧
      reference.chatId = some (channelChat (PyInt.value digit channel)) ∧
      reference.username = none := by
  constructor
  · intro h
    obtain ⟨_, hdigits, h⟩ := bind_eq_ok.1 h
    replace hdigits := check_eq_ok.1 hdigits
    obtain ⟨n, hn, h⟩ := bind_eq_ok.1 h
    obtain ⟨m, hm, h⟩ := bind_eq_ok.1 h
    obtain ⟨hchannel, rfl⟩ := (readInt_eq_ok hu hdigits.1).1 hn
    obtain ⟨hmessage, rfl⟩ := (readInt_eq_ok hu hdigits.2).1 hm
    obtain ⟨_, hpos, h⟩ := bind_eq_ok.1 h
    replace hpos := check_eq_ok.1 hpos
    obtain ⟨chat, hchat, h⟩ := bind_eq_ok.1 h
    obtain ⟨hlength, rfl⟩ := (readInt_chat hu).1 hchat
    exact ⟨hdigits, ⟨hchannel, hmessage⟩, ⟨by omega, by omega⟩, hlength, make_eq_ok.1 h⟩
  · rintro ⟨hdigits, ⟨hchannel, hmessage⟩, hpos, hlength, hreference⟩
    refine bind_eq_ok.2 ⟨⟨⟩, check_eq_ok.2 hdigits, ?_⟩
    refine bind_eq_ok.2 ⟨_, (readInt_eq_ok hu hdigits.1).2 ⟨hchannel, rfl⟩, ?_⟩
    refine bind_eq_ok.2 ⟨_, (readInt_eq_ok hu hdigits.2).2 ⟨hmessage, rfl⟩, ?_⟩
    refine bind_eq_ok.2 ⟨⟨⟩, check_eq_ok.2 ⟨by omega, by omega⟩, ?_⟩
    exact bind_eq_ok.2 ⟨_, (readInt_chat hu).2 ⟨hlength, rfl⟩, make_eq_ok.2 hreference⟩

/-- The branch rejects what is not all digits, and a number that is zero. -/
theorem parsePrivate_eq_invalid (hu : AsciiDigits u digit) :
    parsePrivate u digit channel message = .error .invalid ↔
      ¬ (isDigits u channel = true ∧ isDigits u message = true) ∨
      (isDigits u channel = true ∧ isDigits u message = true) ∧
      (Converts digit channel ∧ Converts digit message) ∧
      (PyInt.value digit channel = 0 ∨ PyInt.value digit message = 0) := by
  constructor
  · intro h
    rcases bind_eq_error.1 h with h | ⟨_, hdigits, h⟩
    · exact Or.inl (check_eq_error.1 h).1
    replace hdigits := check_eq_ok.1 hdigits
    rcases bind_eq_error.1 h with h | ⟨n, hn, h⟩
    · exact absurd h readInt_ne_invalid
    rcases bind_eq_error.1 h with h | ⟨m, hm, h⟩
    · exact absurd h readInt_ne_invalid
    obtain ⟨hchannel, rfl⟩ := (readInt_eq_ok hu hdigits.1).1 hn
    obtain ⟨hmessage, rfl⟩ := (readInt_eq_ok hu hdigits.2).1 hm
    rcases bind_eq_error.1 h with h | ⟨_, -, h⟩
    · have hzero := (check_eq_error.1 h).1
      exact Or.inr ⟨hdigits, ⟨hchannel, hmessage⟩, by omega⟩
    rcases bind_eq_error.1 h with h | ⟨_, -, h⟩
    · exact absurd h readInt_ne_invalid
    · exact absurd h make_ne_invalid
  · rintro (hdigits | ⟨hdigits, ⟨hchannel, hmessage⟩, hzero⟩)
    · exact bind_eq_error.2 (Or.inl (check_eq_error.2 ⟨hdigits, rfl⟩))
    · refine bind_eq_error.2 (Or.inr ⟨⟨⟩, check_eq_ok.2 hdigits, ?_⟩)
      refine bind_eq_error.2 (Or.inr ⟨_, (readInt_eq_ok hu hdigits.1).2 ⟨hchannel, rfl⟩, ?_⟩)
      refine bind_eq_error.2 (Or.inr ⟨_, (readInt_eq_ok hu hdigits.2).2 ⟨hmessage, rfl⟩, ?_⟩)
      exact bind_eq_error.2 (Or.inl (check_eq_error.2 ⟨by omega, rfl⟩))

theorem parsePublic_eq_ok (hu : AsciiDigits u digit) :
    parsePublic u digit username message = .ok reference ↔
      (isPublicUsername username = true ∧ isDigits u message = true) ∧
      Converts digit message ∧ 0 < PyInt.value digit message ∧
      reference.messageId = PyInt.value digit message ∧ reference.chatId = none ∧
      reference.username = some username := by
  constructor
  · intro h
    obtain ⟨_, hfits, h⟩ := bind_eq_ok.1 h
    replace hfits := check_eq_ok.1 hfits
    obtain ⟨m, hm, h⟩ := bind_eq_ok.1 h
    obtain ⟨hmessage, rfl⟩ := (readInt_eq_ok hu hfits.2).1 hm
    obtain ⟨_, hpos, h⟩ := bind_eq_ok.1 h
    replace hpos := check_eq_ok.1 hpos
    exact ⟨hfits, hmessage, by omega, make_eq_ok.1 h⟩
  · rintro ⟨hfits, hmessage, hpos, hreference⟩
    refine bind_eq_ok.2 ⟨⟨⟩, check_eq_ok.2 hfits, ?_⟩
    refine bind_eq_ok.2 ⟨_, (readInt_eq_ok hu hfits.2).2 ⟨hmessage, rfl⟩, ?_⟩
    exact bind_eq_ok.2 ⟨⟨⟩, check_eq_ok.2 (by omega), make_eq_ok.2 hreference⟩

theorem parsePublic_eq_invalid (hu : AsciiDigits u digit) :
    parsePublic u digit username message = .error .invalid ↔
      ¬ (isPublicUsername username = true ∧ isDigits u message = true) ∨
      (isPublicUsername username = true ∧ isDigits u message = true) ∧
      Converts digit message ∧ PyInt.value digit message = 0 := by
  constructor
  · intro h
    rcases bind_eq_error.1 h with h | ⟨_, hfits, h⟩
    · exact Or.inl (check_eq_error.1 h).1
    replace hfits := check_eq_ok.1 hfits
    rcases bind_eq_error.1 h with h | ⟨m, hm, h⟩
    · exact absurd h readInt_ne_invalid
    obtain ⟨hmessage, rfl⟩ := (readInt_eq_ok hu hfits.2).1 hm
    rcases bind_eq_error.1 h with h | ⟨_, -, h⟩
    · have hzero := (check_eq_error.1 h).1
      exact Or.inr ⟨hfits, hmessage, by omega⟩
    · exact absurd h make_ne_invalid
  · rintro (hfits | ⟨hfits, hmessage, hzero⟩)
    · exact bind_eq_error.2 (Or.inl (check_eq_error.2 ⟨hfits, rfl⟩))
    · refine bind_eq_error.2 (Or.inr ⟨⟨⟩, check_eq_ok.2 hfits, ?_⟩)
      refine bind_eq_error.2 (Or.inr ⟨_, (readInt_eq_ok hu hfits.2).2 ⟨hmessage, rfl⟩, ?_⟩)
      exact bind_eq_error.2 (Or.inl (check_eq_error.2 ⟨by omega, rfl⟩))

/-! ## When the branches are exact -/

theorem IsNumber.isDigits (hu : AsciiDigits u digit) {n : Nat} (h : IsNumber t n) :
    isDigits u t = true := by
  rw [Urls.isDigits, Bool.and_eq_true, decide_eq_true_eq, List.all_eq_true]
  refine ⟨h.ne_nil, fun c hc => ?_⟩
  rw [hu.isDigit c (PyUnicode.isAsciiDigit_lt (h.digits c hc))]
  exact h.digits c hc

theorem IsNumber.value_eq (hu : AsciiDigits u digit) {n : Nat} (h : IsNumber t n) :
    PyInt.value digit t = n := by
  rw [PyInt.value_of_ascii hu.decimal h.digits, h.value]

theorem isNumber_of_ascii (hu : AsciiDigits u digit) (hdigits : isDigits u t = true)
    (hascii : PyInt.IsAsciiNumeral t) (hpos : 0 < PyInt.value digit t) :
    IsNumber t (PyInt.value digit t) := by
  rw [isDigits, Bool.and_eq_true, decide_eq_true_eq] at hdigits
  exact ⟨hdigits.1, hascii, (PyInt.value_of_ascii hu.decimal hascii).symm, hpos⟩

/-- The reference is to the message of that number in the channel of that number. -/
def ToChannel (channel message : Text) (reference : TelegramMessageReference) : Prop :=
  ∃ n m, IsNumber channel n ∧ IsNumber message m ∧ reference.messageId = m ∧
    reference.chatId = some (channelChat n) ∧ reference.username = none

/-- The reference is to the message of that number in a public chat. -/
def ToUser (username message : Text) (reference : TelegramMessageReference) : Prop :=
  ∃ m, isPublicUsername username = true ∧ IsNumber message m ∧ reference.messageId = m ∧
    reference.chatId = none ∧ reference.username = some username

variable (digit) in
/-- The number of a message is read as the grammar reads it, or is zero. -/
def MessageReadable (message : Text) : Prop :=
  Converts digit message ∧ ((∀ c ∈ message, digit c = some 0) ∨ PyInt.IsAsciiNumeral message)

variable (digit) in
/-- The numbers of a channel and of a message are read as the grammar reads them, or one of
them is zero. -/
def ChannelReadable (channel message : Text) : Prop :=
  (Converts digit channel ∧ Converts digit message) ∧
    ((∀ c ∈ channel, digit c = some 0) ∨ (∀ c ∈ message, digit c = some 0) ∨
      PyInt.IsAsciiNumeral channel ∧ PyInt.IsAsciiNumeral message ∧
        (channel.dropWhile (· = '0')).length ≤ 4297)

theorem length_ofNat_value_iff (hu : AsciiDigits u digit) (h : PyInt.IsAsciiNumeral t) :
    (Text.ofNat (PyInt.value digit t)).length ≤ 4297 ↔
      (t.dropWhile (· = '0')).length ≤ 4297 := by
  rw [PyInt.value_of_ascii hu.decimal h]
  exact PyInt.length_ofNat_le_iff (by decide) h

theorem exact_private_iff (hu : AsciiDigits u digit) :
    ((∃ reference, parsePrivate u digit channel message = .ok reference ∧
        ToChannel channel message reference) ∨
      (parsePrivate u digit channel message = .error .invalid ∧
        ∀ reference, ¬ ToChannel channel message reference)) ↔
      (isDigits u channel = true ∧ isDigits u message = true →
        ChannelReadable digit channel message) := by
  by_cases hdigits : isDigits u channel = true ∧ isDigits u message = true
  · rw [imp_iff_right hdigits]
    constructor
    · rintro (⟨reference, hparse, n, m, hchannel, hmessage, -⟩ | ⟨hparse, -⟩)
      · obtain ⟨-, hconverts, -, hlength, -⟩ := (parsePrivate_eq_ok hu).1 hparse
        exact ⟨hconverts, Or.inr (Or.inr ⟨hchannel.digits, hmessage.digits,
          (length_ofNat_value_iff hu hchannel.digits).1 hlength⟩)⟩
      · rcases (parsePrivate_eq_invalid hu).1 hparse with h | ⟨-, hconverts, hzero | hzero⟩
        · exact absurd hdigits h
        · exact ⟨hconverts, Or.inl ((PyInt.value_eq_zero_iff hconverts.1.1).1 hzero)⟩
        · exact ⟨hconverts, Or.inr (Or.inl ((PyInt.value_eq_zero_iff hconverts.2.1).1 hzero))⟩
    · rintro ⟨hconverts, hreadable⟩
      by_cases hzero : PyInt.value digit channel = 0 ∨ PyInt.value digit message = 0
      · refine Or.inr ⟨(parsePrivate_eq_invalid hu).2 (Or.inr ⟨hdigits, hconverts, hzero⟩), ?_⟩
        rintro reference ⟨n, m, hchannel, hmessage, -⟩
        rw [hchannel.value_eq hu, hmessage.value_eq hu] at hzero
        have hn := hchannel.pos
        have hm := hmessage.pos
        omega
      · rw [not_or] at hzero
        obtain ⟨hchannel, hmessage, hlength⟩ : PyInt.IsAsciiNumeral channel ∧
            PyInt.IsAsciiNumeral message ∧ (channel.dropWhile (· = '0')).length ≤ 4297 := by
          rcases hreadable with h | h | h
          · exact absurd ((PyInt.value_eq_zero_iff hconverts.1.1).2 h) hzero.1
          · exact absurd ((PyInt.value_eq_zero_iff hconverts.2.1).2 h) hzero.2
          · exact h
        have hn := Nat.pos_of_ne_zero hzero.1
        have hm := Nat.pos_of_ne_zero hzero.2
        refine Or.inl ⟨⟨PyInt.value digit message, some (channelChat (PyInt.value digit channel)),
          none, by omega, by simp, fun h => channelChat_ne_zero _ (Option.some.inj h),
          fun t ht => by cases ht⟩, ?_, ?_⟩
        · exact (parsePrivate_eq_ok hu).2 ⟨hdigits, hconverts, ⟨hn, hm⟩,
            (length_ofNat_value_iff hu hchannel).2 hlength, rfl, rfl, rfl⟩
        · exact ⟨_, _, isNumber_of_ascii hu hdigits.1 hchannel hn,
            isNumber_of_ascii hu hdigits.2 hmessage hm, rfl, rfl, rfl⟩
  · refine iff_of_true (Or.inr ⟨(parsePrivate_eq_invalid hu).2 (Or.inl hdigits), ?_⟩)
      fun h => absurd h hdigits
    rintro reference ⟨n, m, hchannel, hmessage, -⟩
    exact hdigits ⟨hchannel.isDigits hu, hmessage.isDigits hu⟩

theorem exact_public_iff (hu : AsciiDigits u digit) :
    ((∃ reference, parsePublic u digit username message = .ok reference ∧
        ToUser username message reference) ∨
      (parsePublic u digit username message = .error .invalid ∧
        ∀ reference, ¬ ToUser username message reference)) ↔
      (isPublicUsername username = true ∧ isDigits u message = true →
        MessageReadable digit message) := by
  by_cases hfits : isPublicUsername username = true ∧ isDigits u message = true
  · rw [imp_iff_right hfits]
    constructor
    · rintro (⟨reference, hparse, m, -, hmessage, -⟩ | ⟨hparse, -⟩)
      · obtain ⟨-, hconverts, -⟩ := (parsePublic_eq_ok hu).1 hparse
        exact ⟨hconverts, Or.inr hmessage.digits⟩
      · rcases (parsePublic_eq_invalid hu).1 hparse with h | ⟨-, hconverts, hzero⟩
        · exact absurd hfits h
        · exact ⟨hconverts, Or.inl ((PyInt.value_eq_zero_iff hconverts.1).1 hzero)⟩
    · rintro ⟨hconverts, hreadable⟩
      by_cases hzero : PyInt.value digit message = 0
      · refine Or.inr ⟨(parsePublic_eq_invalid hu).2 (Or.inr ⟨hfits, hconverts, hzero⟩), ?_⟩
        rintro reference ⟨m, -, hmessage, -⟩
        rw [hmessage.value_eq hu] at hzero
        exact absurd hzero hmessage.pos.ne'
      · have hmessage : PyInt.IsAsciiNumeral message := by
          rcases hreadable with h | h
          · exact absurd ((PyInt.value_eq_zero_iff hconverts.1).2 h) hzero
          · exact h
        have hm := Nat.pos_of_ne_zero hzero
        refine Or.inl ⟨⟨PyInt.value digit message, none, some username, by omega, by simp,
          by simp, fun t ht => ?_⟩, ?_, ?_⟩
        · obtain rfl := Option.some.inj ht
          exact hfits.1
        · exact (parsePublic_eq_ok hu).2 ⟨hfits, hconverts, hm, rfl, rfl, rfl⟩
        · exact ⟨_, hfits.1, isNumber_of_ascii hu hfits.2 hmessage hm, rfl, rfl, rfl⟩
  · refine iff_of_true (Or.inr ⟨(parsePublic_eq_invalid hu).2 (Or.inl hfits), ?_⟩)
      fun h => absurd h hfits
    rintro reference ⟨m, husername, hmessage, -⟩
    exact hfits ⟨husername, hmessage.isDigits hu⟩

/-! ## The grammar, by segments -/

def segments (path : Text) : List Text := (Text.stripOf '/' path).split '/'

/-- The link the segments make up, and to what. -/
def LinkOf (parts : List Text) (reference : TelegramMessageReference) : Prop :=
  (∃ channel message, parts = [['c'], channel, message] ∧
    ToChannel channel message reference) ∨
  ∃ username message, parts = [username, message] ∧ ToUser username message reference

variable {url path : Text}

theorem IsAddress.unique {path' : Text} (h : IsAddress u url path) (h' : IsAddress u url path') :
    path = path' := by
  obtain ⟨parts, hsplit, -, -, rfl⟩ := h
  obtain ⟨parts', hsplit', -, -, rfl⟩ := h'
  rw [Option.some.inj (hsplit.symm.trans hsplit')]

theorem slash_not_mem_number {n : Nat} (h : IsNumber t n) : '/' ∉ t :=
  fun hmem => absurd (h.digits _ hmem) (by decide)

theorem slash_not_mem_username (h : isPublicUsername username = true) : '/' ∉ username := by
  cases username with
  | nil => exact List.not_mem_nil
  | cons c t =>
    rw [isPublicUsername, Bool.and_eq_true, Bool.and_eq_true, Bool.and_eq_true,
      List.all_eq_true] at h
    intro hmem
    rcases List.mem_cons.1 hmem with rfl | hmem
    · exact absurd h.1.1.1 (by decide)
    · exact absurd (h.1.1.2 _ hmem) (by decide)

theorem ne_nil_of_isPublicUsername (h : isPublicUsername username = true) : username ≠ [] := by
  rintro rfl
  cases h

/-- **The grammar asks only for the segments of the path.** -/
theorem isMessageLink_iff (h : IsAddress u url path) :
    IsMessageLink u url reference ↔ LinkOf (segments path) reference := by
  constructor
  · intro hlink
    cases hlink with
    | @toChannel front channel message back n m hfront hback hchannel hmessage haddress hm hchat
        husername =>
      refine Or.inl ⟨channel, message, ?_, n, m, hchannel, hmessage, hm, hchat, husername⟩
      rw [h.unique haddress]
      refine (Text.split_stripOf_eq_iff (List.cons_ne_nil _ _) ?_).2
        ⟨?_, front, back, hfront, hback, rfl⟩
      · simp [hchannel.ne_nil, hmessage.ne_nil]
      · simp [slash_not_mem_number hchannel, slash_not_mem_number hmessage]
    | @toUser front username message back m hfront hback hfits hmessage haddress hm hchat
        husername =>
      refine Or.inr ⟨username, message, ?_, m, hfits, hmessage, hm, hchat, husername⟩
      rw [h.unique haddress]
      refine (Text.split_stripOf_eq_iff (List.cons_ne_nil _ _) ?_).2
        ⟨?_, front, back, hfront, hback, rfl⟩
      · simp [ne_nil_of_isPublicUsername hfits, hmessage.ne_nil]
      · simp [slash_not_mem_username hfits, slash_not_mem_number hmessage]
  · rintro (⟨channel, message, hparts, n, m, hchannel, hmessage, hm, hchat, husername⟩ |
      ⟨username, message, hparts, m, hfits, hmessage, hm, hchat, husername⟩)
    · obtain ⟨-, front, back, hfront, hback, rfl⟩ :=
        (Text.split_stripOf_eq_iff (List.cons_ne_nil _ _)
          (by simp [hchannel.ne_nil, hmessage.ne_nil])).1 hparts
      exact .toChannel hfront hback hchannel hmessage h hm hchat husername
    · obtain ⟨-, front, back, hfront, hback, rfl⟩ :=
        (Text.split_stripOf_eq_iff (List.cons_ne_nil _ _)
          (by simp [ne_nil_of_isPublicUsername hfits, hmessage.ne_nil])).1 hparts
      exact .toUser hfront hback hfits hmessage h hm hchat husername

theorem exists_isAddress_of_link (h : IsMessageLink u url reference) :
    ∃ path, IsAddress u url path := by
  cases h with
  | toChannel _ _ _ _ haddress => exact ⟨_, haddress⟩
  | toUser _ _ _ _ haddress => exact ⟨_, haddress⟩

/-! ## The parser, by segments -/

theorem parse_of_address (h : IsAddress u url path) :
    parseTelegramMessageLink u digit url = parseSegments u digit (segments path) := by
  obtain ⟨parts, hsplit, hport, hplain, rfl⟩ := h
  have hread : ((urlsplit u url).bind fun parts => parts.port.map fun port => (parts, port)) =
      some (parts, none) := by
    rw [hsplit, Option.bind_some, hport, Option.map_some]
  unfold parseTelegramMessageLink
  rw [hread]
  show (check (PlainAddress u parts none) LinkError.invalid >>= fun _ => _) = _
  rw [check, if_pos hplain]
  rfl

theorem parse_of_no_address (h : ¬ ∃ path, IsAddress u url path) :
    parseTelegramMessageLink u digit url = .error .invalid := by
  unfold parseTelegramMessageLink
  cases hread : (urlsplit u url).bind fun parts => parts.port.map fun port => (parts, port) with
  | none => rfl
  | some entry =>
    obtain ⟨parts, port⟩ := entry
    obtain ⟨parts', hsplit, hport⟩ := Option.bind_eq_some_iff.1 hread
    obtain ⟨port', hport', heq⟩ := Option.map_eq_some_iff.1 hport
    obtain ⟨rfl, rfl⟩ := Prod.mk.inj heq
    refine bind_eq_error.2 (Or.inr ⟨_, rfl, ?_⟩)
    refine bind_eq_error.2 (Or.inl (check_eq_error.2 ⟨fun hplain => ?_, rfl⟩))
    obtain rfl : port' = none := hplain.2.2.1
    exact h ⟨_, parts', hsplit, hport', hplain, rfl⟩

variable (u digit) in
/-- Where the path has the form of a link, its numbers can be read. -/
def PartsReadable (parts : List Text) : Prop :=
  (∀ channel message, parts = [['c'], channel, message] →
    isDigits u channel = true ∧ isDigits u message = true →
      ChannelReadable digit channel message) ∧
  ∀ username message, parts = [username, message] →
    isPublicUsername username = true ∧ isDigits u message = true → MessageReadable digit message

/-- What is said of the segments is said of the branch that is taken. -/
theorem exact_parts_iff (hu : AsciiDigits u digit) (parts : List Text) :
    ((∃ reference, parseSegments u digit parts = .ok reference ∧ LinkOf parts reference) ∨
      (parseSegments u digit parts = .error .invalid ∧
        ∀ reference, ¬ LinkOf parts reference)) ↔ PartsReadable u digit parts := by
  by_cases hchannel : ∃ channel message, parts = [['c'], channel, message]
  · obtain ⟨channel, message, rfl⟩ := hchannel
    have hlink : ∀ reference, LinkOf [['c'], channel, message] reference ↔
        ToChannel channel message reference := by
      intro reference
      simp [LinkOf]
    simp only [hlink]
    refine (exact_private_iff hu).trans ?_
    simp [PartsReadable]
  by_cases huser : ∃ username message, parts = [username, message]
  · obtain ⟨username, message, rfl⟩ := huser
    have hlink : ∀ reference, LinkOf [username, message] reference ↔
        ToUser username message reference := by
      intro reference
      simp [LinkOf]
    simp only [hlink]
    refine (exact_public_iff hu).trans ?_
    simp [PartsReadable]
  -- No other path is a link, and none is accepted.
  have hparse : parseSegments u digit parts = .error .invalid := by
    unfold parseSegments
    split
    · next letter channel message =>
      exact if_neg fun hletter => hchannel ⟨channel, message, by rw [hletter]⟩
    · next username message => exact absurd ⟨username, message, rfl⟩ huser
    · rfl
  refine iff_of_true (Or.inr ⟨hparse, ?_⟩) ⟨?_, ?_⟩
  · rintro reference (⟨channel, message, rfl, -⟩ | ⟨username, message, rfl, -⟩)
    · exact hchannel ⟨channel, message, rfl⟩
    · exact huser ⟨username, message, rfl⟩
  · rintro channel message rfl
    exact absurd ⟨channel, message, rfl⟩ hchannel
  · rintro username message rfl
    exact absurd ⟨username, message, rfl⟩ huser

variable (u digit) in
/-- In a plain address on `t.me` whose path has the form of a link, the numbers that
`str.isdigit` lets through can be read: they are decimal digits, not too many, and either one
of the numbers is zero or they are ASCII digits. -/
def NumbersReadable (url : Text) : Prop :=
  ∀ path, IsAddress u url path → PartsReadable u digit (segments path)

/-- **The parser follows its grammar exactly where the numbers can be read.** -/
theorem parseTelegramMessageLink_exact_iff (hu : AsciiDigits u digit) (url : Text) :
    Exact u digit url ↔ NumbersReadable u digit url := by
  by_cases haddress : ∃ path, IsAddress u url path
  · obtain ⟨path, haddress⟩ := haddress
    have hreadable : NumbersReadable u digit url ↔ PartsReadable u digit (segments path) := by
      refine ⟨fun h => h path haddress, fun h path' haddress' => ?_⟩
      rw [← haddress.unique haddress']
      exact h
    rw [hreadable, ← exact_parts_iff hu, Exact, parse_of_address haddress]
    simp only [isMessageLink_iff haddress]
  · refine iff_of_true (Or.inr ⟨parse_of_no_address haddress, ?_⟩)
      fun path h => absurd ⟨path, h⟩ haddress
    exact fun reference h => haddress (exists_isAddress_of_link h)

/-! ## Links as they are written -/

/-- `https://t.me/c/…/…`. -/
def channelLink (channel message : Nat) : Text :=
  "https://t.me/c/".toList ++ Text.ofNat channel ++ '/' :: Text.ofNat message

/-- `https://t.me/…/…`. -/
def userLink (username : Text) (message : Nat) : Text :=
  "https://t.me/".toList ++ username ++ '/' :: Text.ofNat message

/-- A path without special characters, on `t.me`. -/
theorem isAddress_of_path (hlower : ∀ t : Text, t.isAscii = true → u.lower t = t.map Char.toLower)
    (hpath : ∀ c ∈ path, c ≠ '?' ∧ c ≠ '#' ∧ c ≠ '%' ∧ isUnsafe c = false) :
    IsAddress u ("https://t.me/".toList ++ path) ('/' :: path) := by
  have hsplit : urlsplit u ("https://t.me/".toList ++ path) =
      some ⟨"https".toList, "t.me".toList, '/' :: path, [], []⟩ := by
    have hhost : PlainHost "t.me".toList := by decide
    have hrest : ∀ c ∈ path, c ≠ '?' ∧ c ≠ '#' ∧ isUnsafe c = false :=
      fun c hc => ⟨(hpath c hc).1, (hpath c hc).2.1, (hpath c hc).2.2.2⟩
    have hquery : ∀ c ∈ ([] : Text), c ≠ '#' ∧ isUnsafe c = false := List.forall_mem_nil _
    rw [← urlsplit_https u (hlower "https".toList (by decide)) hhost hrest hquery]
    simp [queryPart]
  refine ⟨_, hsplit, rfl, ⟨rfl, ?_, rfl, rfl, rfl, rfl, rfl, ?_⟩, rfl⟩
  · show some (u.lower "t.me".toList) = _
    rw [hlower "t.me".toList (by decide)]
    rfl
  · intro hmem
    rcases List.mem_cons.1 hmem with h | h
    · exact absurd h (by decide)
    · exact (hpath _ h).2.2.1 rfl

theorem isNumber_ofNat {n : Nat} (h : 0 < n) : IsNumber (Text.ofNat n) n :=
  ⟨Text.ofNat_ne_nil n, isAsciiNumeral_ofNat n, Text.toNat_ofNat n, h⟩

theorem converts_ofNat (hu : AsciiDigits u digit) {n : Nat}
    (h : (Text.ofNat n).length ≤ Json.maxStrDigits) : Converts digit (Text.ofNat n) :=
  ⟨(isAsciiNumeral_ofNat n).isDecimal hu.decimal, h⟩

/-- The characters of numbers and user names mean nothing to `urlsplit`. -/
theorem plain_of_word {c : Char}
    (h : (Text.isAsciiLetter c || Text.isAsciiDigit c || c = '_') = true) :
    c ≠ '?' ∧ c ≠ '#' ∧ c ≠ '%' ∧ isUnsafe c = false := by
  refine ⟨?_, ?_, ?_, ?_⟩
  · rintro rfl
    exact absurd h (by decide)
  · rintro rfl
    exact absurd h (by decide)
  · rintro rfl
    exact absurd h (by decide)
  · by_contra hunsafe
    rw [Bool.not_eq_false, isUnsafe, Bool.or_eq_true, Bool.or_eq_true, decide_eq_true_eq,
      decide_eq_true_eq, decide_eq_true_eq] at hunsafe
    rcases hunsafe with (rfl | rfl) | rfl
    · exact absurd h (by decide)
    · exact absurd h (by decide)
    · exact absurd h (by decide)

theorem plain_of_digits {n : Nat} {c : Char} (h : c ∈ Text.ofNat n) :
    c ≠ '?' ∧ c ≠ '#' ∧ c ≠ '%' ∧ isUnsafe c = false :=
  plain_of_word (by rw [isAsciiNumeral_ofNat n c h, Bool.or_true, Bool.true_or])

theorem plain_of_username (h : isPublicUsername username = true) {c : Char} (hc : c ∈ username) :
    c ≠ '?' ∧ c ≠ '#' ∧ c ≠ '%' ∧ isUnsafe c = false := by
  cases username with
  | nil => cases hc
  | cons d t =>
    rw [isPublicUsername, Bool.and_eq_true, Bool.and_eq_true, Bool.and_eq_true,
      List.all_eq_true] at h
    rcases List.mem_cons.1 hc with rfl | hc
    · exact plain_of_word (by rw [h.1.1.1, Bool.true_or, Bool.true_or])
    · exact plain_of_word (h.1.1.2 c hc)

theorem isAddress_channelLink
    (hlower : ∀ t : Text, t.isAscii = true → u.lower t = t.map Char.toLower) (n m : Nat) :
    IsAddress u (channelLink n m) ('/' :: 'c' :: '/' :: (Text.ofNat n ++ '/' :: Text.ofNat m)) := by
  have hpath : ∀ c ∈ 'c' :: '/' :: (Text.ofNat n ++ '/' :: Text.ofNat m),
      c ≠ '?' ∧ c ≠ '#' ∧ c ≠ '%' ∧ isUnsafe c = false := by
    intro c hc
    rw [List.mem_cons, List.mem_cons, List.mem_append, List.mem_cons] at hc
    rcases hc with rfl | rfl | hc | rfl | hc
    · decide
    · decide
    · exact plain_of_digits hc
    · decide
    · exact plain_of_digits hc
  exact isAddress_of_path hlower hpath

theorem segments_channelLink {n m : Nat} (hn : 0 < n) (hm : 0 < m) :
    segments ('/' :: 'c' :: '/' :: (Text.ofNat n ++ '/' :: Text.ofNat m)) =
      [['c'], Text.ofNat n, Text.ofNat m] := by
  refine (Text.split_stripOf_eq_iff (List.cons_ne_nil _ _) ?_).2
    ⟨?_, ['/'], [], by simp, by simp, ?_⟩
  · simp [Text.ofNat_ne_nil]
  · simp [slash_not_mem_number (isNumber_ofNat hn), slash_not_mem_number (isNumber_ofNat hm)]
  · simp [List.intercalate_cons_cons]

/-- **A link that is written for a channel is read back.** -/
theorem parse_channelLink (hu : AsciiDigits u digit)
    (hlower : ∀ t : Text, t.isAscii = true → u.lower t = t.map Char.toLower) {n m : Nat}
    (hn : 0 < n) (hm : 0 < m) (hchannel : (Text.ofNat n).length ≤ 4297)
    (hmessage : (Text.ofNat m).length ≤ Json.maxStrDigits) :
    ∃ reference, parseTelegramMessageLink u digit (channelLink n m) = .ok reference ∧
      reference.messageId = m ∧ reference.chatId = some (channelChat n) ∧
      reference.username = none := by
  refine ⟨⟨m, some (channelChat n), none, by omega, by simp,
    fun h => channelChat_ne_zero _ (Option.some.inj h), fun t ht => by cases ht⟩, ?_, rfl, rfl, rfl⟩
  rw [parse_of_address (isAddress_channelLink hlower n m), segments_channelLink hn hm]
  refine (parsePrivate_eq_ok hu).2 ⟨⟨(isNumber_ofNat hn).isDigits hu,
    (isNumber_ofNat hm).isDigits hu⟩, ⟨converts_ofNat hu (hchannel.trans (by decide)),
    converts_ofNat hu hmessage⟩, ?_⟩
  rw [(isNumber_ofNat hn).value_eq hu, (isNumber_ofNat hm).value_eq hu]
  exact ⟨⟨hn, hm⟩, hchannel, rfl, rfl, rfl⟩

/-- **A link that is written for a user name is read back.** -/
theorem parse_userLink (hu : AsciiDigits u digit)
    (hlower : ∀ t : Text, t.isAscii = true → u.lower t = t.map Char.toLower) {m : Nat}
    (husername : isPublicUsername username = true) (hm : 0 < m)
    (hmessage : (Text.ofNat m).length ≤ Json.maxStrDigits) :
    ∃ reference, parseTelegramMessageLink u digit (userLink username m) = .ok reference ∧
      reference.messageId = m ∧ reference.chatId = none ∧
      reference.username = some username := by
  have haddress : IsAddress u (userLink username m) ('/' :: (username ++ '/' :: Text.ofNat m)) := by
    have hpath : ∀ c ∈ username ++ '/' :: Text.ofNat m,
        c ≠ '?' ∧ c ≠ '#' ∧ c ≠ '%' ∧ isUnsafe c = false := by
      intro c hc
      rw [List.mem_append, List.mem_cons] at hc
      rcases hc with hc | rfl | hc
      · exact plain_of_username husername hc
      · decide
      · exact plain_of_digits hc
    have h := isAddress_of_path hlower hpath
    rwa [← List.append_assoc] at h
  have hsegments : segments ('/' :: (username ++ '/' :: Text.ofNat m)) =
      [username, Text.ofNat m] := by
    refine (Text.split_stripOf_eq_iff (List.cons_ne_nil _ _) ?_).2
      ⟨?_, ['/'], [], by simp, by simp, ?_⟩
    · simp [Text.ofNat_ne_nil, ne_nil_of_isPublicUsername husername]
    · simp [slash_not_mem_username husername, slash_not_mem_number (isNumber_ofNat hm)]
    · simp [List.intercalate_cons_cons]
  refine ⟨⟨m, none, some username, by omega, by simp, by simp, fun t ht => ?_⟩, ?_, rfl, rfl, rfl⟩
  · obtain rfl := Option.some.inj ht
    exact husername
  rw [parse_of_address haddress, hsegments]
  refine (parsePublic_eq_ok hu).2 ⟨⟨husername, (isNumber_ofNat hm).isDigits hu⟩,
    converts_ofNat hu hmessage, ?_⟩
  rw [(isNumber_ofNat hm).value_eq hu]
  exact ⟨hm, rfl, rfl, rfl⟩

/-- A channel with too long a number cannot be linked to. -/
theorem not_exact_of_long (hu : AsciiDigits u digit)
    (hlower : ∀ t : Text, t.isAscii = true → u.lower t = t.map Char.toLower) {n m : Nat}
    (hm : 0 < m) (hlong : 4297 < (Text.ofNat n).length) : ¬ Exact u digit (channelLink n m) := by
  have hn : 0 < n := by
    rcases Nat.eq_zero_or_pos n with rfl | hn
    · exact absurd hlong (by decide)
    · exact hn
  have haddress := isAddress_channelLink hlower n m
  have hchannel := isNumber_ofNat hn
  have hmessage := isNumber_ofNat hm
  intro h
  rw [Exact, parse_of_address haddress, segments_channelLink hn hm] at h
  simp only [isMessageLink_iff haddress, segments_channelLink hn hm] at h
  obtain ⟨hconverts, hzero | hzero | ⟨hascii, -, hlength⟩⟩ := ((exact_parts_iff hu _).1 h).1 _ _ rfl
    ⟨hchannel.isDigits hu, hmessage.isDigits hu⟩
  · rw [← PyInt.value_eq_zero_iff hconverts.1.1, hchannel.value_eq hu] at hzero
    exact hn.ne' hzero
  · rw [← PyInt.value_eq_zero_iff hconverts.2.1, hmessage.value_eq hu] at hzero
    exact hm.ne' hzero
  · rw [← length_ofNat_value_iff hu hascii, hchannel.value_eq hu] at hlength
    exact absurd hlong (Nat.not_lt.2 hlength)

/-! ## Three strings that are answered otherwise -/

/-- A superscript, the digits of another script, and ASCII. -/
def someDigits : PyUnicode :=
  { PyUnicode.ascii with
    isDigit := fun c => Text.isAsciiDigit c || c = '²' || ('٠' ≤ c && c ≤ '٩') }

/-- `unicodedata.decimal`, of these. -/
def someDecimals (c : Char) : Option Nat :=
  if Text.isAsciiDigit c then some (c.toNat - '0'.toNat)
  else if '٠' ≤ c ∧ c ≤ '٩' then some (c.toNat - '٠'.toNat)
  else none

theorem asciiDigits_some : AsciiDigits someDigits someDecimals where
  isDigit c hc := by
    have hsuper : c ≠ '²' := by
      rintro rfl
      exact absurd hc (by decide)
    have hscript : ¬ '٠' ≤ c := by
      intro hle
      have hval : ('٠' : Char).toNat ≤ c.toNat := UInt32.le_iff_toNat_le.1 hle
      have hnum : ('٠' : Char).toNat = 1632 := rfl
      omega
    show (Text.isAsciiDigit c || decide (c = '²') || (decide ('٠' ≤ c) && decide (c ≤ '٩'))) = _
    simp [hsuper, hscript]
  decimal c hc := if_pos hc

theorem not_exact_of_raised {e : LinkError}
    (h : raised? (parseTelegramMessageLink u digit url) = some e) (hne : e ≠ .invalid) :
    ¬ Exact u digit url := by
  rw [raised?_eq_some] at h
  rintro (⟨reference, hparse, -⟩ | ⟨hparse, -⟩)
  · rw [h] at hparse
    cases hparse
  · rw [h] at hparse
    exact hne (Except.error.inj hparse)

/-- **Not every string is answered exactly**: a superscript is refused by `int`, a digit of
another script is accepted, and so many digits are too many once three are added. -/
theorem not_exact_digits :
    ¬ Exact someDigits someDecimals "https://t.me/ofertas_publicas/²".toList ∧
    ¬ Exact someDigits someDecimals "https://t.me/c/123/٧".toList ∧
    ¬ Exact someDigits someDecimals (channelLink (10 ^ 4297) 7) := by
  have hlong : 4297 < (Text.ofNat (10 ^ 4297)).length :=
    Nat.lt_of_not_le fun hle =>
      lt_irrefl _ ((Nat.length_toDigits_le_iff (by decide) (by decide)).1 hle)
  refine ⟨not_exact_of_raised (e := .int (.literal "²".toList)) (by decide +kernel) (by decide), ?_,
    not_exact_of_long asciiDigits_some (fun _ _ => rfl) (by decide) hlong⟩
  have haddress : IsAddress someDigits "https://t.me/c/123/٧".toList "/c/123/٧".toList :=
    ⟨⟨"https".toList, "t.me".toList, "/c/123/٧".toList, [], []⟩, by decide +kernel, rfl,
      by decide +kernel, rfl⟩
  rintro (⟨reference, -, hlink⟩ | ⟨hparse, -⟩)
  · have hsegments : segments "/c/123/٧".toList = ["c".toList, "123".toList, "٧".toList] := by
      decide +kernel
    have hlink := (isMessageLink_iff haddress).1 hlink
    rw [hsegments] at hlink
    rcases hlink with ⟨channel, message, hparts, n, m, -, hmessage, -⟩ | ⟨_, _, hparts, -⟩
    · obtain ⟨-, rfl⟩ : "123".toList = channel ∧ "٧".toList = message := by simpa using hparts
      exact absurd (hmessage.digits _ List.mem_cons_self) (by decide)
    · simp at hparts
  · have hraised : raised? (parseTelegramMessageLink someDigits someDecimals
        "https://t.me/c/123/٧".toList) = none := by decide +kernel
    rw [hparse] at hraised
    cases hraised

/-- The link of the tests to a message in a channel. -/
theorem exact_channelLink : Exact someDigits someDecimals (channelLink 1234567890 77) := by
  refine (parseTelegramMessageLink_exact_iff asciiDigits_some _).2 fun path haddress => ?_
  have hpath : IsAddress someDigits (channelLink 1234567890 77) "/c/1234567890/77".toList :=
    ⟨⟨"https".toList, "t.me".toList, "/c/1234567890/77".toList, [], []⟩, by decide +kernel, rfl,
      by decide +kernel, rfl⟩
  have hsegments : segments "/c/1234567890/77".toList =
      ["c".toList, "1234567890".toList, "77".toList] := by decide +kernel
  rw [haddress.unique hpath, hsegments]
  refine ⟨fun channel message hparts _ => ?_, fun username message hparts => ?_⟩
  · obtain ⟨rfl, rfl⟩ : "1234567890".toList = channel ∧ "77".toList = message := by
      simpa using hparts
    refine ⟨⟨⟨by decide, by decide⟩, ⟨by decide, by decide⟩⟩, Or.inr (Or.inr ?_)⟩
    exact ⟨by decide, by decide, by decide⟩
  · simp at hparts

end Telegram
end PromoBot
