/-
# Display width

How many terminal columns a text takes.  That is not always the sum over its
characters: a flag, a picture put together with joiners, or a ligature is
narrower than its parts, and a variation selector changes the character in front
of it.  All of this depends on what stands behind a character, so a text is read
from its end.
-/
import ControllerLink.Text.Columns
import ControllerLink.Text.Emoji

set_option autoImplicit false

namespace ControllerLink.Text

/-- The joiner, which asks for the characters on both sides of it to be drawn as one. -/
def joiner : Char := '\u200d'

/-- What a variation selector asks of the character in front of it. -/
inductive Selector where
  | picture
  | text
  | wideQuote
deriving DecidableEq, Repr

/-- The selector that a character is. -/
def selector? (c : Char) : Option Selector :=
  if c = '\ufe0f' then some .picture
  else if c = '\ufe0e' then some .text
  else if c = '\ufe01' then some .wideQuote
  else none

/-- Whether a character is a quotation mark with a wide form. -/
def hasWideQuote (c : Char) : Bool :=
  c = '\u2018' || c = '\u2019' || c = '\u201c' || c = '\u201d'

/-- The last parts of ligatures, other than those of Arabic letters. -/
inductive LigatureEnd where
  | lamed
  | khmerLetter
  | ya
  | vowelAndYa
  | tifinagh
  | tifinaghJoined
  | lisuTone
  | orkhonI
deriving DecidableEq, Repr

/-- What stands behind a character, as far as it bears on the width of the character. -/
inductive Follower where
  | plain
  | lineFeed
  | picture
  | skinTone
  /-- Letters of a flag, and whether there are several of them. -/
  | flag (several : Bool)
  /-- A joiner and a picture. -/
  | joined
  /-- The frame of a keycap, a joiner and a picture. -/
  | joinedKeycap
  /-- A letter of a flag, a joiner and a picture. -/
  | joinedFlag
  /-- An even number of letters of flags, a joiner and a picture. -/
  | joinedFlags
  /-- An odd number of letters of flags, above one, a joiner and a picture. -/
  | joinedOddFlags
  /-- The end of a tag, with so many letters in front of it, a joiner and a picture. -/
  | joinedTag (letters : Nat)
  /-- So many digits of a tag with its end, a joiner and a picture. -/
  | joinedTagDigits (digits : Nat)
  /-- Arabic alef. -/
  | alef
  /-- The vowel sign `e` of Kirat Rai. -/
  | kiratE
  /-- The vowel sign `ai` of Kirat Rai. -/
  | kiratAi
  /-- The end of a ligature, and whether there is a joiner in front of it. -/
  | ligature (last : LigatureEnd) (joined : Bool)
deriving DecidableEq, Repr

namespace Follower

/-- Whether selectors and invisible marks are passed over in front of it. -/
def isLigature : Follower → Bool
  | alef | ligature _ _ => true
  | _ => false

/-- Whether a picture in front of it becomes part of the picture behind. -/
def joinsPicture : Follower → Bool
  | joined | joinedKeycap => true
  | _ => false

/-- What remains of it in front of a selector. -/
def select (f : Follower) (s : Selector) : Follower :=
  if f.isLigature || (s = .picture && f.joinsPicture) then f else plain

/-- What remains of it in front of a selector whose wish is not met. -/
def unselect (f : Follower) : Follower :=
  if f.isLigature then f else plain

/-- What a character is to the one in front of it when nothing behind it matters. -/
def ofChar (c : Char) : Follower :=
  if isFlagLetter c then flag false
  else if isSkinTone c then skinTone
  else if isPicture c then picture
  else if inRanges #[(0x622, 0x623), (0x625, 0x625), (0x627, 0x627), (0x671, 0x673),
      (0x675, 0x675), (0x773, 0x774), (0x870, 0x882)] c then alef
  else if c = '\u05dc' then ligature .lamed false
  else if inRanges #[(0x1780, 0x1782), (0x1784, 0x1787), (0x1789, 0x178c), (0x178e, 0x1793),
      (0x1795, 0x1798), (0x179b, 0x179d), (0x17a0, 0x17a0), (0x17a2, 0x17a2), (0x17a7, 0x17a7),
      (0x17ab, 0x17ac), (0x17af, 0x17af)] c then ligature .khmerLetter false
  else if c = '\u1a10' then ligature .ya false
  else if isTifinagh c then ligature .tifinagh false
  else if c = '\ua4fc' || c = '\ua4fd' then ligature .lisuTone false
  else if c = Char.ofNat 0x10c03 then ligature .orkhonI false
  else if c = Char.ofNat 0x16d67 then kiratE
  else if c = Char.ofNat 0x16d68 then kiratAi
  else plain
where
  /-- Whether a character is a consonant of Tifinagh. -/
  isTifinagh (c : Char) : Bool := inRanges #[(0x2d31, 0x2d65), (0x2d6f, 0x2d6f)] c

end Follower

/-- Whether a character is Arabic lam, which makes one column together with alef. -/
def isLam (c : Char) : Bool :=
  inRanges #[(0x644, 0x644), (0x6b5, 0x6b8), (0x76a, 0x76a), (0x8a6, 0x8a6), (0x8c7, 0x8c7)] c

/-- What a character adds in front of the end of a ligature that it belongs to, and what the two
are to the character before. -/
def ligate? (c : Char) : LigatureEnd → Bool → Option (Int × Follower)
  | .lamed, true => if c = '\u05d0' then some (0, .plain) else none
  | .khmerLetter, _ => if c = '\u17d2' then some (-1, .plain) else none
  | .ya, true => if c = '\u1a17' then some (0, .ligature .vowelAndYa true) else none
  | .vowelAndYa, _ => if c = '\u1a15' then some (0, .plain) else none
  | .tifinagh, isJoined =>
    if c = '\u2d7f' then some (1, .ligature .tifinaghJoined true)
    else if isJoined && Follower.ofChar.isTifinagh c then some (0, .plain)
    else none
  | .tifinaghJoined, _ => if Follower.ofChar.isTifinagh c then some (-1, .plain) else none
  | .lisuTone, _ => if inRanges #[(0xa4f8, 0xa4fb)] c then some (0, .plain) else none
  | .orkhonI, true => if c = Char.ofNat 0x10c32 then some (0, .plain) else none
  | _, false => none

/-- What a character adds in front of something that it joins, and what the two are to the
character before; `none` if it stands on its own. -/
def join? (c : Char) : Follower → Option (Int × Follower)
  | .plain | .lineFeed | .joinedKeycap => none
  | .alef =>
    if isLam c then some (0, .plain) else if isTransparent c then some (0, .alef) else none
  | .ligature last isJoined =>
    if c = joiner then some (0, .ligature last true)
    else if isInvisibleMark c then some (0, .ligature last isJoined)
    else ligate? c last isJoined
  | .picture => if c = joiner then some (0, .joined) else none
  | .skinTone =>
    if takesSkinTone c then some (0, .picture) else if c = joiner then some (0, .joined) else none
  | .flag several =>
    if isFlagLetter c then some (1, .flag true)
    else if several && c = joiner then some (0, .joined)
    else none
  | .joined =>
    if c = '\u20e3' then some (0, .joinedKeycap)
    else if isFlagLetter c then some (1, .joinedFlag)
    else if isSkinTone c then some (0, .skinTone)
    else if c = Char.ofNat 0xe007f then some (0, .joinedTag 0)
    else if isPicture c then some (0, .picture)
    else none
  | .joinedFlag => if isFlagLetter c then some (-1, .joinedFlags) else none
  | .joinedFlags =>
    if isFlagLetter c then some (3, .joinedOddFlags)
    else if c = joiner then some (0, .joined)
    else none
  | .joinedOddFlags =>
    if isFlagLetter c then some (-1, .joinedFlags)
    else if c = joiner then some (0, .joined)
    else none
  | .joinedTag letters =>
    if isTagLetter c && letters < 6 then some (0, .joinedTag (letters + 1))
    else if isTagDigit c && letters < 5 then some (0, .joinedTagDigits 1)
    else if isTaggedFlag c && 3 ≤ letters then some (0, .picture)
    else none
  | .joinedTagDigits digits =>
    if isTagDigit c && digits < 3 then some (0, .joinedTagDigits (digits + 1))
    else if isTaggedFlag c && digits = 3 then some (0, .picture)
    else none
  | .kiratE =>
    if c = Char.ofNat 0x16d63 || c = Char.ofNat 0x16d69 then some (0, .plain)
    else if c = Char.ofNat 0x16d67 then some (0, .kiratAi)
    else if c = Char.ofNat 0x16d68 then some (1, .kiratE)
    else none
  | .kiratAi => if c = Char.ofNat 0x16d63 then some (0, .plain) else none
where
  /-- Whether a character is the flag that tags turn into the flag of a region. -/
  isTaggedFlag (c : Char) : Bool := c = Char.ofNat 0x1f3f4

/-- The state of a reading from the end: what has been read last, and the selector in front of it
that has not found its character yet. -/
structure Reading where
  behind : Follower
  selector : Option Selector

namespace Reading

/-- Nothing read. -/
def empty : Reading := ⟨.plain, none⟩

/-- What a character adds that no selector behind it changes, and the state in front of it.  A
carriage return in front of a line feed adds nothing, every other control takes a column. -/
def stepPlain (c : Char) (behind : Follower) : Int × Reading :=
  match selector? c with
  | some s => (0, ⟨behind.select s, some s⟩)
  | none =>
    if c.toNat ≤ 0xa0 then
      if c = '\n' then (1, ⟨.lineFeed, none⟩)
      else if c = '\r' && behind = .lineFeed then (0, empty)
      else (1, empty)
    else
      match join? c behind with
      | some (added, f) => (added, ⟨f, none⟩)
      | none => (columns c, ⟨.ofChar c, none⟩)

/-- What a character adds, and the state in front of it. -/
def step (r : Reading) (c : Char) : Int × Reading :=
  match r.selector with
  | none => stepPlain c r.behind
  | some .picture =>
    if hasPictureStyle c then (if r.behind.joinsPicture then 0 else 2, ⟨.picture, none⟩)
    else stepPlain c r.behind.unselect
  | some .text => if hasTextStyle c then (1, empty) else stepPlain c r.behind.unselect
  | some .wideQuote => if hasWideQuote c then (2, empty) else stepPlain c r.behind.unselect

end Reading

/-- The columns a text takes. -/
def width (s : String) : Nat :=
  let total := s.toList.foldr (fun c (sum : Int × Reading) =>
    let (added, r) := sum.2.step c
    (sum.1 + added, r)) (0, Reading.empty)
  total.1.toNat

end ControllerLink.Text
