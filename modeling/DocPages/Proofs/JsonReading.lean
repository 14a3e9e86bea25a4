import DocPages.Xml.Reference
import Mathlib.Data.List.Basic

/-! What a reader of JSON finds in a text. The reader follows RFC 8259 and knows nothing of how a
text was written: tokens are read off character by character, and the tokens build a value, an
array or an object being kept open until its last bracket. -/
namespace DocPages.JsonReading

/-! ## Reading tokens -/

/-- Numbers are kept as they are written, and the members of an object in their order. -/
inductive Value where
  | null
  | boolean (value : Bool)
  | number (text : String)
  | string (value : String)
  | array (items : List Value)
  | object (members : List (String × Value))

inductive Token where
  /-- A bracket, a colon or a comma. -/
  | mark (c : Char)
  | string (value : String)
  /-- A number or one of the three names. -/
  | scalar (value : Value)

/-- What stands behind the digits that the text begins with, of which there is at least one. -/
def behindDigits? (s : List Char) : Option (List Char) :=
  if (s.takeWhile Char.isDigit).isEmpty then none else some (s.dropWhile Char.isDigit)

/-- No zero stands in front of another digit. -/
def behindWhole? : List Char → Option (List Char)
  | '0' :: rest => some rest
  | s => behindDigits? s

def behindFraction? : List Char → Option (List Char)
  | '.' :: rest => behindDigits? rest
  | s => some s

def behindExponent? : List Char → Option (List Char)
  | c :: rest =>
    if c = 'e' ∨ c = 'E' then
      match rest with
      | '+' :: digits => behindDigits? digits
      | '-' :: digits => behindDigits? digits
      | digits => behindDigits? digits
    else some (c :: rest)
  | [] => some []

def isNumber (s : List Char) : Bool :=
  let unsigned := match s with
    | '-' :: rest => rest
    | _ => s
  ((behindWhole? unsigned).bind behindFraction?).bind behindExponent? = some []

/-- What a word outside of strings stands for. -/
def scalar? (word : List Char) : Option Value :=
  if word = "null".toList then some .null
  else if word = "true".toList then some (.boolean true)
  else if word = "false".toList then some (.boolean false)
  else if isNumber word then some (.number (.ofList word))
  else none

def isSpace (c : Char) : Bool :=
  c = ' ' ∨ c = '\t' ∨ c = '\n' ∨ c = '\r'

def isMark (c : Char) : Bool :=
  c ∈ ['[', ']', '\x7b', '\x7d', ':', ',']

/-- Where a reader of characters is. -/
inductive Place where
  | between
  | word (read : List Char)
  | string (read : List Char)
  /-- Behind a backslash, where the number of a high surrogate may have been read. -/
  | escape (read : List Char) (high? : Option Nat)
  /-- Among the four digits of an escape. -/
  | unit (read : List Char) (high? : Option Nat) (digits : List Char)
  /-- Behind a high surrogate. -/
  | low (read : List Char) (high : Nat)

/-- What the character begins behind the end of a token. -/
def beginning (c : Char) : List Token × Place :=
  if isSpace c then ([], .between)
  else if isMark c then ([.mark c], .between)
  else if c = '"' then ([], .string [])
  else ([], .word [c])

/-- The character that a backslash and this letter stand for. -/
def escaped? : Char → Option Char
  | '"' => some '"'
  | '\\' => some '\\'
  | '/' => some '/'
  | 'b' => some '\x08'
  | 'f' => some '\x0c'
  | 'n' => some '\n'
  | 'r' => some '\r'
  | 't' => some '\t'
  | _ => none

/-- Where an escape by this number leads. Two surrogates make one character, and neither stands
alone. -/
def behindUnit (read : List Char) (high? : Option Nat) (n : Nat) : Option Place :=
  let isLow := 0xDC00 ≤ n ∧ n < 0xE000
  match high? with
  | some high =>
    if isLow then
      some (.string (read ++ [.ofNat (0x10000 + (high - 0xD800) * 0x400 + (n - 0xDC00))]))
    else none
  | none =>
    if 0xD800 ≤ n ∧ n < 0xDC00 then some (.low read n)
    else if isLow then none
    else some (.string (read ++ [.ofNat n]))

/-- The tokens that the character completes and the place behind it. -/
def Place.step : Place → Char → Option (List Token × Place)
  | between, c => some (beginning c)
  | word read, c =>
    if isSpace c ∨ isMark c ∨ c = '"' then
      (scalar? read).map fun value => (.scalar value :: (beginning c).1, (beginning c).2)
    else some ([], .word (read ++ [c]))
  | string read, c =>
    if c = '"' then some ([.string (.ofList read)], .between)
    else if c = '\\' then some ([], .escape read none)
    else if c.toNat < 0x20 then none
    else some ([], .string (read ++ [c]))
  | escape read high?, c =>
    if c = 'u' then some ([], .unit read high? [])
    else if high?.isSome then none
    else (escaped? c).map fun value => ([], .string (read ++ [value]))
  | unit read high? digits, c =>
    if digits.length < 3 then some ([], .unit read high? (digits ++ [c]))
    else ((Xml.readNumber? 16 (digits ++ [c])).bind (behindUnit read high?)).map ([], ·)
  | low read high, c => if c = '\\' then some ([], .escape read (some high)) else none

/-- The tokens that the end of the text completes. -/
def Place.ending : Place → Option (List Token)
  | between => some []
  | word read => (scalar? read).map ([.scalar ·])
  | _ => none

/-- The tokens that are read from a place on, and the place behind them. -/
def readFrom : Place → List Char → Option (List Token × Place)
  | place, [] => some ([], place)
  | place, c :: rest =>
    (place.step c).bind fun (found, next) =>
      (readFrom next rest).map fun (more, last) => (found ++ more, last)

def tokensOf? (text : String) : Option (List Token) :=
  (readFrom .between text.toList).bind fun (found, last) => last.ending.map (found ++ ·)

/-! ## Building the value -/

/-- An array or an object that has not ended. Of the object the value behind `key` is awaited. -/
inductive Frame where
  | array (items : List Value)
  | object (members : List (String × Value)) (key : String)

inductive Awaited where
  | value
  /-- A value or the end of an array without items. -/
  | firstItem
  /-- A key or the end of an object without members. -/
  | firstKey
  | key (members : List (String × Value))
  | colon (members : List (String × Value)) (key : String)
  /-- The mark behind a value that is complete. -/
  | behind (value : Value)

/-- Where a reader of tokens is, the innermost frame first. -/
structure Standing where
  frames : List Frame
  awaited : Awaited

def Standing.atValue (frames : List Frame) : Token → Option Standing
  | .mark '[' => some ⟨frames, .firstItem⟩
  | .mark '\x7b' => some ⟨frames, .firstKey⟩
  | .mark _ => none
  | .string value => some ⟨frames, .behind (.string value)⟩
  | .scalar value => some ⟨frames, .behind value⟩

/-- Where the mark behind a value leads. -/
def Standing.behindValue (value : Value) : List Frame → Token → Option Standing
  | .array items :: frames, .mark ',' => some ⟨.array (items ++ [value]) :: frames, .value⟩
  | .array items :: frames, .mark ']' => some ⟨frames, .behind (.array (items ++ [value]))⟩
  | .object members key :: frames, .mark ',' => some ⟨frames, .key (members ++ [(key, value)])⟩
  | .object members key :: frames, .mark '\x7d' =>
    some ⟨frames, .behind (.object (members ++ [(key, value)]))⟩
  | _, _ => none

def Standing.step (standing : Standing) (token : Token) : Option Standing :=
  match standing.awaited, token with
  | .value, _ => atValue standing.frames token
  | .firstItem, .mark ']' => some ⟨standing.frames, .behind (.array [])⟩
  | .firstItem, _ => atValue (.array [] :: standing.frames) token
  | .firstKey, .mark '\x7d' => some ⟨standing.frames, .behind (.object [])⟩
  | .firstKey, .string key => some ⟨standing.frames, .colon [] key⟩
  | .key members, .string key => some ⟨standing.frames, .colon members key⟩
  | .colon members key, .mark ':' => some ⟨.object members key :: standing.frames, .value⟩
  | .behind value, _ => behindValue value standing.frames token
  | _, _ => none

/-- The value that is complete, once no array and no object is open. -/
def Standing.result? : Standing → Option Value
  | ⟨[], .behind value⟩ => some value
  | _ => none

/-- The value that a text denotes, unless it is no JSON. -/
def read? (text : String) : Option Value :=
  (tokensOf? text).bind fun tokens =>
    (tokens.foldlM Standing.step ⟨[], .value⟩).bind Standing.result?

/-! ## Texts and the tokens they spell -/

variable {place behind last : Place} {s t : List Char} {text more : String}
  {tokens others : List Token} {frames : List Frame}

/-- From this place on, the reader finds these tokens in `s` and is at that place behind it. -/
def Leads (place : Place) (s : List Char) (tokens : List Token) (behind : Place) : Prop :=
  readFrom place s = some (tokens, behind)

theorem Leads.append (first : Leads place s tokens behind) (second : Leads behind t others last) :
    Leads place (s ++ t) (tokens ++ others) last := by
  induction s generalizing place tokens with
  | nil =>
    obtain ⟨rfl, rfl⟩ : [] = tokens ∧ place = behind := by simpa [Leads, readFrom] using first
    exact second
  | cons c s ih =>
    simp only [Leads, readFrom, Option.bind_eq_some_iff, Option.map_eq_some_iff,
      Prod.mk.injEq] at first
    obtain ⟨⟨found, next⟩, stepped, ⟨rest, _⟩, onward, rfl, rfl⟩ := first
    have joined := ih onward
    simp only [Leads] at joined
    simp [Leads, readFrom, stepped, joined, List.append_assoc]

/-- Between tokens, the text is read as these tokens, whatever stands around it. -/
def Spells (text : String) (tokens : List Token) : Prop :=
  Leads .between text.toList tokens .between

theorem Spells.append (first : Spells text tokens) (second : Spells more others) :
    Spells (text ++ more) (tokens ++ others) := by
  unfold Spells
  rw [String.toList_append]
  exact Leads.append first second

theorem Spells.intercalate {separator : String} {items : List α} {write : α → String}
    {spelled : α → List Token} (between : Spells separator tokens)
    (each : ∀ item ∈ items, Spells (write item) (spelled item)) :
    Spells (separator.intercalate (items.map write))
      (tokens.intercalate (items.map spelled)) := by
  induction items with
  | nil => rfl
  | cons item items ih =>
    have first := each item List.mem_cons_self
    have rest := ih fun later listed => each later (List.mem_cons_of_mem _ listed)
    cases items with
    | nil => simpa using first
    | cons next items =>
      simp only [List.map_cons, String.intercalate_cons_cons, List.intercalate_cons_cons] at rest ⊢
      exact (first.append between).append rest

/-! ## Tokens and the value they denote -/

/-- Where a value may begin, the tokens make up this value. -/
def Denotes (tokens : List Token) (value : Value) : Prop :=
  ∀ frames, tokens.foldlM Standing.step ⟨frames, .value⟩ = some ⟨frames, .behind value⟩

theorem denotes_string (value : String) : Denotes [.string value] (.string value) :=
  fun _ => rfl

/-- Parts with commas between them and a mark at their end. Each part adds its own to what the
parts before it left in the standing. -/
theorem parts_read {part : α → List Token} {own : α → β} (starting ended : List β → Standing)
    {close : Token} (item : α) (items : List α) (before : List β)
    (each : ∀ one ∈ item :: items, ∀ earlier, ∃ complete,
      (part one).foldlM Standing.step (starting earlier) = some complete ∧
        complete.step (.mark ',') = some (starting (earlier ++ [own one])) ∧
        complete.step close = some (ended (earlier ++ [own one]))) :
    ([Token.mark ','].intercalate ((item :: items).map part) ++ [close]).foldlM Standing.step
        (starting before) =
      some (ended (before ++ (item :: items).map own)) := by
  obtain ⟨complete, read, behind, closed⟩ := each item List.mem_cons_self before
  induction items generalizing item before complete with
  | nil => simp [List.foldlM_append, read, closed]
  | cons next items ih =>
    have later : ∀ one ∈ next :: items, one ∈ item :: next :: items :=
      fun one listed => List.mem_cons_of_mem _ listed
    obtain ⟨following, nextRead, nextBehind, nextClosed⟩ :=
      each next (later next List.mem_cons_self) (before ++ [own item])
    have rest := ih next (before ++ [own item]) (fun one listed => each one (later one listed))
      following nextRead nextBehind nextClosed
    simp only [List.map_cons, List.append_assoc, List.cons_append, List.nil_append] at rest
    simp only [List.map_cons, List.intercalate_cons_cons, List.append_assoc, List.cons_append,
      List.nil_append]
    rw [List.foldlM_append, read]
    simpa [behind] using rest

/-- Parts between two brackets. Behind the first bracket a part begins as it does behind a comma,
and the last bracket may follow at once. -/
theorem brackets_read {part : α → List Token} {own : α → β} (starting ended : List β → Standing)
    {opening close : Token} {standing opened : Standing} {items : List α}
    (opens : standing.step opening = some opened)
    (begins : ∀ token after, (starting []).step token = some after →
      opened.step token = some after)
    (empty : opened.step close = some (ended []))
    (each : ∀ one ∈ items, ∀ earlier, ∃ complete,
      (part one).foldlM Standing.step (starting earlier) = some complete ∧
        complete.step (.mark ',') = some (starting (earlier ++ [own one])) ∧
        complete.step close = some (ended (earlier ++ [own one]))) :
    (opening :: ([Token.mark ','].intercalate (items.map part) ++ [close])).foldlM Standing.step
        standing =
      some (ended (items.map own)) := by
  rw [List.foldlM_cons, opens]
  cases items with
  | nil => simp [empty]
  | cons item items =>
    have inside := parts_read starting ended item items [] each
    cases written : [Token.mark ','].intercalate ((item :: items).map part) ++ [close] with
    | nil => simp at written
    | cons token tokens =>
      rw [written, List.foldlM_cons] at inside
      obtain ⟨after, stepped, onward⟩ := Option.bind_eq_some_iff.mp inside
      show List.foldlM Standing.step opened (token :: tokens) = _
      rw [List.foldlM_cons, begins token after stepped]
      exact onward

theorem denotes_array {items : List α} {spelled : α → List Token} {value : α → Value}
    (each : ∀ item ∈ items, Denotes (spelled item) (value item)) :
    Denotes (.mark '[' :: ([Token.mark ','].intercalate (items.map spelled) ++ [.mark ']']))
      (.array (items.map value)) := by
  intro frames
  refine brackets_read (fun before => ⟨.array before :: frames, .value⟩)
    (fun all => ⟨frames, .behind (.array all)⟩) rfl ?begins rfl ?each
  case begins =>
    intro token after stepped
    have opensValue : token ≠ .mark ']' := by
      rintro rfl
      cases stepped
    rw [← stepped]
    simp [Standing.step]
  case each =>
    exact fun item listed before => ⟨_, each item listed _, rfl, rfl⟩

/-- The key of a member, the colon and the tokens of its value. -/
def memberTokens (key : String) (tokens : List Token) : List Token :=
  .string key :: .mark ':' :: tokens

theorem denotes_object {members : List α} (key : α → String) {spelled : α → List Token}
    {value : α → Value} (each : ∀ member ∈ members, Denotes (spelled member) (value member)) :
    Denotes
      (.mark '\x7b' :: ([Token.mark ','].intercalate
        (members.map fun member => memberTokens (key member) (spelled member)) ++ [.mark '\x7d']))
      (.object (members.map fun member => (key member, value member))) := by
  intro frames
  refine brackets_read (fun before => ⟨frames, .key before⟩)
    (fun all => ⟨frames, .behind (.object all)⟩) rfl ?begins rfl ?each
  case begins =>
    intro token after stepped
    cases token with
    | string key => exact stepped
    | mark c => cases stepped
    | scalar value => cases stepped
  case each =>
    exact fun member listed before => ⟨_, each member listed _, rfl, rfl⟩

theorem read_of_denotes {value : Value} (spelled : Spells text tokens)
    (denoted : Denotes tokens value) : read? text = some value := by
  have whole : tokensOf? text = some tokens := by
    simp [tokensOf?, show readFrom .between text.toList = _ from spelled, Place.ending]
  simp [read?, whole, denoted [], Standing.result?]

-- The reader is strict: a comma at the end, a zero in front, a tab in a string, half a surrogate pair
-- and two values are all refused.
example : ["[1,]", "[01]", "\"\t\"", "\"\\ud83d\"", "[] []"].all fun text => (read? text).isNone := by
  decide +kernel

end DocPages.JsonReading
