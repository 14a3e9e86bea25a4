/-!
References: `&name;` in running text and in attribute values. Five names and the numbers of
characters are known without a declaration, and no document of this format declares any other.
-/

namespace DocPages.Xml

/-- The names that stand for a character in every document. -/
def predefinedReferences : List (String × Char) :=
  [("lt", '<'), ("gt", '>'), ("amp", '&'), ("apos", '\''), ("quot", '"')]

/-- The value of a digit in the given base, which is at most sixteen. -/
def digitValue? (base : Nat) (c : Char) : Option Nat :=
  let value? : Option Nat :=
    if '0' ≤ c ∧ c ≤ '9' then some (c.toNat - '0'.toNat)
    else if 'a' ≤ c ∧ c ≤ 'f' then some (c.toNat - 'a'.toNat + 10)
    else if 'A' ≤ c ∧ c ≤ 'F' then some (c.toNat - 'A'.toNat + 10)
    else none
  value?.filter (· < base)

/-- The number written by at least one digit and by nothing else. -/
def readNumber? (base : Nat) (digits : List Char) : Option Nat :=
  if digits.isEmpty then none
  else digits.foldlM (fun value c => (digitValue? base c).map (value * base + ·)) 0

/-- The character with this number, unless the number is zero or no character's. -/
def charOfNumber? (n : Nat) : Option Char :=
  if n ≠ 0 ∧ n.isValidChar then some (.ofNat n) else none

/-- What the reference `&name;` stands for. -/
def referent? (name : List Char) : Option Char :=
  match name with
  | '#' :: 'x' :: digits => (readNumber? 16 digits).bind charOfNumber?
  | '#' :: digits => (readNumber? 10 digits).bind charOfNumber?
  | _ => (predefinedReferences.find? fun (known, _) => known.toList == name).map (·.2)

/-- Replaces every reference of a value. There is no result when a reference is unknown or when an
`&` is followed by another `&`, or by the end, before a `;`. -/
def unescape? : List Char → Option (List Char)
  | s => (go s none)
where
  /-- `name?` holds the name read so far, last character first, while a reference is open. -/
  go : List Char → Option (List Char) → Option (List Char)
    | [], none => some []
    | [], some _ => none
    | c :: rest, none =>
      if c = '&' then go rest (some []) else (go rest none).map (c :: ·)
    | c :: rest, some name =>
      if c = ';' then
        (referent? name.reverse).bind fun value => (go rest none).map (value :: ·)
      else if c = '&' then none
      else go rest (some (c :: name))

/-- The value with its references replaced, or as it is written when one of them is bad. -/
def unescape (s : String) : String :=
  ((unescape? s.toList).map String.ofList).getD s

end DocPages.Xml
