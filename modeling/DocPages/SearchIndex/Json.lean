import DocPages.SearchIndex

/-!
The search index as JSON text, indented by two spaces for each level. In a string the quotation
mark, the backslash and the control characters are escaped, and every other character stands for
itself.
-/

namespace DocPages.SearchIndex

/-- A hexadecimal digit in lower case. -/
def hexDigit (n : Nat) : Char :=
  Nat.digitChar (n % 16)

def escapedChar (c : Char) : List Char :=
  match c with
  | '"' => ['\\', '"']
  | '\\' => ['\\', '\\']
  | '\x08' => ['\\', 'b']
  | '\x0c' => ['\\', 'f']
  | '\n' => ['\\', 'n']
  | '\r' => ['\\', 'r']
  | '\t' => ['\\', 't']
  | _ =>
    if c.toNat < 0x20 then ['\\', 'u', '0', '0', hexDigit (c.toNat / 16), hexDigit c.toNat]
    else [c]

def stringText (s : String) : String :=
  .ofList ('"' :: s.toList.flatMap escapedChar ++ ['"'])

def subjectName : Subject → String
  | .type => "type"
  | .method => "method"

/-- The members of a row's object, in the order in which they are written. -/
def fieldsOf (row : Row) : List (String × String) :=
  [("name", row.name), ("full_name", row.fullName), ("namespace", row.namespaceName),
   ("summary", row.summary), ("url", row.url), ("type", subjectName row.subject)]

def fieldText (field : String × String) : String :=
  "    " ++ stringText field.1 ++ ": " ++ stringText field.2

def rowText (row : Row) : String :=
  "  \x7b\n" ++ ",\n".intercalate ((fieldsOf row).map fieldText) ++ "\n  \x7d"

def jsonText (rows : List Row) : String :=
  if rows.isEmpty then "[]"
  else "[\n" ++ ",\n".intercalate (rows.map rowText) ++ "\n]"

end DocPages.SearchIndex
