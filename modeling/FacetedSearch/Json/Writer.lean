import FacetedSearch.Json.Basic
import FacetedSearch.Number.Shortest

/-!
# `FacetedSearch.Json.Writer`: writing JSON texts

The text of a value has no white space. In a string, quotes, backslashes
and control characters are escaped and everything else stands for
itself. A number that is not finite has no JSON text and is written as
`null`.
-/

set_option autoImplicit false

namespace FacetedSearch.Json

/-- The lower case hexadecimal digit of a number below 16. -/
def hexDigit (n : Nat) : Char := "0123456789abcdef".toList[n % 16]?.getD '0'

/-- A character inside a string. -/
def escape (c : Char) : String :=
  match c with
  | '"' => "\\\""
  | '\\' => "\\\\"
  | '\n' => "\\n"
  | '\r' => "\\r"
  | '\t' => "\\t"
  | c =>
    if c.toNat < 0x20 then
      "\\u00" ++ String.ofList [hexDigit (c.toNat / 16), hexDigit c.toNat]
    else String.singleton c

/-- A string with its quotes. -/
def quote (s : String) : String :=
  s.foldl (fun out c => out ++ escape c) "\"" ++ "\""

mutual

/-- The text of a value. -/
def render : Json → String
  | .null => "null"
  | .bool b => if b then "true" else "false"
  | .integer n => toString n
  | .float x => if x.isFinite then x.text else "null"
  | .string s => quote s
  | .array items => "[" ++ renderItems items ++ "]"
  | .object members => "\x7b" ++ renderMembers members ++ "\x7d"

/-- The texts of the items, with commas between them. -/
def renderItems : List Json → String
  | [] => ""
  | [j] => render j
  | j :: rest => render j ++ "," ++ renderItems rest

/-- The texts of the members, with commas between them. -/
def renderMembers : List (String × Json) → String
  | [] => ""
  | [(k, j)] => quote k ++ ":" ++ render j
  | (k, j) :: rest => quote k ++ ":" ++ render j ++ "," ++ renderMembers rest

end

end FacetedSearch.Json
