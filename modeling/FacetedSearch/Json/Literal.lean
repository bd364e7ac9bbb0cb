import FacetedSearch.Json.Basic

/-!
# `FacetedSearch.Json.Literal`: JSON texts

A JSON text is read in two steps. `Literal.parse?` checks the grammar
and builds the text's tree of literals, repeated keys and all. A literal
then gives a value, or does not: a numeral too large for binary64, a
string with half a surrogate pair, and a nesting of 128 arrays and
objects have no value.

The steps are apart because a text may hold parts that nobody reads. A
record (`Shape.record`) only looks at the members that it knows; it
refuses a text that gives one of these twice, and does not care what the
value of any other member would be.

## Numbers

A numeral without fraction and exponent that fits in 64 bits, with or
without sign, is an integer, except for `-0`. Every other numeral is the
binary64 number nearest to it.
-/

set_option autoImplicit false

namespace FacetedSearch.Json

/-- A JSON text as written. A numeral or string without a value is `none`. -/
inductive Literal where
  | null
  | bool (value : Bool)
  | number (value : Option Json)
  | string (value : Option String)
  | array (items : List Literal)
  | object (members : List (Option String × Literal))
deriving Inhabited

namespace Literal

/-! ### Numerals -/

/-- The value of a numeral: its sign, the digits before and after the
point, and the exponent. -/
def numeral (negative : Bool) (whole fraction : List Char) (exponent : Option Int) : Option Json :=
  let digits := whole ++ fraction
  let m := digits.foldl (fun n c => 10 * n + (c.toNat - '0'.toNat)) 0
  let n : Int := if negative then -m else m
  let isInteger := fraction.isEmpty && exponent.isNone && !(negative && m == 0)
  if isInteger && -0x8000000000000000 ≤ n && n < 0x10000000000000000 then some (.integer n)
  else
    let x := Binary64.ofDecimal negative m (exponent.getD 0 - fraction.length)
    if x.isFinite then some (.float x) else none

/-- The digits at the head of a text, and the rest. -/
def digits (cs : List Char) : List Char × List Char := cs.span Char.isDigit

/-- Reads the digits after a point, if there is one. -/
def fraction? : List Char → Option (List Char × List Char)
  | '.' :: cs => match digits cs with
    | ([], _) => none
    | found => some found
  | cs => some ([], cs)

/-- Reads an exponent, if there is one. -/
def exponent? : List Char → Option (Option Int × List Char)
  | c :: cs =>
    if c = 'e' ∨ c = 'E' then
      let (negative, cs) := match cs with
        | '-' :: rest => (true, rest)
        | '+' :: rest => (false, rest)
        | rest => (false, rest)
      match digits cs with
      | ([], _) => none
      | (ds, rest) =>
        let n : Int := ds.foldl (fun n c => 10 * n + (c.toNat - '0'.toNat)) 0
        some (some (if negative then -n else n), rest)
    else some (none, c :: cs)
  | [] => some (none, [])

/-- Reads a numeral. Its whole part has no leading zero. -/
def number? (cs : List Char) : Option (Literal × List Char) :=
  let (negative, cs) := match cs with
    | '-' :: rest => (true, rest)
    | rest => (false, rest)
  match digits cs with
  | ([], _) => none
  | ('0' :: _ :: _, _) => none
  | (whole, rest) => do
    let (fraction, rest) ← fraction? rest
    let (exponent, rest) ← exponent? rest
    return (.number (numeral negative whole fraction exponent), rest)

/-! ### Strings -/

/-- The value of a hexadecimal digit. -/
def hexDigit? (c : Char) : Option Nat :=
  if '0' ≤ c ∧ c ≤ '9' then some (c.toNat - '0'.toNat)
  else if 'a' ≤ c ∧ c ≤ 'f' then some (c.toNat - 'a'.toNat + 10)
  else if 'A' ≤ c ∧ c ≤ 'F' then some (c.toNat - 'A'.toNat + 10)
  else none

/-- The UTF-16 unit with four hexadecimal digits. -/
def unit? (a b c d : Char) : Option Nat := do
  let a ← hexDigit? a
  let b ← hexDigit? b
  let c ← hexDigit? c
  let d ← hexDigit? d
  return ((a * 16 + b) * 16 + c) * 16 + d

/-- One part of a string: a character, or a UTF-16 unit written as an escape. -/
inductive Part where
  | char (c : Char)
  | unit (n : Nat)

/-- The character of a two letter escape. -/
def escaped? : Char → Option Char
  | '"' => some '"'
  | '\\' => some '\\'
  | '/' => some '/'
  | 'b' => some '\x08'
  | 'f' => some '\x0c'
  | 'n' => some '\n'
  | 'r' => some '\r'
  | 't' => some '\t'
  | _ => none

/-- Reads the parts of a string up to its closing quote. -/
def parts? : List Char → Option (List Part × List Char)
  | [] => none
  | '"' :: cs => some ([], cs)
  | '\\' :: 'u' :: a :: b :: c :: d :: cs => do
    let n ← unit? a b c d
    let (rest, cs) ← parts? cs
    return (.unit n :: rest, cs)
  | '\\' :: e :: cs => do
    let c ← escaped? e
    let (rest, cs) ← parts? cs
    return (.char c :: rest, cs)
  | c :: cs =>
    if c = '\\' ∨ c.toNat < 0x20 then none
    else do
      let (rest, cs) ← parts? cs
      return (.char c :: rest, cs)

/-- The characters of a string: escaped surrogates must come in pairs. -/
def joinParts? : List Part → Option (List Char)
  | [] => some []
  | .char c :: rest => (joinParts? rest).map (c :: ·)
  | .unit high :: .unit low :: rest =>
    if 0xd800 ≤ high ∧ high ≤ 0xdbff then
      if 0xdc00 ≤ low ∧ low ≤ 0xdfff then
        (joinParts? rest).map
          (Char.ofNat (0x10000 + (high - 0xd800) * 0x400 + (low - 0xdc00)) :: ·)
      else none
    else if 0xdc00 ≤ high ∧ high ≤ 0xdfff then none
    else (joinParts? (.unit low :: rest)).map (Char.ofNat high :: ·)
  | .unit n :: rest =>
    if 0xd800 ≤ n ∧ n ≤ 0xdfff then none else (joinParts? rest).map (Char.ofNat n :: ·)

/-- Reads a string after its opening quote. -/
def text? (cs : List Char) : Option (Option String × List Char) := do
  let (parts, cs) ← parts? cs
  return ((joinParts? parts).map String.ofList, cs)

/-! ### Values and texts -/

/-- The white space of the grammar. -/
def isSpace (c : Char) : Bool := c = ' ' || c = '\n' || c = '\t' || c = '\r'

/-- Drops the white space at the head of a text. -/
def skip (cs : List Char) : List Char := cs.dropWhile isSpace

mutual

/-- Reads one literal. At most two nested calls go to a character, so
twice the length of the text bounds their number. -/
def value? : Nat → List Char → Option (Literal × List Char)
  | 0, _ => none
  | fuel + 1, cs =>
    match skip cs with
    | 'n' :: 'u' :: 'l' :: 'l' :: cs => some (.null, cs)
    | 't' :: 'r' :: 'u' :: 'e' :: cs => some (.bool true, cs)
    | 'f' :: 'a' :: 'l' :: 's' :: 'e' :: cs => some (.bool false, cs)
    | '"' :: cs => do
      let (s, cs) ← text? cs
      return (.string s, cs)
    | '[' :: cs =>
      match skip cs with
      | ']' :: cs => some (.array [], cs)
      | cs => do
        let (items, cs) ← items? fuel cs
        return (.array items, cs)
    | '\x7b' :: cs =>
      match skip cs with
      | '\x7d' :: cs => some (.object [], cs)
      | cs => do
        let (members, cs) ← members? fuel cs
        return (.object members, cs)
    | cs => number? cs

/-- Reads the items of an array from the first one to the closing bracket. -/
def items? : Nat → List Char → Option (List Literal × List Char)
  | 0, _ => none
  | fuel + 1, cs => do
    let (item, cs) ← value? fuel cs
    match skip cs with
    | ',' :: cs =>
      let (rest, cs) ← items? fuel cs
      return (item :: rest, cs)
    | ']' :: cs => return ([item], cs)
    | _ => none

/-- Reads the members of an object from the first one to the closing brace. -/
def members? : Nat → List Char → Option (List (Option String × Literal) × List Char)
  | 0, _ => none
  | fuel + 1, cs =>
    match skip cs with
    | '"' :: cs => do
      let (key, cs) ← text? cs
      match skip cs with
      | ':' :: cs =>
        let (item, cs) ← value? fuel cs
        match skip cs with
        | ',' :: cs =>
          let (rest, cs) ← members? fuel cs
          return ((key, item) :: rest, cs)
        | '\x7d' :: cs => return ([(key, item)], cs)
        | _ => none
      | _ => none
    | _ => none

end

/-- Reads a text that is one literal and nothing else. -/
def parse? (s : String) : Option Literal := do
  let cs := s.toList
  let (literal, rest) ← value? (2 * cs.length + 1) cs
  if (skip rest).isEmpty then some literal else none

/-! ### The value of a literal -/

/-- Arrays and objects may be nested this deep. -/
def maxDepth : Nat := 127

mutual

/-- The value of a literal with room for `depth` levels of nesting. A
repeated key keeps its first place and its last value. -/
def toJson? (depth : Nat) : Literal → Option Json
  | .null => some .null
  | .bool b => some (.bool b)
  | .number n => n
  | .string s => s.map .string
  | .array items =>
    if depth = 0 then none else (itemsToJson? (depth - 1) items).map .array
  | .object members =>
    if depth = 0 then none
    else (membersToJson? (depth - 1) members).map fun ms => .object (Entries.collect ms)

/-- The values of the items of an array. -/
def itemsToJson? (depth : Nat) : List Literal → Option (List Json)
  | [] => some []
  | l :: rest => do
    let j ← toJson? depth l
    let js ← itemsToJson? depth rest
    return j :: js

/-- The values of the members of an object. -/
def membersToJson? (depth : Nat) : List (Option String × Literal) → Option (List (String × Json))
  | [] => some []
  | (key, l) :: rest => do
    let key ← key
    let j ← toJson? depth l
    let js ← membersToJson? depth rest
    return (key, j) :: js

end

end Literal

/-- The value of a JSON text. -/
def parse? (s : String) : Option Json := do
  (← Literal.parse? s).toJson? Literal.maxDepth

/-! ### Texts of records -/

/-- What a text is read for: any value, one of several named choices, or
a record with known members. -/
inductive Shape where
  | any
  | choice
  | record (members : List (String × Shape))
deriving Inhabited

namespace Literal

mutual

/-- The value of a literal read for a shape. Of a record only the known
members count, and each may occur once; an array gives them by position.
A choice written as an object has one member. -/
def shaped? (shape : Shape) (depth : Nat) : Literal → Option Json
  | .object members =>
    match shape with
    | .record known =>
      if depth = 0 then none
      else do
        let ms ← membersShaped? known (depth - 1) members
        if (ms.map (·.1)).Nodup then return .object ms else none
    | .choice =>
      if members.length = 1 then toJson? depth (.object members) else none
    | .any => toJson? depth (.object members)
  | .array items =>
    match shape with
    | .record known =>
      if depth = 0 then none else (itemsShaped? (known.map (·.2)) (depth - 1) items).map .array
    | _ => toJson? depth (.array items)
  | l => toJson? depth l

/-- The items of an array read for the members of a record in turn. -/
def itemsShaped? (shapes : List Shape) (depth : Nat) : List Literal → Option (List Json)
  | [] => some []
  | l :: rest => do
    let j ← shaped? (shapes.head?.getD .any) depth l
    let js ← itemsShaped? shapes.tail depth rest
    return j :: js

/-- The known members of an object, each read for its own shape. -/
def membersShaped? (known : List (String × Shape)) (depth : Nat) :
    List (Option String × Literal) → Option (List (String × Json))
  | [] => some []
  | (key, l) :: rest => do
    let key ← key
    match known.lookup key with
    | none => membersShaped? known depth rest
    | some shape =>
      let j ← shaped? shape depth l
      let js ← membersShaped? known depth rest
      return (key, j) :: js

end

end Literal

/-- The value of a JSON text read for a shape. -/
def parseFor? (shape : Shape) (s : String) : Option Json := do
  (← Literal.parse? s).shaped? shape Literal.maxDepth

end FacetedSearch.Json
