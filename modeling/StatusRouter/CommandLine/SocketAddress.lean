/-!
# Socket addresses

An IP address of either version with a port.  An address of version 6 stands in square brackets and
may name a scope.  It is written in its short form: the longest run of zero groups, if it is longer
than one group, is left out.

The readers take what they read from the front of a list of characters and give back the rest.
-/

namespace StatusRouter

/-- An IP address with a port. -/
inductive SocketAddress where
  | v4 (octets : List Nat) (port : Nat)
  | v6 (groups : List Nat) (scope : Nat) (port : Nat)
  deriving DecidableEq

namespace SocketAddress

/-! ## Reading -/

/-- The value of a digit, if it is one in the given base. -/
def digitValue? (base : Nat) (c : Char) : Option Nat :=
  let value? :=
    if c.isDigit then some (c.toNat - 48)
    else if 'a' ≤ c ∧ c ≤ 'f' then some (c.toNat - 87)
    else if 'A' ≤ c ∧ c ≤ 'F' then some (c.toNat - 55)
    else none
  value?.filter (· < base)

/-- The digits in front of a text, by their values, and the rest. -/
def takeDigits (base : Nat) : List Char → List Nat × List Char
  | [] => ([], [])
  | c :: rest =>
    match digitValue? base c with
    | none => ([], c :: rest)
    | some d =>
      let (ds, rest) := takeDigits base rest
      (d :: ds, rest)

/-- A number that is no larger than a limit; `places` bounds the number of its digits, and zeros in
front may be refused. -/
def readNumber (base limit : Nat) (places : Option Nat) (zerosInFront : Bool) (s : List Char) :
    Option (Nat × List Char) :=
  let (digits, rest) := takeDigits base s
  let value := digits.foldl (fun n d => n * base + d) 0
  if digits.isEmpty then none
  else if places.any (· < digits.length) then none
  else if !zerosInFront && digits.head? == some 0 && 1 < digits.length then none
  else if limit < value then none
  else some (value, rest)

/-- A given character. -/
def readMark (mark : Char) : List Char → Option (List Char)
  | c :: rest => if c = mark then some rest else none
  | [] => none

/-- One of the four numbers of an address of version 4. -/
def readOctet (s : List Char) : Option (Nat × List Char) := readNumber 10 255 (some 3) false s

/-- An address of version 4. -/
def readV4 (s : List Char) : Option (List Nat × List Char) := do
  let (a, s) ← readOctet s
  let (b, s) ← readOctet (← readMark '.' s)
  let (c, s) ← readOctet (← readMark '.' s)
  let (d, s) ← readOctet (← readMark '.' s)
  return ([a, b, c, d], s)

/-- The two groups that an address of version 4 stands for. -/
def groupsOfV4 : List Nat → List Nat
  | [a, b, c, d] => [a * 256 + b, c * 256 + d]
  | _ => []

/-- At most so many groups of an address of version 6, with colons between them; the last two may
be written as an address of version 4, which the truth value tells. -/
def readGroups (first : Bool) : Nat → List Char → List Nat × Bool × List Char
  | 0, s => ([], false, s)
  | left + 1, s =>
    match if first then some s else readMark ':' s with
    | none => ([], false, s)
    | some t =>
      match if left = 0 then none else readV4 t with
      | some (octets, rest) => (groupsOfV4 octets, true, rest)
      | none =>
        match readNumber 16 65535 (some 4) true t with
        | none => ([], false, s)
        | some (group, rest) =>
          let (groups, endsInV4, rest) := readGroups false left rest
          (group :: groups, endsInV4, rest)

/-- An address of version 6: eight groups, or fewer with a double colon for the zeros between. -/
def readV6 (s : List Char) : Option (List Nat × List Char) := do
  let (head, endsInV4, s) := readGroups true 8 s
  if head.length = 8 then return (head, s)
  if endsInV4 then none
  else
    let s ← readMark ':' (← readMark ':' s)
    let (tail, _, s) := readGroups true (7 - head.length) s
    return (head ++ List.replicate (8 - head.length - tail.length) 0 ++ tail, s)

/-- The port, after a colon. -/
def readPort (s : List Char) : Option (Nat × List Char) := do
  readNumber 10 65535 none true (← readMark ':' s)

/-- The number of a scope, after a percent sign; zero if there is none. -/
def readScope (s : List Char) : Nat × List Char :=
  ((readMark '%' s).bind fun t => readNumber 10 4294967295 none true t).getD (0, s)

/-- An address of version 4 with its port. -/
def readV4WithPort (s : List Char) : Option (SocketAddress × List Char) := do
  let (octets, s) ← readV4 s
  let (port, s) ← readPort s
  return (.v4 octets port, s)

/-- An address of version 6 with its scope and port. -/
def readV6WithPort (s : List Char) : Option (SocketAddress × List Char) := do
  let (groups, s) ← readV6 (← readMark '[' s)
  let (scope, s) := readScope s
  let (port, s) ← readPort (← readMark ']' s)
  return (.v6 groups scope port, s)

/-- The address that a text stands for. -/
def ofText? (s : String) : Option SocketAddress :=
  match (readV4WithPort s.toList).or (readV6WithPort s.toList) with
  | some (address, []) => some address
  | _ => none

/-! ## Writing -/

/-- The numbers of an address of version 4. -/
def v4Text (octets : List Nat) : String :=
  ".".intercalate (octets.map toString)

/-- Groups of an address of version 6. -/
def groupsText (groups : List Nat) : String :=
  ":".intercalate (groups.map fun group => String.ofList (Nat.toDigits 16 group))

/-- The number of zeros in front. -/
def leadingZeros (groups : List Nat) : Nat := (groups.takeWhile (· == 0)).length

/-- Where the first longest run of zeros begins, and how long it is. -/
def longestZeros (groups : List Nat) : Nat × Nat :=
  (List.range groups.length).foldl
    (fun best start =>
      let length := leadingZeros (groups.drop start)
      if best.2 < length then (start, length) else best)
    (0, 0)

/-- An address of version 6 in its short form. -/
def v6Text (groups : List Nat) : String :=
  match groups with
  | [0, 0, 0, 0, 0, 65535, high, low] =>
    "::ffff:" ++ v4Text [high / 256, high % 256, low / 256, low % 256]
  | groups =>
    let (start, length) := longestZeros groups
    if 1 < length then
      groupsText (groups.take start) ++ "::" ++ groupsText (groups.drop (start + length))
    else groupsText groups

/-- The text of an address. -/
def text : SocketAddress → String
  | .v4 octets port => v4Text octets ++ ":" ++ toString port
  | .v6 groups scope port =>
    let zone := if scope = 0 then "" else "%" ++ toString scope
    "[" ++ v6Text groups ++ zone ++ "]:" ++ toString port

end SocketAddress

end StatusRouter
