import PublicationIndicator.Text.Digits

/-!
# PublicationIndicator.Settings.Address — addresses of hosts

An address is four numbers with points between them, or eight groups of hexadecimal digits with
colons between them, of which one run of zeros may be left out.  Addresses are written in their
shortest form.
-/

namespace PublicationIndicator

open Text

/-- The address of a host: four bytes, or eight groups of sixteen bits. -/
inductive HostAddress where
  | v4 (bytes : Vector Nat 4)
  | v6 (groups : Vector Nat 8)
deriving DecidableEq

namespace HostAddress

/-! ### Reading -/

/-- Reads a decimal number below 256 without zeros in front. -/
def readByte? (cs : List Char) : Option (Nat × List Char) :=
  let ds := cs.takeWhile isDigit
  let n := digitsValue ds
  if ds = [] ∨ 3 < ds.length ∨ 255 < n ∨ (ds.head? = some '0' ∧ ds ≠ ['0']) then none
  else some (n, cs.drop ds.length)

/-- Reads one character. -/
def readMark? (mark : Char) : List Char → Option (List Char)
  | [] => none
  | c :: rest => if c = mark then some rest else none

/-- Reads four bytes with points between them. -/
def readV4? (cs : List Char) : Option (Vector Nat 4 × List Char) := do
  let (a, cs) ← readByte? cs
  let (b, cs) ← readByte? (← readMark? '.' cs)
  let (c, cs) ← readByte? (← readMark? '.' cs)
  let (d, cs) ← readByte? (← readMark? '.' cs)
  some (#v[a, b, c, d], cs)

/-- Reads one to four hexadecimal digits. -/
def readGroup? (cs : List Char) : Option (Nat × List Char) :=
  let ds := cs.takeWhile (fun c => (hexValue? c).isSome)
  if ds = [] ∨ 4 < ds.length then none
  else some (ds.foldl (fun n c => 16 * n + (hexValue? c).getD 0) 0, cs.drop ds.length)

/-- The two groups that stand for four bytes. -/
def groupsOfV4 (b : Vector Nat 4) : List Nat := [b[0] * 256 + b[1], b[2] * 256 + b[3]]

/-- Reads as many groups with colons between them as there are, `limit` at most; the last two may be
written as four bytes, which is told.  `later` says whether a group was read already. -/
def readGroups (later : Bool) : (limit : Nat) → List Char → List Nat × Bool × List Char
  | 0, cs => ([], false, cs)
  | limit + 1, cs =>
    let start := if later then readMark? ':' cs else some cs
    match (if limit = 0 then none else start.bind readV4?), start.bind readGroup? with
    | some (b, rest), _ => (groupsOfV4 b, true, rest)
    | none, some (g, rest) =>
      let (gs, embedded, rest) := readGroups true limit rest
      (g :: gs, embedded, rest)
    | none, none => ([], false, cs)

/-- The groups, with a run of zeros in place of what was left out between `front` and `back`. -/
def filled? (front back : List Nat) : Option (Vector Nat 8) :=
  let gs := (front ++ List.replicate (8 - front.length - back.length) 0 ++ back).toArray
  if h : gs.size = 8 then some ⟨gs, h⟩ else none

/-- Reads eight groups, or fewer with two colons where some are left out. -/
def readV6? (cs : List Char) : Option (Vector Nat 8 × List Char) := do
  let (front, embedded, rest) := readGroups false 8 cs
  if front.length = 8 then some (← filled? front [], rest)
  else if embedded then none
  else
    let rest ← readMark? ':' (← readMark? ':' rest)
    let (back, _, rest) := readGroups false (7 - front.length) rest
    some (← filled? front back, rest)

/-- Reads an address. -/
def ofText? (s : String) : Option HostAddress :=
  match readV4? s.toList with
  | some (b, rest) => if rest = [] then some (.v4 b) else none
  | none =>
    match readV6? s.toList with
    | some (g, rest) => if rest = [] then some (.v6 g) else none
    | none => none

/-! ### Writing -/

/-- Four bytes with points between them. -/
def v4Text (bytes : List Nat) : String := ".".intercalate (bytes.map toString)

/-- Groups in hexadecimal with colons between them. -/
def groupsText (groups : List Nat) : String :=
  ":".intercalate (groups.map fun g => String.ofList (Nat.toDigits 16 g))

/-- Where the first of the longest runs of zeros starts, and how long it is. -/
def longestZeros (groups : List Nat) : Nat × Nat :=
  (List.range groups.length).foldl (fun best i =>
    let n := ((groups.drop i).takeWhile (· = 0)).length
    if best.2 < n then (i, n) else best) (0, 0)

/-- Eight groups in their shortest form; those that stand for four bytes are written as these. -/
def v6Text (groups : List Nat) : String :=
  match groups with
  | [0, 0, 0, 0, 0, 0xffff, a, b] => "::ffff:" ++ v4Text [a / 256, a % 256, b / 256, b % 256]
  | groups =>
    let (start, n) := longestZeros groups
    if n < 2 then groupsText groups
    else groupsText (groups.take start) ++ "::" ++ groupsText (groups.drop (start + n))

/-- The address with a port behind it. -/
def textWithPort (a : HostAddress) (port : Nat) : String :=
  match a with
  | v4 bytes => v4Text bytes.toList ++ s!":{port}"
  | v6 groups => "[" ++ v6Text groups.toList ++ s!"]:{port}"

end HostAddress

end PublicationIndicator
