import CloudAudit.Text.Numeral

namespace CloudAudit

/-- The addresses that share the leading `length` bits of `base`. -/
structure Block where
  base : Nat
  length : Nat
  deriving DecidableEq, Repr

namespace Block

def size (b : Block) : Nat := Nat.pow 2 (32 - b.length)

/-- The lowest address of the block: the base with its host bits cleared. -/
def first (b : Block) : Nat := b.base - b.base % b.size

def last (b : Block) : Nat := b.first + b.size - 1

def within (a b : Block) : Bool := b.first ≤ a.first && a.last ≤ b.last

def address (a b c d : Nat) : Nat := ((a * 256 + b) * 256 + c) * 256 + d

/-- The private ranges 10.0.0.0/8, 172.16.0.0/12 and 192.168.0.0/16. -/
def privateRanges : List Block :=
  [⟨address 10 0 0 0, 8⟩, ⟨address 172 16 0 0, 12⟩, ⟨address 192 168 0 0, 16⟩]

/-- Reads ASCII digits as a number; there may be as many as in any numeral. -/
def decimal? (cs : List Char) : Option Nat :=
  if !cs.isEmpty && cs.length ≤ Text.maxNumeralDigits && cs.all Char.isDigit then
    some (cs.foldl (fun n c => 10 * n + (c.toNat - 0x30)) 0)
  else none

/-- Reads one part of an address: up to three digits without a leading zero, at most 255. -/
def octet? (cs : List Char) : Option Nat :=
  if cs.length ≤ 3 ∧ ¬(1 < cs.length ∧ cs.head? = some '0') then
    (decimal? cs).filter (· ≤ 255)
  else none

def address? (cs : List Char) : Option Nat :=
  match (Text.splitOnChar '.' cs).map octet? with
  | [some a, some b, some c, some d] => some (address a b c d)
  | _ => none

def netmask (length : Nat) : Nat := Nat.pow 2 32 - Nat.pow 2 (32 - length)

/-- The prefix length of a netmask or, failing that, of a host mask. -/
def lengthOfMask? (mask : Nat) : Option Nat :=
  let lengths := List.range 33
  match lengths.find? (netmask · == mask) with
  | some n => some n
  | none => lengths.find? (netmask · == Nat.pow 2 32 - 1 - mask)

def length? (cs : List Char) : Option Nat :=
  match (decimal? cs).filter (· ≤ 32) with
  | some n => some n
  | none => (address? cs).bind lengthOfMask?

def parse? (cs : List Char) : Option Block :=
  match Text.splitOnChar '/' cs with
  | [addr] => (address? addr).map (⟨·, 32⟩)
  | [addr, mask] => do
    let a ← address? addr
    let n ← length? mask
    some ⟨a, n⟩
  | _ => none

end Block

/-- Whether a text is a block of IPv4 addresses inside one of the private ranges. -/
def isPrivateCidr (s : String) : Bool :=
  match Block.parse? (Text.trimChars s.toList) with
  | some b => Block.privateRanges.any (b.within ·)
  | none => false

end CloudAudit
