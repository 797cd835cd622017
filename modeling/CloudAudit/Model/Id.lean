import CloudAudit.Text.Quoted

namespace CloudAudit

/-- A supply of identifiers that have not been given out. -/
structure IdSupply where
  seed : Nat := 0
  next : Nat := 0
  deriving Repr

namespace IdSupply

/-- The identifier of a number: 32 hexadecimal digits in five groups. -/
def text (n : Nat) : String :=
  let ds := Text.hexDigits 32 n
  let group (start size : Nat) : List Char := (ds.drop start).take size
  String.ofList (group 0 8 ++ '-' :: group 8 4 ++ '-' :: group 12 4 ++ '-' :: group 16 4 ++
    '-' :: group 20 12)

def peek (s : IdSupply) : String := text (s.seed + s.next)

def advance (s : IdSupply) : IdSupply := { s with next := s.next + 1 }

def label {α β : Type} (s : IdSupply) (f : String → α → β) : List α → List β × IdSupply
  | [] => ([], s)
  | a :: as =>
    let (bs, s') := s.advance.label f as
    (f s.peek a :: bs, s')

end IdSupply

namespace Table

variable {α κ : Type} [DecidableEq κ]

/-- Replaces the first row with the key of `x`, or adds `x` as the last row. -/
def upsert (key : α → κ) (x : α) : List α → List α
  | [] => [x]
  | y :: ys => if key y = key x then x :: ys else y :: upsert key x ys

def find? (key : α → κ) (rows : List α) (k : κ) : Option α := rows.find? fun y => key y = k

def insertAll (key : α → κ) (rows new : List α) : List α :=
  new.foldl (fun t x => upsert key x t) rows

/-- The table of some rows; of two with one key the later counts. -/
def ofList (key : α → κ) (rows : List α) : List α := insertAll key [] rows

end Table

end CloudAudit
