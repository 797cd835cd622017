import CloudAudit.Provider.Call
import CloudAudit.Text.Blank

namespace CloudAudit

namespace Url

/-- Drops blanks at both ends, then a pair of angle brackets, then the word `URL:` in front. -/
def unwrap (cs : List Char) : List Char :=
  let cs := Text.trimChars cs
  let cs :=
    if cs.head? = some '<' ∧ cs.getLast? = some '>' then Text.trimChars (cs.drop 1).dropLast
    else cs
  if cs.take 4 = ['U', 'R', 'L', ':'] then Text.trimChars (cs.drop 4) else cs

/-- What stands before the last hash sign, and the fragment after it. -/
def splitFragment (cs : List Char) : List Char × List Char :=
  match Text.cutAt? '#' cs.reverse with
  | some (fragment, address) => (address.reverse, fragment.reverse)
  | none => (cs, [])

/-- Whether there is a scheme: a colon, with something but no slash before it. -/
def hasScheme (address : List Char) : Bool :=
  match Text.cutAt? ':' address with
  | some (scheme, _) => !scheme.isEmpty && !scheme.contains '/'
  | none => false

/-- The URL to send, or the sentence that says why there is none. -/
def normalize (url : String) : Except String String :=
  let (address, fragment) := splitFragment (unwrap url.toList)
  let whole := String.ofList (if fragment.isEmpty then address else address ++ '#' :: fragment)
  if hasScheme address then .ok whole else .error ("unknown url type: " ++ Text.quoted whole)

end Url

structure HttpRequest where
  url : String
  token : String
  timeoutSeconds : Float

namespace HttpRequest

def authorization (r : HttpRequest) : String := "Bearer " ++ r.token

def headers (r : HttpRequest) : List (String × String) :=
  [("Accept", "application/json"), ("Authorization", r.authorization)]

end HttpRequest

/-- How a request ends. -/
inductive HttpOutcome where
  | success (body : List UInt8)
  | refusal (status : Int) (reason : String) (body : List UInt8)
  /-- A refusal whose body broke off. -/
  | truncated (status : Int) (reason : String) (kind : Breakdown) (message : String)
  | broken (kind : Breakdown) (message : String)

/-- A web service: the outcome of a request, given how many came before it. -/
abbrev WebService := Nat → HttpRequest → HttpOutcome

/-- The service that answers from a list; the last answer stays. -/
def WebService.scripted (outcomes : List HttpOutcome) : WebService := fun n _ =>
  (outcomes[n]?.or outcomes.getLast?).getD (.success [])

/-- What happened so far: the requests, and the pauses between them in half seconds. -/
structure Wire where
  requests : List HttpRequest := []
  pauses : List Nat := []

namespace Wire

def send (service : WebService) (r : HttpRequest) : StateM Wire HttpOutcome := fun w =>
  (service w.requests.length r, { w with requests := w.requests ++ [r] })

/-- Waits for some half seconds. -/
def pause (halfSeconds : Nat) : StateM Wire Unit := fun w =>
  ((), { w with pauses := w.pauses ++ [halfSeconds] })

end Wire

end CloudAudit
