import CloudAudit.Json.Loose
import CloudAudit.Json.Parser

namespace CloudAudit

/-- What a run can take on: how deep the documents that it reads may be nested, how many calls may
be under way at once while it copies a configuration, and how many pages of a list it reads before a
call is cut off. -/
structure Bounds where
  nesting : Nat := 990
  copying : Nat := 980
  pages : Nat := 10000000

/-- An answer that refuses a call. Status 0 stands for a connection that failed. -/
structure Refusal where
  status : Int
  reason : String
  body : Option String := none
  deriving DecidableEq, Repr

def Refusal.message (r : Refusal) : String :=
  if r.status = 0 then r.reason else "HTTP " ++ toString r.status ++ ": " ++ r.reason

/-- The ways in which a call can break without an answer of the provider. -/
inductive Breakdown where
  | runtime
  | value
  | key
  | type
  | lookup
  | os
  | timeout
  | reset
  | url
  | disconnected
  | incompleteRead
  | badStatusLine
  /-- An error of any other class below `Exception`, by its name. -/
  | other (name : String)
  deriving DecidableEq, Repr

namespace Breakdown

def name : Breakdown → String
  | runtime => "RuntimeError"
  | value => "ValueError"
  | key => "KeyError"
  | type => "TypeError"
  | lookup => "AttributeError"
  | os => "OSError"
  | timeout => "TimeoutError"
  | reset => "ConnectionResetError"
  | url => "URLError"
  | disconnected => "RemoteDisconnected"
  | incompleteRead => "IncompleteRead"
  | badStatusLine => "BadStatusLine"
  | other name => name

/-- Whether the connection broke, so that a second try may help. -/
def isConnection : Breakdown → Bool
  | os | timeout | reset | url | disconnected | incompleteRead | badStatusLine => true
  | _ => false

/-- How many bytes of an answer arrived before it broke off. -/
private def bytesRead (message : String) : String :=
  "IncompleteRead(" ++ toString message.utf8ByteSize ++ " bytes read)"

def sentence (kind : Breakdown) (message : String) : String :=
  match kind with
  | key => Text.quoted message
  | url => "<urlopen error " ++ message ++ ">"
  | incompleteRead => bytesRead message
  | badStatusLine => if message = "" then "''" else message
  | _ => message

def report (kind : Breakdown) (message : String) : String :=
  match kind with
  | incompleteRead => bytesRead message
  | badStatusLine => kind.name ++ "(" ++ Text.quoted (kind.sentence message) ++ ")"
  | _ => kind.name ++ "(" ++ Text.quoted message ++ ")"

end Breakdown

inductive ProviderFault where
  | refused (r : Refusal)
  | broken (kind : Breakdown) (message : String)
  | unreadableText
  | unreadableJson (fault : Json.ParseFault)
  deriving DecidableEq, Repr

def Json.ParseFault.message : Json.ParseFault → String
  | malformed => "<json error>"
  | numeralTooLong n => (DataFault.numeralTooLong n).message
  | nestedTooDeep inList => "maximum recursion depth exceeded while decoding a JSON " ++
      (if inList then "array" else "object") ++ " from a unicode string"

namespace ProviderFault

def message : ProviderFault → String
  | refused r => r.message
  | broken kind m => kind.sentence m
  | unreadableText => "<decode error>"
  | unreadableJson f => f.message

end ProviderFault

inductive LiveCall where
  | users
  | logins
  | controlPlaneAcl (cluster : String)
  deriving DecidableEq, Repr

def LiveCall.key : LiveCall → String
  | users => "users"
  | logins => "logins"
  | controlPlaneAcl cluster => "acl:" ++ cluster

/-- How a call ends, if it ends in time. -/
inductive Reply where
  | answer (value : Json)
  | fault (fault : ProviderFault)
  /-- The call is still under way when the time is up. -/
  | pending

def Reply.ofResult : Except ProviderFault Json → Reply
  | .ok v => .answer v
  | .error f => .fault f

/-- A provider with states of type `σ`. -/
structure Provider (σ : Type) where
  call : LiveCall → σ → Reply × σ

end CloudAudit
