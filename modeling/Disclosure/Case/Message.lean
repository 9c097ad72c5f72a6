import Disclosure.Case.ValueError
import Disclosure.Json.Decode
import Disclosure.Text.Blank

/-!
# Messages

The 28 types of message in four categories, one for each side of the protocol
and one for general talk.  Each category has one acknowledgement and one error.
A message without a recipient is meant for everybody in the case.
-/

namespace Disclosure

/-- What a message is about. -/
inductive MessageCategory where
  | report
  | embargo
  | caseState
  | general
  deriving DecidableEq, Repr

namespace MessageCategory

def all : List MessageCategory := [report, embargo, caseState, general]

/-- The letter that the codes of the category begin with. -/
def letter : MessageCategory → Char
  | report => 'R'
  | embargo => 'E'
  | caseState => 'C'
  | general => 'G'

/-- The name in reports. -/
def name : MessageCategory → String
  | report => "ReportManagement"
  | embargo => "EmbargoManagement"
  | caseState => "CaseState"
  | general => "General"

def toJson (category : MessageCategory) : Json := .text category.name

def ofJson? : Json → Option MessageCategory := Json.oneOf? all name

end MessageCategory

/-- The types of message. -/
inductive MessageType where
  | reportSubmission
  | reportInvalid
  | reportValid
  | reportDeferred
  | reportAccepted
  | reportClosed
  | reportAck
  | reportError
  | embargoProposal
  | embargoRejected
  | embargoAccepted
  | revisionProposal
  | revisionRejected
  | revisionAccepted
  | embargoTerminated
  | embargoAck
  | embargoError
  | vendorAware
  | fixReady
  | fixDeployed
  | publicAware
  | exploitPublished
  | attacksObserved
  | caseAck
  | caseError
  | inquiry
  | generalAck
  | generalError
  deriving DecidableEq, Repr

namespace MessageType

/-- Every type once, category by category. -/
def all : List MessageType :=
  [reportSubmission, reportInvalid, reportValid, reportDeferred,
   reportAccepted, reportClosed, reportAck, reportError,
   embargoProposal, embargoRejected, embargoAccepted, revisionProposal,
   revisionRejected, revisionAccepted, embargoTerminated, embargoAck,
   embargoError,
   vendorAware, fixReady, fixDeployed, publicAware, exploitPublished,
   attacksObserved, caseAck, caseError,
   inquiry, generalAck, generalError]

theorem mem_all (type : MessageType) : type ∈ all := by
  cases type <;> decide

/-- The two-letter code. -/
def code : MessageType → String
  | reportSubmission => "RS"
  | reportInvalid => "RI"
  | reportValid => "RV"
  | reportDeferred => "RD"
  | reportAccepted => "RA"
  | reportClosed => "RC"
  | reportAck => "RK"
  | reportError => "RE"
  | embargoProposal => "EP"
  | embargoRejected => "ER"
  | embargoAccepted => "EA"
  | revisionProposal => "EV"
  | revisionRejected => "EJ"
  | revisionAccepted => "EC"
  | embargoTerminated => "ET"
  | embargoAck => "EK"
  | embargoError => "EE"
  | vendorAware => "CV"
  | fixReady => "CF"
  | fixDeployed => "CD"
  | publicAware => "CP"
  | exploitPublished => "CX"
  | attacksObserved => "CA"
  | caseAck => "CK"
  | caseError => "CE"
  | inquiry => "GI"
  | generalAck => "GK"
  | generalError => "GE"

/-- The category that the type belongs to. -/
def category : MessageType → MessageCategory
  | reportSubmission => .report
  | reportInvalid => .report
  | reportValid => .report
  | reportDeferred => .report
  | reportAccepted => .report
  | reportClosed => .report
  | reportAck => .report
  | reportError => .report
  | embargoProposal => .embargo
  | embargoRejected => .embargo
  | embargoAccepted => .embargo
  | revisionProposal => .embargo
  | revisionRejected => .embargo
  | revisionAccepted => .embargo
  | embargoTerminated => .embargo
  | embargoAck => .embargo
  | embargoError => .embargo
  | vendorAware => .caseState
  | fixReady => .caseState
  | fixDeployed => .caseState
  | publicAware => .caseState
  | exploitPublished => .caseState
  | attacksObserved => .caseState
  | caseAck => .caseState
  | caseError => .caseState
  | inquiry => .general
  | generalAck => .general
  | generalError => .general

/-- The type only acknowledges another message. -/
def isAck : MessageType → Bool
  | reportAck => true
  | embargoAck => true
  | caseAck => true
  | generalAck => true
  | _ => false

/-- The type only says that another message was not understood. -/
def isError : MessageType → Bool
  | reportError => true
  | embargoError => true
  | caseError => true
  | generalError => true
  | _ => false

/-- Reads a code in either case. -/
def parse (text : String) : Except ValueError MessageType :=
  match all.find? fun type => Text.sameFolded type.code text with
  | some type => .ok type
  | none => .error (.unknownMessageType text)

def toJson (type : MessageType) : Json := .text type.code

def ofJson? : Json → Option MessageType := Json.oneOf? all code

end MessageType

namespace MessageCategory

/-- The types that belong to the category. -/
def members (category : MessageCategory) : List MessageType :=
  MessageType.all.filter fun type => type.category == category

/-- The acknowledgement of the category. -/
def ack : MessageCategory → MessageType
  | report => .reportAck
  | embargo => .embargoAck
  | caseState => .caseAck
  | general => .generalAck

/-- The error of the category. -/
def error : MessageCategory → MessageType
  | report => .reportError
  | embargo => .embargoError
  | caseState => .caseError
  | general => .generalError

end MessageCategory

/-- A message from one actor to another or to the whole case. -/
structure Message where
  type : MessageType
  sender : String
  /-- Whom it is for; nobody in particular means everybody. -/
  recipient : Option String
  body : Json

namespace Message

/-- A message to the whole case, without a body. -/
def broadcast (type : MessageType) (sender : String) : Message where
  type := type
  sender := sender
  recipient := none
  body := .null

/-- What the message is about. -/
def category (message : Message) : MessageCategory := message.type.category

/-- Whether the message is meant for everybody. -/
def isBroadcast (message : Message) : Bool := message.recipient.isNone

/-- The message on one line: its type and sender, whom it is for and its body, as
far as there are any. -/
def line (message : Message) : String :=
  let recipient := (message.recipient.map (">" ++ ·)).getD ""
  let body :=
    match message.body with
    | .null => ""
    | body => " " ++ body.compress
  message.type.code ++ "@" ++ message.sender ++ recipient ++ body

/-- The fields of the JSON form. -/
def fields (message : Message) : List (String × Json) :=
  [("msg_type", message.type.toJson), ("sender", .text message.sender)]
    ++ (message.recipient.map fun name => ("recipient", .text name)).toList
    ++ [("body", message.body)]

end Message

end Disclosure
