import Disclosure.Protocol.Conditions

/-!
# Mail

Taking messages from the inbox and sending messages.  At most one message is
being handled; one that cannot be finished goes back to the head of the inbox,
so that the order of arrival is kept.
-/

namespace Disclosure

namespace ActorState

/-- Take the oldest message up, unless one is being handled. -/
def popMessage (state : ActorState) : Status × ActorState :=
  match state.current, state.inbox with
  | none, message :: rest =>
    (.success, { state with current := some message, inbox := rest })
  | _, _ => (.failure, state)

/-- Put the message that is being handled back to the head of the inbox. -/
def pushMessage (state : ActorState) : ActorState :=
  match state.current with
  | some message =>
    { state with current := none, inbox := message :: state.inbox }
  | none => state

/-- Note the type of the message that is being handled. -/
def noteMessage (state : ActorState) : ActorState :=
  match state.current with
  | some message => { state with received := state.received ++ [message.type] }
  | none => state

/-- Be done with the message that is being handled. -/
def dropMessage (state : ActorState) : ActorState :=
  { state with current := none }

/-- Send a message to the whole case. -/
def broadcast (type : MessageType) (state : ActorState) : ActorState :=
  state.send (.broadcast type state.name)

end ActorState

namespace Behavior

/-- Messages are waiting. -/
def inboxNotEmpty : Behavior :=
  .condition "MsgQueueNotEmpty" fun actor => !actor.inbox.isEmpty

/-- Take the oldest message up. -/
def popMessage : Behavior := .action "PopMessage" ActorState.popMessage

/-- Put the message back. -/
def pushMessage : Behavior := .effect "PushMessage" ActorState.pushMessage

/-- Note the type of the message. -/
def noteMessage : Behavior := .effect "LogMsg" ActorState.noteMessage

/-- Be done with the message. -/
def dropMessage : Behavior := .effect "UnsetCurrentMsg" ActorState.dropMessage

/-- The message that is being handled is of a type. -/
def isType (type : MessageType) : Behavior :=
  .condition ("IsMsgType" ++ type.code) fun actor =>
    actor.current.any fun message => message.type == type

/-- The name of the question about a category. -/
def categoryQuestion : MessageCategory → String
  | .report => "IsRMMessage"
  | .embargo => "IsEMMessage"
  | .caseState => "IsCSMessage"
  | .general => "IsGMMessage"

/-- The message that is being handled is of a category. -/
def isCategory (category : MessageCategory) : Behavior :=
  .condition (categoryQuestion category) fun actor =>
    actor.current.any fun message => message.category == category

/-- Send a message of a type to the whole case. -/
def emit (type : MessageType) : Behavior :=
  .effect ("Emit_" ++ type.code) (ActorState.broadcast type)

/-- Ask back after an error, unless that is not needed. -/
def followUpOnError : Behavior :=
  .fallback "FollowUpOnErrorMessage"
    [.decision "FollowUpNotNeeded" .uniformSucceedFail,
     emit .inquiry]

end Behavior

end Disclosure
