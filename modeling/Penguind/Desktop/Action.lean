import Penguind.Foundation.Json

/-!
# Remote actions

The actions the hub sends to the desktop client, and what of an action is shown to the user who
is asked to approve it.

-/

namespace Penguind.Desktop

open Foundation

structure ActionRequest where
  id : String
  type : String
  parameters : Value
  userId : String
  communityId : String
  timeout : Int32

/-- `content` counts only if there is no `source`. -/
def scriptSource (parameters : Value) : Option String :=
  ((parameters.get "source").or (parameters.get "content")).bind Value.asStr

structure PendingAction where
  id : String
  actionType : String
  content : String
  userId : String
  communityId : String
  timeoutSecs : Int32
  deriving DecidableEq, Repr

def PendingAction.fromRequest (action : ActionRequest) : PendingAction where
  id := action.id
  actionType := action.type
  content := (scriptSource action.parameters).getD "<script content not found>"
  userId := action.userId
  communityId := action.communityId
  timeoutSecs := action.timeout

inductive ApprovalDecision
  | approved
  | denied
  | timeout
  deriving DecidableEq, Repr

end Penguind.Desktop
