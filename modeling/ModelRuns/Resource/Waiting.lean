import ModelRuns.Program.Action

namespace ModelRuns

/-!
# Waiting for a resource

Jobs run at the service.  A run looks at a resource until its job is finished or
has failed, a bounded number of times, and waits between two looks.
-/

/-- How often to look and how long to wait in between. -/
structure WaitPolicy where
  intervalMs : Nat := 1000
  maxPolls : Nat := 3600
deriving DecidableEq, Repr

/-- The message of a failed job; a blank one is replaced by the code. -/
def ResourceStatus.failureText (status : ResourceStatus) : String :=
  if allBlank status.message then "remote job ended with status " ++ toString status.code
  else status.message

/-- Look at a resource until its job ends.  `looked` counts the looks so far,
and `left` those that remain. -/
def pollResource (intervalMs : Nat) (id : ResourceId) (query : Option String) (looked : Nat) :
    (left : Nat) → Action Resource
  | 0 => throw (.timeout id.text)
  | left + 1 => do
    let resource ← Action.get id query
    if resource.status.isFinished then
      Action.note debugLevel "resource.ready"
        [("resource", .text id.text), ("polls", .ofNat (looked + 1))]
      return resource
    else if resource.status.isFailed then
      Action.note "error" "resource.failed"
        [("resource", .text id.text), ("status", resource.status.toJson)]
      throw (.remote id.text resource.status.failureText)
    else
      Action.sleepUntil ((← Action.now).after intervalMs)
      pollResource intervalMs id query (looked + 1) left

/-- Look at a resource until its job ends, as a policy allows. -/
def WaitPolicy.await (policy : WaitPolicy) (id : ResourceId) (query : Option String) :
    Action Resource :=
  pollResource policy.intervalMs id query 0 policy.maxPolls

/-- The finished resource of a reference.  A finished one at hand is not looked
at again. -/
def WaitPolicy.resolve (policy : WaitPolicy) (reference : ResourceReference)
    (query : Option String) : Action Resource :=
  match reference with
  | .resolved resource =>
    if resource.status.isFinished then return resource else policy.await resource.id query
  | .unresolved id => policy.await id query

end ModelRuns
