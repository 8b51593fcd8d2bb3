import ModelRuns.Proofs.Trace.Runs
import ModelRuns.Resource.Waiting

namespace ModelRuns

/-!
# Looking at a resource

Waiting for a resource is looking at it again and again.  `Look` lists what one
look can lead to: the service refuses it, the job has ended well or badly, or it
is pending and the remaining looks follow after a pause.
-/

/-- The exchanges and the outcome of a look at a resource and of those behind it. -/
inductive Look (intervalMs : Nat) (id : ResourceId) (query : Option String) (looked left : Nat) :
    List Exchange → Except Failure Resource → Prop
  | refused (failure : Failure) :
      Look intervalMs id query looked left [⟨.api (.get id query), .error failure⟩]
        (.error failure)
  | finished (resource : Resource) (ended : resource.status.isFinished = true) :
      Look intervalMs id query looked left
        [⟨.api (.get id query), .ok resource⟩,
          ⟨.note ⟨debugLevel, "resource.ready",
            .ofFields [("resource", .text id.text), ("polls", .ofNat (looked + 1))]⟩, ()⟩]
        (.ok resource)
  | failed (resource : Resource) (unfinished : resource.status.isFinished = false)
      (ended : resource.status.isFailed = true) :
      Look intervalMs id query looked left
        [⟨.api (.get id query), .ok resource⟩,
          ⟨.note ⟨"error", "resource.failed",
            .ofFields [("resource", .text id.text), ("status", resource.status.toJson)]⟩, ()⟩]
        (.error (.remote id.text resource.status.failureText))
  | pending (resource : Resource) (unfinished : resource.status.isFinished = false)
      (unfailed : resource.status.isFailed = false) (time : Instant) {rest : List Exchange}
      {outcome : Except Failure Resource}
      (again : (pollResource intervalMs id query (looked + 1) left).Yields rest outcome) :
      Look intervalMs id query looked left
        (⟨.api (.get id query), .ok resource⟩ :: ⟨.now, time⟩ ::
          ⟨.sleepUntil (time.after intervalMs), ()⟩ :: rest) outcome

theorem look_of_yields (intervalMs : Nat) (id : ResourceId) (query : Option String)
    (looked left : Nat) (trace : List Exchange) (outcome : Except Failure Resource)
    (yields : (pollResource intervalMs id query looked (left + 1)).Yields trace outcome) :
    Look intervalMs id query looked left trace outcome := by
  unfold pollResource at yields
  rcases (Action.yields_bind_iff _ _ _ _).mp yields with
    ⟨failure, refused, rfl⟩ | ⟨front, back, resource, rfl, looks, rest⟩
  · rcases (Action.yields_asking_iff (.api (.get id query)) (fun answer => answer) _ _).mp refused
      with ⟨answer, rfl, rfl⟩
    exact .refused failure
  rcases (Action.yields_asking_iff (.api (.get id query)) (fun answer => answer) _ _).mp looks with
    ⟨answer, rfl, rfl⟩
  split at rest
  next ended =>
    rcases (Action.yields_asking_bind_iff (.note _) _ _ _).mp rest with ⟨_, noted, rfl, returned⟩
    rcases (Action.yields_pure_iff _ _ _).mp returned with ⟨rfl, rfl⟩
    exact .finished resource ended
  next unfinished =>
    rw [Bool.not_eq_true] at unfinished
    split at rest
    next ended =>
      rcases (Action.yields_asking_bind_iff (.note _) _ _ _).mp rest with ⟨_, noted, rfl, thrown⟩
      rcases (Action.yields_throw_iff _ _ _).mp thrown with ⟨rfl, rfl⟩
      exact .failed resource unfinished ended
    next unfailed =>
      rw [Bool.not_eq_true] at unfailed
      rcases (Action.yields_asking_bind_iff .now _ _ _).mp rest with ⟨time, slept, rfl, sleeps⟩
      rcases (Action.yields_asking_bind_iff (.sleepUntil _) _ _ _).mp sleeps with
        ⟨_, waited, rfl, again⟩
      exact .pending resource unfinished unfailed time again

end ModelRuns
