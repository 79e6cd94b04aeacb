import VolumeLifecycle.Document.Access
/-!
# Apply times

Controllers differ in which apply times they accept for volume operations: some only
`Immediate`, some only `OnReset`. **A change is submitted only with an apply time the
controller advertises.**

* `applyTimeSupported` — whether the requested apply time equals one of the advertised ones;
* `checkApplyTime` — the same test as a precondition of the discovery stage, whose detail
  lists what the controller does advertise (`none` when it advertises nothing).
-/

namespace VolumeLifecycle.Volume

open VolumeLifecycle.Value

/-- Whether `requested` equals one of the advertised apply times. -/
def applyTimeSupported (supported requested : Value) : Except Failure Bool := do
  let advertised ← supported.members
  pure (advertised.any (same requested))

/-- Refuse an apply time the controller does not advertise; `controller` names it in the
message when it is given. -/
def checkApplyTime (supported requested : Value) (controller : Value := .null) :
    Except Failure Unit := do
  let advertised ← supported.members
  if advertised.any (same requested) then return
  let target := if controller.truthy then " " ++ controller.display else ""
  let listed ← joinTexts ", " (.list advertised)
  let listed := if listed.isEmpty then "none" else listed
  throw (.raise .precondition
    s!"Storage controller{target} does not support settings_apply_time: {requested.display}"
    (.str "discover") (.str s!"supported values: {listed}"))

end VolumeLifecycle.Volume
