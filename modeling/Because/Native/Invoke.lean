import Because.Native.Dict
import Because.Native.List
import Because.Native.Number
import Because.Native.Text
import Because.Native.Truth

/-!
# Handing over to a handle

The body of a built-in method reads `self` and its parameters, and hands over to the state of
`self`. The reasons that this takes are hidden from explanations.
-/

namespace Because

/-- Run a method of an object with state. -/
def Native.invoke (inner : Inner) (this : ScopeId) (handle : Handle) (method : String)
    (why : ReasonId) (args : List Justified) : Native Justified :=
  match handle with
  | .text content contentWhy => invokeText inner this content contentWhy method why args
  | .list items => invokeList inner this items method why args
  | .dict entries => invokeDict inner this entries method why args
  | .truth truth truthWhy => invokeTruth inner truth truthWhy method why args
  | .number number numberWhy => invokeNumber inner number numberWhy method why args

/-- Read variables one after the other. -/
def lookupVariables (loc : Location) (why : ReasonId) : List String → Eval (List Justified)
  | [] => return []
  | name :: rest => do
    let info ← lookupVariable name loc why
    let infos ← lookupVariables loc why rest
    return info :: infos

/-- Hand the running method over to the state of `self`. -/
def invokeNative (inner : Inner) (method : String) (params : List String) (loc : Location)
    (why : ReasonId) : Eval Flow := do
  let this ← lookupVariable selfName loc why
  let args ← lookupVariables loc why params
  let shown ← Action.renderAll args
  let given ← Action.full s!"{method} arguments" s!"({shown})" loc why (reasons args)
  let object ← Action.render this.value
  let history ← Action.conj s!"Called (unmanaged) {object}.{method}({shown})"
    [why, this.why, given]
  match this.value, ← Action.ask (·.handle? this.value) with
  | .object scope, some handle =>
    let result ← (Native.invoke inner scope handle method history args).toEval
      handle.builtin.name method history
    Action.hide history
    let rendered ← Action.render result.value
    let forwarded ← Action.full s!"unmanaged {object}.{method}({shown})" rendered loc why
      [result.why]
    Action.hide forwarded
    return .returned ⟨result.value, forwarded⟩
  | _, _ =>
    Action.fail (.because (.native object method "receiver has no native handle") history)

end Because
